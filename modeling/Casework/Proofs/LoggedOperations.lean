import Casework.Proofs.CompleteInstances
import Casework.Proofs.Independence

/-!
Operation logs only grow at their end. Patches add to the log of a record, in their order, the
operations of those that are not refused, each identifier once (`operations_applyAll`). A request
logs an operation only if it carries one out. So where operations are given new identifiers, a run
adds to the log of every instance one entry for each operation on it that succeeds, in the order of
the calls, and nothing else (`logs_grow`).
-/

namespace Casework

open Casework.Action Casework.Lifecycle

namespace OperationLog

/-- Of operations that come one after another, those whose identifier is neither one of the known
    ones nor that of an earlier one. -/
def news (known : List Uuid) : List Operation → List Operation
  | [] => []
  | entry :: rest =>
    if entry.id ∈ known then news known rest else entry :: news (known ++ [entry.id]) rest

theorem contains_iff_mem_ids {log : OperationLog} {id : Uuid} :
    contains log id = true ↔ id ∈ log.map Operation.id :=
  contains_iff.trans List.mem_map.symm

theorem append_of_new {log : OperationLog} {entry : Operation}
    (new : entry.id ∉ log.map Operation.id) : append log entry = log ++ [entry] := by
  unfold append
  rw [if_neg (by rwa [contains_iff_mem_ids])]

theorem foldl_append (log : OperationLog) (entries : List Operation) :
    entries.foldl append log = log ++ news (log.map Operation.id) entries := by
  induction entries generalizing log with
  | nil => exact (List.append_nil log).symm
  | cons entry rest ih =>
    rw [List.foldl_cons, ih, news]
    by_cases known : entry.id ∈ log.map Operation.id
    · have same : append log entry = log := if_pos (contains_iff_mem_ids.2 known)
      rw [same, if_pos known]
    · rw [append_of_new known, if_neg known, List.map_append, List.append_assoc]
      rfl

end OperationLog

namespace Patch

/-- The operations of the patches that are not refused, from the first to the last. -/
def pushed (steps : List (Instant × Patch)) (verdicts : List (Except Error Bool)) :
    List Operation :=
  (steps.zip verdicts).filterMap fun (step, verdict) =>
    if verdict.isOk then step.2.operation else none

theorem operations_of_apply {p : Patch} {now : Instant} {i updated : Instance} {changed : Bool}
    (applied : p.apply now i = .ok (changed, updated)) :
    updated.operations = p.operation.toList.foldl OperationLog.append i.operations := by
  have merged : updated.operations = (p.merge i).operations := by
    rw [eq_of_apply applied]
    cases changed <;> rfl
  rw [merged]
  show (p.operation.map (OperationLog.append i.operations)).getD i.operations = _
  cases p.operation <;> rfl

/-- The patches that are not refused log their operations one after another. -/
theorem operations_applyAll (steps : List (Instant × Patch)) (i : Instance) :
    (applyAll steps i).2.operations =
      (pushed steps (applyAll steps i).1).foldl OperationLog.append i.operations := by
  induction steps generalizing i with
  | nil => rfl
  | cons step rest ih =>
    obtain ⟨now, p⟩ := step
    cases applied : p.apply now i with
    | error e =>
      simp only [applyAll, applied]
      exact ih i
    | ok result =>
      obtain ⟨changed, after⟩ := result
      have others := ih after
      rw [operations_of_apply applied, ← List.foldl_append] at others
      simp only [applyAll, applied]
      rw [others]
      cases logged : p.operation <;> simp [pushed, logged, Except.isOk, Except.toBool]

end Patch

/-! ### The operations that requests log -/

/-- The operations on the instance of this name; none if it is not stored. -/
def State.logOf (s : State) (id : InstanceId) : OperationLog :=
  ((s.storage.instances.get? id).map Instance.operations).getD []

theorem State.logOf_of_found {s : State} {id : InstanceId} {i : Instance}
    (found : s.storage.instances.get? id = some i) : s.logOf id = i.operations := by
  rw [logOf, found]
  rfl

theorem State.logOf_congr {s t : State} {id : InstanceId}
    (same : t.storage.instances.get? id = s.storage.instances.get? id) :
    t.logOf id = s.logOf id := by
  unfold logOf
  rw [same]

namespace Request

variable {ctx : Context} {s : State}

/-- The entry that a request logs for the instance of this name if it succeeds. -/
def logged? (ctx : Context) (id : InstanceId) : Request → Option Operation
  | .operate kind result seen principal =>
    if seen.id = id then some (logEntry ctx kind result principal) else none
  | _ => none

def IsOperation : Request → Bool
  | .operate _ _ _ _ => true
  | _ => false

theorem logged?_of_not_isOperation {r : Request} (other : r.IsOperation = false)
    (id : InstanceId) : r.logged? ctx id = none := by
  cases r with
  | operate => cases other
  | _ => rfl

theorem id_of_logged? {r : Request} {id : InstanceId} {entry : Operation}
    (logged : r.logged? ctx id = some entry) :
    r.IsOperation = true ∧ entry.id = ctx.newOperation := by
  cases r with
  | operate kind result seen principal =>
    rw [logged?] at logged
    split at logged
    · obtain rfl := Option.some.inj logged
      exact ⟨rfl, rfl⟩
    · cases logged
  | _ => cases logged

theorem operation_of_sends {r : Request} {id : InstanceId} {current : Instance} {patch : Patch}
    (allowed : ¬r.Writes) (other : r.IsOperation = false)
    (sends : r.Sends ctx s id current patch) : patch.operation = none := by
  cases sends with
  | operate looked => cases other
  | archive looked | detach held =>
    unfold guarded
    cases ctx.concurrency <;> rfl
  | accept | recordTask | applyTask | start => rfl
  | changeInstance | updateInstance => exact absurd trivial allowed

theorem operations_of_opens {r : Request} {i : Instance} (allowed : ¬r.Writes)
    (opens : r.Opens ctx i) : i.operations = [] := by
  cases opens with
  | create => rfl
  | saveInstance => exact absurd trivial allowed

theorem logOf_of_not_isOperation (ctx : Context) {r : Request} (allowed : ¬r.Writes)
    (other : r.IsOperation = false) (s : State) (id : InstanceId) :
    (outcome (r.perform ctx) s).2.logOf id = s.logOf id := by
  cases found : s.storage.instances.get? id with
  | none =>
    have nothing : s.logOf id = [] := by rw [State.logOf, found]; rfl
    rw [nothing]
    cases held : (outcome (r.perform ctx) s).2.storage.instances.get? id with
    | none => rw [State.logOf, held]; rfl
    | some j =>
      rw [State.logOf_of_found held]
      exact operations_of_opens allowed (opens_of_new found held)
  | some i =>
    rw [State.logOf_of_found found]
    obtain ⟨j, held, rfl | ⟨patch, sends, applied⟩⟩ := patched_of_stored ctx r found
    · exact State.logOf_of_found held
    · rw [State.logOf_of_found held, Patch.operations_of_apply applied,
        operation_of_sends allowed other sends]
      rfl

variable {kind : OperationKind} {result : Outcome} {seen : Instance} {principal : Entity}

/-- An operation that succeeds is logged behind what the instance has logged before, and one that
    fails is not. -/
theorem logOf_operated {after : Except Error Instance × State} {id : InstanceId}
    (new : ctx.newOperation ∉ (s.logOf id).map Operation.id)
    (ended : Operated ctx kind result seen principal s after) :
    after.2.logOf id = s.logOf id ++ (if after.1.isOk then
      (operate kind result seen principal).logged? ctx id else none).toList := by
  cases ended with
  | refused | halted => exact (List.append_nil _).symm
  | @done current updated deployment changed before found looked stopped applied =>
    have unpatched := State.storage_of_stopped stopped
    have found' : before.storage.instances.get? seen.id = some current := by rw [unpatched, found]
    show State.logOf (before.keep seen.id changed updated) id =
      _ ++ ((operate kind result seen principal).logged? ctx id).toList
    by_cases here : seen.id = id
    · subst here
      rw [State.logOf_of_found found] at new ⊢
      obtain ⟨i, held, same⟩ := get?_keep_guarded found' applied
      have kept := congrArg Instance.operations same
      have logged : i.operations =
          OperationLog.append current.operations (logEntry ctx kind result principal) := kept.symm
      rw [State.logOf_of_found held, logged, logged?, if_pos rfl]
      exact OperationLog.append_of_new new
    · have elsewhere : (before.keep seen.id changed updated).logOf id = s.logOf id :=
        State.logOf_congr (by rw [get?_keep_of_ne (Ne.symm here), unpatched])
      rw [elsewhere, logged?, if_neg here]
      exact (List.append_nil _).symm

/-- A request adds to a log the entry of the operation that it carries out, and nothing else. -/
theorem logOf_perform (ctx : Context) {r : Request} (allowed : ¬r.Writes) {s : State}
    {id : InstanceId}
    (new : r.IsOperation = true → ctx.newOperation ∉ (s.logOf id).map Operation.id) :
    (outcome (r.perform ctx) s).2.logOf id = s.logOf id ++
      (if (outcome (r.perform ctx) s).1.isOk then r.logged? ctx id else none).toList := by
  cases operation : r.IsOperation with
  | false =>
    rw [logOf_of_not_isOperation ctx allowed operation, logged?_of_not_isOperation operation]
    simp
  | true =>
    cases r with
    | operate kind result seen principal =>
      rw [perform, isOk_map, state_map]
      exact logOf_operated (new operation) (operate_operated ctx kind result seen principal s)
    | _ => cases operation

/-! ### Runs -/

/-- The identifiers that a run is given for its operations. -/
def newOperations (calls : List (Context × Request)) : List Uuid :=
  (calls.filter fun call => call.2.IsOperation).map fun call => call.1.newOperation

/-- The entries of the operations on an instance that succeed in a run, from the first to the
    last. -/
def entries (id : InstanceId) (calls : List (Context × Request))
    (answers : List (Except Error Answer)) : List Operation :=
  (calls.zip answers).filterMap fun (call, answer) =>
    if answer.isOk then call.2.logged? call.1 id else none

theorem entries_cons (id : InstanceId) (call : Context × Request)
    (calls : List (Context × Request)) (answer : Except Error Answer)
    (answers : List (Except Error Answer)) :
    entries id (call :: calls) (answer :: answers) =
      (if answer.isOk then call.2.logged? call.1 id else none).toList ++
        entries id calls answers := by
  unfold entries
  rw [List.zip_cons_cons, List.filterMap_cons]
  simp only
  cases (if answer.isOk then call.2.logged? call.1 id else none) <;> rfl

theorem newOperations_cons (call : Context × Request) (calls : List (Context × Request)) :
    newOperations (call :: calls) =
      if call.2.IsOperation then call.1.newOperation :: newOperations calls
      else newOperations calls := by
  unfold newOperations
  rw [List.filter_cons]
  split <;> rfl

/-- What is new to a log before a request is new to it afterwards, but for the identifier that an
    operation was given. -/
theorem new_of_perform {r : Request} {id : InstanceId} {before after : OperationLog} {x : Uuid}
    {ok : Bool} (step : after = before ++ (if ok then r.logged? ctx id else none).toList)
    (new : x ∉ before.map Operation.id) (other : r.IsOperation = true → x ≠ ctx.newOperation) :
    x ∉ after.map Operation.id := by
  rw [step, List.map_append, List.mem_append, not_or]
  refine ⟨new, fun logged => ?_⟩
  obtain ⟨entry, member, same⟩ := List.mem_map.1 logged
  cases ok with
  | false => cases member
  | true =>
    obtain ⟨operation, given⟩ := id_of_logged? (Option.mem_toList.1 member)
    exact other operation (same.symm.trans given)

theorem logOf_run {calls : List (Context × Request)} (allowed : ∀ call ∈ calls, ¬call.2.Writes)
    (distinct : (newOperations calls).Nodup) {s : State} {id : InstanceId}
    (new : ∀ x ∈ newOperations calls, x ∉ (s.logOf id).map Operation.id) :
    (run calls s).2.logOf id = s.logOf id ++ entries id calls (run calls s).1 := by
  induction calls generalizing s with
  | nil => exact (List.append_nil _).symm
  | cons call rest ih =>
    obtain ⟨ctx, r⟩ := call
    have others : ∀ call ∈ rest, ¬call.2.Writes :=
      fun call member => allowed call (List.mem_cons_of_mem _ member)
    have apart : (newOperations rest).Nodup ∧
        (r.IsOperation = true → ctx.newOperation ∉ newOperations rest) := by
      rw [newOperations_cons] at distinct
      split at distinct
      · obtain ⟨first, rest_distinct⟩ := List.nodup_cons.1 distinct
        exact ⟨rest_distinct, fun _ => first⟩
      · rename_i other
        exact ⟨distinct, fun operation => absurd operation other⟩
    have given : ∀ x, (r.IsOperation = true ∧ x = ctx.newOperation) ∨ x ∈ newOperations rest →
        x ∉ (s.logOf id).map Operation.id := by
      rintro x (⟨operation, rfl⟩ | later)
      · exact new _ (by simp [newOperations_cons, operation])
      · refine new x ?_
        rw [newOperations_cons]
        split
        · exact List.mem_cons_of_mem _ later
        · exact later
    have step := logOf_perform ctx (allowed _ List.mem_cons_self)
      fun operation => given _ (.inl ⟨operation, rfl⟩)
    have run_cons : run ((ctx, r) :: rest) s =
        ((outcome (r.perform ctx) s).1 :: (run rest (outcome (r.perform ctx) s).2).1,
          (run rest (outcome (r.perform ctx) s).2).2) := rfl
    rw [run_cons, entries_cons, ih others apart.1, step, List.append_assoc]
    intro x later
    refine new_of_perform step (given x (.inr later)) fun operation same => ?_
    exact apart.2 operation (same ▸ later)

/-- The log of a record is what it was before, followed by the operations of the patches that are
    not refused, each identifier once. In a run whose operations are given new identifiers, the log
    of an instance is what it was before, followed by one entry for each operation on it that
    succeeds; an instance that is not stored before has an empty log. -/
theorem logs_grow :
    (∀ (steps : List (Instant × Patch)) (i : Instance),
      (Patch.applyAll steps i).2.operations =
        i.operations ++ OperationLog.news (i.operations.map Operation.id)
          (Patch.pushed steps (Patch.applyAll steps i).1)) ∧
      ∀ (calls : List (Context × Request)) (s : State) (id : InstanceId),
        (∀ call ∈ calls, ¬call.2.Writes) → (newOperations calls).Nodup →
          (∀ x ∈ newOperations calls, x ∉ (s.logOf id).map Operation.id) →
            (run calls s).2.logOf id = s.logOf id ++ entries id calls (run calls s).1 := by
  refine ⟨fun steps i => ?_, fun calls s id allowed distinct new => ?_⟩
  · rw [Patch.operations_applyAll, OperationLog.foldl_append]
  · exact logOf_run allowed distinct new

def numbered (n : Nat) : Operation :=
  { id := .ofNat n, kind := .update, time := .ofSecond 0, user := "alice" }

def repeating : Instance := { Desk.opened with operations := [numbered 1, numbered 1] }

/-- An operation that is logged already, a new one, another one under its identifier, and a new one
    with a version that the record does not have. -/
def pushes : List (Instant × Patch) := [
  (.ofSecond 1, { operation := some (numbered 1) }),
  (.ofSecond 2, { operation := some (numbered 2) }),
  (.ofSecond 3, { operation := some { numbered 2 with kind := .claim } }),
  (.ofSecond 4, { operation := some (numbered 3), expectedVersion := some 7 })]

def given (n : Nat) : Context := { Desk.context "-" with newOperation := .ofNat n }

/-- The instance is claimed, another one is not there to be suspended, and after the archiving the
    instance is activated by somebody else. -/
def audited : List (Context × Request) := [
  Desk.creation,
  (given 1, .operate .claim { explanation := some "mine" } Desk.opened Desk.alice),
  (given 2, .operate .suspension {} { Desk.opened with id := "case-2" } Desk.alice),
  (Desk.context "-", .archive Desk.opened ∅),
  (given 3, .operate .activation {} Desk.opened (Entity.user "bob"))]

theorem logs_grow_audited :
    (Patch.applyAll pushes repeating).2.operations = [numbered 1, numbered 1, numbered 2] ∧
      (∀ call ∈ audited, ¬call.2.Writes) ∧ (newOperations audited).Nodup ∧
      (∀ x ∈ newOperations audited, x ∉ (Desk.empty.logOf "case-1").map Operation.id) ∧
      ((run audited Desk.empty).2.logOf "case-1").map
          (fun entry => (entry.kind, entry.explanation, entry.user)) =
        [(.claim, some "mine", "alice"), (.activation, none, "bob")] := by
  have allowed : ∀ call ∈ audited, ¬call.2.Writes := by simp [audited, Desk.creation, Writes]
  have distinct : (newOperations audited).Nodup := by decide +kernel
  have new : ∀ x ∈ newOperations audited, x ∉ (Desk.empty.logOf "case-1").map Operation.id :=
    fun x _ => List.not_mem_nil
  obtain ⟨patches, runs⟩ := logs_grow
  refine ⟨?_, allowed, distinct, new, ?_⟩
  · rw [patches pushes repeating]
    decide +kernel
  · rw [runs audited Desk.empty "case-1" allowed distinct new]
    decide +kernel

end Request
end Casework
