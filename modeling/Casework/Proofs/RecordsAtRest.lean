import Casework.Proofs.OneExecution

/-!
The records between two requests. Starts and verifications take the record of an instance through
several states, but once the request has ended every record is at rest (`AtRest`): it is synced with
the execution that its instance names, or it is desynced for a reason. From one request to the next
a record appears, becomes desynced, or is dropped after its instance has ended, and a desynced one
never changes again (`records_at_rest`).
-/

namespace Casework

open Casework.Action Casework.Reconcile

/-- The record agrees with what is stored for its instance: it is synced with the execution that
    the instance names, or it is desynced for a reason. -/
inductive SyncRecord.Rests (stored : Option Instance) (record : SyncRecord) : Prop
  | synced {i : Instance} {x : ExecutionId} (state : record.state = .synced)
      (unexplained : record.reason = none) (found : stored = some i) (named : i.engineId = some x)
      (noted : record.executionId = none ∨ record.executionId = some x)
  | desynced (state : record.state = .desynced) (explained : record.reason ≠ none)

/-- How the record of an instance may differ after a request. -/
inductive SyncRecord.Moves (stored : Option Instance) :
    Option SyncRecord → Option SyncRecord → Prop
  | kept (record : Option SyncRecord) : Moves stored record record
  | entered {after : SyncRecord} (state : after.state = .synced ∨ after.state = .desynced) :
      Moves stored none (some after)
  | parted {before after : SyncRecord} (synced : before.state = .synced)
      (desynced : after.state = .desynced) : Moves stored (some before) (some after)
  | dropped {before : SyncRecord} {i : Instance} (synced : before.state = .synced)
      (found : stored = some i) (ended : i.status.isFinal = true) :
      Moves stored (some before) none

open SyncRecord (Moves Rests)

namespace State

def AtRest (s : State) : Prop :=
  ∀ id record, s.records.get? id = some record → record.Rests (s.storage.instances.get? id)

/-- The records of a state that follows are at rest, and each has moved as it may. -/
structure Settles (s s' : State) : Prop where
  atRest : s'.AtRest
  moves : ∀ id, Moves (s.storage.instances.get? id) (s.records.get? id) (s'.records.get? id)

variable {s s' : State}

/-- A record stays at rest as long as the execution of its instance is named. -/
theorem rests_of_names (names : Names s s') {id : InstanceId} {record : SyncRecord}
    (rests : record.Rests (s.storage.instances.get? id)) :
    record.Rests (s'.storage.instances.get? id) := by
  cases rests with
  | @synced i x state unexplained found named noted =>
    obtain ⟨j, held, named'⟩ := names id i x found named
    exact .synced state unexplained held named' noted
  | desynced state explained => exact .desynced state explained

theorem settles_of_eq (names : Names s s') (rest : s.AtRest)
    (same : ∀ id, s'.records.get? id = s.records.get? id) : Settles s s' := by
  refine ⟨fun id record kept => ?_, fun id => ?_⟩
  · exact rests_of_names names (rest id record (by rwa [same] at kept))
  · rw [same]
    exact .kept _

theorem settles_of_insert (names : Names s s') (rest : s.AtRest) {id : InstanceId}
    (absent : s.records.get? id = none) {record : SyncRecord}
    (records : s'.records = s.records.insert id record)
    (own : record.Rests (s'.storage.instances.get? id)) : Settles s s' := by
  have get? (other : InstanceId) : s'.records.get? other =
      if other = id then some record else s.records.get? other := by
    rw [records]
    exact SortedMap.get?_insert _ _ _ _
  constructor
  · intro other found held
    rw [get?] at held
    split at held
    · rename_i here
      obtain rfl := Option.some.inj held
      rwa [here]
    · exact rests_of_names names (rest other found held)
  · intro other
    rw [get?]
    split
    · rename_i here
      rw [here, absent]
      cases own with
      | synced state => exact .entered (.inl state)
      | desynced state => exact .entered (.inr state)
    · exact .kept _

theorem AtRest.absent_of_idle (rest : s.AtRest) {id : InstanceId}
    (idle : s.records.stateOf id = .notStarted) : s.records.get? id = none := by
  cases found : s.records.get? id with
  | none => rfl
  | some record =>
    have state : record.state = .notStarted := by
      simpa [SyncRecords.stateOf, found] using idle
    cases rest id record found with
    | synced synced => rw [state] at synced; cases synced
    | desynced desynced => rw [state] at desynced; cases desynced

end State

/-! ### Verifying -/

namespace Reconcile

/-- The record of an instance after the engine was asked for the execution that the instance
    names. -/
def reviewed (ctx : Context) (engine : Engine) (i : Instance) (x : ExecutionId)
    (record : Option SyncRecord) : Option SyncRecord :=
  let record := record.getD { state := .synced, updated := ctx.now }
  match ctx.outage .findExecution with
  | some _ => some record
  | none =>
    match divergence? i x ((engine.get? x).filter (Criteria.byExecution x).accepts) with
    | some why =>
      some { record with state := .desynced, reason := some why.message, updated := ctx.now }
    | none => if i.status.isFinal then none else some record

/-- To look at an instance twice is to look at it once. -/
theorem reviewed_reviewed (ctx : Context) (engine : Engine) (i : Instance) (x : ExecutionId)
    (record : Option SyncRecord) :
    reviewed ctx engine i x (reviewed ctx engine i x record) = reviewed ctx engine i x record := by
  unfold reviewed
  cases ctx.outage .findExecution with
  | some e => rfl
  | none =>
    cases divergence? i x ((engine.get? x).filter (Criteria.byExecution x).accepts) with
    | some why => rfl
    | none => cases i.status.isFinal <;> rfl

/-- A record of an instance that is not desynced moves as it may when it is reviewed. -/
theorem moves_reviewed (ctx : Context) (engine : Engine) {i : Instance} (x : ExecutionId)
    {stored : Option Instance} (found : stored = some i) {record : Option SyncRecord}
    (synced : ∀ before, record = some before → before.state = .synced) :
    Moves stored record (reviewed ctx engine i x record) := by
  have passed :
      Moves stored record (some (record.getD { state := .synced, updated := ctx.now })) := by
    cases record with
    | none => exact .entered (.inl rfl)
    | some before => exact .kept _
  unfold reviewed
  cases ctx.outage .findExecution with
  | some e => exact passed
  | none =>
    cases divergence? i x ((engine.get? x).filter (Criteria.byExecution x).accepts) with
    | some why =>
      cases record with
      | none => exact .entered (.inr rfl)
      | some before => exact .parted (synced before rfl) rfl
    | none =>
      cases ended : i.status.isFinal with
      | false => exact passed
      | true =>
        cases record with
        | none => exact .kept none
        | some before => exact .dropped (synced before rfl) found ended

theorem rests_reviewed {ctx : Context} {engine : Engine} {i : Instance} {x : ExecutionId}
    (named : i.engineId = some x) {stored : Option Instance} (found : stored = some i)
    {record : Option SyncRecord}
    (synced : ∀ before, record = some before → before.state = .synced ∧ before.Rests stored)
    {after : SyncRecord} (reviewed_after : reviewed ctx engine i x record = some after) :
    after.Rests stored := by
  have passed : (record.getD { state := .synced, updated := ctx.now }).Rests stored := by
    cases record with
    | none => exact .synced rfl rfl found named (.inl rfl)
    | some before => exact (synced before rfl).2
  unfold reviewed at reviewed_after
  cases out : ctx.outage .findExecution with
  | some e =>
    simp only [out] at reviewed_after
    obtain rfl := Option.some.inj reviewed_after
    exact passed
  | none =>
    simp only [out] at reviewed_after
    cases differs : divergence? i x ((engine.get? x).filter (Criteria.byExecution x).accepts) with
    | some why =>
      simp only [differs] at reviewed_after
      obtain rfl := Option.some.inj reviewed_after
      exact .desynced rfl (Option.some_ne_none _)
    | none =>
      simp only [differs] at reviewed_after
      split at reviewed_after
      · cases reviewed_after
      · obtain rfl := Option.some.inj reviewed_after
        exact passed

theorem get?_adopted (ctx : Context) {records : SyncRecords} {id : InstanceId}
    (synced : ∀ before, records.get? id = some before → before.state = .synced)
    (other : InstanceId) :
    (adopted ctx records id).get? other =
      if other = id then some ((records.get? id).getD { state := .synced, updated := ctx.now })
      else records.get? other := by
  unfold adopted
  cases found : records.get? id with
  | none =>
    simp only [SyncRecords.stateOf, SyncRecords.recordOf, found]
    exact SortedMap.get?_insert _ _ _ _
  | some before =>
    simp only [SyncRecords.stateOf, found, Option.map_some, Option.getD_some, synced before found]
    split
    · rename_i here
      rw [here, found]
    · rfl

/-- Comparing an instance that is synced reviews its record and no other one. -/
theorem get?_compared (ctx : Context) (engine : Engine) {records : SyncRecords} {i : Instance}
    (x : ExecutionId) {before : SyncRecord} (found : records.get? i.id = some before)
    (synced : before.state = .synced) (other : InstanceId) :
    (compared ctx engine records i x).2.get? other =
      if other = i.id then reviewed ctx engine i x (some before) else records.get? other := by
  have same : records.get? other = if other = i.id then some before else records.get? other := by
    split
    · rename_i here
      rw [here, found]
    · rfl
  unfold compared reviewed
  cases ctx.outage .findExecution with
  | some e => exact same
  | none =>
    cases divergence? i x ((engine.get? x).filter (Criteria.byExecution x).accepts) with
    | some why =>
      simp only [SyncRecords.desync, found, Option.getD_some, synced, SyncState.isFinal]
      exact SortedMap.get?_insert _ _ _ _
    | none =>
      cases i.status.isFinal with
      | false => exact same
      | true =>
        have state : records.stateOf i.id = .synced := by
          simpa [SyncRecords.stateOf, found] using synced
        simp only [if_true, SyncRecords.drop, state, SyncState.isFinal]
        exact SortedMap.get?_erase _ _ _

open State

/-- What verifying leaves: nothing but records are changed, each by a review of an instance that
    names an execution. -/
structure Audited (ctx : Context) (s s' : State) : Prop where
  storage : s'.storage = s.storage
  engine : s'.engine = s.engine
  records : ∀ id, s'.records.get? id = s.records.get? id ∨
    ∃ i x, s.storage.instances.get? id = some i ∧ i.engineId = some x ∧
      (∀ before, s.records.get? id = some before → before.state = .synced) ∧
      s'.records.get? id = reviewed ctx s.engine i x (s.records.get? id)

variable {ctx : Context} {s s' : State}

theorem Audited.refl (s : State) : Audited ctx s s := ⟨rfl, rfl, fun _ => .inl rfl⟩

theorem Audited.trans {t : State} (first : Audited ctx s t) (second : Audited ctx t s') :
    Audited ctx s s' := by
  refine ⟨second.storage.trans first.storage, second.engine.trans first.engine, fun id => ?_⟩
  have later := second.records id
  rw [first.storage, first.engine] at later
  rcases first.records id with same | ⟨i, x, found, named, synced, review⟩
  · rwa [same] at later
  · right
    rcases later with same | ⟨j, y, found', named', -, review'⟩
    · exact ⟨i, x, found, named, synced, same.trans review⟩
    · -- The instance is looked at a second time, which repeats the first review.
      obtain rfl := Option.some.inj (found.symm.trans found')
      obtain rfl := Option.some.inj (named.symm.trans named')
      refine ⟨i, x, found, named, synced, ?_⟩
      rw [review', review, reviewed_reviewed]

theorem Audited.settles (rest : s.AtRest) (audited : Audited ctx s s') : Settles s s' := by
  refine ⟨fun id after held => ?_, fun id => ?_⟩
  · rw [audited.storage]
    rcases audited.records id with same | ⟨i, x, found, named, synced, review⟩
    · exact rest id after (same.symm.trans held)
    · exact rests_reviewed named found
        (fun before kept => ⟨synced before kept, rest id before kept⟩) (review.symm.trans held)
  · rcases audited.records id with same | ⟨i, x, found, named, synced, review⟩
    · rw [same]
      exact .kept _
    · rw [review]
      exact moves_reviewed ctx s.engine x found synced

theorem synced_of_passing (rest : s.AtRest) {id : InstanceId}
    (passing : ¬(s.records.stateOf id).isFinal = true) {before : SyncRecord}
    (held : s.records.get? id = some before) : before.state = .synced := by
  cases rest id before held with
  | synced state => exact state
  | desynced state =>
    have final : s.records.stateOf id = .desynced := by
      simpa [SyncRecords.stateOf, held] using state
    rw [final] at passing
    exact absurd rfl passing

/-- Verifying an instance that names an execution and is not desynced reviews its record and no
    other one. -/
theorem records_verify (keyed : s.Keyed) (rest : s.AtRest) {id : InstanceId}
    (passing : ¬(s.records.stateOf id).isFinal = true)
    (reachable : ctx.outage .findInstance = none) {i : Instance}
    (found : s.storage.instances.get? id = some i) {x : ExecutionId}
    (named : i.engineId = some x) (other : InstanceId) :
    (outcome (verify ctx id) s).2.records.get? other =
      if other = id then reviewed ctx s.engine i x (s.records.get? id)
      else s.records.get? other := by
  have own : i.id = id := keyed id i found
  have synced (before : SyncRecord) (held : s.records.get? id = some before) :
      before.state = .synced := synced_of_passing rest passing held
  have adoption := get?_adopted ctx synced
  have held : (adopted ctx s.records id).get? i.id =
      some ((s.records.get? id).getD { state := .synced, updated := ctx.now }) := by
    rw [adoption, if_pos own]
  have state :
      ((s.records.get? id).getD { state := .synced, updated := ctx.now }).state = .synced := by
    cases known : s.records.get? id with
    | none => rfl
    | some before => exact synced before known
  have review := get?_compared ctx s.engine x held state other
  rw [outcome_verify, if_neg passing, reachable, found]
  simp only [named]
  refine review.trans ?_
  by_cases here : other = id
  · rw [if_pos (here.trans own.symm), if_pos here]
    rfl
  · rw [if_neg (by rwa [own]), if_neg here, adoption, if_neg here]

theorem verify_audited (ctx : Context) (id : InstanceId) (keyed : s.Keyed) (rest : s.AtRest) :
    Audited ctx s (outcome (verify ctx id) s).2 := by
  have review := @records_verify ctx s keyed rest id
  rw [outcome_verify] at review ⊢
  split
  · exact .refl s
  · rename_i passing
    cases reachable : ctx.outage .findInstance with
    | some e => exact .refl s
    | none =>
      cases found : s.storage.instances.get? id with
      | none => exact .refl s
      | some i =>
        cases named : i.engineId with
        | none => simp only [named]; exact .refl s
        | some x =>
          have review := review passing reachable found named
          simp only [if_neg passing, reachable, found, named] at review ⊢
          refine ⟨rfl, rfl, fun other => ?_⟩
          by_cases here : other = id
          · subst here
            refine .inr ⟨i, x, found, named, fun before held => ?_, ?_⟩
            · exact synced_of_passing rest passing held
            · rw [review, if_pos rfl]
          · left
            rw [review, if_neg here]

theorem audit_audited (ctx : Context) (query : Query) (keyed : s.Keyed) (rest : s.AtRest) :
    Audited ctx s (outcome (audit ctx query) s).2 := by
  refine audit_keeps (fun id t audited => ?_) query (.refl s)
  have keyed' : t.Keyed := by
    unfold State.Keyed
    rw [audited.storage]
    exact keyed
  exact audited.trans (verify_audited ctx id keyed' (audited.settles rest).atRest)

end Reconcile

/-! ### Requests -/

namespace Request

open State

variable {s : State}

theorem settles_start (ctx : Context) (d : Deployment) (seen : Instance) (rest : s.AtRest) :
    Settles s (outcome ((Request.start d seen).perform ctx) s).2 := by
  have names := names_perform ctx (.start d seen) s
  rw [perform, state_map] at names ⊢
  have ended := start_started ctx d seen s
  generalize outcome (Reconcile.start ctx d seen) s = after at ended names ⊢
  -- Whether the start is taken back or was never made, the instance had no record before.
  have erased (idle : s.records.stateOf seen.id = .notStarted) (id : InstanceId) :
      SortedMap.get? (s.records.erase seen.id) id = s.records.get? id := by
    rw [SortedMap.erase_of_absent (rest.absent_of_idle idle)]
  cases ended with
  | blocked => exact settles_of_eq names rest fun id => rfl
  | unlaunched idle => exact settles_of_eq names rest (erased idle)
  | undone launches => exact settles_of_eq names rest (erased launches.idle)
  | left launches =>
    exact settles_of_insert names rest (rest.absent_of_idle launches.idle) rfl
      (.desynced rfl (Option.some_ne_none _))
  | @done stored updated changed launches applied =>
    have absent := rest.absent_of_idle launches.idle
    obtain ⟨i, held, named⟩ :=
      named_keep (s := s.launch ctx d seen.id stored.data) launches.found applied
    refine settles_of_insert names rest absent rfl (.synced rfl ?_ held named (.inr rfl))
    simp [SyncRecords.recordOf, absent]

theorem settles_perform (ctx : Context) {r : Request} (remembers : r ≠ .forget)
    (keyed : s.Keyed) (rest : s.AtRest) : Settles s (outcome (r.perform ctx) s).2 := by
  have names := names_perform ctx r s
  cases r with
  | start d seen => exact settles_start ctx d seen rest
  | verify id =>
    rw [perform, state_map]
    exact (verify_audited ctx id keyed rest).settles rest
  | audit query =>
    rw [perform, state_map]
    exact (audit_audited ctx query keyed rest).settles rest
  | startExecution d businessKey data =>
    have records : (outcome ((Request.startExecution d businessKey data).perform ctx) s).2.records =
        s.records := by
      rw [perform, state_map, outcome_startExecution]
      split <;> rfl
    exact settles_of_eq names rest fun id => by rw [records]
  | forget => exact absurd rfl remembers
  | _ => exact settles_of_eq names rest fun other => by rw [(still_perform ctx s id).records]

theorem atRest_run {calls : List (Context × Request)}
    (remembers : ∀ call ∈ calls, call.2 ≠ .forget) (keyed : s.Keyed) (rest : s.AtRest) :
    (run calls s).2.Keyed ∧ (run calls s).2.AtRest := by
  have step (ctx : Context) (r : Request) (s : State) (remembers : r ≠ .forget)
      (kept : s.Keyed ∧ s.AtRest) :
      (outcome (r.perform ctx) s).2.Keyed ∧ (outcome (r.perform ctx) s).2.AtRest :=
    ⟨keyed_perform ctx r s kept.1, (settles_perform ctx remembers kept.1 kept.2).atRest⟩
  exact run_keeps step calls remembers ⟨keyed, rest⟩

/-- In a run that begins without records and forgets none, every record is at rest after every
    request. A record appears as synced or desynced, it becomes desynced from being synced, or it
    is dropped, synced, after its instance has ended. What is desynced once stays as it is. -/
theorem records_at_rest {calls : List (Context × Request)}
    (remembers : ∀ call ∈ calls, call.2 ≠ .forget) {s : State} (keyed : s.Keyed)
    (unknown : s.records = ∅) :
    (∀ n, (run (calls.take n) s).2.AtRest) ∧
      (∀ n id, Moves ((run (calls.take n) s).2.storage.instances.get? id)
        ((run (calls.take n) s).2.records.get? id)
        ((run (calls.take (n + 1)) s).2.records.get? id)) ∧
      ∀ m n id record, m ≤ n → (run (calls.take m) s).2.records.get? id = some record →
        record.state = .desynced → (run (calls.take n) s).2.records.get? id = some record := by
  have resting (n : Nat) : (run (calls.take n) s).2.Keyed ∧ (run (calls.take n) s).2.AtRest := by
    have remembers_n : ∀ call ∈ calls.take n, call.2 ≠ .forget :=
      fun call member => remembers call (List.mem_of_mem_take member)
    exact atRest_run remembers_n keyed (SortedMap.forall_of_empty unknown)
  have moves (n : Nat) (id : InstanceId) :
      Moves ((run (calls.take n) s).2.storage.instances.get? id)
        ((run (calls.take n) s).2.records.get? id)
        ((run (calls.take (n + 1)) s).2.records.get? id) := by
    cases at_n : calls[n]? with
    | none =>
      rw [take_succ_of_end at_n]
      exact .kept _
    | some call =>
      have allowed := remembers call (List.mem_of_getElem? at_n)
      rw [state_run_take_succ at_n]
      exact (settles_perform call.1 allowed (resting n).1 (resting n).2).moves id
  refine ⟨fun n => (resting n).2, moves, fun m n id record later held desynced => ?_⟩
  induction later with
  | refl => exact held
  | @step n _ ih =>
    have move := moves n id
    rw [ih] at move
    generalize (run (calls.take (n + 1)) s).2.records.get? id = after at move ⊢
    cases move with
    | kept => rfl
    | parted synced | dropped synced =>
      rw [desynced] at synced
      cases synced

/-- The execution of one instance is cancelled behind its back; another instance is archived. Both
    are verified. -/
def reconciled : List (Context × Request) := [
  Desk.creation,
  (Desk.context "-", .start Desk.deployment Desk.opened),
  (Desk.context "-", .cancelExecution "x"),
  (Desk.context "-", .verify "case-1"),
  (Desk.context "case-2", .create Desk.process Desk.deployment ∅ [] none Desk.alice),
  (Desk.context "-", .start Desk.deployment { Desk.opened with id := "case-2" }),
  (Desk.context "-", .archive { Desk.opened with id := "case-2" } ∅),
  (Desk.context "-", .verify "case-2"),
  (Desk.context "-", .start Desk.deployment Desk.opened)]

theorem records_at_rest_reconciled :
    (∀ call ∈ reconciled, call.2 ≠ .forget) ∧ Desk.empty.Keyed ∧ Desk.empty.records = ∅ ∧
      (run reconciled Desk.empty).2.AtRest ∧
      (∃ record, record.state = .desynced ∧
        record.reason = some "engine has no execution x for a OPEN instance" ∧
        ∀ n, 4 ≤ n →
          (run (reconciled.take n) Desk.empty).2.records.get? "case-1" = some record) ∧
      ((run (reconciled.take 6) Desk.empty).2.records.get? "case-2").map SyncRecord.state =
        some .synced ∧
      (run reconciled Desk.empty).2.records.get? "case-2" = none := by
  have remembers : ∀ call ∈ reconciled, call.2 ≠ .forget := by simp [reconciled, Desk.creation]
  have keyed : Desk.empty.Keyed := fun id i found => by cases found
  obtain ⟨rest, moves, frozen⟩ := records_at_rest remembers keyed rfl
  refine ⟨remembers, keyed, rfl, rest 9, ?_, by decide +kernel, by decide +kernel⟩
  have missing : (run (reconciled.take 4) Desk.empty).2.records.get? "case-1" =
      some
        { state := .desynced
          executionId := some "x"
          reason := some "engine has no execution x for a OPEN instance"
          updated := .ofSecond 0 } := by
    decide +kernel
  exact ⟨_, rfl, rfl, fun n later => frozen 4 n _ _ later missing rfl⟩

end Request
end Casework
