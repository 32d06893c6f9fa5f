import Casework.Proofs.Repetition
import Casework.Proofs.Versions

/-!
Requests that are made with an old record. Every record in an answer agrees with what is then stored
under its name (`shows_perform`). So two answers that have an instance in the same version agree on
it, and where versions are checked, a request that is made with a record from an earlier answer is
turned away for good once the stored record does not agree with it any more (`no_lost_update`).
-/

namespace Casework

open Casework.Action Casework.Lifecycle Casework.Reconcile

theorem Page.mem_of_ofList {α : Type} {arithmetic : Arithmetic} {items : List α}
    {request : PageRequest} {page : Page α} {x : α}
    (found : ofList arithmetic items request = .ok page) (member : x ∈ page.items) : x ∈ items := by
  obtain ⟨place, -, rfl⟩ := eq_of_ofList found
  exact List.mem_of_mem_drop (List.mem_of_mem_take member)

theorem Page.mem_of_collect {α : Type} {items : List α} {x : α} (request : PageRequest)
    (member : x ∈ collect items request) : x ∈ items := by
  fun_induction collect items request with
  | case1 request e unfound => cases member
  | case2 request page found next more ih =>
    rcases List.mem_append.1 member with onPage | behind
    · exact mem_of_ofList found onPage
    · exact ih behind
  | case3 request page found last => exact mem_of_ofList found member
  | case4 request page found e stopped => exact mem_of_ofList found member

/-- The records of instances in an answer. -/
def Answer.documents : Answer → List Instance
  | .changed i => [i]
  | .found i => i.toList
  | .instances items => items
  | .page p => p.items
  | _ => []

namespace State

/-- The record agrees with what is stored under its name. -/
def Shows (s : State) (d : Instance) : Prop :=
  ∃ i, s.storage.instances.get? d.id = some i ∧ d.agrees i = true

variable {s : State}

theorem shows_of_found (keyed : s.Keyed) {id : InstanceId} {i : Instance}
    (found : s.storage.instances.get? id = some i) : s.Shows i := by
  refine ⟨i, ?_, Instance.agrees_refl i⟩
  rwa [keyed id i found]

theorem shows_of_matching (keyed : s.Keyed) {query : Query} {d : Instance}
    (member : d ∈ s.storage.matching query) : s.Shows d := by
  have stored : d ∈ s.storage.instances.values :=
    (List.mem_filter.1 (List.mem_mergeSort.1 member)).1
  obtain ⟨id, found⟩ := (SortedMap.mem_values_iff _ d).1 stored
  exact shows_of_found keyed found

/-- A record that a patch was merged into is shown, whether it has changed or not. -/
theorem shows_keep (keyed : s.Keyed) {id : InstanceId} {current updated : Instance}
    (found : s.storage.instances.get? id = some current) {patch : Patch} {now : Instant}
    {changed : Bool} (applied : patch.apply now current = .ok (changed, updated)) :
    (s.keep id changed updated).Shows updated := by
  have own : updated.id = id := (Patch.id_of_apply applied).trans (keyed id current found)
  unfold Shows
  rw [own]
  cases changed with
  | true => exact ⟨updated, SortedMap.get?_insert_self _ _ _, Instance.agrees_refl updated⟩
  | false => exact ⟨current, found, Patch.agrees_of_apply applied⟩

end State

namespace Request

open State

variable {ctx : Context} {s : State}

section Answers

variable {after : Except Error Instance × State} {d : Instance} (answered : after.1 = .ok d)

include answered

theorem shows_of_created {p : ProcessDefinition} {deployment : Deployment} {data : FieldData}
    {attachments : List Attachment} {submission : Option Submission} {initiator : Entity}
    (ended : Created ctx p deployment data attachments submission initiator s after) :
    after.2.Shows d := by
  cases ended with
  | refused | orphaned => cases answered
  | done =>
    obtain rfl := Except.ok.inj answered
    exact ⟨_, SortedMap.get?_insert_self _ _ _, Instance.agrees_refl _⟩

theorem shows_of_operated (keyed : s.Keyed) {kind : OperationKind} {result : Outcome}
    {seen : Instance} {principal : Entity}
    (ended : Operated ctx kind result seen principal s after) : after.2.Shows d := by
  cases ended with
  | refused | halted => cases answered
  | @done current updated deployment changed before found looked stopped applied =>
    obtain rfl := Except.ok.inj answered
    have shown := shows_keep keyed found applied
    rw [stopped]
    split <;> exact shown

theorem shows_of_accepted (keyed : s.Keyed) {v : Validation} {action : SubmissionAction}
    (ended : Accepted ctx v action s after) : after.2.Shows d := by
  cases ended with
  | refused | orphaned => cases answered
  | @done id deployment current updated changed named process deployed found applied =>
    obtain rfl := Except.ok.inj answered
    have shown := shows_keep (s := s.file v.attachments (some v.submission))
      (by unfold State.Keyed; rw [State.instances_file]; exact keyed)
      (by rw [State.instances_file]; exact found) applied
    exact shown

theorem shows_of_archived (keyed : s.Keyed) {seen : Instance} {data : FieldData}
    (ended : Archived ctx seen data s after) : after.2.Shows d := by
  cases ended with
  | refused => cases answered
  | done found looked applied =>
    obtain rfl := Except.ok.inj answered
    exact shows_keep keyed found applied

theorem shows_of_detached (keyed : s.Keyed) {seen : Instance} {attachment : AttachmentId}
    (ended : Detached ctx seen attachment s after) : after.2.Shows d := by
  cases ended with
  | refused => cases answered
  | done found held applied =>
    obtain rfl := Except.ok.inj answered
    exact shows_keep keyed found applied

theorem shows_of_taskApplied (keyed : s.Keyed) {id : InstanceId} {kind : OperationKind}
    {reported : Option Task} (ended : TaskApplied ctx id kind reported s after) :
    after.2.Shows d := by
  cases ended with
  | refused => cases answered
  | idle found =>
    obtain rfl := Except.ok.inj answered
    exact shows_of_found keyed found
  | done found change =>
    cases change with
    | refused => cases answered
    | done found applied =>
      obtain rfl := Except.ok.inj answered
      exact shows_keep keyed found applied

theorem shows_of_started (keyed : s.Keyed) {deployment : Deployment} {seen : Instance}
    (ended : Started ctx deployment seen s after) : after.2.Shows d := by
  cases ended with
  | blocked | unlaunched | undone | left => cases answered
  | @done stored updated changed launches applied =>
    obtain rfl := Except.ok.inj answered
    exact shows_keep (s := s.launch ctx deployment seen.id stored.data) keyed launches.found applied

end Answers

theorem shows_saveInstance {i d : Instance}
    (answered : (outcome (Action.saveInstance ctx i) s).1 = .ok d) :
    (outcome (Action.saveInstance ctx i) s).2.Shows d := by
  rw [outcome_saveInstance] at answered ⊢
  unfold Storage.save at answered ⊢
  cases out : ctx.outage .saveInstance with
  | some e => simp [out] at answered
  | none =>
    cases taken : s.storage.instances.contains i.id with
    | true => simp [out, taken] at answered
    | false =>
      simp only [out, taken] at answered ⊢
      obtain rfl := Except.ok.inj answered
      exact ⟨i, SortedMap.get?_insert_self _ _ _, Instance.agrees_refl i⟩

theorem shows_getInstance (keyed : s.Keyed) {id : InstanceId} {d : Instance}
    (answered : (outcome (Action.getInstance ctx id) s).1 = .ok d) :
    (outcome (Action.getInstance ctx id) s).2.Shows d := by
  rw [outcome_getInstance] at answered ⊢
  split at answered
  · cases answered
  · cases answered
  · rename_i found
    obtain rfl := Except.ok.inj answered
    exact shows_of_found keyed found

theorem shows_updateInstance (keyed : s.Keyed) {id : InstanceId} {patch : Patch} {d : Instance}
    (answered : (outcome (Action.updateInstance ctx id patch) s).1 = .ok (some d)) :
    (outcome (Action.updateInstance ctx id patch) s).2.Shows d := by
  rw [outcome_updateInstance] at answered ⊢
  cases out : ctx.outage .updateInstance with
  | some e => simp [out] at answered
  | none =>
    unfold Storage.update at answered ⊢
    cases found : s.storage.instances.get? id with
    | none => simp [out, found] at answered
    | some current =>
      cases applied : patch.apply ctx.now current with
      | error e => simp [out, found, applied] at answered
      | ok result =>
        obtain ⟨changed, updated⟩ := result
        have shown := shows_keep keyed found applied
        cases changed with
        | false =>
          simp only [out, found, applied] at answered ⊢
          obtain rfl := Option.some.inj (Except.ok.inj answered)
          exact shown
        | true =>
          simp only [out, found, applied] at answered ⊢
          obtain rfl := Option.some.inj (Except.ok.inj answered)
          exact shown

theorem shows_changeInstance (keyed : s.Keyed) {id : InstanceId} {patch : Patch} {d : Instance}
    (answered : (outcome (Action.changeInstance ctx id patch) s).1 = .ok d) :
    (outcome (Action.changeInstance ctx id patch) s).2.Shows d := by
  unfold Action.changeInstance at answered ⊢
  by_cases idle : (patch.isEmpty && patch.expectedVersion.isNone) = true
  · rw [if_pos idle] at answered ⊢
    exact shows_getInstance keyed answered
  · rw [if_neg idle] at answered ⊢
    have shown (found : (outcome (Action.updateInstance ctx id patch) s).1 = .ok (some d)) :
        (outcome (Action.updateInstance ctx id patch) s).2.Shows d :=
      shows_updateInstance keyed found
    rw [outcome_bind] at answered ⊢
    generalize outcome (Action.updateInstance ctx id patch) s = after at answered shown ⊢
    obtain ⟨answer, s'⟩ := after
    cases answer with
    | error e => cases answered
    | ok stored =>
      cases stored with
      | none => cases answered
      | some i =>
        obtain rfl : i = d := Except.ok.inj answered
        exact shown rfl

theorem shows_map {α : Type} {f : α → Answer} {a : Action α}
    (shown : ∀ x, (outcome a s).1 = .ok x → ∀ d ∈ (f x).documents, (outcome a s).2.Shows d)
    {answer : Answer} (answered : (outcome (f <$> a) s).1 = .ok answer) {d : Instance}
    (member : d ∈ answer.documents) : (outcome (f <$> a) s).2.Shows d := by
  obtain ⟨x, done, rfl⟩ := ok_of_map answered
  rw [state_map]
  exact shown x done d member

theorem shows_changed {a : Action Instance}
    (shown : ∀ d, (outcome a s).1 = .ok d → (outcome a s).2.Shows d) {answer : Answer}
    (answered : (outcome (Answer.changed <$> a) s).1 = .ok answer) {d : Instance}
    (member : d ∈ answer.documents) : (outcome (Answer.changed <$> a) s).2.Shows d := by
  refine shows_map (fun i done d member => ?_) answered member
  obtain rfl := List.mem_singleton.1 member
  exact shown d done

/-- Every record in the answer to a request agrees with what is stored under its name then. -/
theorem shows_perform (keyed : s.Keyed) {r : Request} {answer : Answer}
    (answered : (outcome (r.perform ctx) s).1 = .ok answer) {d : Instance}
    (member : d ∈ answer.documents) : (outcome (r.perform ctx) s).2.Shows d := by
  cases r with
  | create p deployment data attachments submission initiator =>
    refine shows_changed (fun i done => ?_) answered member
    exact shows_of_created done
      (create_created ctx p deployment data attachments submission initiator s)
  | operate kind result seen principal =>
    refine shows_changed (fun i done => ?_) answered member
    exact shows_of_operated done keyed (operate_operated ctx kind result seen principal s)
  | accept v action =>
    refine shows_changed (fun i done => ?_) answered member
    exact shows_of_accepted done keyed (accept_accepted ctx v action s)
  | archive seen data =>
    refine shows_changed (fun i done => ?_) answered member
    exact shows_of_archived done keyed (archive_archived ctx seen data s)
  | detach seen attachment =>
    refine shows_changed (fun i done => ?_) answered member
    exact shows_of_detached done keyed (detach_detached ctx seen attachment s)
  | applyTask id kind reported =>
    refine shows_changed (fun i done => ?_) answered member
    exact shows_of_taskApplied done keyed (applyTask_taskApplied ctx id kind reported s)
  | start deployment seen =>
    refine shows_changed (fun i done => ?_) answered member
    exact shows_of_started done keyed (start_started ctx deployment seen s)
  | saveInstance i =>
    refine shows_changed (fun j done => ?_) answered member
    exact shows_saveInstance done
  | getInstance id =>
    exact shows_changed (fun i done => shows_getInstance keyed done) answered member
  | changeInstance id patch =>
    exact shows_changed (fun i done => shows_changeInstance keyed done) answered member
  | updateInstance id patch =>
    refine shows_map (fun found done d member => ?_) answered member
    obtain rfl := Option.mem_toList.1 member
    exact shows_updateInstance keyed done
  | findPage query request =>
    refine shows_map (fun page done d member => ?_) answered member
    rw [outcome_findPage] at done ⊢
    split at done
    · cases done
    · simp only
      unfold Storage.findPage at done
      split at done
      · cases done
      · exact shows_of_matching keyed (Page.mem_of_ofList done member)
  | findAll query =>
    refine shows_map (fun items done d member => ?_) answered member
    rw [outcome_findAll] at done ⊢
    split at done
    · cases done
    · obtain rfl := Except.ok.inj done
      exact shows_of_matching keyed (Page.mem_of_collect _ member)
  | recordTask | findProcess | findDeployment | findFor | cancelFor | verify | audit | stateOf
  | startExecution | findExecution | cancelExecution =>
    exact shows_map (fun x done d none => by cases none) answered member
  | saveAttachment a =>
    rw [perform, outcome_bind] at answered
    split at answered
    · cases answered
      cases member
    · cases answered
  | saveSubmission submission =>
    rw [perform, outcome_bind] at answered
    split at answered
    · cases answered
      cases member
    · cases answered
  | _ =>
    cases answered
    cases member

/-! ### Requests that are made with an old record -/

/-- The request is made for an instance as this record has it. -/
def ReliesOn (d : Instance) : Request → Prop
  | .operate _ _ seen _ | .archive seen _ | .detach seen _ => seen = d
  | .accept v _ => v.instanceId = some d.id ∧ v.version = some d.version
  | _ => False

/-- The request fails and leaves the stored instances as they are. -/
structure TurnedAway (ctx : Context) (r : Request) (s : State) : Prop where
  failed : (outcome (r.perform ctx) s).1.isOk = false
  kept : (outcome (r.perform ctx) s).2.storage.instances = s.storage.instances

/-- Where versions are checked, a patch is applied to the version that the caller has seen. -/
theorem version_of_guarded (checked : ctx.concurrency = .versionChecked)
    {seen current updated : Instance} {patch : Patch} {changed : Bool}
    (applied : (guarded ctx seen patch).apply ctx.now current = .ok (changed, updated)) :
    current.version = seen.version := by
  refine Patch.version_of_accepted (Patch.refusal?_of_apply applied) ?_
  unfold guarded
  rw [checked]

/-- Where versions are checked, a request made with another version than the stored one is turned
    away. -/
theorem turnedAway_of_stale (checked : ctx.concurrency = .versionChecked) {r : Request}
    {d i : Instance} (relies : r.ReliesOn d) (found : s.storage.instances.get? d.id = some i)
    (stale : i.version ≠ d.version) : TurnedAway ctx r s := by
  suffices away : (outcome (r.perform ctx) s).1.isOk = false ∧
      (outcome (r.perform ctx) s).2.storage.instances = s.storage.instances from
    ⟨away.1, away.2⟩
  cases r with
  | operate kind result seen principal =>
    obtain rfl : seen = d := relies
    have ended := operate_operated ctx kind result seen principal s
    rw [perform, isOk_map, state_map]
    generalize outcome (Lifecycle.operate ctx kind result seen principal) s = after at ended ⊢
    cases ended with
    | refused | halted => exact ⟨rfl, rfl⟩
    | done found' looked stopped applied =>
      obtain rfl := Option.some.inj (found.symm.trans found')
      exact absurd (version_of_guarded checked applied) stale
  | archive seen data =>
    obtain rfl : seen = d := relies
    have ended := archive_archived ctx seen data s
    rw [perform, isOk_map, state_map]
    generalize outcome (Lifecycle.archive ctx seen data) s = after at ended ⊢
    cases ended with
    | refused => exact ⟨rfl, rfl⟩
    | done found' looked applied =>
      obtain rfl := Option.some.inj (found.symm.trans found')
      exact absurd (version_of_guarded checked applied) stale
  | detach seen attachment =>
    obtain rfl : seen = d := relies
    have ended := detach_detached ctx seen attachment s
    rw [perform, isOk_map, state_map]
    generalize outcome (Lifecycle.detach ctx seen attachment) s = after at ended ⊢
    cases ended with
    | refused => exact ⟨rfl, rfl⟩
    | done found' held applied =>
      obtain rfl := Option.some.inj (found.symm.trans found')
      exact absurd (version_of_guarded checked applied) stale
  | accept v action =>
    obtain ⟨named, version⟩ := relies
    have ended := accept_accepted ctx v action s
    rw [perform, isOk_map, state_map]
    generalize outcome (Lifecycle.accept ctx v action) s = after at ended ⊢
    cases ended with
    | refused => exact ⟨rfl, rfl⟩
    | orphaned => exact ⟨rfl, State.instances_file _ _ _⟩
    | done named' process deployment found' applied =>
      obtain rfl := Option.some.inj (named.symm.trans named')
      obtain rfl := Option.some.inj (found.symm.trans found')
      have expected : (formPatch ctx v action).expectedVersion = some d.version := by
        simp [formPatch, checked, version]
      exact absurd (Patch.version_of_accepted (Patch.refusal?_of_apply applied) expected) stale
  | _ => exact relies.elim

/-! ### Runs -/

/-- The answer to this request of the run has the record in it. -/
def Shown (calls : List (Context × Request)) (s : State) (n : Nat) (d : Instance) : Prop :=
  ∃ answer, (run calls s).1[n]? = some (.ok answer) ∧ d ∈ answer.documents

theorem shows_of_shown {calls : List (Context × Request)} (keyed : s.Keyed) {n : Nat}
    {d : Instance} (shown : Shown calls s n d) : (run (calls.take (n + 1)) s).2.Shows d := by
  obtain ⟨answer, at_n, member⟩ := shown
  rw [answer_run] at at_n
  obtain ⟨call, at_call, answered⟩ := Option.map_eq_some_iff.1 at_n
  rw [state_run_take_succ at_call]
  exact shows_perform (keyed_run (calls.take n) keyed) answered member

/-- In a run whose instances are created in it and are changed less often than versions can count,
    answers never go back to an earlier version of an instance, and the records that they have of
    one version agree. Where versions are checked, a request made with a record from an earlier
    answer finds a stored record that still agrees with that one, or is turned away from then
    on. -/
theorem no_lost_update {calls : List (Context × Request)}
    (created : ∀ call ∈ calls, ¬call.2.Enters) {s : State} (empty : s.storage.instances = ∅)
    (few : ∀ id, changeCount id calls s < UInt64.size) :
    (∀ m n d e, m ≤ n → Shown calls s m d → Shown calls s n e → d.id = e.id →
      d.version ≤ e.version ∧ (d.version = e.version → d.agrees e = true)) ∧
      ∀ m n d r, m < n → Shown calls s m d → r.ReliesOn d →
        ∃ i, (run (calls.take n) s).2.storage.instances.get? d.id = some i ∧
          (i.agrees d = true ∨
            ∀ k ctx, n ≤ k → ctx.concurrency = .versionChecked →
              TurnedAway ctx r (run (calls.take k) s).2) := by
  have keyed := State.keyed_of_blank empty
  refine ⟨fun m n d e later shown shown' same => ?_, fun m n d r later shown relies => ?_⟩
  · obtain ⟨i, found, agrees⟩ := shows_of_shown keyed shown
    obtain ⟨j, held, agrees'⟩ := shows_of_shown keyed shown'
    obtain ⟨j', held', above, kept⟩ :=
      kept_or_later created empty (few d.id) (Nat.succ_le_succ later) found
    rw [same, held] at held'
    obtain rfl := Option.some.inj held'
    rw [Instance.version_of_agrees agrees, Instance.version_of_agrees agrees']
    refine ⟨above, fun equal => ?_⟩
    obtain rfl := kept equal
    exact Instance.agrees_trans agrees (Instance.agrees_symm agrees')
  · obtain ⟨i, found, agrees⟩ := shows_of_shown keyed shown
    obtain ⟨j, held, above, kept⟩ := kept_or_later created empty (few d.id) later found
    refine ⟨j, held, ?_⟩
    by_cases equal : i.version = j.version
    · obtain rfl := kept equal
      exact .inl (Instance.agrees_symm agrees)
    · refine .inr fun k ctx much_later checked => ?_
      obtain ⟨j', held', above', -⟩ := kept_or_later created empty (few d.id) much_later held
      refine turnedAway_of_stale checked relies held' fun back => equal ?_
      rw [back, Instance.version_of_agrees agrees] at above'
      exact UInt64.le_antisymm above above'

/-- The instance of the run as it is created. -/
def created : Instance := { Desk.opened with initiator := some "alice" }

/-- The instance as it is claimed. -/
def claimed : Instance :=
  { created with
    operations := [⟨default, .claim, none, .ofSecond 0, "alice"⟩]
    version := 1 }

def claiming : List (Context × Request) := [
  Desk.creation,
  (Desk.context "-", .getInstance "case-1"),
  (Desk.context "-", .operate .claim {} created Desk.alice),
  (Desk.context "-", .getInstance "case-1")]

def checking : Context := { Desk.context "-" with concurrency := .versionChecked }

theorem no_lost_update_claimed :
    (∀ call ∈ claiming, ¬call.2.Enters) ∧ Desk.empty.storage.instances = ∅ ∧
      (∀ id, changeCount id claiming Desk.empty < UInt64.size) ∧
      Shown claiming Desk.empty 0 created ∧ Shown claiming Desk.empty 3 claimed ∧
      created.version ≤ claimed.version ∧
      (Request.archive created ∅).ReliesOn created ∧ checking.concurrency = .versionChecked ∧
      ∀ k, 3 ≤ k →
        TurnedAway checking (.archive created ∅) (run (claiming.take k) Desk.empty).2 := by
  have allowed : ∀ call ∈ claiming, ¬call.2.Enters := by simp [claiming, Desk.creation, Enters]
  have few (id : InstanceId) : changeCount id claiming Desk.empty < UInt64.size :=
    Nat.lt_of_le_of_lt (changeCount_le id claiming Desk.empty) (by decide)
  have first : Shown claiming Desk.empty 0 created :=
    ⟨.changed created, rfl, List.mem_singleton_self _⟩
  have last : Shown claiming Desk.empty 3 claimed :=
    ⟨.changed claimed, rfl, List.mem_singleton_self _⟩
  obtain ⟨versions, updates⟩ := no_lost_update allowed rfl few
  refine ⟨allowed, rfl, few, first, last, (versions 0 3 _ _ (by decide) first last rfl).1, rfl, rfl,
    fun k later => ?_⟩
  obtain ⟨i, found, agrees | away⟩ := updates 0 3 created (.archive created ∅) (by decide) first rfl
  · have stored : (run (claiming.take 3) Desk.empty).2.storage.instances.get? created.id =
        some claimed := by decide +kernel
    obtain rfl := Option.some.inj (stored.symm.trans found)
    exact absurd agrees (by decide +kernel)
  · exact away k checking later rfl

end Request
end Casework
