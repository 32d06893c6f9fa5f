import Casework.Proofs.Agreement
import Casework.Proofs.Filing
import Casework.Proofs.Starts

/-!
What requests do to the stored instances. A request changes at most one record:
it enters a new instance (`Opens`), or it patches an instance that is stored, and
the patch is one of few (`Sends`). So a property of records that new instances have
and that these patches keep is kept by every run of requests (`run_every`).
-/

namespace Casework

open Casework.Action Casework.Lifecycle Casework.Reconcile

/-- Every instance is stored under its own name. -/
def State.Keyed (s : State) : Prop :=
  ∀ id i, s.storage.instances.get? id = some i → i.id = id

theorem State.keyed_of_blank {s : State} (blank : s.storage.instances = ∅) : s.Keyed :=
  SortedMap.forall_of_empty blank

namespace Request

/-- The patch that a request sends to a stored instance, depending on its record. -/
inductive Sends (ctx : Context) (s : State) :
    Request → InstanceId → Instance → Patch → Prop
  | operate {kind : OperationKind} {result : Outcome} {seen current : Instance}
      {principal : Entity} {deployment : Option Deployment}
      (looked : Cancels kind s current deployment) :
      Sends ctx s (.operate kind result seen principal) seen.id current
        (guarded ctx seen (operationPatch ctx kind result current deployment principal))
  | accept {v : Validation} {action : SubmissionAction} {id : InstanceId} {current : Instance}
      (named : v.instanceId = some id) :
      Sends ctx s (.accept v action) id current (formPatch ctx v action)
  | archive {seen current : Instance} {data : FieldData} {d : Deployment}
      (looked : s.storage.deployments.get? current.deploymentId = some d) :
      Sends ctx s (.archive seen data) seen.id current
        (guarded ctx seen (archivePatch ctx.now current d data))
  | detach {seen current : Instance} {attachment : AttachmentId}
      (held : current.attachments.contains attachment = true) :
      Sends ctx s (.detach seen attachment) seen.id current
        (guarded ctx seen { removeAttachments := [attachment] })
  | recordTask {seen current : Instance} {task : Task} :
      Sends ctx s (.recordTask seen (some task)) seen.id current { tasks := [task] }
  | applyTask {id : InstanceId} {kind : OperationKind} {reported : Option Task}
      {current : Instance} :
      Sends ctx s (.applyTask id kind reported) id current
        { tasks := kind.delta current.tasks reported ctx.now }
  | changeInstance {id : InstanceId} {patch : Patch} {current : Instance} :
      Sends ctx s (.changeInstance id patch) id current patch
  | updateInstance {id : InstanceId} {patch : Patch} {current : Instance} :
      Sends ctx s (.updateInstance id patch) id current patch
  | start {d : Deployment} {seen current : Instance} :
      Sends ctx s (.start d seen) seen.id current (naming (s.nextExecution ctx))

/-- The instance that a request enters. -/
inductive Opens (ctx : Context) : Request → Instance → Prop
  | create {p : ProcessDefinition} {d : Deployment} {data : FieldData}
      {attachments : List Attachment} {submission : Option Submission} {initiator : Entity} :
      Opens ctx (.create p d data attachments submission initiator)
        (opening ctx p d data attachments submission initiator)
  | saveInstance {i : Instance} : Opens ctx (.saveInstance i) i

/-- What a request may make of the stored instances. -/
inductive Changes (ctx : Context) (s : State) (r : Request) :
    SortedMap InstanceId Instance → Prop
  | kept : Changes ctx s r s.storage.instances
  | patched {id : InstanceId} {current updated : Instance} {patch : Patch}
      (found : s.storage.instances.get? id = some current)
      (sends : r.Sends ctx s id current patch)
      (applied : patch.apply ctx.now current = .ok (true, updated)) :
      Changes ctx s r (s.storage.instances.insert id updated)
  | opened {i : Instance} (opens : r.Opens ctx i)
      (fresh : s.storage.instances.contains i.id = false) :
      Changes ctx s r (s.storage.instances.insert i.id i)

variable {ctx : Context} {s : State} {r : Request}

theorem changes_keep {id : InstanceId} {current updated : Instance} {patch : Patch}
    {changed : Bool} (found : s.storage.instances.get? id = some current)
    (sends : r.Sends ctx s id current patch)
    (applied : patch.apply ctx.now current = .ok (changed, updated)) :
    Changes ctx s r
      (if changed then s.storage.instances.insert id updated else s.storage.instances) := by
  cases changed with
  | false => exact .kept
  | true => exact .patched found sends applied

/-- What is stored under the name of a record that was patched is the patched record, up to its
    field data. -/
theorem get?_keep {id : InstanceId} {current updated : Instance} {patch : Patch} {now : Instant}
    {changed : Bool} (found : s.storage.instances.get? id = some current)
    (applied : patch.apply now current = .ok (changed, updated)) :
    ∃ i, (s.keep id changed updated).storage.instances.get? id = some i ∧
      { updated with data := ∅ } = { i with data := ∅ } := by
  cases changed with
  | true => exact ⟨updated, SortedMap.get?_insert_self _ _ _, rfl⟩
  | false =>
    exact ⟨current, found, ((updated.agrees_iff current).1 (Patch.agrees_of_apply applied)).1⟩

/-- What is stored under the name of a record that took a guarded patch is the record with the patch
    merged in, up to its field data, its version and the time of the change. -/
theorem get?_keep_guarded {id : InstanceId} {seen current updated : Instance} {patch : Patch}
    {changed : Bool} (found : s.storage.instances.get? id = some current)
    (applied : (guarded ctx seen patch).apply ctx.now current = .ok (changed, updated)) :
    ∃ i, (s.keep id changed updated).storage.instances.get? id = some i ∧
      { patch.merge current with data := ∅, version := 0, modified := ctx.now } =
        { i with data := ∅, version := 0, modified := ctx.now } := by
  obtain ⟨i, held, same⟩ := get?_keep found applied
  have merged := Patch.eq_of_apply applied
  rw [merge_guarded] at merged
  have unstamped := congrArg
    (fun j : Instance => { j with version := 0, modified := ctx.now }) same
  rw [merged] at unstamped
  exact ⟨i, held, by cases changed <;> exact unstamped⟩

theorem get?_keep_of_ne {id other : InstanceId} (apart : other ≠ id) (changed : Bool)
    (updated : Instance) :
    (s.keep id changed updated).storage.instances.get? other =
      s.storage.instances.get? other := by
  cases changed with
  | true => exact (SortedMap.get?_insert _ _ _ _).trans (if_neg apart)
  | false => rfl

/-! ### The changes of each request -/

variable {after : Except Error Instance × State}

theorem changes_of_created {p : ProcessDefinition} {d : Deployment} {data : FieldData}
    {attachments : List Attachment} {submission : Option Submission} {initiator : Entity}
    (ended : Created ctx p d data attachments submission initiator s after) :
    Changes ctx s (.create p d data attachments submission initiator)
      after.2.storage.instances := by
  cases ended with
  | refused => exact .kept
  | orphaned e first same =>
    rw [State.instances_file]
    exact .kept
  | done opened process deployment own fresh =>
    subst opened
    show Changes ctx s _ ((s.file attachments submission).storage.instances.insert _ _)
    rw [State.instances_file]
    exact .opened .create fresh

theorem changes_of_operated {kind : OperationKind} {result : Outcome} {seen : Instance}
    {principal : Entity} (ended : Operated ctx kind result seen principal s after) :
    Changes ctx s (.operate kind result seen principal) after.2.storage.instances := by
  cases ended with
  | refused => exact .kept
  | halted => exact .kept
  | done found looked stopped applied =>
    have changes := changes_keep found (.operate looked) applied
    rw [stopped]
    split <;> exact changes

theorem changes_of_accepted {v : Validation} {action : SubmissionAction}
    (ended : Accepted ctx v action s after) :
    Changes ctx s (.accept v action) after.2.storage.instances := by
  cases ended with
  | refused => exact .kept
  | orphaned e first same =>
    rw [State.instances_file]
    exact .kept
  | done named process deployment found applied =>
    have changes := changes_keep found (.accept named) applied
    simpa [State.keep, State.send] using changes

theorem changes_of_archived {seen : Instance} {data : FieldData}
    (ended : Archived ctx seen data s after) :
    Changes ctx s (.archive seen data) after.2.storage.instances := by
  cases ended with
  | refused => exact .kept
  | done found looked applied => exact changes_keep found (.archive looked) applied

theorem changes_of_detached {seen : Instance} {attachment : AttachmentId}
    (ended : Detached ctx seen attachment s after) :
    Changes ctx s (.detach seen attachment) after.2.storage.instances := by
  cases ended with
  | refused => exact .kept
  | done found held applied => exact changes_keep found (.detach held) applied

theorem changes_of_tasksChanged {id : InstanceId} {tasks : List Task}
    (sends : ∀ current, s.storage.instances.get? id = some current →
      r.Sends ctx s id current { tasks })
    (ended : TasksChanged ctx id tasks s after) :
    Changes ctx s r after.2.storage.instances := by
  cases ended with
  | refused => exact .kept
  | done found applied => exact changes_keep found (sends _ found) applied

theorem changes_of_taskRecorded {seen : Instance} {task : Option Task}
    {after : Except Error Bool × State} (ended : TaskRecorded ctx seen s task after) :
    Changes ctx s (.recordTask seen task) after.2.storage.instances := by
  cases ended with
  | nothing => exact .kept
  | refused => exact .kept
  | done change => exact changes_of_tasksChanged (fun _ _ => .recordTask) change

theorem changes_of_taskApplied {id : InstanceId} {kind : OperationKind} {reported : Option Task}
    (ended : TaskApplied ctx id kind reported s after) :
    Changes ctx s (.applyTask id kind reported) after.2.storage.instances := by
  cases ended with
  | refused => exact .kept
  | idle => exact .kept
  | done found change =>
    refine changes_of_tasksChanged (fun other same => ?_) change
    obtain rfl := Option.some.inj (found.symm.trans same)
    exact .applyTask

theorem changes_of_started {d : Deployment} {seen : Instance}
    (ended : Started ctx d seen s after) :
    Changes ctx s (.start d seen) after.2.storage.instances := by
  cases ended with
  | blocked => exact .kept
  | unlaunched => exact .kept
  | undone => exact .kept
  | left => exact .kept
  | done launches applied => exact changes_keep launches.found .start applied

theorem changes_of_update {id : InstanceId} {patch : Patch}
    (sends : ∀ current, s.storage.instances.get? id = some current →
      r.Sends ctx s id current patch) :
    Changes ctx s r (outcome (Action.updateInstance ctx id patch) s).2.storage.instances := by
  rw [outcome_updateInstance]
  cases ctx.outage .updateInstance with
  | some e => exact .kept
  | none =>
    unfold Storage.update
    cases found : s.storage.instances.get? id with
    | none => exact .kept
    | some current =>
      cases applied : patch.apply ctx.now current with
      | error e => simp only [applied]; exact .kept
      | ok result =>
        obtain ⟨changed, updated⟩ := result
        have changes := changes_keep found (sends current found) applied
        cases changed <;> simp only [applied] <;> exact changes

/-- The request only looks something up. -/
def Looks : Request → Prop
  | .getInstance _ | .findPage _ _ | .findAll _ | .countInstances | .findProcess _
  | .findDeployment _ | .findAttachment _ | .findSubmission _ | .findFor _ | .stateOf _
  | .recordOf _ | .countRecords | .desynced | .findExecution _ | .countExecutions => True
  | _ => False

theorem state_of_looks (ctx : Context) {r : Request} (looks : r.Looks) (s : State) :
    (outcome (r.perform ctx) s).2 = s := by
  cases r with
  | getInstance id =>
    rw [perform, state_map, outcome_getInstance]
    split <;> rfl
  | findPage query request =>
    rw [perform, state_map, outcome_findPage]
    split <;> rfl
  | findAll query =>
    rw [perform, state_map, outcome_findAll]
    split <;> rfl
  | findProcess key =>
    rw [perform, state_map, outcome_findProcess]
    split <;> rfl
  | findDeployment id =>
    rw [perform, state_map, outcome_findDeployment]
    split <;> rfl
  | findFor seen =>
    rw [perform, state_map, Reconcile.findFor, outcome_findExecution]
    split <;> rfl
  | findExecution criteria =>
    rw [perform, state_map, outcome_findExecution]
    split <;> rfl
  | countInstances | findAttachment | findSubmission | stateOf | recordOf | countRecords
  | desynced | countExecutions => rfl
  | _ => exact looks.elim

/-- A request enters an instance, patches one, or leaves the stored instances alone. -/
theorem perform_changes (ctx : Context) (r : Request) (s : State) :
    Changes ctx s r (outcome (r.perform ctx) s).2.storage.instances := by
  by_cases looks : r.Looks
  · rw [state_of_looks ctx looks]
    exact .kept
  cases r with
  | create p d data attachments submission initiator =>
    rw [perform, state_map]
    exact changes_of_created (create_created ctx p d data attachments submission initiator s)
  | operate kind result seen principal =>
    rw [perform, state_map]
    exact changes_of_operated (operate_operated ctx kind result seen principal s)
  | accept v action =>
    rw [perform, state_map]
    exact changes_of_accepted (accept_accepted ctx v action s)
  | archive seen data =>
    rw [perform, state_map]
    exact changes_of_archived (archive_archived ctx seen data s)
  | detach seen attachment =>
    rw [perform, state_map]
    exact changes_of_detached (detach_detached ctx seen attachment s)
  | recordTask seen task =>
    rw [perform, state_map]
    exact changes_of_taskRecorded (recordTask_taskRecorded ctx seen task s)
  | applyTask id kind reported =>
    rw [perform, state_map]
    exact changes_of_taskApplied (applyTask_taskApplied ctx id kind reported s)
  | saveInstance i =>
    rw [perform, state_map, outcome_saveInstance]
    cases ctx.outage .saveInstance with
    | some e => exact .kept
    | none =>
      unfold Storage.save
      cases fresh : s.storage.instances.contains i.id with
      | true => exact .kept
      | false => exact .opened .saveInstance fresh
  | changeInstance id patch =>
    rw [perform, state_map]
    unfold Action.changeInstance
    split
    · rw [outcome_getInstance]
      split <;> exact .kept
    · have changes : Changes ctx s (.changeInstance id patch)
          (outcome (Action.updateInstance ctx id patch) s).2.storage.instances :=
        changes_of_update fun _ _ => .changeInstance
      exact @keeps_bind _ _ (fun s' => Changes ctx s _ s'.storage.instances) _ _ _ changes
        fun stored after same => by cases stored <;> exact same
  | updateInstance id patch =>
    rw [perform, state_map]
    exact changes_of_update fun _ _ => .updateInstance
  | start d seen =>
    rw [perform, state_map]
    exact changes_of_started (start_started ctx d seen s)
  | verify id =>
    rw [perform, state_map, storage_verify]
    exact .kept
  | audit query =>
    rw [perform, state_map]
    have storage := @audit_keeps (fun s' => s'.storage = s.storage) ctx
      (fun id s' kept => (storage_verify ctx id s').trans kept) query s rfl
    rw [storage]
    exact .kept
  | saveAttachment a =>
    rw [perform, outcome_bind, outcome_saveAttachment]
    cases ctx.outage .saveAttachment with
    | some e => exact .kept
    | none => cases ctx.outage (.saveAttachmentOf a.id) <;> exact .kept
  | saveSubmission submission =>
    rw [perform, outcome_bind, outcome_saveSubmission]
    cases ctx.outage .saveSubmission with
    | some e => exact .kept
    | none =>
      have same : (s.storage.saveSubmission submission).instances = s.storage.instances := by
        unfold Storage.saveSubmission
        split <;> rfl
      simp only [outcome_pure, same]
      exact .kept
  | cancelFor seen =>
    rw [perform, state_map, outcome_cancelFor]
    split <;> exact .kept
  | startExecution d businessKey data =>
    rw [perform, state_map, outcome_startExecution]
    split <;> exact .kept
  | cancelExecution id =>
    rw [perform, state_map, outcome_cancelExecution]
    split <;> exact .kept
  | saveProcess | saveDeployment | forget => exact .kept
  | _ => exact absurd trivial looks

/-- A stored record stays stored, and the request leaves it as it is or patches it. -/
theorem patched_of_stored (ctx : Context) (r : Request) {id : InstanceId} {i : Instance}
    (found : s.storage.instances.get? id = some i) :
    ∃ j, (outcome (r.perform ctx) s).2.storage.instances.get? id = some j ∧
      (j = i ∨ ∃ patch, r.Sends ctx s id i patch ∧ patch.apply ctx.now i = .ok (true, j)) := by
  have change := perform_changes ctx r s
  generalize (outcome (r.perform ctx) s).2.storage.instances = instances at change ⊢
  cases change with
  | kept => exact ⟨i, found, .inl rfl⟩
  | @patched at_id current updated patch found' sends applied =>
    rw [SortedMap.get?_insert]
    by_cases here : id = at_id
    · subst here
      obtain rfl := Option.some.inj (found.symm.trans found')
      exact ⟨updated, if_pos rfl, .inr ⟨patch, sends, applied⟩⟩
    · exact ⟨i, by rw [if_neg here, found], .inl rfl⟩
  | @opened j opens fresh =>
    have other : id ≠ j.id := by
      rintro rfl
      simp [SortedMap.contains, found] at fresh
    exact ⟨i, by rw [SortedMap.get?_insert, if_neg other, found], .inl rfl⟩

/-- A record that was not stored before is one that the request enters. -/
theorem opens_of_new {id : InstanceId} {j : Instance}
    (absent : s.storage.instances.get? id = none)
    (held : (outcome (r.perform ctx) s).2.storage.instances.get? id = some j) :
    r.Opens ctx j := by
  have change := perform_changes ctx r s
  generalize (outcome (r.perform ctx) s).2.storage.instances = instances at change held
  cases change with
  | kept => rw [absent] at held; cases held
  | @patched at_id current updated patch found sends applied =>
    have other : id ≠ at_id := by
      rintro rfl
      rw [absent] at found
      cases found
    rw [SortedMap.get?_insert, if_neg other, absent] at held
    cases held
  | @opened i opens fresh =>
    rw [SortedMap.get?_insert] at held
    split at held
    · obtain rfl := Option.some.inj held
      exact opens
    · rw [absent] at held
      cases held

/-- A request leaves every instance stored under its own name. -/
theorem keyed_perform (ctx : Context) (r : Request) (s : State) (keyed : s.Keyed) :
    (outcome (r.perform ctx) s).2.Keyed := by
  intro id i held
  have change := perform_changes ctx r s
  generalize (outcome (r.perform ctx) s).2.storage.instances = instances at change held
  cases change with
  | kept => exact keyed id i held
  | patched found sends applied =>
    rw [SortedMap.get?_insert] at held
    split at held
    · rename_i here
      obtain rfl := Option.some.inj held
      exact (Patch.id_of_apply applied).trans ((keyed _ _ found).trans here.symm)
    · exact keyed id i held
  | opened opens fresh =>
    rw [SortedMap.get?_insert] at held
    split at held
    · rename_i here
      obtain rfl := Option.some.inj held
      exact here.symm
    · exact keyed id i held

/-! ### Runs -/

theorem state_run_append (first rest : List (Context × Request)) (s : State) :
    (run (first ++ rest) s).2 = (run rest (run first s).2).2 := by
  induction first generalizing s with
  | nil => rfl
  | cons call first ih => exact ih _

theorem state_run_take_succ {calls : List (Context × Request)} {n : Nat} {ctx : Context}
    {r : Request} (at_n : calls[n]? = some (ctx, r)) (s : State) :
    (run (calls.take (n + 1)) s).2 = (outcome (r.perform ctx) (run (calls.take n) s).2).2 := by
  rw [List.take_add_one, at_n, state_run_append]
  rfl

theorem take_succ_of_end {calls : List (Context × Request)} {n : Nat} (ended : calls[n]? = none) :
    calls.take (n + 1) = calls.take n := by
  rw [List.take_add_one, ended]
  exact List.append_nil _

/-- What every request of a run keeps, the run keeps. -/
theorem run_keeps {Allowed : Request → Prop} {Kept : State → Prop}
    (step : ∀ ctx r s, Allowed r → Kept s → Kept (outcome (r.perform ctx) s).2)
    (calls : List (Context × Request)) (allowed : ∀ call ∈ calls, Allowed call.2) {s : State}
    (kept : Kept s) : Kept (run calls s).2 := by
  induction calls generalizing s with
  | nil => exact kept
  | cons call rest ih =>
    have first := step call.1 call.2 s (allowed call List.mem_cons_self) kept
    exact ih (fun other member => allowed other (List.mem_cons_of_mem call member)) first

theorem keyed_run (calls : List (Context × Request)) (keyed : s.Keyed) :
    (run calls s).2.Keyed := by
  have step (ctx : Context) (r : Request) (s : State) (_ : True) (keyed : s.Keyed) :
      (outcome (r.perform ctx) s).2.Keyed := keyed_perform ctx r s keyed
  exact run_keeps step calls (fun _ _ => trivial) keyed

/-- The answer to the n-th request of a run is its answer in the state that the requests before
    it leave. -/
theorem answer_run (calls : List (Context × Request)) (s : State) (n : Nat) :
    (run calls s).1[n]? =
      calls[n]?.map fun call => (outcome (call.2.perform call.1) (run (calls.take n) s).2).1 := by
  induction calls generalizing s n with
  | nil => rfl
  | cons call rest ih =>
    cases n with
    | zero => rfl
    | succ n => exact ih (outcome (call.2.perform call.1) s).2 n

/-- What holds at first holds in every state of a run exactly if no request of the run breaks
    it. -/
theorem run_always_iff {Good : State → Prop} {Breaks : Context → State → Request → Prop}
    {calls : List (Context × Request)} {s : State} (first : Good s)
    (step : ∀ n ctx r, calls[n]? = some (ctx, r) → Good (run (calls.take n) s).2 →
      (Good (outcome (r.perform ctx) (run (calls.take n) s).2).2 ↔
        ¬Breaks ctx (run (calls.take n) s).2 r)) :
    (∀ n, Good (run (calls.take n) s).2) ↔
      ∀ n ctx r, calls[n]? = some (ctx, r) → ¬Breaks ctx (run (calls.take n) s).2 r := by
  constructor
  · intro always n ctx r at_n
    have after := always (n + 1)
    rw [state_run_take_succ at_n] at after
    exact (step n ctx r at_n (always n)).1 after
  · intro kept n
    induction n with
    | zero => exact first
    | succ n ih =>
      cases at_n : calls[n]? with
      | none => rwa [take_succ_of_end at_n]
      | some call =>
        rw [state_run_take_succ at_n]
        exact (step n call.1 call.2 at_n ih).2 (kept n call.1 call.2 at_n)

/-- A preorder relates earlier states of a run to later ones exactly if every request keeps to
    it. -/
theorem run_related_iff {Rel : State → State → Prop} (refl : ∀ s, Rel s s)
    (trans : ∀ {s t u}, Rel s t → Rel t u → Rel s u) {calls : List (Context × Request)}
    {s : State} :
    (∀ m n, m ≤ n → Rel (run (calls.take m) s).2 (run (calls.take n) s).2) ↔
      ∀ n ctx r, calls[n]? = some (ctx, r) →
        Rel (run (calls.take n) s).2 (outcome (r.perform ctx) (run (calls.take n) s).2).2 := by
  constructor
  · intro related n ctx r at_n
    rw [← state_run_take_succ at_n]
    exact related n (n + 1) (Nat.le_succ n)
  · intro step m n later
    induction later with
    | refl => exact refl _
    | @step n _ ih =>
      cases at_n : calls[n]? with
      | none => rwa [Nat.succ_eq_add_one, take_succ_of_end at_n]
      | some call =>
        rw [Nat.succ_eq_add_one, state_run_take_succ at_n]
        exact trans ih (step n call.1 call.2 at_n)

/-- Every stored record has the property. -/
def Every (Kept : Instance → Prop) (s : State) : Prop :=
  ∀ id i, s.storage.instances.get? id = some i → Kept i

/-- A property of records that new instances have and that the patches which are sent keep. -/
structure Lasting (Allowed : Request → Prop) (Kept : Instance → Prop) : Prop where
  opened : ∀ {ctx r i}, Allowed r → Opens ctx r i → Kept i
  patched : ∀ {ctx s r id current patch updated}, Allowed r → Sends ctx s r id current patch →
    Kept current → patch.apply ctx.now current = .ok (true, updated) → Kept updated

theorem perform_every {Allowed : Request → Prop} {Kept : Instance → Prop}
    (lasting : Lasting Allowed Kept) (ctx : Context) (r : Request) (s : State)
    (allowed : Allowed r) (every : Every Kept s) :
    Every Kept (outcome (r.perform ctx) s).2 := by
  intro id i held
  have change := perform_changes ctx r s
  generalize (outcome (r.perform ctx) s).2.storage.instances = instances at change held
  cases change with
  | kept => exact every id i held
  | @patched at_id current updated patch found sends applied =>
    rw [SortedMap.get?_insert] at held
    split at held
    · obtain rfl := Option.some.inj held
      exact lasting.patched allowed sends (every at_id current found) applied
    · exact every id i held
  | @opened j opens fresh =>
    rw [SortedMap.get?_insert] at held
    split at held
    · obtain rfl := Option.some.inj held
      exact lasting.opened allowed opens
    · exact every id i held

/-- A lasting property of every stored record is kept by a run. -/
theorem run_every {Allowed : Request → Prop} {Kept : Instance → Prop}
    (lasting : Lasting Allowed Kept) (calls : List (Context × Request))
    (allowed : ∀ call ∈ calls, Allowed call.2) {s : State} (every : Every Kept s) :
    Every Kept (run calls s).2 :=
  run_keeps (fun ctx r s => perform_every lasting ctx r s) calls allowed every

end Request

/-! ### A desk with one process -/

namespace Desk

def process : ProcessDefinition := { key := "expense", label := "Expense" }

def deployment : Deployment :=
  { id := "dep-1", processKey := "expense", engineKey := "expense_v3" }

def alice : Entity := Entity.user "alice"

def empty : State :=
  { storage := (({} : Storage).saveProcess process).saveDeployment deployment }

/-- What a request is given; a new instance gets this name. -/
def context (id : InstanceId) : Context where
  now := .ofSecond 0
  newInstance := id
  newOperation := default
  executionName n := String.ofList (List.replicate (n + 1) 'x')

def creation : Context × Request :=
  (context "case-1", .create process deployment ∅ [] none alice)

def opened : Instance := Instance.opening "case-1" process "dep-1" (.ofSecond 0)

end Desk
end Casework
