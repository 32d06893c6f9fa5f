import Casework.Proofs.Stepping

/-!
What requests about instances do to the state. A request that changes an instance fails before
anything is changed, or it changes the record by one patch and sends the notices of its event. For
each request one relation names its ways to end, with the patch and the record that it is applied
to, and one lemma states that there are no others.
-/

namespace Casework

open Casework.Action

namespace State

/-- The state with a patched record in its place, if it has changed. -/
def keep (s : State) (id : InstanceId) (changed : Bool) (i : Instance) : State :=
  { s with
    storage := { s.storage with
      instances := if changed then s.storage.instances.insert id i else s.storage.instances } }

/-- The state with the execution of an instance cancelled. -/
def stop (s : State) (i : Instance) : State :=
  { s with engine := (i.engineId.map s.engine.erase).getD s.engine }

theorem get?_stop (s : State) (i : Instance) (x : ExecutionId) :
    (s.stop i).engine.get? x = if i.engineId = some x then none else s.engine.get? x := by
  unfold stop
  cases i.engineId with
  | none => rfl
  | some y =>
    show (s.engine.erase y).get? x = _
    rw [SortedMap.get?_erase]
    by_cases same : x = y
    · simp [same]
    · simp [same, Ne.symm same]

theorem storage_of_stopped {s before : State} {i : Instance} {cancels : Prop} [Decidable cancels]
    (stopped : before = if cancels then s.stop i else s) : before.storage = s.storage := by
  rw [stopped]
  split <;> rfl

/-- The state with some more notices sent. -/
def send (s : State) (notices : List Notice) : State := { s with outbox := s.outbox ++ notices }

end State

namespace Action

/-- An update of a stored record keeps the record with the patch merged in, if it has changed. -/
theorem outcome_updateInstance_keep (ctx : Context) (id : InstanceId) (patch : Patch)
    (s : State) :
    outcome (updateInstance ctx id patch) s =
      match ctx.outage .updateInstance, s.storage.instances.get? id with
      | some e, _ => (.error e, s)
      | none, none => (.ok none, s)
      | none, some stored =>
        match patch.apply ctx.now stored with
        | .error e => (.error e, s)
        | .ok (changed, merged) => (.ok (some merged), s.keep id changed merged) := by
  rw [outcome_updateInstance]
  cases ctx.outage .updateInstance with
  | some e => rfl
  | none =>
    cases found : s.storage.instances.get? id with
    | none => simp [Storage.update, found]
    | some stored =>
      cases applied : patch.apply ctx.now stored with
      | error e => simp [Storage.update, found, applied]
      | ok result =>
        obtain ⟨changed, merged⟩ := result
        cases changed <;> simp [Storage.update, found, applied, State.keep]

theorem outcome_changeInstance (ctx : Context) (id : InstanceId) {patch : Patch}
    (filled : patch.isEmpty = false) (s : State) :
    outcome (changeInstance ctx id patch) s =
      match ctx.outage .updateInstance, s.storage.instances.get? id with
      | some e, _ => (.error e, s)
      | none, none => (.error (.instanceNotFound id), s)
      | none, some stored =>
        match patch.apply ctx.now stored with
        | .error e => (.error e, s)
        | .ok (changed, merged) => (.ok merged, s.keep id changed merged) := by
  unfold changeInstance
  simp only [filled, Bool.false_and, Bool.false_eq_true, if_false]
  rw [outcome_bind, outcome_updateInstance_keep]
  cases ctx.outage .updateInstance with
  | some e => rfl
  | none =>
    cases s.storage.instances.get? id with
    | none => rfl
    | some stored =>
      dsimp only
      cases patch.apply ctx.now stored with
      | error e => rfl
      | ok result => rfl

end Action

/-- The notices of an event: those of the deployment that is known, or else of the one that the
    look-up finds. -/
def noticesOf (ctx : Context) (storage : Storage) (known : Option Deployment) (i : Instance)
    (e : Event) : List Notice :=
  let found := if ctx.outage .findDeployment = none then storage.deployments.get? i.deploymentId
    else none
  ((known.or found).map fun d => d.notices i e ctx.now).getD []

@[simp] theorem outcome_notify (ctx : Context) (known : Option Deployment) (i : Instance)
    (e : Event) (s : State) :
    outcome (notify ctx known i e) s = (.ok (), s.send (noticesOf ctx s.storage known i e)) := by
  unfold notify noticesOf State.send
  cases known with
  | some d => exact outcome_sendNotices ctx _ s
  | none =>
    rw [outcome_bind, outcome_tryCatch, outcome_findDeployment]
    cases out : ctx.outage .findDeployment with
    | some e => exact outcome_sendNotices ctx _ s
    | none => exact outcome_sendNotices ctx _ s

/-! ### Operations -/

namespace Lifecycle

/-- The deployment that cancelling looks up. -/
def Cancels (kind : OperationKind) (s : State) (current : Instance)
    (deployment : Option Deployment) : Prop :=
  if kind = .cancel then
    deployment ≠ none ∧ s.storage.deployments.get? current.deploymentId = deployment
  else deployment = none

/-- How an operation ends. -/
inductive Operated (ctx : Context) (kind : OperationKind) (result : Outcome) (seen : Instance)
    (principal : Entity) (s : State) : Except Error Instance × State → Prop
  /-- Nothing has been done. -/
  | refused (e : Error) : Operated ctx kind result seen principal s (.error e, s)
  /-- The execution has been cancelled, and then the record was not changed. -/
  | halted {current : Instance} {deployment : Option Deployment} {e : Error}
      (found : s.storage.instances.get? seen.id = some current)
      (cancels : kind = .cancel ∧ ctx.cancelsExecution = true)
      (cause : ctx.outage .updateInstance = some e ∨
        (guarded ctx seen (operationPatch ctx kind result current deployment principal)).apply
          ctx.now current = .error e) :
      Operated ctx kind result seen principal s (.error e, s.stop current)
  | done {current updated : Instance} {deployment : Option Deployment} {changed : Bool}
      {before : State}
      (found : s.storage.instances.get? seen.id = some current)
      (looked : Cancels kind s current deployment)
      (stopped : before =
        if kind = .cancel ∧ ctx.cancelsExecution = true then s.stop current else s)
      (applied :
        (guarded ctx seen (operationPatch ctx kind result current deployment principal)).apply
          ctx.now current = .ok (changed, updated)) :
      Operated ctx kind result seen principal s
        (.ok updated, (before.keep seen.id changed updated).send
          (noticesOf ctx s.storage deployment updated (.ofOperation kind)))

theorem taskPatch_of_isInstanceLevel {kind : OperationKind} (level : kind.isInstanceLevel = true)
    (now : Instant) (result : Outcome) (current : Instance) :
    taskPatch now kind result current = [] := by
  have unchanged : kind.delta current.tasks result.task now = [] := by
    unfold OperationKind.delta
    cases result.task with
    | none => rfl
    | some task => cases kind <;> first | rfl | cases level
  cases kind with
  | assign | update => rfl
  | _ => exact unchanged

/-- A version that was expected is stale only where versions are checked. -/
theorem staleVersion?_guarded (ctx : Context) (seen current : Instance) {patch : Patch}
    (unguarded : patch.expectedVersion = none) :
    (guarded ctx seen patch).staleVersion? current =
      if ctx.concurrency = .versionChecked ∧ current.version ≠ seen.version then
        some (.staleVersion seen.version current.version)
      else none := by
  unfold guarded Patch.staleVersion?
  cases ctx.concurrency with
  | lastWriteWins => simp [unguarded]
  | versionChecked => by_cases same : current.version = seen.version <;> simp [same]

/-- An operation about the whole instance changes no task and names no execution, so the record
    refuses it only when it has another version. -/
theorem refusal?_of_isInstanceLevel (ctx : Context) {kind : OperationKind}
    (level : kind.isInstanceLevel = true) (result : Outcome) (seen current : Instance)
    (deployment : Option Deployment) (principal : Entity) :
    (guarded ctx seen (operationPatch ctx kind result current deployment principal)).refusal?
        current =
      if ctx.concurrency = .versionChecked ∧ current.version ≠ seen.version then
        some (.staleVersion seen.version current.version)
      else none := by
  have untasked := taskPatch_of_isInstanceLevel level ctx.now result current
  rw [Patch.refusal?_of_plain, staleVersion?_guarded]
  · cases kind <;> rfl
  · unfold guarded
    cases ctx.concurrency <;> cases kind <;> rfl
  · unfold guarded
    cases ctx.concurrency <;> exact untasked

/-- Guarding a patch changes the version that it expects and nothing else. -/
theorem guarded_eq (ctx : Context) (seen : Instance) (patch : Patch) :
    guarded ctx seen patch =
      { patch with expectedVersion := (guarded ctx seen patch).expectedVersion } := by
  unfold guarded
  cases ctx.concurrency <;> rfl

theorem isEmpty_guarded (ctx : Context) (seen : Instance) (patch : Patch) :
    (guarded ctx seen patch).isEmpty = patch.isEmpty := by
  rw [guarded_eq]
  rfl

theorem merge_guarded (ctx : Context) (seen : Instance) (patch : Patch) (i : Instance) :
    (guarded ctx seen patch).merge i = patch.merge i := by
  rw [guarded_eq]
  rfl

/-- The end of a request: the record is changed and notices are sent. -/
theorem outcome_change_notify (ctx : Context) {id : InstanceId} {patch : Patch}
    (filled : patch.isEmpty = false) (known : Option Deployment) (e : Event) {s : State}
    {stored : Instance} (found : s.storage.instances.get? id = some stored) :
    outcome (do
        let updated ← changeInstance ctx id patch
        notify ctx known updated e
        return updated) s =
      match ctx.outage .updateInstance, patch.apply ctx.now stored with
      | some e, _ => (.error e, s)
      | none, .error e => (.error e, s)
      | none, .ok (changed, merged) =>
        (.ok merged, (s.keep id changed merged).send (noticesOf ctx s.storage known merged e)) := by
  rw [outcome_bind, outcome_changeInstance ctx id filled, found]
  cases ctx.outage .updateInstance with
  | some e => rfl
  | none =>
    cases applied : patch.apply ctx.now stored with
    | error e => simp only [applied]
    | ok result => simp only [applied, outcome_bind, outcome_notify, outcome_pure]; rfl

theorem outcome_cancelFor (ctx : Context) (i : Instance) (s : State) :
    outcome (Reconcile.cancelFor ctx i) s =
      match i.engineId, ctx.outage .cancelExecution with
      | none, _ => (.ok false, s)
      | some _, some e => (.error e, s)
      | some id, none => (.ok (s.engine.contains id), s.stop i) := by
  unfold Reconcile.cancelFor State.stop
  cases i.engineId with
  | none => rfl
  | some id =>
    show outcome (cancelExecution ctx id) s = _
    rw [outcome_cancelExecution]
    cases ctx.outage .cancelExecution <;> rfl

/-- The end of an operation, from the state in which the record is to be changed. -/
theorem operated_of_change (ctx : Context) {kind : OperationKind} (result : Outcome)
    {seen : Instance} (principal : Entity) {s : State} (before : State) {current : Instance}
    {deployment : Option Deployment}
    (found : s.storage.instances.get? seen.id = some current)
    (looked : Cancels kind s current deployment)
    (stopped : before =
      if kind = .cancel ∧ ctx.cancelsExecution = true then s.stop current else s) :
    Operated ctx kind result seen principal s
      (outcome (do
        let updated ← changeInstance ctx seen.id
          (guarded ctx seen (operationPatch ctx kind result current deployment principal))
        notify ctx deployment updated (.ofOperation kind)
        return updated) before) := by
  have filled : (guarded ctx seen
      (operationPatch ctx kind result current deployment principal)).isEmpty = false := by
    rw [isEmpty_guarded]
    simp [operationPatch, Patch.isEmpty]
  have storage := State.storage_of_stopped stopped
  have failed (e : Error)
      (cause : ctx.outage .updateInstance = some e ∨
        (guarded ctx seen (operationPatch ctx kind result current deployment principal)).apply
          ctx.now current = .error e) :
      Operated ctx kind result seen principal s (.error e, before) := by
    rw [stopped]
    split
    · rename_i cancels
      exact .halted found cancels cause
    · exact .refused e
  rw [outcome_change_notify ctx filled deployment _ (by rw [storage]; exact found), storage]
  cases out : ctx.outage .updateInstance with
  | some e => exact failed e (.inl out)
  | none =>
    cases applied : (guarded ctx seen
        (operationPatch ctx kind result current deployment principal)).apply ctx.now current with
    | error e => exact failed e (.inr applied)
    | ok after => exact .done found looked stopped applied

theorem operate_operated (ctx : Context) (kind : OperationKind) (result : Outcome)
    (seen : Instance) (principal : Entity) (s : State) :
    Operated ctx kind result seen principal s
      (outcome (operate ctx kind result seen principal) s) := by
  unfold operate
  rw [outcome_bind, outcome_getInstance]
  cases ctx.outage .findInstance with
  | some e => exact .refused e
  | none =>
    cases found : s.storage.instances.get? seen.id with
    | none => exact .refused _
    | some current =>
      by_cases cancel : kind = .cancel
      · subst cancel
        simp only [if_true, true_and]
        rw [outcome_bind, outcome_map, outcome_getDeployment]
        cases ctx.outage .findDeployment with
        | some e => exact .refused e
        | none =>
          cases looked : s.storage.deployments.get? current.deploymentId with
          | none => exact .refused _
          | some d =>
            have cancels : Cancels .cancel s current (some d) := by simp [Cancels, looked]
            cases attached : ctx.cancelsExecution with
            | false =>
              exact operated_of_change ctx result principal s found cancels (by simp [attached])
            | true =>
              have change := operated_of_change ctx result principal (s.stop current) found cancels
                (by simp [attached])
              simp only [if_true]
              rw [outcome_bind, outcome_discard, outcome_cancelFor]
              cases named : current.engineId with
              | none =>
                have unchanged : s.stop current = s := by simp [State.stop, named]
                rw [unchanged] at change
                exact change
              | some id =>
                cases ctx.outage .cancelExecution with
                | some e => exact .refused e
                | none => exact change
      · simp only [cancel, if_false, false_and, outcome_bind (pure none), outcome_pure]
        exact operated_of_change ctx result principal s found (by simp [Cancels, cancel])
          (by simp [cancel])

/-! ### Archiving, attachments and tasks -/

/-- How archiving ends. -/
inductive Archived (ctx : Context) (seen : Instance) (data : FieldData) (s : State) :
    Except Error Instance × State → Prop
  | refused (e : Error) : Archived ctx seen data s (.error e, s)
  | done {current updated : Instance} {d : Deployment} {changed : Bool}
      (found : s.storage.instances.get? seen.id = some current)
      (looked : s.storage.deployments.get? current.deploymentId = some d)
      (applied : (guarded ctx seen (archivePatch ctx.now current d data)).apply ctx.now current =
        .ok (changed, updated)) :
      Archived ctx seen data s
        (.ok updated, (s.keep seen.id changed updated).send
          (noticesOf ctx s.storage (some d) updated .instanceArchived))

theorem archive_archived (ctx : Context) (seen : Instance) (data : FieldData) (s : State) :
    Archived ctx seen data s (outcome (archive ctx seen data) s) := by
  unfold archive
  rw [outcome_bind, outcome_getInstance]
  cases ctx.outage .findInstance with
  | some e => exact .refused e
  | none =>
    cases found : s.storage.instances.get? seen.id with
    | none => exact .refused _
    | some current =>
      simp only
      rw [outcome_bind, outcome_getDeployment]
      cases ctx.outage .findDeployment with
      | some e => exact .refused e
      | none =>
        cases looked : s.storage.deployments.get? current.deploymentId with
        | none => exact .refused _
        | some d =>
          have filled :
              (guarded ctx seen (archivePatch ctx.now current d data)).isEmpty = false := by
            rw [isEmpty_guarded]
            simp [archivePatch, Patch.isEmpty]
          simp only
          rw [outcome_change_notify ctx filled (some d) _ found]
          cases ctx.outage .updateInstance with
          | some e => exact .refused e
          | none =>
            cases applied : (guarded ctx seen (archivePatch ctx.now current d data)).apply ctx.now
                current with
            | error e => exact .refused e
            | ok after => exact .done found looked applied

/-- How taking an attachment off ends. -/
inductive Detached (ctx : Context) (seen : Instance) (attachment : AttachmentId) (s : State) :
    Except Error Instance × State → Prop
  | refused (e : Error) : Detached ctx seen attachment s (.error e, s)
  | done {current updated : Instance} {changed : Bool}
      (found : s.storage.instances.get? seen.id = some current)
      (held : current.attachments.contains attachment = true)
      (applied : (guarded ctx seen { removeAttachments := [attachment] }).apply ctx.now current =
        .ok (changed, updated)) :
      Detached ctx seen attachment s
        (.ok updated, (s.keep seen.id changed updated).send
          (noticesOf ctx s.storage none updated .attachmentRemoved))

theorem detach_detached (ctx : Context) (seen : Instance) (attachment : AttachmentId)
    (s : State) : Detached ctx seen attachment s (outcome (detach ctx seen attachment) s) := by
  unfold detach
  rw [outcome_bind, outcome_getInstance]
  cases ctx.outage .findInstance with
  | some e => exact .refused e
  | none =>
    cases found : s.storage.instances.get? seen.id with
    | none => exact .refused _
    | some current =>
      cases held : current.attachments.contains attachment with
      | false =>
        simp only [held, Bool.not_false, if_true, outcome_bind, outcome_throw]
        exact .refused _
      | true =>
        have filled : (guarded ctx seen { removeAttachments := [attachment] }).isEmpty = false := by
          rw [isEmpty_guarded]
          rfl
        simp only [held, Bool.not_true, Bool.false_eq_true, if_false]
        rw [outcome_change_notify ctx filled none _ found]
        cases ctx.outage .updateInstance with
        | some e => exact .refused e
        | none =>
          cases applied : (guarded ctx seen { removeAttachments := [attachment] }).apply ctx.now
              current with
          | error e => exact .refused e
          | ok after => exact .done found held applied

/-- How the change of some tasks of an instance ends, when nothing is sent. -/
inductive TasksChanged (ctx : Context) (id : InstanceId) (tasks : List Task) (s : State) :
    Except Error Instance × State → Prop
  | refused (e : Error) : TasksChanged ctx id tasks s (.error e, s)
  | done {current updated : Instance} {changed : Bool}
      (found : s.storage.instances.get? id = some current)
      (applied : ({ tasks } : Patch).apply ctx.now current = .ok (changed, updated)) :
      TasksChanged ctx id tasks s (.ok updated, s.keep id changed updated)

theorem changeInstance_tasksChanged (ctx : Context) (id : InstanceId) {tasks : List Task}
    (some : tasks ≠ []) (s : State) :
    TasksChanged ctx id tasks s (outcome (changeInstance ctx id { tasks }) s) := by
  have filled : ({ tasks } : Patch).isEmpty = false := by simp [Patch.isEmpty, some]
  rw [outcome_changeInstance ctx id filled]
  cases ctx.outage .updateInstance with
  | some e => exact .refused e
  | none =>
    cases found : s.storage.instances.get? id with
    | none => exact .refused _
    | some current =>
      cases applied : ({ tasks } : Patch).apply ctx.now current with
      | error e => simp only [applied]; exact .refused e
      | ok after => simp only [applied]; exact .done found applied

/-- How recording a task ends. -/
inductive TaskRecorded (ctx : Context) (seen : Instance) (s : State) :
    Option Task → Except Error Bool × State → Prop
  | nothing : TaskRecorded ctx seen s none (.ok false, s)
  | refused (task : Task) (e : Error) : TaskRecorded ctx seen s (some task) (.error e, s)
  | done {task : Task} {updated : Instance} {s' : State}
      (change : TasksChanged ctx seen.id [task] s (.ok updated, s')) :
      TaskRecorded ctx seen s (some task) (.ok true, s')

theorem recordTask_taskRecorded (ctx : Context) (seen : Instance) (task : Option Task)
    (s : State) :
    TaskRecorded ctx seen s task (outcome (recordTask ctx seen task) s) := by
  cases task with
  | none => exact .nothing
  | some task =>
    have change := changeInstance_tasksChanged ctx seen.id (List.cons_ne_nil task []) s
    unfold recordTask
    simp only [outcome_bind, outcome_discard, outcome_pure]
    cases ended : outcome (changeInstance ctx seen.id { tasks := [task] }) s with
    | mk answer s' =>
      rw [ended] at change
      cases answer with
      | error e =>
        cases change with
        | refused => exact .refused task e
      | ok updated => exact .done change

/-- How the change that a reported task brings ends. -/
inductive TaskApplied (ctx : Context) (id : InstanceId) (kind : OperationKind)
    (reported : Option Task) (s : State) : Except Error Instance × State → Prop
  | refused (e : Error) : TaskApplied ctx id kind reported s (.error e, s)
  /-- No task is to be changed. -/
  | idle {current : Instance} (found : s.storage.instances.get? id = some current)
      (nothing : kind.delta current.tasks reported ctx.now = []) :
      TaskApplied ctx id kind reported s (.ok current, s)
  | done {current : Instance} {after : Except Error Instance × State}
      (found : s.storage.instances.get? id = some current)
      (change : TasksChanged ctx id (kind.delta current.tasks reported ctx.now) s after) :
      TaskApplied ctx id kind reported s after

theorem applyTask_taskApplied (ctx : Context) (id : InstanceId) (kind : OperationKind)
    (reported : Option Task) (s : State) :
    TaskApplied ctx id kind reported s (outcome (applyTask ctx id kind reported) s) := by
  unfold applyTask
  rw [outcome_bind, outcome_getInstance]
  cases ctx.outage .findInstance with
  | some e => exact .refused e
  | none =>
    cases found : s.storage.instances.get? id with
    | none => exact .refused _
    | some current =>
      by_cases nothing : kind.delta current.tasks reported ctx.now = []
      · simp only [nothing, List.isEmpty_nil, if_true]
        exact .idle found nothing
      · simp only [List.isEmpty_iff, nothing, if_false]
        exact .done found (changeInstance_tasksChanged ctx id nothing s)

end Lifecycle
end Casework
