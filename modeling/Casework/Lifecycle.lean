import Casework.Delta
import Casework.Label
import Casework.Notice
import Casework.Reconcile

/-!
The life of process instances: creation, operations, forms, archiving.

Each request checks that what it names exists, makes one patch and changes the
record once. It works on the record as it is stored now; of the record that the
caller has seen, only the name counts, and the version where versions are
checked. Attachments and submissions are saved before the record is changed and
stay when the change fails. Notices go out after the change.
-/

namespace Casework.Lifecycle

open Casework.Action

/-- The patch, meant only for the version that the caller has seen where versions are checked. -/
def guarded (ctx : Context) (seen : Instance) (patch : Patch) : Patch :=
  match ctx.concurrency with
  | .lastWriteWins => patch
  | .versionChecked => { patch with expectedVersion := some seen.version }

/-! ### Creation -/

/-- The new instance. -/
def opening (ctx : Context) (p : ProcessDefinition) (d : Deployment) (data : FieldData)
    (attachments : List Attachment) (submission : Option Submission) (initiator : Entity) :
    Instance :=
  { Instance.opening ctx.newInstance p d.id ctx.now with
    label := p.instanceLabel data submission
    applicationStatus := d.initiationStatus
    data := data
    attachments := SortedSet.ofList (attachments.map Attachment.id)
    submissions := SortedSet.ofList (submission.map Submission.id).toList
    initiator := some initiator.id }

/-- Creates an instance of a process under a deployment. -/
def create (ctx : Context) (p : ProcessDefinition) (d : Deployment) (data : FieldData)
    (attachments : List Attachment) (submission : Option Submission) (initiator : Entity) :
    Action Instance := do
  discard <| getProcess ctx p.key
  discard <| getDeployment ctx d.id
  if d.processKey ≠ p.key then
    throw (.invalidInput (.foreignDeployment d.id d.processKey p.key))
  saveAttachments ctx attachments
  submission.forM (saveSubmission ctx)
  let created ← saveInstance ctx (opening ctx p d data attachments submission initiator)
  notify ctx (some d) created .instanceCreated
  return created

/-! ### Operations -/

/-- What an operation does to the statuses of an instance. -/
def statusPatch (now : Instant) (kind : OperationKind) (outcome : Outcome) (current : Instance)
    (cancellationStatus : Option String) : Patch :=
  let patch : Patch :=
    { explanation := outcome.explanation, applicationStatus := outcome.applicationStatus }
  match kind with
  | .suspension =>
    { patch with
      status := some .suspended, previousApplicationStatus := current.applicationStatus }
  | .activation =>
    { patch with
      status := some .running
      applicationStatus := outcome.applicationStatus.or current.previousApplicationStatus }
  | .cancel =>
    { patch with
      status := some .cancelled
      finish := some (current.finish.getD now)
      applicationStatus := outcome.applicationStatus.or cancellationStatus }
  | .assign | .claim | .complete | .reject | .update => patch

/-- The tasks that an operation changes; assigning and updating leave the tasks alone. -/
def taskPatch (now : Instant) (kind : OperationKind) (outcome : Outcome) (current : Instance) :
    List Task :=
  match kind with
  | .assign | .update => []
  | _ => kind.delta current.tasks outcome.task now

/-- The log entry of an operation. -/
def logEntry (ctx : Context) (kind : OperationKind) (outcome : Outcome) (principal : Entity) :
    Operation :=
  ⟨ctx.newOperation, kind, outcome.explanation, ctx.now, principal.id⟩

/-- All that an operation changes in the record. -/
def operationPatch (ctx : Context) (kind : OperationKind) (outcome : Outcome)
    (current : Instance) (deployment : Option Deployment) (principal : Entity) : Patch :=
  { statusPatch ctx.now kind outcome current (deployment.bind Deployment.cancellationStatus) with
    tasks := taskPatch ctx.now kind outcome current
    operation := some (logEntry ctx kind outcome principal) }

/-- Carries out an operation. Cancelling cancels the execution first, if the system is set up
    so. -/
def operate (ctx : Context) (kind : OperationKind) (outcome : Outcome) (seen : Instance)
    (principal : Entity) : Action Instance := do
  let current ← getInstance ctx seen.id
  let deployment ←
    if kind = .cancel then some <$> getDeployment ctx current.deploymentId else pure none
  if kind = .cancel ∧ ctx.cancelsExecution then
    discard <| Reconcile.cancelFor ctx current
  let patch := operationPatch ctx kind outcome current deployment principal
  let updated ← changeInstance ctx seen.id (guarded ctx seen patch)
  notify ctx deployment updated (.ofOperation kind)
  return updated

/-! ### Forms -/

/-- What a form changes in the record; attaching leaves the data alone. -/
def formPatch (ctx : Context) (v : Validation) (action : SubmissionAction) : Patch where
  addAttachments := v.attachments.map Attachment.id
  submission := some v.submission.id
  data := if action = .attach then none else some v.data
  expectedVersion := if ctx.concurrency = .versionChecked then v.version else none

/-- Takes in a form for an existing instance. -/
def accept (ctx : Context) (v : Validation) (action : SubmissionAction) : Action Instance := do
  let id ← require (.invalidInput .noInstance) v.instanceId
  discard <| getProcess ctx v.process.key
  let deployment ← getDeployment ctx v.deployment.id
  discard <| getInstance ctx id
  saveAttachments ctx v.attachments
  saveSubmission ctx v.submission
  let updated ← changeInstance ctx id (formPatch ctx v action)
  notify ctx (some deployment) updated .instanceUpdated
  return updated

/-! ### Archiving, attachments and tasks -/

/-- What archiving changes in the record: its open tasks are no longer active. -/
def archivePatch (now : Instant) (current : Instance) (deployment : Deployment)
    (data : FieldData) : Patch where
  status := some .complete
  finish := some (current.finish.getD now)
  applicationStatus := deployment.completionStatus
  data := some data
  tasks := current.tasks.active.map Task.deactivated

/-- Completes an instance. -/
def archive (ctx : Context) (seen : Instance) (data : FieldData) : Action Instance := do
  let current ← getInstance ctx seen.id
  let deployment ← getDeployment ctx current.deploymentId
  let patch := archivePatch ctx.now current deployment data
  let archived ← changeInstance ctx seen.id (guarded ctx seen patch)
  notify ctx (some deployment) archived .instanceArchived
  return archived

/-- Takes an attachment off an instance; its content stays stored. -/
def detach (ctx : Context) (seen : Instance) (attachment : AttachmentId) : Action Instance := do
  let current ← getInstance ctx seen.id
  if !current.attachments.contains attachment then throw (.attachmentNotFound attachment)
  let patch : Patch := { removeAttachments := [attachment] }
  let updated ← changeInstance ctx seen.id (guarded ctx seen patch)
  notify ctx none updated .attachmentRemoved
  return updated

/-- Records a task as it is reported; false if there is none. -/
def recordTask (ctx : Context) (seen : Instance) (task : Option Task) : Action Bool :=
  match task with
  | none => return false
  | some task => do
    discard <| changeInstance ctx seen.id { tasks := [task] }
    return true

/-- Changes the tasks of an instance as an operation on the reported task would. -/
def applyTask (ctx : Context) (id : InstanceId) (kind : OperationKind) (reported : Option Task) :
    Action Instance := do
  let current ← getInstance ctx id
  let tasks := kind.delta current.tasks reported ctx.now
  if tasks.isEmpty then return current
  changeInstance ctx id { tasks }

end Casework.Lifecycle
