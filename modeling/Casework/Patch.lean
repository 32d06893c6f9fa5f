import Casework.Error
import Casework.Instance

/-!
Partial changes of instances.

A patch says which parts of a record to change and keeps the rest. Single fields
are overwritten, field data are overwritten field by field, tasks are upserted,
attachments are added and then removed, a submission is added, an operation is
logged once, and the engine's execution is set once. A patch that conflicts with
the record is refused as a whole (`refusal?`), and a patch that changes nothing
leaves the version as it is.
-/

namespace Casework

/-- A partial change of an instance. -/
structure Patch where
  status : Option Status := none
  applicationStatus : Option String := none
  explanation : Option String := none
  previousApplicationStatus : Option String := none
  label : Option String := none
  finish : Option Instant := none
  data : Option FieldData := none
  tasks : List Task := []
  addAttachments : List AttachmentId := []
  removeAttachments : List AttachmentId := []
  submission : Option Uuid := none
  operation : Option Operation := none
  engineId : Option ExecutionId := none
  /-- The only version of the record that the change is meant for. -/
  expectedVersion : Option UInt64 := none
  deriving DecidableEq, Inhabited

namespace Patch

/-- The patch names no part of the record. -/
def isEmpty (p : Patch) : Bool :=
  p.status.isNone && p.applicationStatus.isNone && p.explanation.isNone &&
    p.previousApplicationStatus.isNone && p.label.isNone && p.finish.isNone && p.data.isNone &&
    p.tasks.isEmpty && p.addAttachments.isEmpty && p.removeAttachments.isEmpty &&
    p.submission.isNone && p.operation.isNone && p.engineId.isNone

/-- The record has another version than the patch expects. -/
def staleVersion? (p : Patch) (i : Instance) : Option Conflict :=
  p.expectedVersion.bind fun expected =>
    if i.version = expected then none else some (.staleVersion expected i.version)

/-- The record names another execution than the patch. -/
def otherExecution? (p : Patch) (i : Instance) : Option Conflict :=
  match i.engineId, p.engineId with
  | some current, some requested =>
    if current = requested then none else some (.otherExecution current requested)
  | _, _ => none

/-- The status that the patch leaves. -/
def statusAfter (p : Patch) (i : Instance) : Status := p.status.getD i.status

/-- The patch brings an open task to an instance that has ended. -/
def openTask? (p : Patch) (i : Instance) : Option Conflict :=
  if (p.statusAfter i).isFinal then
    (p.tasks.find? Task.isOpen).map fun task => .openTask (p.statusAfter i) task.id
  else none

/-- Why the patch is refused, if it is. -/
def refusal? (p : Patch) (i : Instance) : Option Conflict :=
  (p.staleVersion? i).or ((p.otherExecution? i).or (p.openTask? i))

/-- The record with the parts that the patch names changed; the version stays. -/
def merge (p : Patch) (i : Instance) : Instance :=
  { i with
    status := p.statusAfter i
    applicationStatus := p.applicationStatus.or i.applicationStatus
    explanation := p.explanation.or i.explanation
    previousApplicationStatus := p.previousApplicationStatus.or i.previousApplicationStatus
    label := p.label.getD i.label
    finish := p.finish.or i.finish
    data := (p.data.map i.data.merge).getD i.data
    tasks := i.tasks.upsertMany p.tasks
    attachments := (i.attachments.addMany p.addAttachments).dropMany p.removeAttachments
    submissions := (p.submission.map i.submissions.add).getD i.submissions
    operations := (p.operation.map (OperationLog.append i.operations)).getD i.operations
    engineId := i.engineId.or p.engineId }

/-- The record as changed at this time. -/
def stamp (now : Instant) (i : Instance) : Instance :=
  { i with version := i.version + 1, modified := now }

/-- Whether the patch changes the record, and the record with the patch merged in. A record
    that changes is stamped. -/
def apply (p : Patch) (now : Instant) (i : Instance) : Except Error (Bool × Instance) :=
  match p.refusal? i with
  | some cause => .error (.conflict i.id cause)
  | none =>
    let merged := p.merge i
    if merged.agrees i then .ok (false, merged) else .ok (true, stamp now merged)

/-! ### Accepted patches -/

theorem openTask?_eq_none_iff (p : Patch) (i : Instance) :
    p.openTask? i = none ↔
      ((p.statusAfter i).isFinal = true → ∀ task ∈ p.tasks, task.isOpen = false) := by
  unfold openTask?
  by_cases ended : (p.statusAfter i).isFinal = true
  · simp [ended]
  · simp [ended]

theorem refusal?_eq_none_iff (p : Patch) (i : Instance) :
    p.refusal? i = none ↔
      p.staleVersion? i = none ∧ p.otherExecution? i = none ∧ p.openTask? i = none := by
  simp [refusal?]

/-- A patch that is applied is not refused. -/
theorem refusal?_of_apply {p : Patch} {now : Instant} {i updated : Instance} {changed : Bool}
    (applied : p.apply now i = .ok (changed, updated)) : p.refusal? i = none := by
  unfold apply at applied
  cases refused : p.refusal? i with
  | none => rfl
  | some cause => simp [refused] at applied

/-- A patch that is not applied is refused, for the cause that the failure tells. -/
theorem conflict_of_apply {p : Patch} {now : Instant} {i : Instance} {e : Error}
    (failed : p.apply now i = .error e) :
    ∃ cause, p.refusal? i = some cause ∧ e = .conflict i.id cause := by
  unfold apply at failed
  cases refused : p.refusal? i with
  | none =>
    simp only [refused] at failed
    split at failed <;> cases failed
  | some cause =>
    simp only [refused] at failed
    cases failed
    exact ⟨cause, rfl, rfl⟩

theorem otherExecution?_of_unnamed {p : Patch} (unnamed : p.engineId = none) (i : Instance) :
    p.otherExecution? i = none := by
  unfold otherExecution?
  rw [unnamed]
  cases i.engineId <;> rfl

/-- An instance that goes on takes open tasks. -/
theorem openTask?_of_going {p : Patch} {i : Instance} (going : (p.statusAfter i).isFinal = false) :
    p.openTask? i = none := by
  simp [openTask?, going]

/-- A patch that names no execution and brings no task is refused for its version only. -/
theorem refusal?_of_plain {p : Patch} (unnamed : p.engineId = none) (untasked : p.tasks = [])
    (i : Instance) : p.refusal? i = p.staleVersion? i := by
  have other : p.otherExecution? i = none := otherExecution?_of_unnamed unnamed i
  have closed : p.openTask? i = none := (p.openTask?_eq_none_iff i).2 (by simp [untasked])
  simp [refusal?, other, closed]

/-- The record after a patch, by whether it has changed. -/
theorem eq_of_apply {p : Patch} {now : Instant} {i updated : Instance} {changed : Bool}
    (applied : p.apply now i = .ok (changed, updated)) :
    updated = if changed then stamp now (p.merge i) else p.merge i := by
  unfold apply at applied
  rw [refusal?_of_apply applied] at applied
  simp only at applied
  split at applied <;> cases applied <;> rfl

theorem id_of_apply {p : Patch} {now : Instant} {i updated : Instance} {changed : Bool}
    (applied : p.apply now i = .ok (changed, updated)) : updated.id = i.id := by
  rw [eq_of_apply applied]
  cases changed <;> rfl

/-- A patch that changes nothing leaves a record that agrees with the old one. -/
theorem agrees_of_apply {p : Patch} {now : Instant} {i updated : Instance}
    (applied : p.apply now i = .ok (false, updated)) : updated.agrees i = true := by
  have accepted := refusal?_of_apply applied
  unfold apply at applied
  rw [accepted] at applied
  simp only at applied
  split at applied
  · rename_i agrees
    cases applied
    exact agrees
  · cases applied

end Patch
end Casework
