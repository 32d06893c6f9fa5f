import Casework.Status
import Casework.Submission

/-!
Process instances: the durable record of one running or ended process.

An instance that is complete is to have an end time and no open task. `fault?`
names what is missing, and `fault?_eq_none_iff` says that nothing is.
-/

namespace Casework

/-- The record of one process. -/
structure Instance where
  id : InstanceId
  processKey : String
  deploymentId : String
  label : String
  status : Status := .running
  /-- The status in the words of the business. -/
  applicationStatus : Option String := none
  explanation : Option String := none
  /-- The application status before the latest suspension. -/
  previousApplicationStatus : Option String := none
  data : FieldData := ∅
  attachments : SortedSet AttachmentId := ∅
  submissions : SortedSet Uuid := ∅
  tasks : TaskSet := ∅
  operations : OperationLog := []
  /-- The execution of the engine, once it is known. -/
  engineId : Option ExecutionId := none
  initiator : Option String := none
  start : Instant
  finish : Option Instant := none
  modified : Instant
  /-- Counts the changes of the record. -/
  version : UInt64 := 0
  deriving DecidableEq, Inhabited

namespace Instance

/-- An instance of a process that begins now. -/
def opening (id : InstanceId) (p : ProcessDefinition) (deploymentId : String) (now : Instant) :
    Instance where
  id := id
  processKey := p.key
  deploymentId := deploymentId
  label := p.label
  start := now
  modified := now

/-- The instance as begun at this time. -/
def startedAt (i : Instance) (time : Instant) : Instance :=
  { i with start := time, modified := time }

/-- The first value of a field. -/
def firstValue? (i : Instance) (field : String) : Option Json :=
  (i.data.get? field).bind List.head?

/-- The records are equal, up to the signs of zeros in their field data. -/
def agrees (a b : Instance) : Bool :=
  decide ({ a with data := ∅ } = { b with data := ∅ }) && a.data.agrees b.data

/-- What a complete instance must not be. -/
inductive Fault where
  | noFinish
  | openTask (id : TaskId)
  deriving DecidableEq

/-- The fault in words. -/
def Fault.message (id : InstanceId) : Fault → String
  | noFinish => s!"instance {id} is COMPLETE without an end time"
  | openTask task => s!"instance {id} is COMPLETE but task {task} is still open"

/-- The first fault of a complete instance. -/
def fault? (i : Instance) : Option Fault :=
  if i.status = .complete then
    if i.finish = none then some .noFinish
    else i.tasks.active.head?.map fun task => .openTask task.id
  else none

theorem fault?_eq_none_iff (i : Instance) :
    i.fault? = none ↔ (i.status = .complete → i.finish ≠ none ∧ i.tasks.active = []) := by
  unfold fault?
  by_cases complete : i.status = .complete
  · by_cases unfinished : i.finish = none
    · simp [complete, unfinished]
    · simp [complete, unfinished]
  · simp [complete]

end Instance
end Casework
