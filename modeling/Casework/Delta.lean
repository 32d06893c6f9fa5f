import Casework.Instance

/-!
What an operation does to the tasks of an instance. The engine decides who a task
belongs to: its report of the assignee goes before the record's.
-/

namespace Casework.OperationKind

/-- The task that an operation leaves in place of the reported one. -/
def change? (kind : OperationKind) (known : Option Task) (reported : Task) (now : Instant) :
    Option Task :=
  match kind with
  | .assign | .claim =>
    some { (known.getD reported).assignedTo reported.assignee with active := true }
  | .complete | .reject =>
    let base :=
      match known with
      | some task => task.assignedTo (reported.assignee.or task.assignee)
      | none => reported
    some (base.completedAt now)
  | .update => some reported
  | .cancel | .activation | .suspension => none

/-- The tasks to upsert after an operation on the reported task. -/
def delta (kind : OperationKind) (tasks : TaskSet) (reported : Option Task) (now : Instant) :
    List Task :=
  match reported with
  | none => []
  | some task => (kind.change? (tasks.get? task.id) task now).toList

end Casework.OperationKind
