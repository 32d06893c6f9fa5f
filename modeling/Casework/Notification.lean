import Casework.Operation

/-!
Events in the life of an instance and the notifications that they trigger.
-/

namespace Casework

/-- What happens to an instance. -/
inductive Event where
  | instanceCreated
  | taskAssigned
  | taskClaimed
  | taskCompleted
  | taskRejected
  | instanceCancelled
  | instanceUpdated
  | instanceActivated
  | instanceSuspended
  | instanceArchived
  | attachmentRemoved
  deriving DecidableEq, Inhabited

namespace Event

instance : Named Event where
  all := [instanceCreated, taskAssigned, taskClaimed, taskCompleted, taskRejected,
    instanceCancelled, instanceUpdated, instanceActivated, instanceSuspended, instanceArchived,
    attachmentRemoved]
  name
    | instanceCreated => "instance_created"
    | taskAssigned => "task_assigned"
    | taskClaimed => "task_claimed"
    | taskCompleted => "task_completed"
    | taskRejected => "task_rejected"
    | instanceCancelled => "instance_cancelled"
    | instanceUpdated => "instance_updated"
    | instanceActivated => "instance_activated"
    | instanceSuspended => "instance_suspended"
    | instanceArchived => "instance_archived"
    | attachmentRemoved => "attachment_removed"

/-- The event of an operation. -/
def ofOperation : OperationKind → Event
  | .assign => taskAssigned
  | .claim => taskClaimed
  | .complete => taskCompleted
  | .reject => taskRejected
  | .cancel => instanceCancelled
  | .update => instanceUpdated
  | .activation => instanceActivated
  | .suspension => instanceSuspended

end Event

/-- What a deployment sends, and when. -/
structure Notification where
  name : String
  trigger : Event
  recipients : List String := []
  subject : String := ""
  body : String := ""
  deriving DecidableEq, Inhabited

/-- A notification on its way, with the facts to fill its texts from. -/
structure Notice where
  notification : Notification
  context : SortedMap String String
  event : Event
  time : Instant
  deriving DecidableEq, Inhabited

end Casework
