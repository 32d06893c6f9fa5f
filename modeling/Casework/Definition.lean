import Casework.Notification

/-!
Processes, their deployments, and the principals that act on instances.

A process is what users start instances of. A deployment ties a process to a
definition of the execution engine and carries the application statuses of the
turning points in an instance's life.
-/

namespace Casework

/-- A process that users start instances of. -/
structure ProcessDefinition where
  key : String
  label : String
  /-- The template of the labels of instances. -/
  template : Option String := none
  /-- The deployment in force. -/
  deploymentId : Option String := none
  deriving DecidableEq, Inhabited

/-- A configuration of a process for the execution engine. -/
structure Deployment where
  id : String
  /-- The process that is deployed. -/
  processKey : String
  /-- The definition of the engine that runs the process. -/
  engineKey : String
  initiationStatus : Option String := none
  completionStatus : Option String := none
  cancellationStatus : Option String := none
  notifications : List Notification := []
  deriving DecidableEq, Inhabited

/-- The kinds of principal. -/
inductive EntityKind where
  | user
  | system
  deriving DecidableEq, Inhabited

instance : Named EntityKind where
  all := [.user, .system]
  name
    | .user => "user"
    | .system => "system"

/-- An acting principal. -/
structure Entity where
  id : String
  displayName : Option String := none
  kind : EntityKind := .user
  deriving DecidableEq, Inhabited

/-- The user of this name. -/
def Entity.user (id : String) : Entity := { id }

end Casework
