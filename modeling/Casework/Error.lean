import Casework.Status
import Casework.Ids

/-!
Why a request fails. Every failure is a cause of its own; `message` words it.
-/

namespace Casework

/-- Why a change of an instance conflicts with its record. -/
inductive Conflict where
  /-- The record has another version than the one that the change is meant for. -/
  | staleVersion (expected found : UInt64)
  /-- The record names another execution already. -/
  | otherExecution (current requested : ExecutionId)
  /-- An ended instance would get an open task. -/
  | openTask (status : Status) (task : TaskId)
  /-- There is an instance of this name already. -/
  | taken
  /-- The storage reports a conflict. -/
  | reported (text : String)
  deriving DecidableEq

def Conflict.message : Conflict → String
  | staleVersion expected found => s!"expected version {expected} but found {found}"
  | otherExecution current requested =>
    s!"engine instance id already set to {current}, refusing {requested}"
  | openTask status task =>
    let status := Named.name status
    s!"instance is {status}, refusing open task {task}"
  | taken => "an instance with this id already exists"
  | reported text => text

/-- Why the parts of a request do not make sense together. -/
inductive Misuse where
  /-- The deployment is one of another process. -/
  | foreignDeployment (deployment owner process : String)
  /-- A form is handed in for no instance. -/
  | noInstance
  /-- A page is to have no places. -/
  | emptyPage
  /-- A look-up of executions names nothing to look for. -/
  | noCriteria
  /-- A service rejects what it was given. -/
  | reported (text : String)
  deriving DecidableEq

def Misuse.message : Misuse → String
  | foreignDeployment deployment owner process =>
    s!"deployment {deployment} belongs to process {owner}, not {process}"
  | noInstance => "validation does not reference a process instance"
  | emptyPage => "page size must be positive"
  | noCriteria => "execution criteria must name an execution, business key or process"
  | reported text => text

/-- The kind of result that is too great for a word. -/
inductive Overflow where
  | sum
  | product
  deriving DecidableEq

def Overflow.message : Overflow → String
  | sum => "attempt to add with overflow"
  | product => "attempt to multiply with overflow"

/-- Why a request fails. -/
inductive Error where
  | processNotFound (key : String)
  | deploymentNotFound (id : String)
  | instanceNotFound (id : InstanceId)
  | attachmentNotFound (id : AttachmentId)
  | conflict (id : InstanceId) (cause : Conflict)
  | invalidTransition (source target transition : String)
  | invalidInput (misuse : Misuse)
  | engine (text : String)
  | storage (text : String)
  /-- The program gives the request up, since it has no word for a number. -/
  | overflow (result : Overflow)
  deriving DecidableEq

namespace Error

def message : Error → String
  | processNotFound key => s!"Process not found: {key}"
  | deploymentNotFound id => s!"Deployment not found: {id}"
  | instanceNotFound id => s!"Process instance not found: {id}"
  | attachmentNotFound id => s!"Attachment not found: {id}"
  | conflict id cause => s!"Conflict on process instance {id}: " ++ cause.message
  | invalidTransition source target transition =>
    s!"Invalid reconciliation transition from {source} to {target} via {transition}"
  | invalidInput misuse => "Invalid input: " ++ misuse.message
  | engine text => "Engine error: " ++ text
  | storage text => "Storage error: " ++ text
  | overflow result => result.message

/-- Something that the request names does not exist. -/
def isNotFound : Error → Bool
  | processNotFound _ | deploymentNotFound _ | instanceNotFound _ | attachmentNotFound _ => true
  | _ => false

/-- The same request may succeed later. -/
def isRetryable : Error → Bool
  | conflict .. | engine _ | storage _ => true
  | _ => false

/-- The failure is a conflict with the record of an instance. -/
def isConflict : Error → Bool
  | conflict .. => true
  | _ => false

end Error
end Casework
