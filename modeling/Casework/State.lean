import Casework.Execution
import Casework.Reconciliation
import Casework.Storage

/-!
The state that requests work on, and what is given to a request from outside: the
clock, fresh names, the way the system is set up, and which services are out.

An action may fail, and what it changed before it failed stays changed. The calls
of services stand here, each with its outage in front.
-/

namespace Casework

/-- What guards changes that are made on the strength of an older record. -/
inductive Concurrency where
  /-- The last write wins. -/
  | lastWriteWins
  /-- A change is refused unless the record still has the version that was seen. -/
  | versionChecked
  deriving DecidableEq, Inhabited

instance : Named Concurrency where
  all := [.lastWriteWins, .versionChecked]
  name
    | .lastWriteWins => "last_write_wins"
    | .versionChecked => "version_checked"

/-- The calls of services that may be out. -/
inductive Call where
  | findInstance
  | saveInstance
  | updateInstance
  | findPage
  | saveAttachment
  /-- Saving the attachment of this name. -/
  | saveAttachmentOf (id : AttachmentId)
  | saveSubmission
  | findProcess
  | findDeployment
  | findExecution
  | startExecution
  | cancelExecution
  deriving DecidableEq

/-- What a request is given from outside. The clock is read once in a request, and a service answers
    all calls of one kind in it alike. -/
structure Context where
  /-- How the program was built. -/
  arithmetic : Arithmetic := .checked
  concurrency : Concurrency := .lastWriteWins
  /-- The number of instances that are fetched at a time. -/
  pageSize : UInt64 := Storage.defaultPageSize
  /-- Cancelling an instance cancels its execution. -/
  cancelsExecution : Bool := false
  /-- How a call fails, if its service is out. -/
  outage : Call → Option Error := fun _ => none
  /-- The answer of the notification service to a notice, after those that it was handed before:
      whether it accepts the notice. -/
  accepts : List Notice → Notice → Bool := fun _ _ => true
  now : Instant
  newInstance : InstanceId
  newOperation : Uuid
  /-- The name of the execution that is started after so many others. -/
  executionName : Nat → ExecutionId

/-- All that requests work on. -/
structure State where
  storage : Storage := {}
  engine : Engine := ∅
  /-- The number of executions that have been started. -/
  started : Nat := 0
  records : SyncRecords := ∅
  /-- The notices that were handed to the notification service, oldest first. -/
  outbox : List Notice := []
  deriving DecidableEq, Inhabited

/-- A piece of work that may change the state and may fail. -/
abbrev Action := ExceptT Error (StateM State)

namespace Action

/-- The outcome of an action in a state, and the state it leaves. -/
def outcome {α : Type} (action : Action α) (s : State) : Except Error α × State := action.run s

/-- Fails if the service is out. -/
def attempt (ctx : Context) (call : Call) : Action Unit :=
  match ctx.outage call with
  | some e => throw e
  | none => pure ()

/-- The result of a check. -/
def ofExcept {α : Type} : Except Error α → Action α
  | .ok a => pure a
  | .error e => throw e

/-- What is asked for, or the failure that it is not there. -/
def require {α : Type} (missing : Error) : Option α → Action α
  | some a => pure a
  | none => throw missing

/-! ### Storage -/

def setStorage (storage : Storage) : Action Unit := modify fun s => { s with storage }

def findInstance (ctx : Context) (id : InstanceId) : Action (Option Instance) := do
  attempt ctx .findInstance
  return (← get).storage.instances.get? id

def saveInstance (ctx : Context) (i : Instance) : Action Instance := do
  attempt ctx .saveInstance
  setStorage (← ofExcept ((← get).storage.save i))
  return i

def updateInstance (ctx : Context) (id : InstanceId) (patch : Patch) :
    Action (Option Instance) := do
  attempt ctx .updateInstance
  let (storage, merged) ← ofExcept ((← get).storage.update ctx.now id patch)
  setStorage storage
  return merged

def findPage (ctx : Context) (query : Query) (request : PageRequest) : Action (Page Instance) := do
  attempt ctx .findPage
  ofExcept ((← get).storage.findPage ctx.arithmetic query request)

def findAll (ctx : Context) (query : Query) : Action (List Instance) := do
  attempt ctx .findPage
  return (← get).storage.scan query ctx.pageSize

/-- The instance of this name, which must exist. -/
def getInstance (ctx : Context) (id : InstanceId) : Action Instance := do
  require (.instanceNotFound id) (← findInstance ctx id)

/-- The instance of this name, which must exist, with a patch merged in. A patch that says
    nothing is not sent to the storage. -/
def changeInstance (ctx : Context) (id : InstanceId) (patch : Patch) : Action Instance := do
  if patch.isEmpty && patch.expectedVersion.isNone then getInstance ctx id
  else require (.instanceNotFound id) (← updateInstance ctx id patch)

def saveAttachment (ctx : Context) (a : Attachment) : Action Unit := do
  attempt ctx .saveAttachment
  attempt ctx (.saveAttachmentOf a.id)
  setStorage ((← get).storage.saveAttachment a)

/-- Saves attachments from the first to the last; a failure ends it. -/
def saveAttachments (ctx : Context) : List Attachment → Action Unit
  | [] => pure ()
  | a :: rest => do
    saveAttachment ctx a
    saveAttachments ctx rest

def saveSubmission (ctx : Context) (submission : Submission) : Action Unit := do
  attempt ctx .saveSubmission
  setStorage ((← get).storage.saveSubmission submission)

def findProcess (ctx : Context) (key : String) : Action (Option ProcessDefinition) := do
  attempt ctx .findProcess
  return (← get).storage.processes.get? key

def findDeployment (ctx : Context) (id : String) : Action (Option Deployment) := do
  attempt ctx .findDeployment
  return (← get).storage.deployments.get? id

/-- The process with this key, which must exist. -/
def getProcess (ctx : Context) (key : String) : Action ProcessDefinition := do
  require (.processNotFound key) (← findProcess ctx key)

/-- The deployment of this name, which must exist. -/
def getDeployment (ctx : Context) (id : String) : Action Deployment := do
  require (.deploymentNotFound id) (← findDeployment ctx id)

/-! ### Engine -/

def findExecution (ctx : Context) (c : Criteria) : Action (Option Execution) := do
  attempt ctx .findExecution
  ofExcept ((← get).engine.find c)

/-- Starts an execution, whose name is given back. -/
def startExecution (ctx : Context) (d : Deployment) (businessKey : String) (data : FieldData) :
    Action ExecutionId := do
  attempt ctx .startExecution
  let id := ctx.executionName (← get).started
  modify fun s =>
    { s with engine := s.engine.start id d businessKey data, started := s.started + 1 }
  return id

/-- Cancels an execution; false if it was not running. -/
def cancelExecution (ctx : Context) (id : ExecutionId) : Action Bool := do
  attempt ctx .cancelExecution
  let running := (← get).engine.contains id
  modify fun s => { s with engine := s.engine.erase id }
  return running

/-! ### Records and notices -/

def modifyRecords (f : SyncRecords → SyncRecords) : Action Unit :=
  modify fun s => { s with records := f s.records }

/-- The records after an event of an instance. -/
def advance (ctx : Context) (id : InstanceId) (e : SyncEvent) : Action Unit := do
  let records ← ofExcept ((← get).records.advance ctx.now id e)
  modifyRecords fun _ => records

/-- Hands a notice to the notification service; false if the service does not accept it. -/
def sendNotice (ctx : Context) (notice : Notice) : Action Bool := do
  let sent := (← get).outbox
  modify fun s => { s with outbox := sent ++ [notice] }
  return ctx.accepts sent notice

/-- Sends notices from the first to the last, whether they are accepted or not. -/
def sendNotices (ctx : Context) : List Notice → Action Unit
  | [] => pure ()
  | notice :: rest => do
    discard <| sendNotice ctx notice
    sendNotices ctx rest

end Action
end Casework
