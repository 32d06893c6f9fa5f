import Casework.Lifecycle

/-!
Requests and their answers. `Request.perform` carries out one request, and `run`
carries out requests one after another, each with what it is given from outside; a
request that fails does not stop those behind it.
-/

namespace Casework

/-- What the system can be asked for. -/
inductive Request where
  -- Life of instances
  | create (process : ProcessDefinition) (deployment : Deployment) (data : FieldData)
      (attachments : List Attachment) (submission : Option Submission) (initiator : Entity)
  | operate (kind : OperationKind) (outcome : Outcome) (seen : Instance) (principal : Entity)
  | accept (validation : Validation) (action : SubmissionAction)
  | archive (seen : Instance) (data : FieldData)
  | detach (seen : Instance) (attachment : AttachmentId)
  | recordTask (seen : Instance) (task : Option Task)
  | applyTask (id : InstanceId) (kind : OperationKind) (reported : Option Task)
  -- Storage
  | saveInstance (i : Instance)
  | getInstance (id : InstanceId)
  | changeInstance (id : InstanceId) (patch : Patch)
  | updateInstance (id : InstanceId) (patch : Patch)
  | findPage (query : Query) (request : PageRequest)
  | findAll (query : Query)
  | countInstances
  | saveProcess (process : ProcessDefinition)
  | saveDeployment (deployment : Deployment)
  | saveAttachment (attachment : Attachment)
  | saveSubmission (submission : Submission)
  | findProcess (key : String)
  | findDeployment (id : String)
  | findAttachment (id : AttachmentId)
  | findSubmission (id : Uuid)
  -- Agreement with the engine
  | start (deployment : Deployment) (seen : Instance)
  | findFor (seen : Instance)
  | cancelFor (seen : Instance)
  | verify (id : InstanceId)
  | audit (query : Query)
  | stateOf (id : InstanceId)
  | recordOf (id : InstanceId)
  | countRecords
  | desynced
  /-- Forgets the records, as a restart does. -/
  | forget
  -- Engine
  | startExecution (deployment : Deployment) (businessKey : String) (data : FieldData)
  | findExecution (criteria : Criteria)
  | cancelExecution (id : ExecutionId)
  | countExecutions

/-- What a request is answered with. -/
inductive Answer where
  | nothing
  | flag (b : Bool)
  | count (n : Nat)
  | changed (i : Instance)
  | found (i : Option Instance)
  | instances (items : List Instance)
  | page (p : Page Instance)
  | process? (p : Option ProcessDefinition)
  | deployment? (d : Option Deployment)
  | attachment? (a : Option Attachment)
  | submission? (s : Option Submission)
  | executionId (id : ExecutionId)
  | execution? (e : Option Execution)
  | state (s : SyncState)
  | states (items : List (InstanceId × SyncState))
  | record? (r : Option SyncRecord)
  | records (items : List (InstanceId × SyncRecord))

namespace Request

/-- Carries out a request. -/
def perform (ctx : Context) : Request → Action Answer
  | create p d data attachments submission initiator =>
    .changed <$> Lifecycle.create ctx p d data attachments submission initiator
  | operate kind outcome seen principal =>
    .changed <$> Lifecycle.operate ctx kind outcome seen principal
  | accept validation action => .changed <$> Lifecycle.accept ctx validation action
  | archive seen data => .changed <$> Lifecycle.archive ctx seen data
  | detach seen attachment => .changed <$> Lifecycle.detach ctx seen attachment
  | recordTask seen task => .flag <$> Lifecycle.recordTask ctx seen task
  | applyTask id kind reported => .changed <$> Lifecycle.applyTask ctx id kind reported
  | saveInstance i => .changed <$> Action.saveInstance ctx i
  | getInstance id => .changed <$> Action.getInstance ctx id
  | changeInstance id patch => .changed <$> Action.changeInstance ctx id patch
  | updateInstance id patch => .found <$> Action.updateInstance ctx id patch
  | findPage query request => .page <$> Action.findPage ctx query request
  | findAll query => .instances <$> Action.findAll ctx query
  | countInstances => return .count (← get).storage.instances.size
  | saveProcess p => do
    Action.setStorage ((← get).storage.saveProcess p)
    return .process? (some p)
  | saveDeployment d => do
    Action.setStorage ((← get).storage.saveDeployment d)
    return .deployment? (some d)
  | saveAttachment a => do
    Action.saveAttachment ctx a
    return .attachment? (some a)
  | saveSubmission s => do
    Action.saveSubmission ctx s
    return .submission? (some s)
  | findProcess key => .process? <$> Action.findProcess ctx key
  | findDeployment id => .deployment? <$> Action.findDeployment ctx id
  | findAttachment id => return .attachment? ((← get).storage.attachments.get? id)
  | findSubmission id => return .submission? ((← get).storage.submissions.get? id)
  | start d seen => .changed <$> Reconcile.start ctx d seen
  | findFor seen => .execution? <$> Reconcile.findFor ctx seen
  | cancelFor seen => .flag <$> Reconcile.cancelFor ctx seen
  | verify id => .state <$> Reconcile.verify ctx id
  | audit query => .states <$> Reconcile.audit ctx query
  | stateOf id => .state <$> Reconcile.stateOf id
  | recordOf id => return .record? ((← get).records.get? id)
  | countRecords => return .count (← get).records.size
  | desynced => return .records (← get).records.desynced
  | forget => do
    Action.modifyRecords fun _ => ∅
    return .nothing
  | startExecution d businessKey data =>
    .executionId <$> Action.startExecution ctx d businessKey data
  | findExecution criteria => .execution? <$> Action.findExecution ctx criteria
  | cancelExecution id => .flag <$> Action.cancelExecution ctx id
  | countExecutions => return .count (← get).engine.size

/-- The answers to requests that are carried out one after another, and the state they leave. -/
def run : List (Context × Request) → State → List (Except Error Answer) × State
  | [], s => ([], s)
  | (ctx, request) :: rest, s =>
    let (answer, s) := (request.perform ctx).outcome s
    let (answers, s) := run rest s
    (answer :: answers, s)

end Request
end Casework
