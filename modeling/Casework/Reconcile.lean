import Casework.State

/-!
Keeping instances and executions in agreement.

An execution is started for an instance at most once: a record claims the start,
and a start that fails for another reason than a conflict is taken back. To verify
an instance is to compare its record with the engine and to note the outcome.
-/

namespace Casework.Reconcile

open Casework.Action

/-- The state of an instance in the records. -/
def stateOf (id : InstanceId) : Action SyncState := return (← get).records.stateOf id

/-- Cancels the execution of an instance; false if none was running. -/
def cancelFor (ctx : Context) (i : Instance) : Action Bool :=
  match i.engineId with
  | some id => cancelExecution ctx id
  | none => return false

/-- What the engine knows about the execution of an instance. -/
def findFor (ctx : Context) (i : Instance) : Action (Option Execution) :=
  findExecution ctx <|
    match i.engineId with
    | some id => .byExecution id
    | none => .byBusinessKey i.id

/-! ### Starting -/

/-- Ends a start whose execution the record did not take. A conflict is there to stay, and so is
    an execution that cannot be cancelled; otherwise the start is taken back. -/
def giveUp (ctx : Context) (id : InstanceId) (execution : ExecutionId) (cause : Error) :
    Action Unit := do
  if cause.isConflict then
    modifyRecords fun records => records.desync ctx.now id (.refused execution cause)
  else
    tryCatch
      (do
        discard <| cancelExecution ctx execution
        modifyRecords fun records => records.release id)
      fun cancelling =>
        modifyRecords fun records =>
          records.desync ctx.now id (.leftRunning execution cause cancelling)

/-- Starts the execution of an instance and notes it in the instance's record. -/
def start (ctx : Context) (d : Deployment) (seen : Instance) : Action Instance := do
  let id := seen.id
  let stored ← getInstance ctx id
  advance ctx id .executionStarted
  let execution ←
    tryCatch (startExecution ctx d id stored.data) fun e => do
      modifyRecords fun records => records.release id
      throw e
  modifyRecords fun records => records.noteExecution id execution
  let updated ←
    tryCatch (changeInstance ctx id { engineId := some execution }) fun e => do
      giveUp ctx id execution e
      throw e
  advance ctx id .engineIdPersisted
  return updated

/-! ### Verifying -/

/-- How an instance and the execution of its record differ, if they do. -/
def divergence? (i : Instance) (execution : ExecutionId) (found : Option Execution) :
    Option Divergence :=
  match found with
  | none => if i.status.isFinal then none else some (.missing execution i.status)
  | some e =>
    if i.status = .cancelled then some (.stillRunning execution)
    else if e.businessKey ≠ i.id then some (.foreign execution e.businessKey)
    else none

/-- An execution in the record of an instance shows that its start was completed. -/
def adopt (ctx : Context) (id : InstanceId) : Action Unit := do
  if (← stateOf id) = .notStarted then advance ctx id .executionStarted
  if (← stateOf id) = .started then advance ctx id .engineIdPersisted

/-- Compares the execution of an instance with the engine. The record of an ended instance that
    does not differ is dropped. -/
def compareWith (ctx : Context) (i : Instance) (execution : ExecutionId) : Action SyncState := do
  let found ← findExecution ctx (.byExecution execution)
  match divergence? i execution found with
  | some why =>
    modifyRecords fun records => records.desync ctx.now i.id why
    stateOf i.id
  | none =>
    let state ← stateOf i.id
    if i.status.isFinal then modifyRecords fun records => records.drop i.id
    return state

/-- Verifies an instance. A desynced one is not looked at again, and one without an execution
    has nothing to differ from. -/
def verify (ctx : Context) (id : InstanceId) : Action SyncState := do
  let before ← stateOf id
  if before.isFinal then return before
  let i ← getInstance ctx id
  match i.engineId with
  | none => return before
  | some execution =>
    adopt ctx id
    compareWith ctx i execution

/-- Verifies instances from the first to the last. -/
def verifyAll (ctx : Context) : List Instance → Action (List (InstanceId × SyncState))
  | [] => return []
  | i :: rest => do
    let state ← verify ctx i.id
    return (i.id, state) :: (← verifyAll ctx rest)

/-- Verifies every instance that matches. -/
def audit (ctx : Context) (query : Query) : Action (List (InstanceId × SyncState)) := do
  verifyAll ctx (← findAll ctx query)

end Casework.Reconcile
