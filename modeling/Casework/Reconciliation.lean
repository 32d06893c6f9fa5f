import Casework.Error
import Casework.Instant
import Casework.SortedMap

/-!
How far the record of an instance and the engine's execution agree.

An instance is not started, started, synced once the record names its execution,
or desynced when the two sides differ. Being desynced is final. One record per
instance holds the state; an instance without a record is not started.
-/

namespace Casework

/-- How far an instance and its execution agree. -/
inductive SyncState where
  | notStarted
  | started
  | synced
  | desynced
  deriving DecidableEq, Inhabited

/-- What happens between the engine and the storage. -/
inductive SyncEvent where
  | executionStarted
  | engineIdPersisted
  | diverged
  deriving DecidableEq, Inhabited

instance : Named SyncState where
  all := [.notStarted, .started, .synced, .desynced]
  name
    | .notStarted => "NOT_STARTED"
    | .started => "STARTED"
    | .synced => "SYNCED"
    | .desynced => "DESYNCED"

instance : Named SyncEvent where
  all := [.executionStarted, .engineIdPersisted, .diverged]
  name
    | .executionStarted => "execution_started"
    | .engineIdPersisted => "engine_id_persisted"
    | .diverged => "diverged"

namespace SyncEvent

/-- The state that an event leads to, where it is allowed. -/
def target : SyncEvent → SyncState
  | executionStarted => .started
  | engineIdPersisted => .synced
  | diverged => .desynced

/-- The event as it is called in messages. -/
def title : SyncEvent → String
  | executionStarted => "ExecutionStarted"
  | engineIdPersisted => "EngineIdPersisted"
  | diverged => "Diverged"

end SyncEvent

namespace SyncState

/-- No event leads on from this state. -/
def isFinal : SyncState → Bool
  | desynced => true
  | notStarted | started | synced => false

/-- The event may happen in this state. -/
def allows : SyncState → SyncEvent → Bool
  | notStarted, .executionStarted => true
  | started, .engineIdPersisted => true
  | started, .diverged | synced, .diverged => true
  | _, _ => false

/-- The state after an event. -/
def next (s : SyncState) (e : SyncEvent) : Except Error SyncState :=
  if s.allows e then .ok e.target
  else .error (.invalidTransition (Named.name s) (Named.name e.target) e.title)

end SyncState

/-- Why an instance is desynced. -/
inductive Divergence where
  /-- The record of the instance did not take the execution. -/
  | refused (id : ExecutionId) (cause : Error)
  /-- The record did not take the execution, and the engine did not cancel it. -/
  | leftRunning (id : ExecutionId) (cause cancelling : Error)
  /-- The engine has no such execution for an instance that has not ended. -/
  | missing (id : ExecutionId) (status : Status)
  /-- The execution of a cancelled instance is still running. -/
  | stillRunning (id : ExecutionId)
  /-- The execution was started for another instance. -/
  | foreign (id : ExecutionId) (businessKey : String)
  deriving DecidableEq

def Divergence.message : Divergence → String
  | refused id cause => s!"engine id {id} not persisted: " ++ cause.message
  | leftRunning id cause cancelling =>
    s!"engine id {id} not persisted (" ++ cause.message ++ ") and cancel failed: " ++
      cancelling.message
  | missing id status =>
    let status := Named.name status
    s!"engine has no execution {id} for a {status} instance"
  | stillRunning id => s!"execution {id} still running for a cancelled instance"
  | foreign id businessKey => s!"execution {id} belongs to business key {businessKey}"

/-- What is kept about one instance. -/
structure SyncRecord where
  state : SyncState
  /-- The execution that was started for the instance. -/
  executionId : Option ExecutionId := none
  /-- Why the instance is desynced. -/
  reason : Option String := none
  updated : Instant
  deriving DecidableEq, Inhabited

/-- The records by instance. -/
abbrev SyncRecords := SortedMap InstanceId SyncRecord

namespace SyncRecords

/-- The state of an instance. -/
def stateOf (records : SyncRecords) (id : InstanceId) : SyncState :=
  ((records.get? id).map SyncRecord.state).getD .notStarted

/-- The records after an event of an instance. An instance without a record is only ever brought
    the start of its execution, which is not refused; so a refused event leaves no record behind. -/
def advance (records : SyncRecords) (now : Instant) (id : InstanceId) (e : SyncEvent) :
    Except Error SyncRecords := do
  let record := (records.get? id).getD { state := .notStarted, updated := now }
  let state ← record.state.next e
  return records.insert id { record with state, updated := now }

/-- The records with the execution of an instance noted, if it has a record. -/
def noteExecution (records : SyncRecords) (id : InstanceId) (execution : ExecutionId) :
    SyncRecords :=
  match records.get? id with
  | some record => records.insert id { record with executionId := some execution }
  | none => records

/-- The records with the start of an instance undone. -/
def release (records : SyncRecords) (id : InstanceId) : SyncRecords :=
  if records.stateOf id = .started then records.erase id else records

/-- The records without that of an instance, unless it is desynced. -/
def drop (records : SyncRecords) (id : InstanceId) : SyncRecords :=
  if (records.stateOf id).isFinal then records else records.erase id

/-- The records with an instance desynced; the first reason stays. -/
def desync (records : SyncRecords) (now : Instant) (id : InstanceId) (why : Divergence) :
    SyncRecords :=
  let record := (records.get? id).getD { state := .started, updated := now }
  if record.state.isFinal then records
  else
    records.insert id
      { record with state := .desynced, reason := some why.message, updated := now }

/-- The record of an instance, which is not started when it has none. -/
def recordOf (records : SyncRecords) (now : Instant) (id : InstanceId) : SyncRecord :=
  (records.get? id).getD { state := .notStarted, updated := now }

theorem state_recordOf (records : SyncRecords) (now : Instant) (id : InstanceId) :
    (records.recordOf now id).state = records.stateOf id := by
  unfold recordOf stateOf
  cases records.get? id <;> rfl

@[simp] theorem recordOf_insert_self (records : SyncRecords) (now : Instant) (id : InstanceId)
    (record : SyncRecord) : recordOf (records.insert id record) now id = record := by
  simp [recordOf]

theorem stateOf_insert (records : SyncRecords) (id other : InstanceId) (record : SyncRecord) :
    stateOf (records.insert id record) other =
      if other = id then record.state else records.stateOf other := by
  unfold stateOf
  rw [SortedMap.get?_insert]
  split <;> rfl

theorem stateOf_erase (records : SyncRecords) (id other : InstanceId) :
    stateOf (records.erase id) other =
      if other = id then .notStarted else records.stateOf other := by
  unfold stateOf
  rw [SortedMap.get?_erase]
  split <;> rfl

theorem advance_of_allows {records : SyncRecords} {id : InstanceId} {e : SyncEvent}
    (allowed : (records.stateOf id).allows e = true) (now : Instant) :
    records.advance now id e =
      .ok (records.insert id
        { records.recordOf now id with state := e.target, updated := now }) := by
  rw [← state_recordOf records now] at allowed
  unfold advance
  simp only [SyncState.next]
  unfold recordOf at allowed ⊢
  rw [if_pos allowed]
  rfl

theorem advance_of_not_allows {records : SyncRecords} {id : InstanceId} {e : SyncEvent}
    (barred : (records.stateOf id).allows e = false) (now : Instant) :
    records.advance now id e =
      .error (.invalidTransition (Named.name (records.stateOf id)) (Named.name e.target)
        e.title) := by
  rw [← state_recordOf records now] at barred ⊢
  unfold advance
  simp only [SyncState.next]
  unfold recordOf at barred ⊢
  rw [if_neg (by rw [barred]; decide)]
  rfl

/-- Only an instance that is not started can be started. -/
theorem advance_of_claimed {records : SyncRecords} {id : InstanceId}
    (claimed : records.stateOf id ≠ .notStarted) (now : Instant) :
    records.advance now id .executionStarted =
      .error (.invalidTransition (Named.name (records.stateOf id)) "STARTED"
        "ExecutionStarted") := by
  refine advance_of_not_allows ?_ now
  cases state : records.stateOf id with
  | notStarted => exact absurd state claimed
  | _ => rfl

theorem release_insert_started (records : SyncRecords) {id : InstanceId} {record : SyncRecord}
    (started : record.state = .started) :
    release (records.insert id record) id = records.erase id := by
  unfold release
  rw [stateOf_insert, if_pos rfl, if_pos started]
  exact SortedMap.erase_insert_self records id record

theorem stateOf_desync {records : SyncRecords} {id : InstanceId} (now : Instant)
    (other : InstanceId) (why : Divergence) (desynced : records.stateOf id = .desynced) :
    (records.desync now other why).stateOf id = .desynced := by
  unfold SyncRecords.desync
  simp only
  split
  · exact desynced
  · rw [SyncRecords.stateOf_insert]
    split
    · rfl
    · exact desynced

theorem stateOf_drop {records : SyncRecords} {id : InstanceId} (other : InstanceId)
    (desynced : records.stateOf id = .desynced) :
    (records.drop other).stateOf id = .desynced := by
  unfold SyncRecords.drop
  split
  · exact desynced
  · rename_i passing
    rw [SyncRecords.stateOf_erase, if_neg, desynced]
    rintro rfl
    rw [desynced] at passing
    exact passing rfl

/-- The desynced instances with their records. -/
def desynced (records : SyncRecords) : List (InstanceId × SyncRecord) :=
  records.entries.filter fun entry => entry.2.state.isFinal

end SyncRecords
end Casework
