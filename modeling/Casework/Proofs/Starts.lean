import Casework.Proofs.Requests

/-!
Starting and verifying. A start claims the instance in the records, starts the
execution, and ends in one of five ways (`Started`): blocked, not launched, undone,
left running beside a desynced record, or done. Verifying changes the records alone
(`outcome_verify`), and so does an audit.
-/

namespace Casework

open Casework.Action

namespace State

/-- The name of the execution that is started next. -/
def nextExecution (ctx : Context) (s : State) : ExecutionId := ctx.executionName s.started

/-- The state with an execution started for the instance of this name. -/
def launch (ctx : Context) (s : State) (d : Deployment) (id : InstanceId) (data : FieldData) :
    State :=
  { s with
    engine := s.engine.start (s.nextExecution ctx) d id data
    started := s.started + 1 }

/-- The state with other records. -/
def withRecords (s : State) (records : SyncRecords) : State := { s with records }

end State

namespace Reconcile

/-! ### Starting -/

@[simp] theorem outcome_stateOf (id : InstanceId) (s : State) :
    outcome (stateOf id) s = (.ok (s.records.stateOf id), s) := rfl

/-- The state after a start has been given up. -/
def givenUp (ctx : Context) (id : InstanceId) (x : ExecutionId) (cause : Error) (s : State) :
    State :=
  if cause.isConflict then s.withRecords (s.records.desync ctx.now id (.refused x cause))
  else
    match ctx.outage .cancelExecution with
    | none => { s with engine := s.engine.erase x, records := s.records.release id }
    | some e => s.withRecords (s.records.desync ctx.now id (.leftRunning x cause e))

theorem outcome_giveUp (ctx : Context) (id : InstanceId) (x : ExecutionId) (cause : Error)
    (s : State) : outcome (giveUp ctx id x cause) s = (.ok (), givenUp ctx id x cause s) := by
  unfold giveUp givenUp
  split
  · rfl
  · rw [outcome_tryCatch, outcome_bind, outcome_discard, outcome_cancelExecution]
    cases ctx.outage .cancelExecution <;> rfl

/-- The patch that notes an execution in the record of its instance. -/
abbrev naming (x : ExecutionId) : Patch := { engineId := some x }

/-- Why the record of an instance does not take the name of an execution. -/
def Untaken (ctx : Context) (x : ExecutionId) (stored : Instance) (e : Error) : Prop :=
  match ctx.outage .updateInstance with
  | some out => e = out
  | none => (naming x).apply ctx.now stored = .error e

/-- A record that does not take a name refuses it with a conflict, unless the storage is out. -/
theorem outage_of_untaken {ctx : Context} {x : ExecutionId} {stored : Instance} {e : Error}
    (untaken : Untaken ctx x stored e) (passing : e.isConflict = false) :
    ctx.outage .updateInstance = some e := by
  unfold Untaken at untaken
  cases out : ctx.outage .updateInstance with
  | some cause =>
    simp only [out] at untaken
    rw [untaken]
  | none =>
    simp only [out] at untaken
    obtain ⟨cause, -, rfl⟩ := Patch.conflict_of_apply untaken
    cases passing

/-- The start of an instance goes as far as to start the execution. -/
structure Launches (ctx : Context) (seen : Instance) (s : State) (stored : Instance) : Prop where
  reachable : ctx.outage .findInstance = none
  found : s.storage.instances.get? seen.id = some stored
  idle : s.records.stateOf seen.id = .notStarted
  launched : ctx.outage .startExecution = none

/-- How a start ends. -/
inductive Started (ctx : Context) (d : Deployment) (seen : Instance) (s : State) :
    Except Error Instance × State → Prop
  /-- The instance is not there, or its start is claimed already. -/
  | blocked (e : Error)
      (why : ctx.outage .findInstance ≠ none ∨ s.storage.instances.get? seen.id = none ∨
        s.records.stateOf seen.id ≠ .notStarted) :
      Started ctx d seen s (.error e, s)
  /-- The engine has not started anything. -/
  | unlaunched {e : Error} (idle : s.records.stateOf seen.id = .notStarted)
      (out : ctx.outage .startExecution = some e) :
      Started ctx d seen s (.error e, s.withRecords (s.records.erase seen.id))
  /-- The execution was cancelled again. -/
  | undone {stored : Instance} {e : Error}
      (launches : Launches ctx seen s stored)
      (untaken : Untaken ctx (s.nextExecution ctx) stored e)
      (passing : e.isConflict = false) (cancelled : ctx.outage .cancelExecution = none) :
      Started ctx d seen s
        (.error e,
          { s.launch ctx d seen.id stored.data with
            engine := (s.launch ctx d seen.id stored.data).engine.erase (s.nextExecution ctx)
            records := s.records.erase seen.id })
  /-- The execution runs, and the record of the instance does not name it. -/
  | left {stored : Instance} {e : Error} {why : Divergence}
      (launches : Launches ctx seen s stored)
      (untaken : Untaken ctx (s.nextExecution ctx) stored e)
      (lasting : e.isConflict = true ∨ ctx.outage .cancelExecution ≠ none) :
      Started ctx d seen s
        (.error e,
          (s.launch ctx d seen.id stored.data).withRecords (s.records.insert seen.id
            { state := .desynced
              executionId := some (s.nextExecution ctx)
              reason := some why.message
              updated := ctx.now }))
  | done {stored updated : Instance} {changed : Bool}
      (launches : Launches ctx seen s stored)
      (applied : (naming (s.nextExecution ctx)).apply ctx.now stored = .ok (changed, updated))
      (written : ctx.outage .updateInstance = none) :
      Started ctx d seen s
        (.ok updated,
          ((s.launch ctx d seen.id stored.data).keep seen.id changed updated).withRecords
            (s.records.insert seen.id
              { s.records.recordOf ctx.now seen.id with
                state := .synced
                executionId := some (s.nextExecution ctx)
                updated := ctx.now }))

variable {ctx : Context} {d : Deployment} {seen : Instance} {s launched : State}
  {stored : Instance}

/-- The state of a start whose execution runs and is noted in the records. -/
def Launched (ctx : Context) (d : Deployment) (seen : Instance) (s : State) (stored : Instance)
    (launched : State) : Prop :=
  launched = (s.launch ctx d seen.id stored.data).withRecords
    (s.records.insert seen.id
      { s.records.recordOf ctx.now seen.id with
        state := .started
        executionId := some (s.nextExecution ctx)
        updated := ctx.now })

/-- The end of a start whose execution the record did not take. -/
theorem started_of_untaken (running : Launched ctx d seen s stored launched)
    (launches : Launches ctx seen s stored) {e : Error}
    (untaken : Untaken ctx (s.nextExecution ctx) stored e) :
    Started ctx d seen s (.error e, givenUp ctx seen.id (s.nextExecution ctx) e launched) := by
  have left (why : Divergence) :
      launched.withRecords (launched.records.desync ctx.now seen.id why) =
        (s.launch ctx d seen.id stored.data).withRecords (s.records.insert seen.id
          { state := .desynced
            executionId := some (s.nextExecution ctx)
            reason := some why.message
            updated := ctx.now }) := by
    rw [running]
    simp [State.withRecords, SyncRecords.desync, SyncState.isFinal, SortedMap.insert_insert_self]
  unfold givenUp
  by_cases lasting : e.isConflict = true
  · rw [if_pos lasting, left]
    exact .left launches untaken (.inl lasting)
  · rw [if_neg lasting]
    cases out : ctx.outage .cancelExecution with
    | some cancelling =>
      simp only [left]
      exact .left launches untaken (.inr (by simp [out]))
    | none =>
      have released : launched.records.release seen.id = s.records.erase seen.id := by
        rw [running]
        exact SyncRecords.release_insert_started s.records rfl
      simp only [released]
      rw [running]
      exact .undone launches untaken (by simpa using lasting) out

/-- The end of a start, once the execution runs and is noted in the records. -/
theorem started_of_launched (running : Launched ctx d seen s stored launched)
    (launches : Launches ctx seen s stored) :
    Started ctx d seen s (outcome (do
      let updated ←
        tryCatch (changeInstance ctx seen.id (naming (s.nextExecution ctx))) fun e => do
          giveUp ctx seen.id (s.nextExecution ctx) e
          throw e
      advance ctx seen.id .engineIdPersisted
      return updated) launched) := by
  have storage : launched.storage = s.storage := by rw [running]; rfl
  rw [outcome_bind, outcome_tryCatch, outcome_changeInstance ctx seen.id rfl, storage,
    launches.found]
  cases out : ctx.outage .updateInstance with
  | some e =>
    simp only [outcome_bind, outcome_giveUp, outcome_throw]
    exact started_of_untaken running launches (by simp [Untaken, out])
  | none =>
    cases applied : (naming (s.nextExecution ctx)).apply ctx.now stored with
    | error e =>
      simp only [applied, outcome_bind, outcome_giveUp, outcome_throw]
      exact started_of_untaken running launches (by simpa [Untaken, out] using applied)
    | ok result =>
      obtain ⟨changed, updated⟩ := result
      have state : (launched.keep seen.id changed updated).records.stateOf seen.id = .started := by
        rw [running]
        exact (SyncRecords.stateOf_insert _ _ _ _).trans (if_pos rfl)
      simp only [applied]
      rw [outcome_bind, outcome_advance,
        SyncRecords.advance_of_allows (e := .engineIdPersisted) (by rw [state]; rfl)]
      have ended := Started.done (d := d) launches applied out
      rw [running]
      simp only [State.withRecords, State.keep, SyncRecords.recordOf_insert_self,
        SortedMap.insert_insert_self, outcome_pure]
      exact ended

theorem start_started (ctx : Context) (d : Deployment) (seen : Instance) (s : State) :
    Started ctx d seen s (outcome (start ctx d seen) s) := by
  unfold start
  simp only
  rw [outcome_bind, outcome_getInstance]
  cases reachable : ctx.outage .findInstance with
  | some e => exact .blocked e (.inl (by simp [reachable]))
  | none =>
    cases found : s.storage.instances.get? seen.id with
    | none => exact .blocked _ (.inr (.inl found))
    | some stored =>
      simp only
      rw [outcome_bind, outcome_advance]
      by_cases idle : s.records.stateOf seen.id = .notStarted
      · rw [SyncRecords.advance_of_allows (e := .executionStarted) (by rw [idle]; rfl)]
        simp only
        rw [outcome_bind, outcome_tryCatch, outcome_startExecution]
        cases out : ctx.outage .startExecution with
        | some e =>
          simp only [outcome_bind, outcome_modifyRecords, outcome_throw]
          rw [SyncRecords.release_insert_started _ rfl]
          exact .unlaunched idle out
        | none =>
          simp only
          rw [outcome_bind, outcome_modifyRecords]
          refine started_of_launched ?_ ⟨reachable, found, idle, out⟩
          simp [Launched, State.withRecords, State.launch, State.nextExecution,
            SyncRecords.noteExecution, SyncEvent.target, SortedMap.insert_insert_self]
      · rw [SyncRecords.advance_of_claimed idle]
        exact .blocked _ (.inr (.inr idle))

/-! ### Verifying -/

/-- The records after a start has been seen to be completed. -/
def adopted (ctx : Context) (records : SyncRecords) (id : InstanceId) : SyncRecords :=
  match records.stateOf id with
  | .notStarted | .started =>
    records.insert id { records.recordOf ctx.now id with state := .synced, updated := ctx.now }
  | .synced | .desynced => records

/-- The answer to a comparison with the engine, and the records that it leaves. -/
def compared (ctx : Context) (engine : Engine) (records : SyncRecords) (i : Instance)
    (x : ExecutionId) : Except Error SyncState × SyncRecords :=
  match ctx.outage .findExecution with
  | some e => (.error e, records)
  | none =>
    match divergence? i x ((engine.get? x).filter (Criteria.byExecution x).accepts) with
    | some why =>
      (.ok ((records.desync ctx.now i.id why).stateOf i.id), records.desync ctx.now i.id why)
    | none =>
      (.ok (records.stateOf i.id), if i.status.isFinal then records.drop i.id else records)

theorem outcome_adopt (ctx : Context) (id : InstanceId) (s : State) :
    outcome (adopt ctx id) s = (.ok (), s.withRecords (adopted ctx s.records id)) := by
  have persisted (records : SyncRecords) (started : records.stateOf id = .started) :
      records.advance ctx.now id .engineIdPersisted =
        .ok (records.insert id
          { records.recordOf ctx.now id with state := .synced, updated := ctx.now }) :=
    SyncRecords.advance_of_allows (e := .engineIdPersisted) (by rw [started]; rfl) ctx.now
  unfold adopt adopted State.withRecords
  rw [outcome_bind, outcome_stateOf]
  cases state : s.records.stateOf id with
  | notStarted =>
    simp only [if_true]
    rw [outcome_bind, outcome_advance,
      SyncRecords.advance_of_allows (e := .executionStarted) (by rw [state]; rfl)]
    simp only
    rw [outcome_bind, outcome_stateOf]
    have started : SyncRecords.stateOf (s.records.insert id
        { s.records.recordOf ctx.now id with
          state := SyncEvent.executionStarted.target, updated := ctx.now }) id = .started :=
      (SyncRecords.stateOf_insert _ _ _ _).trans (if_pos rfl)
    simp only [started, if_true]
    rw [outcome_advance, persisted _ started, SortedMap.insert_insert_self,
      SyncRecords.recordOf_insert_self]
  | started =>
    simp only [reduceCtorEq, if_false]
    rw [outcome_bind, outcome_stateOf]
    simp only [state, if_true]
    rw [outcome_advance, persisted _ state]
  | synced | desynced => simp [state]

theorem outcome_compareWith (ctx : Context) (i : Instance) (x : ExecutionId) (s : State) :
    outcome (compareWith ctx i x) s =
      ((compared ctx s.engine s.records i x).1,
        s.withRecords (compared ctx s.engine s.records i x).2) := by
  unfold compareWith compared State.withRecords
  rw [outcome_bind, outcome_findExecution]
  cases ctx.outage .findExecution with
  | some e => rfl
  | none =>
    have found : s.engine.find (.byExecution x) =
        .ok ((s.engine.get? x).filter (Criteria.byExecution x).accepts) := rfl
    rw [found]
    simp only
    cases divergence? i x ((s.engine.get? x).filter (Criteria.byExecution x).accepts) with
    | some why => rfl
    | none => cases ended : i.status.isFinal <;> simp

/-- Verifying changes the records alone. -/
theorem outcome_verify (ctx : Context) (id : InstanceId) (s : State) :
    outcome (verify ctx id) s =
      if (s.records.stateOf id).isFinal then (.ok (s.records.stateOf id), s)
      else
        match ctx.outage .findInstance, s.storage.instances.get? id with
        | some e, _ => (.error e, s)
        | none, none => (.error (.instanceNotFound id), s)
        | none, some i =>
          match i.engineId with
          | none => (.ok (s.records.stateOf id), s)
          | some x =>
            ((compared ctx s.engine (adopted ctx s.records id) i x).1,
              s.withRecords (compared ctx s.engine (adopted ctx s.records id) i x).2) := by
  unfold verify
  rw [outcome_bind, outcome_stateOf]
  simp only
  split
  · rfl
  · rw [outcome_bind, outcome_getInstance]
    cases ctx.outage .findInstance with
    | some e => rfl
    | none =>
      cases s.storage.instances.get? id with
      | none => rfl
      | some i =>
        cases named : i.engineId with
        | none => simp only [named]; rfl
        | some x =>
          simp only [named]
          rw [outcome_bind, outcome_adopt]
          exact outcome_compareWith ctx i x _

theorem stateOf_adopted {ctx : Context} {records : SyncRecords} {id : InstanceId}
    (other : InstanceId) (desynced : records.stateOf id = .desynced) :
    (adopted ctx records other).stateOf id = .desynced := by
  unfold adopted
  split
  · rename_i passing
    rw [SyncRecords.stateOf_insert, if_neg, desynced]
    rintro rfl
    simp [desynced] at passing
  · rename_i passing
    rw [SyncRecords.stateOf_insert, if_neg, desynced]
    rintro rfl
    simp [desynced] at passing
  · exact desynced
  · exact desynced

theorem stateOf_compared {ctx : Context} {engine : Engine} {records : SyncRecords}
    {i : Instance} {x : ExecutionId} {id : InstanceId}
    (desynced : records.stateOf id = .desynced) :
    (compared ctx engine records i x).2.stateOf id = .desynced := by
  unfold compared
  split
  · exact desynced
  · split
    · exact SyncRecords.stateOf_desync ctx.now i.id _ desynced
    · simp only
      split
      · exact SyncRecords.stateOf_drop i.id desynced
      · exact desynced

theorem storage_verify (ctx : Context) (id : InstanceId) (s : State) :
    (outcome (verify ctx id) s).2.storage = s.storage := by
  rw [outcome_verify]
  split
  · rfl
  · split
    · rfl
    · rfl
    · split <;> rfl

/-- What verifying one instance keeps, an audit keeps. -/
theorem audit_keeps {Kept : State → Prop} {ctx : Context}
    (step : ∀ id s, Kept s → Kept (outcome (verify ctx id) s).2) (query : Query) {s : State}
    (kept : Kept s) : Kept (outcome (audit ctx query) s).2 := by
  have each (items : List Instance) :
      ∀ s, Kept s → Kept (outcome (verifyAll ctx items) s).2 := by
    induction items with
    | nil => exact fun s kept => kept
    | cons i rest ih =>
      intro s kept
      exact keeps_bind (step i.id s kept) fun state after kept =>
        keeps_bind (ih after kept) fun others last kept => kept
  unfold audit
  rw [outcome_bind, outcome_findAll]
  cases ctx.outage .findPage with
  | some e => exact kept
  | none => exact each _ s kept

end Reconcile
end Casework
