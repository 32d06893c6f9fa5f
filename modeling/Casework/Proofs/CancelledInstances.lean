import Casework.Proofs.OneExecution
import Casework.Proofs.Statuses

/-!
Executions of cancelled instances. Where cancelling stops the execution that a record names, a state
is `Quiet` as long as nothing runs for a cancelled instance. There are two ways out of it
(`RunsOn`): a cancelled instance is started, or an instance is cancelled for which another execution
runs than the one that its record names. A run is quiet throughout exactly if neither happens in it
(`quiet_iff`).
-/

namespace Casework

open Casework.Action Casework.Lifecycle Casework.Reconcile

/-- No execution runs for an instance that is cancelled. -/
def State.Quiet (s : State) : Prop :=
  ∀ id i, s.storage.instances.get? id = some i → i.status = .cancelled →
    ∀ x e, s.engine.get? x = some e → e.businessKey ≠ id

namespace Request

open State

variable {ctx : Context} {s : State}

/-- The request leaves an execution running for a cancelled instance. -/
inductive RunsOn (ctx : Context) (s : State) : Request → Prop
  | start {d : Deployment} {seen stored : Instance} (leaves : Leaves ctx seen s stored)
      (cancelled : stored.status = .cancelled) :
      RunsOn ctx s (.start d seen)
  | cancel {result : Outcome} {seen current : Instance} {principal : Entity} {x : ExecutionId}
      {e : Execution} (feasible : Feasible ctx .cancel seen s current)
      (desynced : s.records.stateOf seen.id = .desynced)
      (running : s.engine.get? x = some e) (own : e.businessKey = seen.id)
      (unnamed : current.engineId ≠ some x) :
      RunsOn ctx s (.operate .cancel result seen principal)

/-- What a request that cancels nothing leaves cancelled was cancelled before. -/
theorem cancelled_before {r : Request} (allowed : ¬r.Writes)
    (other : r.status? ≠ some .cancelled) {id : InstanceId} {j : Instance}
    (held : (outcome (r.perform ctx) s).2.storage.instances.get? id = some j)
    (cancelled : j.status = .cancelled) :
    ∃ i, s.storage.instances.get? id = some i ∧ i.status = .cancelled := by
  cases found : s.storage.instances.get? id with
  | none =>
    have running := status_of_opens allowed (opens_of_new found held)
    rw [running] at cancelled
    cases cancelled
  | some i =>
    obtain ⟨k, held', status⟩ := status_of_stored ctx allowed found
    obtain rfl := Option.some.inj (held.symm.trans held')
    rw [cancelled] at status
    exact ⟨i, rfl, (status.resolve_right other).symm⟩

theorem quiet_of_calm {r : Request} (allowed : ¬r.Writes) (other : r.status? ≠ some .cancelled)
    (calm : Calm s (outcome (r.perform ctx) s).2) (quiet : s.Quiet) :
    (outcome (r.perform ctx) s).2.Quiet := by
  intro id j held cancelled x e running
  obtain ⟨i, found, was⟩ := cancelled_before allowed other held cancelled
  exact quiet id i found was x e (calm.engine x e running)

variable {d : Deployment} {seen : Instance}

/-- A start keeps the state quiet exactly if it does not leave an execution running for a cancelled
    instance. -/
theorem quiet_start_iff (quiet : s.Quiet) :
    (outcome ((Request.start d seen).perform ctx) s).2.Quiet ↔ ¬RunsOn ctx s (.start d seen) := by
  constructor
  · intro quiet' runsOn
    cases runsOn with
    | @start _ _ stored leaves cancelled =>
      obtain ⟨j, held, same | given⟩ :=
        status_of_stored ctx (r := .start d seen) id leaves.found
      · refine quiet' seen.id j held (same.trans cancelled) (s.nextExecution ctx)
          ⟨s.nextExecution ctx, seen.id, d.engineKey, stored.data.map Engine.variableOf⟩ ?_ rfl
        rw [engine_of_leaves leaves, get?_launch, if_pos rfl]
      · cases given
  · intro kept id j held cancelled x e running own
    obtain ⟨i, found, was⟩ := cancelled_before (r := .start d seen) (fun writes => writes)
      (by simp [status?]) held cancelled
    rcases leaves_or_calm ctx d seen s with ⟨stored, leaves⟩ | calm
    · rw [engine_of_leaves leaves, get?_launch] at running
      split at running
      · obtain rfl := Option.some.inj running
        obtain rfl : seen.id = id := own
        obtain rfl := Option.some.inj (found.symm.trans leaves.found)
        exact kept (.start leaves was)
      · exact quiet id i found was x e running own
    · exact quiet id i found was x e (calm x e running) own

variable {result : Outcome} {principal : Entity}

/-- Where cancelling stops executions, it keeps the state quiet exactly if it does not leave one
    running that the record does not name. -/
theorem quiet_cancel_iff (attached : ctx.cancelsExecution = true) (accounted : s.Accounted)
    (quiet : s.Quiet) :
    (outcome ((operate .cancel result seen principal).perform ctx) s).2.Quiet ↔
      ¬RunsOn ctx s (.operate .cancel result seen principal) := by
  have engine {s' : State} {current i : Instance}
      (done : Done ctx .cancel result seen s s' current i) (x : ExecutionId) :
      s'.engine.get? x = if current.engineId = some x then none else s.engine.get? x := by
    rw [done.engine, if_pos ⟨rfl, attached⟩, get?_stop]
  constructor
  · intro quiet' runsOn
    cases runsOn with
    | @cancel _ _ current _ x e feasible desynced running own unnamed =>
      obtain ⟨i, done⟩ := done_of_feasible result principal rfl feasible
      refine quiet' seen.id i done.held done.status x e ?_ own
      rw [engine done, if_neg unnamed]
      exact running
  · intro kept id j held cancelled x e running own
    rcases kept_or_done ctx s .cancel rfl result seen principal with
      same | ⟨current, i, feasible, done⟩
    · have calm := calm_perform ctx (r := .operate .cancel result seen principal) s
        (fun bypasses => bypasses) fun starts => starts
      rw [same] at held
      exact quiet id j held cancelled x e (calm.engine x e running) own
    · rw [engine done] at running
      split at running
      · cases running
      · rename_i unnamed
        by_cases here : id = seen.id
        · subst here
          have desynced : s.records.stateOf seen.id = .desynced := by
            rcases accounted x e running with desynced | ⟨k, found, named⟩
            · rwa [← own]
            · rw [own] at found
              obtain rfl := Option.some.inj (feasible.found.symm.trans found)
              exact absurd named unnamed
          exact kept (.cancel feasible desynced running own unnamed)
        · rw [done.others id here] at held
          exact quiet id j held cancelled x e running own

/-! ### Runs -/

/-- Where cancelling stops executions, a request keeps the state quiet exactly if it does not leave
    an execution running for a cancelled instance. -/
theorem quiet_perform_iff {r : Request} (allowed : ¬r.Writes) (passing : ¬r.Bypasses)
    (attached : ctx.cancelsExecution = true) (accounted : s.Accounted) (quiet : s.Quiet) :
    (outcome (r.perform ctx) s).2.Quiet ↔ ¬RunsOn ctx s r := by
  by_cases starts : r.IsStart
  · cases r with
    | start d seen => exact quiet_start_iff quiet
    | _ => exact starts.elim
  · by_cases cancels : r.status? = some .cancelled
    · cases r with
      | operate kind result seen principal =>
        cases kind <;> cases cancels
        exact quiet_cancel_iff attached accounted quiet
      | _ => cases cancels
    · have calm := calm_perform ctx s passing starts
      refine iff_of_true (quiet_of_calm allowed cancels calm quiet) fun runsOn => ?_
      cases runsOn with
      | start => exact starts trivial
      | cancel => exact cancels rfl

/-- In a run that begins before any execution does, in which executions are started for instances
    only and cancelling stops them, nothing ever runs for a cancelled instance exactly if no
    cancelled instance is started and none is cancelled for which an execution runs that its
    record does not name. -/
theorem quiet_iff {calls : List (Context × Request)}
    (allowed : ∀ call ∈ calls, ¬call.2.Writes ∧ ¬call.2.Bypasses)
    (attached : ∀ call ∈ calls, call.1.cancelsExecution = true) {s : State} (idle : s.engine = ∅) :
    (∀ n, (run (calls.take n) s).2.Quiet) ↔
      ∀ n ctx r, calls[n]? = some (ctx, r) → ¬RunsOn ctx (run (calls.take n) s).2 r := by
  have nothing (x : ExecutionId) : s.engine.get? x = none := by rw [idle]; rfl
  have accounted (n : Nat) : (run (calls.take n) s).2.Accounted :=
    run_keeps (fun ctx r s => accounted_perform ctx r s) (calls.take n)
      (fun call member => (allowed call (List.mem_of_mem_take member)).2)
      fun x e running => by simp [nothing] at running
  refine run_always_iff (fun id i found cancelled x e running => by simp [nothing] at running) ?_
  intro n ctx r at_n quiet
  have member := List.mem_of_getElem? at_n
  exact quiet_perform_iff (allowed _ member).1 (allowed _ member).2 (attached _ member)
    (accounted n) quiet

def attached (id : InstanceId) : Context := { Desk.context id with cancelsExecution := true }

/-- An instance is created, started and cancelled. -/
def startedFirst : List (Context × Request) := [
  (attached "case-1", .create Desk.process Desk.deployment ∅ [] none Desk.alice),
  (attached "-", .start Desk.deployment Desk.opened),
  (attached "-", .operate .cancel {} Desk.opened Desk.alice)]

theorem startedFirst_quiet :
    (∀ call ∈ startedFirst, ¬call.2.Writes ∧ ¬call.2.Bypasses) ∧
      (∀ call ∈ startedFirst, call.1.cancelsExecution = true) ∧ Desk.empty.engine = ∅ ∧
      (run (startedFirst.take 2) Desk.empty).2.engine.values.map Execution.businessKey =
        ["case-1"] ∧
      ((run startedFirst Desk.empty).2.storage.instances.get? "case-1").map Instance.status =
        some .cancelled ∧
      ∀ n, (run (startedFirst.take n) Desk.empty).2.Quiet := by
  have allowed : ∀ call ∈ startedFirst, ¬call.2.Writes ∧ ¬call.2.Bypasses := by
    simp [startedFirst, Writes, Bypasses]
  have stops : ∀ call ∈ startedFirst, call.1.cancelsExecution = true := by
    simp [startedFirst, attached]
  refine ⟨allowed, stops, rfl, by decide +kernel, by decide +kernel, ?_⟩
  refine (quiet_iff allowed stops rfl).2 fun n ctx r at_n runsOn => ?_
  obtain _ | _ | _ | n := n
  · cases at_n
    cases runsOn
  · have running : ((run (startedFirst.take 1) Desk.empty).2.storage.instances.get? "case-1").map
      Instance.status = some .running := by decide +kernel
    cases at_n
    cases runsOn with
    | start leaves cancelled =>
      have status := congrArg (Option.map Instance.status) leaves.found
      have same := Option.some.inj (running.symm.trans status)
      rw [cancelled] at same
      cases same
  · have synced : (run (startedFirst.take 2) Desk.empty).2.records.stateOf "case-1" = .synced := by
      decide +kernel
    cases at_n
    cases runsOn with
    | cancel feasible desynced running own unnamed =>
      have state : SyncState.synced = .desynced := synced.symm.trans desynced
      cases state
  · cases at_n

/-- An instance is created and cancelled, and started after that. -/
def startedLate : List (Context × Request) := [
  (attached "case-1", .create Desk.process Desk.deployment ∅ [] none Desk.alice),
  (attached "-", .operate .cancel {} Desk.opened Desk.alice),
  (attached "-", .start Desk.deployment Desk.opened)]

theorem startedLate_runsOn :
    (∀ call ∈ startedLate, ¬call.2.Writes ∧ ¬call.2.Bypasses) ∧
      (∀ call ∈ startedLate, call.1.cancelsExecution = true) ∧ Desk.empty.engine = ∅ ∧
      ((run startedLate Desk.empty).2.storage.instances.get? "case-1").map Instance.status =
        some .cancelled ∧
      (run startedLate Desk.empty).2.engine.values.map Execution.businessKey = ["case-1"] ∧
      ¬(run startedLate Desk.empty).2.Quiet := by
  have cancelled : ((run startedLate Desk.empty).2.storage.instances.get? "case-1").map
    Instance.status = some .cancelled := by decide +kernel
  refine ⟨by simp [startedLate, Writes, Bypasses], by simp [startedLate, attached], rfl, cancelled,
    by decide +kernel, fun quiet => ?_⟩
  have runs : ((run startedLate Desk.empty).2.engine.get? "x").map Execution.businessKey =
    some "case-1" := by decide +kernel
  obtain ⟨i, found, status⟩ := Option.map_eq_some_iff.1 cancelled
  obtain ⟨e, running, own⟩ := Option.map_eq_some_iff.1 runs
  exact quiet "case-1" i found status "x" e running own

end Request
end Casework
