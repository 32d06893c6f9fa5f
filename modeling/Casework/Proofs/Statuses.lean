import Casework.Proofs.CompleteInstances

/-!
The statuses that requests leave. Archiving and three kinds of operation give a status to an
instance, and no other request changes it (`status_of_sends`). An operation about the whole instance
is carried out whenever the services answer and the caller has seen the latest version, where
versions are checked (`isOk_operate_iff`), whatever status the instance has. So a run takes no ended
instance back to life exactly if no activation and no suspension of one is carried out in it
(`ended_stays_iff`).
-/

namespace Casework

open Casework.Action Casework.Lifecycle

namespace Request

variable {ctx : Context} {s : State}

/-- The status that a request gives to its instance, if it gives it one. -/
def status? : Request → Option Status
  | .operate kind _ _ _ => kind.status?
  | .archive _ _ => some .complete
  | _ => none

theorem status_of_sends {r : Request} {id : InstanceId} {current : Instance} {patch : Patch}
    (allowed : ¬r.Writes) (sends : r.Sends ctx s id current patch) : patch.status = r.status? := by
  cases sends with
  | operate looked =>
    rw [status_guarded, status_operationPatch]
    rfl
  | archive looked | detach held =>
    rw [status_guarded]
    rfl
  | accept | recordTask | applyTask | start => rfl
  | changeInstance | updateInstance => exact absurd trivial allowed

theorem status_of_opens {r : Request} {i : Instance} (allowed : ¬r.Writes)
    (opens : r.Opens ctx i) : i.status = .running := by
  cases opens with
  | create => rfl
  | saveInstance => exact absurd trivial allowed

/-- A request leaves a stored record with the status that it had or with the one that the request
    gives. -/
theorem status_of_stored (ctx : Context) {r : Request} (allowed : ¬r.Writes) {id : InstanceId}
    {i : Instance} (found : s.storage.instances.get? id = some i) :
    ∃ j, (outcome (r.perform ctx) s).2.storage.instances.get? id = some j ∧
      (j.status = i.status ∨ r.status? = some j.status) := by
  obtain ⟨j, held, rfl | ⟨patch, sends, applied⟩⟩ := patched_of_stored ctx r found
  · exact ⟨j, held, .inl rfl⟩
  · have left : j.status = patch.status.getD i.status := by
      rw [Patch.eq_of_apply applied]
      rfl
    refine ⟨j, held, ?_⟩
    rw [status_of_sends allowed sends] at left
    cases given : r.status? with
    | none =>
      rw [given] at left
      exact .inl left
    | some status =>
      rw [given] at left
      exact .inr (congrArg some left.symm)

/-! ### Operations that succeed and operations that fail -/

variable {kind : OperationKind} {result : Outcome} {seen : Instance} {principal : Entity}

theorem isOk_operate :
    (outcome ((operate kind result seen principal).perform ctx) s).1.isOk =
      (outcome (Lifecycle.operate ctx kind result seen principal) s).1.isOk :=
  isOk_map _ _ s

/-- An operation about a whole instance has all that it takes to be carried out. -/
structure Feasible (ctx : Context) (kind : OperationKind) (seen : Instance) (s : State)
    (current : Instance) : Prop where
  reachable : ctx.outage .findInstance = none
  found : s.storage.instances.get? seen.id = some current
  writable : ctx.outage .updateInstance = none
  /-- Where versions are checked, the caller has seen the instance as it is stored. -/
  latest : ctx.concurrency = .versionChecked → current.version = seen.version
  deployed : kind = .cancel →
    ctx.outage .findDeployment = none ∧ s.storage.deployments.get? current.deploymentId ≠ none
  stoppable : kind = .cancel → ctx.cancelsExecution = true →
    current.engineId = none ∨ ctx.outage .cancelExecution = none

/-- The change of the record goes through if the storage answers and the version is the latest. -/
theorem isOk_change_iff (level : kind.isInstanceLevel = true) {current : Instance}
    {deployment : Option Deployment} {before : State}
    (found : before.storage.instances.get? seen.id = some current) :
    (outcome (do
        let updated ← Action.changeInstance ctx seen.id
          (guarded ctx seen (operationPatch ctx kind result current deployment principal))
        notify ctx deployment updated (.ofOperation kind)
        return updated) before).1.isOk = true ↔
      ctx.outage .updateInstance = none ∧
        (ctx.concurrency = .versionChecked → current.version = seen.version) := by
  have filled : (guarded ctx seen
      (operationPatch ctx kind result current deployment principal)).isEmpty = false := by
    rw [isEmpty_guarded]
    simp [operationPatch, Patch.isEmpty]
  have refusal := refusal?_of_isInstanceLevel ctx level result seen current deployment principal
  rw [outcome_change_notify ctx filled deployment _ found]
  cases ctx.outage .updateInstance with
  | some e => simp [Except.isOk, Except.toBool]
  | none =>
    cases applied : (guarded ctx seen
        (operationPatch ctx kind result current deployment principal)).apply ctx.now current with
    | error e =>
      obtain ⟨cause, refused, -⟩ := Patch.conflict_of_apply applied
      rw [refusal] at refused
      split at refused
      · rename_i stale
        simp [Except.isOk, Except.toBool, stale]
      · cases refused
    | ok after =>
      have accepted := Patch.refusal?_of_apply applied
      rw [refusal] at accepted
      simpa [Except.isOk, Except.toBool] using accepted

theorem isOk_change_iff_feasible (level : kind.isInstanceLevel = true) {current : Instance}
    (reachable : ctx.outage .findInstance = none)
    (found : s.storage.instances.get? seen.id = some current)
    (deployed : kind = .cancel →
      ctx.outage .findDeployment = none ∧ s.storage.deployments.get? current.deploymentId ≠ none)
    (stoppable : kind = .cancel → ctx.cancelsExecution = true →
      current.engineId = none ∨ ctx.outage .cancelExecution = none)
    (before : State) (storage : before.storage = s.storage) (deployment : Option Deployment) :
    (outcome (do
        let updated ← Action.changeInstance ctx seen.id
          (guarded ctx seen (operationPatch ctx kind result current deployment principal))
        notify ctx deployment updated (.ofOperation kind)
        return updated) before).1.isOk = true ↔
      ∃ current, Feasible ctx kind seen s current := by
  rw [isOk_change_iff level (storage ▸ found)]
  constructor
  · rintro ⟨writable, latest⟩
    exact ⟨current, reachable, found, writable, latest, deployed, stoppable⟩
  · rintro ⟨other, feasible⟩
    obtain rfl := Option.some.inj (found.symm.trans feasible.found)
    exact ⟨feasible.writable, feasible.latest⟩

/-- An operation about a whole instance succeeds exactly if nothing keeps it from being carried
    out. -/
theorem isOk_operate_iff (level : kind.isInstanceLevel = true) :
    (outcome ((operate kind result seen principal).perform ctx) s).1.isOk = true ↔
      ∃ current, Feasible ctx kind seen s current := by
  have hindered {e : Error} {after : State}
      (hindered : ∀ current, ¬Feasible ctx kind seen s current) :
      ((Except.error e : Except Error Instance), after).1.isOk = true ↔
        ∃ current, Feasible ctx kind seen s current :=
    iff_of_false (by simp [Except.isOk, Except.toBool]) (not_exists.2 hindered)
  rw [isOk_operate]
  unfold Lifecycle.operate
  rw [outcome_bind, outcome_getInstance]
  cases reachable : ctx.outage .findInstance with
  | some e => exact hindered fun current feasible => by simp [feasible.reachable] at reachable
  | none =>
    cases found : s.storage.instances.get? seen.id with
    | none => exact hindered fun current feasible => by simp [feasible.found] at found
    | some current =>
      by_cases cancel : kind = .cancel
      · subst cancel
        simp only [if_true, true_and]
        rw [outcome_bind, outcome_map, outcome_getDeployment]
        cases deployed : ctx.outage .findDeployment with
        | some e => exact hindered fun _ feasible => by simp [(feasible.deployed rfl).1] at deployed
        | none =>
          cases looked : s.storage.deployments.get? current.deploymentId with
          | none =>
            refine hindered fun other feasible => (feasible.deployed rfl).2 ?_
            obtain rfl := Option.some.inj (found.symm.trans feasible.found)
            exact looked
          | some d =>
            have known : s.storage.deployments.get? current.deploymentId ≠ none := by simp [looked]
            have changed := @isOk_change_iff_feasible ctx s .cancel result seen principal level
              current reachable found fun _ => ⟨deployed, known⟩
            cases attached : ctx.cancelsExecution with
            | false => exact changed (by simp [attached]) s rfl (some d)
            | true =>
              simp only [if_true]
              rw [outcome_bind, outcome_discard, outcome_cancelFor]
              cases named : current.engineId with
              | none => exact changed (fun _ _ => .inl named) s rfl (some d)
              | some x =>
                cases out : ctx.outage .cancelExecution with
                | some e =>
                  refine hindered fun other feasible => ?_
                  obtain rfl := Option.some.inj (found.symm.trans feasible.found)
                  rcases feasible.stoppable rfl attached with unnamed | answers
                  · simp [unnamed] at named
                  · simp [answers] at out
                | none => exact changed (fun _ _ => .inr out) (s.stop current) rfl (some d)
      · simp only [cancel, if_false, false_and, outcome_bind (pure none), outcome_pure]
        exact isOk_change_iff_feasible level reachable found (fun same => absurd same cancel)
          (fun same => absurd same cancel) s rfl none

/-- What a state has after an operation has succeeded. -/
structure Done (ctx : Context) (kind : OperationKind) (result : Outcome) (seen : Instance)
    (s s' : State) (current i : Instance) : Prop where
  found : s.storage.instances.get? seen.id = some current
  held : s'.storage.instances.get? seen.id = some i
  status : i.status = kind.status?.getD current.status
  tasks : i.tasks = current.tasks.upsertMany (taskPatch ctx.now kind result current)
  engine : s'.engine = (if kind = .cancel ∧ ctx.cancelsExecution = true then s.stop current
    else s).engine
  others : ∀ id, id ≠ seen.id → s'.storage.instances.get? id = s.storage.instances.get? id

theorem done_of_isOk
    (ok : (outcome ((operate kind result seen principal).perform ctx) s).1.isOk = true) :
    ∃ current i, Done ctx kind result seen s
      (outcome ((operate kind result seen principal).perform ctx) s).2 current i := by
  rw [isOk_operate] at ok
  rw [perform, state_map]
  have ended := operate_operated ctx kind result seen principal s
  generalize outcome (Lifecycle.operate ctx kind result seen principal) s = after at ended ok ⊢
  cases ended with
  | refused => cases ok
  | halted => cases ok
  | @done current updated deployment changed before found looked stopped applied =>
    have unpatched := State.storage_of_stopped stopped
    have found' : before.storage.instances.get? seen.id = some current := by
      rw [unpatched, found]
    obtain ⟨i, held, same⟩ := get?_keep_guarded found' applied
    have status := congrArg Instance.status same
    have tasks := congrArg Instance.tasks same
    have given := status_operationPatch ctx kind result current deployment principal
    refine ⟨current, i, found, held, ?_, tasks.symm, ?_, ?_⟩
    · rw [← given]
      exact status.symm
    · rw [← stopped]
      rfl
    · intro id other
      exact (get?_keep_of_ne other changed updated).trans (by rw [unpatched])

theorem instances_of_not_isOk
    (failed : (outcome ((operate kind result seen principal).perform ctx) s).1.isOk = false) :
    (outcome ((operate kind result seen principal).perform ctx) s).2.storage.instances =
      s.storage.instances := by
  rw [isOk_operate] at failed
  rw [perform, state_map]
  have ended := operate_operated ctx kind result seen principal s
  generalize outcome (Lifecycle.operate ctx kind result seen principal) s = after at ended failed ⊢
  cases ended with
  | refused => rfl
  | halted => rfl
  | done => cases failed

theorem done_of_feasible (result : Outcome) (principal : Entity)
    (level : kind.isInstanceLevel = true) {current : Instance}
    (feasible : Feasible ctx kind seen s current) :
    ∃ i, Done ctx kind result seen s
      (outcome ((operate kind result seen principal).perform ctx) s).2 current i := by
  obtain ⟨stored, i, done⟩ := done_of_isOk ((isOk_operate_iff level).2 ⟨current, feasible⟩)
  obtain rfl := Option.some.inj (feasible.found.symm.trans done.found)
  exact ⟨i, done⟩

/-- An operation about a whole instance leaves all records as they are, or it is carried out. -/
theorem kept_or_done (ctx : Context) (s : State) (kind : OperationKind)
    (level : kind.isInstanceLevel = true) (result : Outcome) (seen : Instance)
    (principal : Entity) :
    (outcome ((operate kind result seen principal).perform ctx) s).2.storage.instances =
        s.storage.instances ∨
      ∃ current i, Feasible ctx kind seen s current ∧ Done ctx kind result seen s
        (outcome ((operate kind result seen principal).perform ctx) s).2 current i := by
  cases ok : (outcome ((operate kind result seen principal).perform ctx) s).1.isOk with
  | false => exact .inl (instances_of_not_isOk ok)
  | true =>
    obtain ⟨current, feasible⟩ := (isOk_operate_iff level).1 ok
    obtain ⟨i, done⟩ := done_of_feasible result principal level feasible
    exact .inr ⟨current, i, feasible, done⟩

/-! ### Instances that have ended -/

/-- The instance of this name has ended. -/
def Ended (s : State) (id : InstanceId) : Prop :=
  ∃ i, s.storage.instances.get? id = some i ∧ i.status.isFinal = true

/-- The request activates or suspends an instance that has ended, and is carried out. -/
inductive Reopens (ctx : Context) (s : State) : Request → Prop
  | operate {kind : OperationKind} {result : Outcome} {seen current : Instance}
      {principal : Entity} (revives : kind = .activation ∨ kind = .suspension)
      (feasible : Feasible ctx kind seen s current) (ended : current.status.isFinal = true) :
      Reopens ctx s (.operate kind result seen principal)

/-- Only activations and suspensions give a status with which an instance has not ended. -/
theorem revives_of_status {r : Request} {status : Status} (given : r.status? = some status)
    (going : status.isFinal = false) :
    ∃ kind result seen principal, r = .operate kind result seen principal ∧
      (kind = .activation ∨ kind = .suspension) := by
  cases r with
  | operate kind result seen principal =>
    refine ⟨kind, result, seen, principal, rfl, ?_⟩
    cases kind with
    | activation => exact .inl rfl
    | suspension => exact .inr rfl
    | _ => cases given <;> cases going
  | archive seen data =>
    cases given
    cases going
  | _ => cases given

theorem isFinal_of_revives {s' : State} {current i : Instance}
    (revives : kind = .activation ∨ kind = .suspension)
    (done : Done ctx kind result seen s s' current i) : i.status.isFinal = false := by
  rw [done.status]
  rcases revives with rfl | rfl <;> rfl

theorem isInstanceLevel_of_revives (revives : kind = .activation ∨ kind = .suspension) :
    kind.isInstanceLevel = true := by
  rcases revives with rfl | rfl <;> rfl

theorem ended_of_perform {r : Request} (allowed : ¬r.Writes) (kept : ¬Reopens ctx s r)
    {id : InstanceId} (ended : Ended s id) : Ended (outcome (r.perform ctx) s).2 id := by
  obtain ⟨i, found, isFinal⟩ := ended
  obtain ⟨j, held, same | given⟩ := status_of_stored ctx allowed found
  · exact ⟨j, held, by rwa [same]⟩
  · cases going : j.status.isFinal with
    | true => exact ⟨j, held, going⟩
    | false =>
      obtain ⟨kind, result, seen, principal, rfl, revives⟩ := revives_of_status given going
      have level := isInstanceLevel_of_revives revives
      rcases kept_or_done ctx s kind level result seen principal with
        same | ⟨current, k, feasible, done⟩
      · exact ⟨i, by rw [same, found], isFinal⟩
      · by_cases here : id = seen.id
        · subst here
          obtain rfl := Option.some.inj (found.symm.trans feasible.found)
          exact absurd (.operate revives feasible isFinal) kept
        · exact ⟨i, (done.others id here).trans found, isFinal⟩

/-- A request leaves all instances ended that are, exactly if it does not reopen one. -/
theorem ended_perform_iff {r : Request} (allowed : ¬r.Writes) :
    (∀ id, Ended s id → Ended (outcome (r.perform ctx) s).2 id) ↔ ¬Reopens ctx s r := by
  constructor
  · intro stays reopens
    cases reopens with
    | @operate kind result seen current principal revives feasible ended =>
      have level := isInstanceLevel_of_revives revives
      obtain ⟨i, done⟩ := done_of_feasible result principal level feasible
      obtain ⟨j, held, isFinal⟩ := stays seen.id ⟨current, feasible.found, ended⟩
      obtain rfl := Option.some.inj (done.held.symm.trans held)
      rw [isFinal_of_revives revives done] at isFinal
      cases isFinal
  · exact fun kept id ended => ended_of_perform allowed kept ended

/-- In a run that does not write records as they come, instances that have ended stay so exactly
    if no activation and no suspension of one of them is carried out. -/
theorem ended_stays_iff {calls : List (Context × Request)}
    (allowed : ∀ call ∈ calls, ¬call.2.Writes) {s : State} :
    (∀ m n, m ≤ n → ∀ id,
        Ended (run (calls.take m) s).2 id → Ended (run (calls.take n) s).2 id) ↔
      ∀ n ctx r, calls[n]? = some (ctx, r) → ¬Reopens ctx (run (calls.take n) s).2 r := by
  have related := @run_related_iff (fun s t => ∀ id, Ended s id → Ended t id)
    (fun s id ended => ended) (fun first second id ended => second id (first id ended)) calls s
  rw [related]
  constructor
  · intro stays n ctx r at_n
    exact (ended_perform_iff (allowed _ (List.mem_of_getElem? at_n))).1 (stays n ctx r at_n)
  · intro kept n ctx r at_n
    exact (ended_perform_iff (allowed _ (List.mem_of_getElem? at_n))).2 (kept n ctx r at_n)

/-- The status of the instance before the run and after each of its requests. -/
def course (calls : List (Context × Request)) : List (Option Status) :=
  (List.range (calls.length + 1)).map fun n =>
    ((run (calls.take n) Desk.empty).2.storage.instances.get? "case-1").map Instance.status

/-- The instance is suspended, activated and archived, and cancelled although it is complete. -/
def retired : List (Context × Request) := [
  Desk.creation,
  (Desk.context "-", .operate .suspension {} Desk.opened Desk.alice),
  (Desk.context "-", .operate .activation {} Desk.opened Desk.alice),
  (Desk.context "-", .archive Desk.opened ∅),
  (Desk.context "-", .operate .cancel {} Desk.opened Desk.alice)]

theorem retired_stays :
    (∀ call ∈ retired, ¬call.2.Writes) ∧
      course retired = [none, some .running, some .suspended, some .running, some .complete,
        some .cancelled] ∧
      ∀ m n, m ≤ n → ∀ id, Ended (run (retired.take m) Desk.empty).2 id →
        Ended (run (retired.take n) Desk.empty).2 id := by
  have allowed : ∀ call ∈ retired, ¬call.2.Writes := by simp [retired, Desk.creation, Writes]
  refine ⟨allowed, by decide +kernel, (ended_stays_iff allowed).2 ?_⟩
  intro n ctx r at_n reopens
  cases reopens with
  | @operate kind result seen current principal revives feasible ended =>
    have status := congrArg (Option.map Instance.status) feasible.found
    -- The suspension and the activation come while the instance has not ended.
    obtain _ | _ | _ | _ | _ | n := n
    · cases at_n
    · have running : ((run (retired.take 1) Desk.empty).2.storage.instances.get? "case-1").map
        Instance.status = some .running := by decide +kernel
      cases at_n
      have same : Status.running = current.status := Option.some.inj (running.symm.trans status)
      rw [← same] at ended
      cases ended
    · have suspended : ((run (retired.take 2) Desk.empty).2.storage.instances.get? "case-1").map
        Instance.status = some .suspended := by decide +kernel
      cases at_n
      have same : Status.suspended = current.status :=
        Option.some.inj (suspended.symm.trans status)
      rw [← same] at ended
      cases ended
    · cases at_n
    · cases at_n
      rcases revives with other | other <;> cases other
    · cases at_n

/-- The instance is cancelled and activated, and then archived and suspended. -/
def revived : List (Context × Request) := [
  Desk.creation,
  (Desk.context "-", .operate .cancel {} Desk.opened Desk.alice),
  (Desk.context "-", .operate .activation {} Desk.opened Desk.alice),
  (Desk.context "-", .archive Desk.opened ∅),
  (Desk.context "-", .operate .suspension {} Desk.opened Desk.alice)]

theorem revived_reopens :
    (∀ call ∈ revived, ¬call.2.Writes) ∧
      course revived = [none, some .running, some .cancelled, some .running, some .complete,
        some .suspended] ∧
      ¬∀ m n, m ≤ n → ∀ id, Ended (run (revived.take m) Desk.empty).2 id →
        Ended (run (revived.take n) Desk.empty).2 id := by
  refine ⟨by simp [revived, Desk.creation, Writes], by decide +kernel, fun stays => ?_⟩
  have cancelled : ((run (revived.take 2) Desk.empty).2.storage.instances.get? "case-1").map
    Instance.status = some .cancelled := by decide +kernel
  have running : ((run (revived.take 3) Desk.empty).2.storage.instances.get? "case-1").map
    Instance.status = some .running := by decide +kernel
  obtain ⟨i, found, status⟩ := Option.map_eq_some_iff.1 cancelled
  obtain ⟨j, held, ended⟩ := stays 2 3 (Nat.le_succ 2) "case-1" ⟨i, found, by rw [status]; rfl⟩
  rw [held] at running
  have status' : j.status = .running := Option.some.inj running
  rw [status'] at ended
  cases ended

end Request
end Casework
