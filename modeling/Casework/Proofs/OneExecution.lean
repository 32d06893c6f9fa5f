import Casework.Proofs.Agreement
import Casework.Proofs.StoredChanges

/-!
The executions of an instance. Every running execution is named by the record of its instance,
unless the instance is desynced (`Accounted`). So a start adds a second execution in one way only:
the records have dropped the instance although the execution that its record names is still running,
and the record refuses the new one, which stays (`StartsAgain`). A run has two executions of one
instance exactly if some start does so (`single_iff`).
-/

namespace Casework

open Casework.Action Casework.Lifecycle Casework.Reconcile

/-- No two executions run for the same instance. -/
def Engine.Single (engine : Engine) : Prop :=
  ∀ x y e f, engine.get? x = some e → engine.get? y = some f → e.businessKey = f.businessKey →
    x = y

namespace State

/-- Every running execution is named by the record of its instance, or that is desynced. -/
def Accounted (s : State) : Prop :=
  ∀ x e, s.engine.get? x = some e →
    s.records.stateOf e.businessKey = .desynced ∨
      ∃ i, s.storage.instances.get? e.businessKey = some i ∧ i.engineId = some x

/-- From one state to the other nothing is started and the records stay as they are. -/
structure Still (s s' : State) : Prop where
  engine : ∀ x e, s'.engine.get? x = some e → s.engine.get? x = some e
  records : s'.records = s.records

theorem Still.of_eq {s s' : State} (engine : s'.engine = s.engine)
    (records : s'.records = s.records) : Still s s' :=
  ⟨fun x e running => by rwa [← engine], records⟩

theorem Still.refl (s : State) : Still s s := .of_eq rfl rfl

theorem Still.trans {s t u : State} (first : Still s t) (second : Still t u) : Still s u :=
  ⟨fun x e running => first.engine x e (second.engine x e running),
    second.records.trans first.records⟩

theorem Still.erase {s s' : State} {x : ExecutionId} (engine : s'.engine = s.engine.erase x)
    (records : s'.records = s.records) : Still s s' := by
  refine ⟨fun y e running => ?_, records⟩
  rw [engine, SortedMap.get?_erase] at running
  split at running
  · cases running
  · exact running

theorem Still.stop (s : State) (i : Instance) : Still s (s.stop i) := by
  cases named : i.engineId with
  | none => exact .of_eq (by simp [State.stop, named]) rfl
  | some x => exact .erase (x := x) (by simp [State.stop, named]) rfl

/-- From one state to the other nothing is started and what is desynced stays so. -/
structure Calm (s s' : State) : Prop where
  engine : ∀ x e, s'.engine.get? x = some e → s.engine.get? x = some e
  desynced : ∀ id, s.records.stateOf id = .desynced → s'.records.stateOf id = .desynced

theorem Still.calm {s s' : State} (still : Still s s') : Calm s s' :=
  ⟨still.engine, fun id desynced => by rwa [still.records]⟩

theorem Calm.refl (s : State) : Calm s s := (Still.refl s).calm

theorem Calm.trans {s t u : State} (first : Calm s t) (second : Calm t u) : Calm s u :=
  ⟨fun x e running => first.engine x e (second.engine x e running),
    fun id desynced => second.desynced id (first.desynced id desynced)⟩

/-- From one state to the other, records that name executions go on naming them. -/
def Names (s s' : State) : Prop :=
  ∀ id i x, s.storage.instances.get? id = some i → i.engineId = some x →
    ∃ j, s'.storage.instances.get? id = some j ∧ j.engineId = some x

theorem Calm.accounted {s s' : State} (calm : Calm s s') (names : Names s s')
    (accounted : s.Accounted) : s'.Accounted := by
  intro x e running
  rcases accounted x e (calm.engine x e running) with desynced | ⟨i, found, named⟩
  · exact .inl (calm.desynced _ desynced)
  · exact .inr (names _ i x found named)

theorem Calm.single {s s' : State} (calm : Calm s s') (single : s.engine.Single) :
    s'.engine.Single :=
  fun x y e f runs runs' => single x y e f (calm.engine x e runs) (calm.engine y f runs')

end State

namespace Reconcile

open State

theorem calm_verify (ctx : Context) (id : InstanceId) (s : State) :
    Calm s (outcome (verify ctx id) s).2 := by
  rw [outcome_verify]
  split
  · exact .refl s
  · split
    · exact .refl s
    · exact .refl s
    · split
      · exact .refl s
      · refine ⟨fun x e running => running, fun other desynced => ?_⟩
        exact stateOf_compared (stateOf_adopted id desynced)

theorem calm_audit (ctx : Context) (query : Query) (s : State) :
    Calm s (outcome (audit ctx query) s).2 :=
  audit_keeps (fun id s' calm => calm.trans (calm_verify ctx id s')) query (.refl s)

end Reconcile

namespace Request

open State

variable {ctx : Context} {s : State}

/-- The request goes past the records: it starts an execution without them or forgets them. -/
def Bypasses : Request → Prop
  | .startExecution _ _ _ | .forget => True
  | _ => False

def IsStart : Request → Prop
  | .start _ _ => True
  | _ => False

/-- The request starts an execution or works on the records. -/
def Stirs : Request → Prop
  | .start _ _ | .startExecution _ _ _ | .verify _ | .audit _ | .forget => True
  | _ => False

theorem still_of_created {p : ProcessDefinition} {d : Deployment} {data : FieldData}
    {attachments : List Attachment} {submission : Option Submission} {initiator : Entity}
    {after : Except Error Instance × State}
    (ended : Created ctx p d data attachments submission initiator s after) :
    Still s after.2 := by
  cases ended <;> exact .of_eq rfl rfl

theorem still_of_operated {kind : OperationKind} {result : Outcome} {seen : Instance}
    {principal : Entity} {after : Except Error Instance × State}
    (ended : Operated ctx kind result seen principal s after) : Still s after.2 := by
  cases ended with
  | refused => exact .refl s
  | halted => exact .stop s _
  | @done current _ _ _ _ found looked stopped applied =>
    subst stopped
    split
    · exact (Still.stop s current).trans (.of_eq rfl rfl)
    · exact .of_eq rfl rfl

theorem still_of_accepted {v : Validation} {action : SubmissionAction}
    {after : Except Error Instance × State} (ended : Accepted ctx v action s after) :
    Still s after.2 := by
  cases ended <;> exact .of_eq rfl rfl

theorem still_of_archived {seen : Instance} {data : FieldData}
    {after : Except Error Instance × State} (ended : Archived ctx seen data s after) :
    Still s after.2 := by
  cases ended <;> exact .of_eq rfl rfl

theorem still_of_detached {seen : Instance} {attachment : AttachmentId}
    {after : Except Error Instance × State} (ended : Detached ctx seen attachment s after) :
    Still s after.2 := by
  cases ended <;> exact .of_eq rfl rfl

theorem still_of_tasksChanged {id : InstanceId} {tasks : List Task}
    {after : Except Error Instance × State} (ended : TasksChanged ctx id tasks s after) :
    Still s after.2 := by
  cases ended <;> exact .of_eq rfl rfl

theorem still_of_taskRecorded {seen : Instance} {task : Option Task}
    {after : Except Error Bool × State} (ended : TaskRecorded ctx seen s task after) :
    Still s after.2 := by
  cases ended with
  | nothing => exact .refl s
  | refused => exact .refl s
  | done change =>
    have still := still_of_tasksChanged change
    exact still

theorem still_of_taskApplied {id : InstanceId} {kind : OperationKind} {reported : Option Task}
    {after : Except Error Instance × State} (ended : TaskApplied ctx id kind reported s after) :
    Still s after.2 := by
  cases ended with
  | refused => exact .refl s
  | idle => exact .refl s
  | done found change => exact still_of_tasksChanged change

theorem still_update (ctx : Context) (id : InstanceId) (patch : Patch) (s : State) :
    Still s (outcome (Action.updateInstance ctx id patch) s).2 := by
  rw [outcome_updateInstance]
  cases ctx.outage .updateInstance with
  | some e => exact .refl s
  | none => cases s.storage.update ctx.now id patch <;> exact .of_eq rfl rfl

/-- Only starts start anything, and only they, verifying and forgetting change the records. -/
theorem still_perform (ctx : Context) {r : Request} (s : State) (other : ¬r.Stirs) :
    Still s (outcome (r.perform ctx) s).2 := by
  by_cases looks : r.Looks
  · rw [state_of_looks ctx looks]
    exact .refl s
  cases r with
  | create p d data attachments submission initiator =>
    rw [perform, state_map]
    exact still_of_created (create_created ctx p d data attachments submission initiator s)
  | operate kind result seen principal =>
    rw [perform, state_map]
    exact still_of_operated (operate_operated ctx kind result seen principal s)
  | accept v action =>
    rw [perform, state_map]
    exact still_of_accepted (accept_accepted ctx v action s)
  | archive seen data =>
    rw [perform, state_map]
    exact still_of_archived (archive_archived ctx seen data s)
  | detach seen attachment =>
    rw [perform, state_map]
    exact still_of_detached (detach_detached ctx seen attachment s)
  | recordTask seen task =>
    rw [perform, state_map]
    exact still_of_taskRecorded (recordTask_taskRecorded ctx seen task s)
  | applyTask id kind reported =>
    rw [perform, state_map]
    exact still_of_taskApplied (applyTask_taskApplied ctx id kind reported s)
  | saveInstance i =>
    rw [perform, state_map, outcome_saveInstance]
    split <;> exact .of_eq rfl rfl
  | changeInstance id patch =>
    rw [perform, state_map]
    unfold Action.changeInstance
    split
    · rw [outcome_getInstance]
      split <;> exact .refl s
    · exact keeps_bind (still_update ctx id patch s) fun stored after kept => by
        cases stored <;> exact kept
  | updateInstance id patch =>
    rw [perform, state_map]
    exact still_update ctx id patch s
  | saveAttachment a =>
    rw [perform, outcome_bind, outcome_saveAttachment]
    cases ctx.outage .saveAttachment with
    | some e => exact .refl s
    | none => cases ctx.outage (.saveAttachmentOf a.id) <;> exact .of_eq rfl rfl
  | saveSubmission submission =>
    rw [perform, outcome_bind, outcome_saveSubmission]
    cases ctx.outage .saveSubmission <;> exact .of_eq rfl rfl
  | cancelFor seen =>
    rw [perform, state_map, outcome_cancelFor]
    split
    · exact .refl s
    · exact .refl s
    · exact .stop s seen
  | cancelExecution id =>
    rw [perform, state_map, outcome_cancelExecution]
    split
    · exact .refl s
    · exact .erase (x := id) rfl rfl
  | saveProcess | saveDeployment => exact .of_eq rfl rfl
  | start | startExecution | verify | audit | forget => exact absurd trivial other
  | _ => exact absurd trivial looks

theorem calm_perform (ctx : Context) {r : Request} (s : State) (allowed : ¬r.Bypasses)
    (other : ¬r.IsStart) : Calm s (outcome (r.perform ctx) s).2 := by
  cases r with
  | verify id =>
    rw [perform, state_map]
    exact calm_verify ctx id s
  | audit query =>
    rw [perform, state_map]
    exact calm_audit ctx query s
  | start => exact absurd trivial other
  | startExecution | forget => exact absurd trivial allowed
  | _ => exact (still_perform ctx s id).calm

/-- A record that names an execution goes on naming it. -/
theorem names_perform (ctx : Context) (r : Request) (s : State) :
    Names s (outcome (r.perform ctx) s).2 := by
  intro id i x found named
  obtain ⟨j, held, rfl | ⟨patch, -, applied⟩⟩ := patched_of_stored ctx r found
  · exact ⟨j, held, named⟩
  · refine ⟨j, held, ?_⟩
    rw [Patch.eq_of_apply applied]
    show i.engineId.or patch.engineId = some x
    rw [named]
    rfl

theorem name_of_apply {x y : ExecutionId} {now : Instant} {stored updated : Instance}
    {changed : Bool} (applied : (naming x).apply now stored = .ok (changed, updated))
    (named : stored.engineId = some y) : y = x := by
  have accepted := ((Patch.refusal?_eq_none_iff _ _).1 (Patch.refusal?_of_apply applied)).2.1
  simpa [Patch.otherExecution?, named] using accepted

theorem named_of_apply {x : ExecutionId} {now : Instant} {stored updated : Instance}
    {changed : Bool} (applied : (naming x).apply now stored = .ok (changed, updated)) :
    updated.engineId = some x := by
  have after : updated.engineId = stored.engineId.or (some x) := by
    rw [Patch.eq_of_apply applied]
    cases changed <;> rfl
  rw [after]
  cases named : stored.engineId with
  | none => rfl
  | some y => rw [name_of_apply applied named]; rfl

/-! ### Starts -/

/-- The instance is not started as far as is known, though its record names this execution,
    which runs. -/
structure Unnoticed (s : State) (id : InstanceId) (x : ExecutionId) (stored : Instance) : Prop where
  idle : s.records.stateOf id = .notStarted
  found : s.storage.instances.get? id = some stored
  named : stored.engineId = some x
  runs : ∃ e, s.engine.get? x = some e ∧ e.businessKey = id

/-- The start of an instance adds a second execution to the one that its record names: the
    services let it start, and what it started is not stopped when the record refuses it. -/
structure StartsAgain (ctx : Context) (seen : Instance) (s : State) : Prop where
  unnoticed : ∃ x stored, Unnoticed s seen.id x stored ∧ x ≠ s.nextExecution ctx
  reachable : ctx.outage .findInstance = none
  launched : ctx.outage .startExecution = none
  stays : ∀ cause, ctx.outage .updateInstance = some cause →
    cause.isConflict = true ∨ ctx.outage .cancelExecution ≠ none

theorem get?_launch (ctx : Context) (s : State) (d : Deployment) (id : InstanceId)
    (data : FieldData) (x : ExecutionId) :
    (s.launch ctx d id data).engine.get? x =
      if x = s.nextExecution ctx then some ⟨x, id, d.engineKey, data.map Engine.variableOf⟩
      else s.engine.get? x := by
  show (s.engine.insert _ _).get? x = _
  rw [SortedMap.get?_insert]
  split
  · rename_i same
    rw [same]
  · rfl

theorem calm_forgotten {s : State} {id : InstanceId}
    (idle : s.records.stateOf id = .notStarted) :
    Calm s (s.withRecords (s.records.erase id)) := by
  refine ⟨fun x e running => running, fun other desynced => ?_⟩
  show SyncRecords.stateOf (s.records.erase id) other = .desynced
  rw [SyncRecords.stateOf_erase, if_neg, desynced]
  rintro rfl
  rw [idle] at desynced
  cases desynced

theorem calm_undone (ctx : Context) (d : Deployment) {s : State} {id : InstanceId}
    (data : FieldData) (idle : s.records.stateOf id = .notStarted) :
    Calm s
      { s.launch ctx d id data with
        engine := (s.launch ctx d id data).engine.erase (s.nextExecution ctx)
        records := s.records.erase id } := by
  refine ⟨fun x e running => ?_, (calm_forgotten idle).desynced⟩
  have kept : SortedMap.get? ((s.launch ctx d id data).engine.erase (s.nextExecution ctx)) x =
    some e := running
  rw [SortedMap.get?_erase] at kept
  split at kept
  · cases kept
  · rename_i other
    rwa [get?_launch, if_neg other] at kept

/-- The start of an instance leaves an execution running: it is not stopped again when the record
    does not take its name. -/
structure Leaves (ctx : Context) (seen : Instance) (s : State) (stored : Instance) : Prop extends
    Launches ctx seen s stored where
  stays : ∀ cause, ctx.outage .updateInstance = some cause →
    cause.isConflict = true ∨ ctx.outage .cancelExecution ≠ none

theorem engine_of_leaves {d : Deployment} {seen stored : Instance} {s : State}
    (leaves : Leaves ctx seen s stored) :
    (outcome ((Request.start d seen).perform ctx) s).2.engine =
      (s.launch ctx d seen.id stored.data).engine := by
  rw [perform, state_map]
  have ended := start_started ctx d seen s
  generalize outcome (Reconcile.start ctx d seen) s = after at ended ⊢
  cases ended with
  | blocked e why =>
    rcases why with out | absent | claimed
    · exact absurd leaves.reachable out
    · simp [leaves.found] at absent
    · exact absurd leaves.idle claimed
  | unlaunched idle out => simp [leaves.launched] at out
  | @undone stored' e launches untaken passing cancelled =>
    rcases leaves.stays e (outage_of_untaken untaken passing) with lasting | uncancelled
    · rw [passing] at lasting
      cases lasting
    · exact absurd cancelled uncancelled
  | left launches | done launches =>
    obtain rfl := Option.some.inj (leaves.found.symm.trans launches.found)
    rfl

/-- A start leaves an execution running, or nothing runs after it that was not running before. -/
theorem leaves_or_calm (ctx : Context) (d : Deployment) (seen : Instance) (s : State) :
    (∃ stored, Leaves ctx seen s stored) ∨
      ∀ x e, (outcome ((Request.start d seen).perform ctx) s).2.engine.get? x = some e →
        s.engine.get? x = some e := by
  rw [perform, state_map]
  have ended := start_started ctx d seen s
  generalize outcome (Reconcile.start ctx d seen) s = after at ended ⊢
  cases ended with
  | blocked => exact .inr fun x e running => running
  | unlaunched => exact .inr fun x e running => running
  | undone launches => exact .inr (calm_undone ctx d _ launches.idle).engine
  | @left stored e why launches untaken lasting =>
    refine .inl ⟨stored, launches, fun cause out => ?_⟩
    have same : e = cause := by simpa [Untaken, out] using untaken
    rwa [← same]
  | @done stored updated changed launches applied written =>
    refine .inl ⟨stored, launches, fun cause out => ?_⟩
    rw [written] at out
    cases out

/-- An execution that runs for an instance which is not known to be started is the one that its
    record names. -/
theorem named_of_idle {s : State} {id : InstanceId} {stored : Instance}
    (accounted : s.Accounted) (idle : s.records.stateOf id = .notStarted)
    (found : s.storage.instances.get? id = some stored) {x : ExecutionId} {e : Execution}
    (running : s.engine.get? x = some e) (own : e.businessKey = id) :
    stored.engineId = some x := by
  subst own
  rcases accounted x e running with desynced | ⟨i, found', named⟩
  · rw [idle] at desynced
    cases desynced
  · obtain rfl := Option.some.inj (found.symm.trans found')
    exact named

theorem single_launch (ctx : Context) (d : Deployment) {s : State} {id : InstanceId}
    (data : FieldData) (single : s.engine.Single)
    (alone : ∀ x e, s.engine.get? x = some e → e.businessKey = id → x = s.nextExecution ctx) :
    (s.launch ctx d id data).engine.Single := by
  intro x y e f runs runs' same
  rw [get?_launch] at runs runs'
  split at runs
  · rename_i new
    split at runs'
    · rename_i new'
      rw [new, new']
    · obtain rfl := Option.some.inj runs
      rw [new]
      exact (alone y f runs' same.symm).symm
  · split at runs'
    · rename_i new'
      obtain rfl := Option.some.inj runs'
      rw [new']
      exact alone x e runs same
    · exact single x y e f runs runs' same

theorem named_keep {s : State} {id : InstanceId} {stored updated : Instance} {changed : Bool}
    {x : ExecutionId} {now : Instant} (found : s.storage.instances.get? id = some stored)
    (applied : (naming x).apply now stored = .ok (changed, updated)) :
    ∃ i, (s.keep id changed updated).storage.instances.get? id = some i ∧
      i.engineId = some x := by
  obtain ⟨i, held, same⟩ := get?_keep found applied
  have kept := congrArg Instance.engineId same
  have named : updated.engineId = some x := named_of_apply applied
  exact ⟨i, held, kept.symm.trans named⟩

theorem accounted_start (ctx : Context) (d : Deployment) (seen : Instance) {s : State}
    (accounted : s.Accounted) :
    (outcome ((Request.start d seen).perform ctx) s).2.Accounted := by
  have names := names_perform ctx (.start d seen) s
  rw [perform, state_map] at names ⊢
  have ended := start_started ctx d seen s
  generalize outcome (Reconcile.start ctx d seen) s = after at ended names ⊢
  cases ended with
  | blocked => exact accounted
  | unlaunched idle => exact (calm_forgotten idle).accounted names accounted
  | undone launches => exact (calm_undone ctx d _ launches.idle).accounted names accounted
  | @left stored e why launches untaken lasting =>
    intro x f running
    have runs : (s.launch ctx d seen.id stored.data).engine.get? x = some f := running
    by_cases own : f.businessKey = seen.id
    · left
      rw [own]
      exact (SyncRecords.stateOf_insert _ _ _ _).trans (if_pos rfl)
    · have before : s.engine.get? x = some f := by
        rw [get?_launch] at runs
        split at runs
        · obtain rfl := Option.some.inj runs
          exact absurd rfl own
        · exact runs
      rcases accounted x f before with desynced | ⟨i, found, named⟩
      · left
        exact ((SyncRecords.stateOf_insert _ _ _ _).trans (if_neg own)).trans desynced
      · exact .inr (names _ i x found named)
  | @done stored updated changed launches applied =>
    intro x f running
    have runs : (s.launch ctx d seen.id stored.data).engine.get? x = some f := running
    rw [get?_launch] at runs
    split at runs
    · rename_i new
      obtain rfl := Option.some.inj runs
      rw [new]
      exact .inr (named_keep (s := s.launch ctx d seen.id stored.data) launches.found applied)
    · rcases accounted x f runs with desynced | ⟨i, found, named⟩
      · have other : f.businessKey ≠ seen.id := by
          intro own
          rw [own, launches.idle] at desynced
          cases desynced
        left
        exact ((SyncRecords.stateOf_insert _ _ _ _).trans (if_neg other)).trans desynced
      · exact .inr (names _ i x found named)

theorem single_start {ctx : Context} (d : Deployment) {seen : Instance} {s : State}
    (accounted : s.Accounted) (single : s.engine.Single) (first : ¬StartsAgain ctx seen s) :
    (outcome ((Request.start d seen).perform ctx) s).2.engine.Single := by
  rcases leaves_or_calm ctx d seen s with ⟨stored, leaves⟩ | calm
  · rw [engine_of_leaves leaves]
    refine single_launch ctx d stored.data single fun x f running own => ?_
    have named := named_of_idle accounted leaves.idle leaves.found running own
    refine Classical.byContradiction fun other => first ?_
    exact ⟨⟨x, stored, ⟨leaves.idle, leaves.found, named, f, running, own⟩, other⟩,
      leaves.reachable, leaves.launched, leaves.stays⟩
  · exact fun x y e f runs runs' => single x y e f (calm x e runs) (calm y f runs')

theorem not_single_start {ctx : Context} (d : Deployment) {seen : Instance} {s : State}
    (again : StartsAgain ctx seen s) :
    ¬(outcome ((Request.start d seen).perform ctx) s).2.engine.Single := by
  obtain ⟨⟨x, stored, unnoticed, other⟩, reachable, launched, stays⟩ := again
  have leaves : Leaves ctx seen s stored :=
    ⟨⟨reachable, unnoticed.found, unnoticed.idle, launched⟩, stays⟩
  obtain ⟨f, running, own⟩ := unnoticed.runs
  rw [engine_of_leaves leaves]
  intro single
  refine other (single x (s.nextExecution ctx) f
    ⟨s.nextExecution ctx, seen.id, d.engineKey, stored.data.map Engine.variableOf⟩ ?_ ?_ own)
  · rw [get?_launch, if_neg other, running]
  · rw [get?_launch, if_pos rfl]

/-! ### Runs -/

theorem accounted_perform (ctx : Context) (r : Request) (s : State) (allowed : ¬r.Bypasses)
    (accounted : s.Accounted) : (outcome (r.perform ctx) s).2.Accounted := by
  cases r with
  | start d seen => exact accounted_start ctx d seen accounted
  | _ => exact (calm_perform ctx s allowed id).accounted (names_perform ctx _ s) accounted

/-- A request keeps executions single unless it starts an instance again. -/
theorem single_perform (ctx : Context) {r : Request} {s : State} (allowed : ¬r.Bypasses)
    (accounted : s.Accounted) (single : s.engine.Single)
    (first : ∀ d seen, r = .start d seen → ¬StartsAgain ctx seen s) :
    (outcome (r.perform ctx) s).2.engine.Single := by
  cases r with
  | start d seen => exact single_start d accounted single (first d seen rfl)
  | _ => exact (calm_perform ctx s allowed id).single single

/-- In a run that begins before any execution does, and in which executions are started for
    instances only, no instance ever has two executions exactly if none is started again while
    its execution is running unnoticed. -/
theorem single_iff {calls : List (Context × Request)}
    (allowed : ∀ call ∈ calls, ¬call.2.Bypasses) {s : State} (idle : s.engine = ∅) :
    (∀ n, (run (calls.take n) s).2.engine.Single) ↔
      ∀ (n : Nat) (ctx : Context) (d : Deployment) (seen : Instance),
        calls[n]? = some (ctx, .start d seen) → ¬StartsAgain ctx seen (run (calls.take n) s).2 := by
  have nothing (x : ExecutionId) : s.engine.get? x = none := by rw [idle]; rfl
  have accounted (n : Nat) : (run (calls.take n) s).2.Accounted :=
    run_keeps (fun ctx r s => accounted_perform ctx r s) (calls.take n)
      (fun call member => allowed call (List.mem_of_mem_take member))
      fun x e running => by simp [nothing] at running
  constructor
  · intro single n ctx d seen at_n again
    have after := single (n + 1)
    rw [state_run_take_succ at_n] at after
    exact not_single_start d again after
  · intro first n
    induction n with
    | zero => exact fun x y e f running => by simp [run, nothing] at running
    | succ n ih =>
      cases at_n : calls[n]? with
      | none =>
        have all : calls.take (n + 1) = calls.take n := by rw [List.take_add_one, at_n]; simp
        rwa [all]
      | some call =>
        obtain ⟨ctx, r⟩ := call
        rw [state_run_take_succ at_n]
        refine single_perform ctx (allowed _ (List.mem_of_getElem? at_n)) (accounted n) ih ?_
        rintro d seen rfl
        exact first n ctx d seen at_n

def opened : Instance := Instance.opening "case-1" Desk.process "dep-1" (.ofSecond 0)

def archiving : List (Context × Request) := [
  (Desk.context "case-1", .create Desk.process Desk.deployment ∅ [] none Desk.alice),
  (Desk.context "-", .start Desk.deployment opened),
  (Desk.context "-", .archive opened ∅)]

theorem single_archiving :
    (∀ call ∈ archiving, ¬call.2.Bypasses) ∧ Desk.empty.engine = ∅ ∧
      (run archiving Desk.empty).2.engine.size = 1 ∧
      ∀ n, (run (archiving.take n) Desk.empty).2.engine.Single := by
  have allowed : ∀ call ∈ archiving, ¬call.2.Bypasses := by simp [archiving, Bypasses]
  refine ⟨allowed, rfl, by decide +kernel, (single_iff allowed rfl).2 ?_⟩
  intro n ctx d seen at_n again
  -- The one start of the run comes when nothing is running.
  match n with
  | 0 => cases at_n
  | 1 =>
    have nothing : (run (archiving.take 1) Desk.empty).2.engine = ∅ := by decide +kernel
    obtain ⟨⟨x, stored, unnoticed, -⟩, -, -, -⟩ := again
    obtain ⟨e, running, -⟩ := unnoticed.runs
    rw [nothing] at running
    cases running
  | 2 => cases at_n
  | n + 3 => cases at_n

/-- The archived instance is verified, which drops it from the records while its execution is
    running, and started once more. -/
def archivedAgain : List (Context × Request) :=
  archiving ++ [
    (Desk.context "-", .verify "case-1"),
    (Desk.context "-", .start Desk.deployment opened)]

theorem archived_starts_again :
    (∀ call ∈ archivedAgain, ¬call.2.Bypasses) ∧ Desk.empty.engine = ∅ ∧
      (run archivedAgain Desk.empty).2.engine.values.map Execution.businessKey =
        ["case-1", "case-1"] ∧
      ¬(run archivedAgain Desk.empty).2.engine.Single := by
  refine ⟨by simp [archivedAgain, archiving, Bypasses], rfl, by decide +kernel, fun single => ?_⟩
  have first : ((run archivedAgain Desk.empty).2.engine.get? "x").map Execution.businessKey =
      some "case-1" := by decide +kernel
  have second : ((run archivedAgain Desk.empty).2.engine.get? "xx").map Execution.businessKey =
      some "case-1" := by decide +kernel
  obtain ⟨e, runs, own⟩ := Option.map_eq_some_iff.1 first
  obtain ⟨f, runs', own'⟩ := Option.map_eq_some_iff.1 second
  have same := single "x" "xx" e f runs runs' (own.trans own'.symm)
  exact absurd same (by decide)

end Request
end Casework
