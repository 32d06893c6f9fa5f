import Casework.Admin
import Casework.Proofs.InstanceTexts
import Casework.Proofs.Slots
import Casework.Proofs.StoredChanges
import Casework.Proofs.Templates

/-!
The demonstration ends well. Where no service is out, a request succeeds if its patch is taken, and
a patch is taken and changes the record if it puts something else into some slot
(`Patch.apply_of_differs`). What every step keeps is that the instance is stored as it was answered
with and that its execution runs (`Scene`), so the version that guards the next step is the right
one. What is printed in the end is read back as the instance (`run_completes`).
-/

namespace Casework

open Casework.Action Casework.Lifecycle Casework.Reconcile

namespace Patch

theorem tasks_stamp_merge (p : Patch) (now : Instant) (i : Instance) :
    (stamp now (p.merge i)).tasks = i.tasks.upsertMany p.tasks := rfl

/-- A patch that is guarded by the version of the record is not refused for its version. -/
theorem apply_guarded_of_differs (ctx : Context) {p : Patch} {i : Instance}
    (unguarded : p.expectedVersion = none) (unnamed : p.engineId = none)
    (closed : p.openTask? i = none) (slot : Slot)
    (differs : ¬slot.Agree (p.write slot (i.contentAt slot)) (i.contentAt slot)) :
    (guarded ctx i p).apply ctx.now i = .ok (true, stamp ctx.now (p.merge i)) := by
  have accepted : (guarded ctx i p).refusal? i = none := by
    refine (refusal?_eq_none_iff _ i).2 ⟨?_, ?_, ?_⟩
    · rw [staleVersion?_guarded ctx i i unguarded]
      simp
    · refine otherExecution?_of_unnamed ?_ i
      rw [guarded_eq]
      exact unnamed
    · rw [guarded_eq]
      exact closed
  rw [← merge_guarded ctx i p i]
  refine apply_of_differs accepted slot ?_ ctx.now
  rw [← contentAt_merge, merge_guarded, contentAt_merge]
  exact differs

end Patch

/-- No service is out. -/
def Context.Served (ctx : Context) : Prop := ∀ call, ctx.outage call = none

namespace Lifecycle

variable {ctx : Context} {s : State}

theorem create_of_fresh (served : ctx.Served) {p : ProcessDefinition} {d : Deployment}
    (data : FieldData) (initiator : Entity)
    (process : s.storage.processes.get? p.key ≠ none)
    (deployment : s.storage.deployments.get? d.id ≠ none) (own : d.processKey = p.key)
    (fresh : s.storage.instances.contains ctx.newInstance = false) :
    outcome (create ctx p d data [] none initiator) s =
      (.ok (opening ctx p d data [] none initiator),
        (s.enter (opening ctx p d data [] none initiator)).send
          (d.notices (opening ctx p d data [] none initiator) .instanceCreated ctx.now)) := by
  obtain ⟨_, known⟩ := Option.ne_none_iff_exists'.1 process
  obtain ⟨_, deployed⟩ := Option.ne_none_iff_exists'.1 deployment
  unfold create
  rw [outcome_bind, outcome_discard, outcome_getProcess, served, known]
  simp only
  rw [outcome_bind, outcome_discard, outcome_getDeployment, served, deployed]
  simp only [own, ne_eq, not_true_eq_false, if_false]
  rw [outcome_file_then]
  show outcome (do
    let created ← saveInstance ctx _
    notify ctx (some d) created .instanceCreated
    return created) s = _
  have untaken : ¬s.storage.instances.contains
      (opening ctx p d data [] none initiator).id = true := by
    rw [show (opening ctx p d data [] none initiator).id = ctx.newInstance from rfl, fresh]
    decide
  rw [outcome_enter, served]
  exact if_neg untaken

/-- An operation that cancels nothing succeeds if its patch is taken. -/
theorem operate_of_taken (served : ctx.Served) {kind : OperationKind} (keeps : kind ≠ .cancel)
    {result : Outcome} {principal : Entity} {seen current updated : Instance} {changed : Bool}
    (found : s.storage.instances.get? seen.id = some current)
    (taken : (guarded ctx seen (operationPatch ctx kind result current none principal)).apply
      ctx.now current = .ok (changed, updated)) :
    outcome (operate ctx kind result seen principal) s =
      (.ok updated, (s.keep seen.id changed updated).send
        (noticesOf ctx s.storage none updated (.ofOperation kind))) := by
  have filled : (guarded ctx seen
      (operationPatch ctx kind result current none principal)).isEmpty = false := by
    rw [isEmpty_guarded]
    simp [operationPatch, Patch.isEmpty]
  unfold operate
  rw [outcome_bind, outcome_getInstance, served, found]
  simp only [keeps, if_false, false_and, outcome_bind (pure none), outcome_pure]
  refine (outcome_change_notify ctx filled none _ found).trans ?_
  rw [served, taken]

theorem archive_of_taken (served : ctx.Served) {data : FieldData} {d : Deployment}
    {seen current updated : Instance} {changed : Bool}
    (found : s.storage.instances.get? seen.id = some current)
    (deployed : s.storage.deployments.get? current.deploymentId = some d)
    (taken : (guarded ctx seen (archivePatch ctx.now current d data)).apply ctx.now current =
      .ok (changed, updated)) :
    outcome (archive ctx seen data) s =
      (.ok updated, (s.keep seen.id changed updated).send
        (noticesOf ctx s.storage (some d) updated .instanceArchived)) := by
  have filled : (guarded ctx seen (archivePatch ctx.now current d data)).isEmpty = false := by
    rw [isEmpty_guarded]
    simp [archivePatch, Patch.isEmpty]
  unfold archive
  rw [outcome_bind, outcome_getInstance, served, found]
  simp only
  rw [outcome_bind, outcome_getDeployment, served, deployed]
  refine (outcome_change_notify ctx filled (some d) _ found).trans ?_
  rw [served, taken]

theorem recordTask_of_taken (served : ctx.Served) {task : Task} {seen current updated : Instance}
    {changed : Bool} (found : s.storage.instances.get? seen.id = some current)
    (taken : ({ tasks := [task] } : Patch).apply ctx.now current = .ok (changed, updated)) :
    outcome (recordTask ctx seen (some task)) s = (.ok true, s.keep seen.id changed updated) := by
  unfold recordTask
  rw [outcome_bind, outcome_discard, outcome_changeInstance ctx seen.id rfl, served, found]
  simp only [taken, outcome_pure]

end Lifecycle

namespace Reconcile

variable {ctx : Context} {s : State}

/-- A start succeeds if it is the first one and the record takes the name of the execution. -/
theorem start_of_taken (served : ctx.Served) {d : Deployment} {seen stored updated : Instance}
    {changed : Bool} (found : s.storage.instances.get? seen.id = some stored)
    (idle : s.records.stateOf seen.id = .notStarted)
    (taken : (naming (s.nextExecution ctx)).apply ctx.now stored = .ok (changed, updated)) :
    outcome (start ctx d seen) s =
      (.ok updated,
        ((s.launch ctx d seen.id stored.data).keep seen.id changed updated).withRecords
          (s.records.insert seen.id
            { s.records.recordOf ctx.now seen.id with
              state := .synced
              executionId := some (s.nextExecution ctx)
              updated := ctx.now })) := by
  have ended := start_started ctx d seen s
  have taken_by {other : Instance} {e : Error} (launches : Launches ctx seen s other)
      (untaken : Untaken ctx (s.nextExecution ctx) other e) : False := by
    obtain rfl := Option.some.inj (found.symm.trans launches.found)
    simp only [Untaken, served .updateInstance, taken] at untaken
    cases untaken
  generalize outcome (start ctx d seen) s = result at ended ⊢
  cases ended with
  | blocked e why =>
    rcases why with out | absent | claimed
    · exact absurd (served .findInstance) out
    · rw [found] at absent
      cases absent
    · exact absurd idle claimed
  | unlaunched _ out =>
    rw [served .startExecution] at out
    cases out
  | undone launches untaken => exact (taken_by launches untaken).elim
  | left launches untaken => exact (taken_by launches untaken).elim
  | done launches applied =>
    obtain rfl := Option.some.inj (found.symm.trans launches.found)
    obtain ⟨rfl, rfl⟩ := Prod.mk.inj (Except.ok.inj (taken.symm.trans applied))
    rfl

end Reconcile

namespace Demo

/-! ### What every step keeps -/

/-- The instance is stored as it is seen, and the execution that it names runs for it. -/
structure Scene (s : State) (i : Instance) : Prop where
  stored : s.storage.instances.get? i.id = some i
  deployed : s.storage.deployments.get? i.deploymentId = some deployment
  synced : s.records.stateOf i.id = .synced
  running : ∃ x e,
    i.engineId = some x ∧ s.engine.get? x = some e ∧ e.id = x ∧ e.businessKey = i.id

namespace Scene

variable {ctx : Context} {s : State} {i : Instance}

theorem keep (scene : Scene s i) (p : Patch) (now : Instant) :
    Scene (s.keep i.id true (Patch.stamp now (p.merge i))) (Patch.stamp now (p.merge i)) where
  stored := SortedMap.get?_insert_self _ _ _
  deployed := scene.deployed
  synced := scene.synced
  running := by
    obtain ⟨x, e, named, runs, own, key⟩ := scene.running
    refine ⟨x, e, ?_, runs, own, key⟩
    show i.engineId.or p.engineId = some x
    rw [named]
    rfl

theorem send (scene : Scene s i) (notices : List Notice) : Scene (s.send notices) i :=
  ⟨scene.stored, scene.deployed, scene.synced, scene.running⟩

theorem of_start (served : ctx.Served) (stored : s.storage.instances.get? i.id = some i)
    (deployed : s.storage.deployments.get? i.deploymentId = some deployment)
    (idle : s.records.stateOf i.id = .notStarted) (unnamed : i.engineId = none) :
    ∃ s', outcome (start ctx deployment i) s =
        (.ok (Patch.stamp ctx.now ((naming (s.nextExecution ctx)).merge i)), s') ∧
      Scene s' (Patch.stamp ctx.now ((naming (s.nextExecution ctx)).merge i)) := by
  have accepted : (naming (s.nextExecution ctx)).refusal? i = none := by
    refine (Patch.refusal?_eq_none_iff _ i).2 ⟨rfl, ?_, ?_⟩
    · simp [Patch.otherExecution?, unnamed]
    · simp [Patch.openTask?]
  have taken := Patch.apply_of_differs accepted .engineId
    (by simp [Patch.write, Instance.contentAt, Slot.Agree, unnamed]) ctx.now
  have named : i.engineId.or (some (s.nextExecution ctx)) = some (s.nextExecution ctx) := by
    rw [unnamed]
    rfl
  exact ⟨_, start_of_taken served stored idle taken,
    { stored := SortedMap.get?_insert_self _ _ _
      deployed := deployed
      synced := (SyncRecords.stateOf_insert _ _ _ _).trans (if_pos rfl)
      running := ⟨_, _, named, SortedMap.get?_insert_self _ _ _, rfl, rfl⟩ }⟩

theorem recordTask (scene : Scene s i) (served : ctx.Served) (task : Task)
    (fresh : i.tasks.get? task.id = none) (going : i.status.isFinal = false) :
    ∃ s', outcome (recordTask ctx i (some task)) s = (.ok true, s') ∧
      Scene s' (Patch.stamp ctx.now (({ tasks := [task] } : Patch).merge i)) := by
  have accepted : ({ tasks := [task] } : Patch).refusal? i = none :=
    (Patch.refusal?_eq_none_iff _ i).2
      ⟨rfl, Patch.otherExecution?_of_unnamed rfl i, Patch.openTask?_of_going going⟩
  have taken := Patch.apply_of_differs accepted (.task task.id)
    (by simp [Patch.write, Instance.contentAt, Slot.Agree, TaskSet.lastOf, fresh]) ctx.now
  exact ⟨_, recordTask_of_taken served scene.stored taken, scene.keep _ ctx.now⟩

/-- An operation on a task that moves the instance to another application status succeeds. -/
theorem operate (scene : Scene s i) (served : ctx.Served) (kind : OperationKind)
    (level : kind.isInstanceLevel = false) (result : Outcome) (principal : Entity) {status : String}
    (moves : result.applicationStatus = some status) (other : i.applicationStatus ≠ some status)
    (going : i.status.isFinal = false) :
    ∃ s', outcome (Lifecycle.operate ctx kind result i principal) s =
        (.ok (Patch.stamp ctx.now ((operationPatch ctx kind result i none principal).merge i)),
          s') ∧
      Scene s'
        (Patch.stamp ctx.now ((operationPatch ctx kind result i none principal).merge i)) := by
  have keeps : kind ≠ .cancel := by
    rintro rfl
    cases level
  have states : statusPatch ctx.now kind result i none =
      { explanation := result.explanation, applicationStatus := result.applicationStatus } := by
    cases kind <;> first | rfl | cases level
  have closed : (operationPatch ctx kind result i none principal).openTask? i = none :=
    Patch.openTask?_of_going (by simp [Patch.statusAfter, operationPatch, states, going])
  have taken := Patch.apply_guarded_of_differs ctx
    (p := operationPatch ctx kind result i none principal) (i := i)
    (by simp [operationPatch, states]) (by simp [operationPatch, states]) closed .applicationStatus
    (by simp [operationPatch, states, moves, Patch.write, Instance.contentAt, Slot.Agree,
      Ne.symm other])
  exact ⟨_, operate_of_taken served keeps scene.stored taken, (scene.keep _ ctx.now).send _⟩

/-- Archiving an instance that has another application status than paid succeeds. -/
theorem archive (scene : Scene s i) (served : ctx.Served)
    (other : i.applicationStatus ≠ some "paid") (data : FieldData) :
    ∃ s', outcome (Lifecycle.archive ctx i data) s =
        (.ok (Patch.stamp ctx.now ((archivePatch ctx.now i deployment data).merge i)), s') ∧
      Scene s' (Patch.stamp ctx.now ((archivePatch ctx.now i deployment data).merge i)) := by
  have closed : (archivePatch ctx.now i deployment data).openTask? i = none := by
    refine (Patch.openTask?_eq_none_iff _ i).2 fun _ task member => ?_
    obtain ⟨_, _, rfl⟩ := List.mem_map.1 member
    rfl
  have taken := Patch.apply_guarded_of_differs ctx rfl rfl closed .applicationStatus
    (Ne.symm other)
  exact ⟨_, archive_of_taken served scene.stored scene.deployed taken,
    (scene.keep _ ctx.now).send _⟩

theorem verify (scene : Scene s i) (served : ctx.Served) (kept : i.status ≠ .cancelled) :
    ∃ s', outcome (Reconcile.verify ctx i.id) s = (.ok .synced, s') := by
  obtain ⟨x, e, named, runs, own, key⟩ := scene.running
  have adopted_eq : adopted ctx s.records i.id = s.records := by simp [adopted, scene.synced]
  have found : (s.engine.get? x).filter (Criteria.byExecution x).accepts = some e := by
    simp [runs, Criteria.byExecution, Criteria.accepts, own]
  refine ⟨(outcome (Reconcile.verify ctx i.id) s).2, Prod.ext ?_ rfl⟩
  rw [outcome_verify, scene.synced, if_neg (by simp [SyncState.isFinal]), served, scene.stored]
  simp only [named]
  unfold compared
  rw [served, found]
  simp [divergence?, kept, key, adopted_eq, scene.synced]

end Scene

/-! ### The instance after each step -/

section
variable (given : Nat → Context) (amount reviewer : String)

/-- What the instance is created and archived with. -/
def fields : FieldData := SortedMap.ofList [("amount", [.text amount])]

def created : Instance :=
  opening (given 0) process deployment (fields amount) [] none initiator

def started : Instance :=
  Patch.stamp (given 1).now
    ((naming (setUp.nextExecution (given 1))).merge (created given amount))

def recorded : Instance :=
  Patch.stamp (given 2).now
    (({ tasks := [review reviewer (given 2).now] } : Patch).merge (started given amount))

def assigned : Task := (review reviewer (given 2).now).assignedTo (some reviewer)

def claiming : Outcome :=
  { applicationStatus := some "in-review", task := some (assigned given reviewer) }

def claimed : Instance :=
  Patch.stamp (given 3).now
    ((operationPatch (given 3) .claim (claiming given reviewer) (recorded given amount reviewer)
      none (Entity.user reviewer)).merge (recorded given amount reviewer))

def approving : Outcome :=
  { applicationStatus := some "approved"
    explanation := some "receipts match"
    task := some (assigned given reviewer) }

def reviewed : Instance :=
  Patch.stamp (given 4).now
    ((operationPatch (given 4) .complete (approving given reviewer) (claimed given amount reviewer)
      none (Entity.user reviewer)).merge (claimed given amount reviewer))

def archived : Instance :=
  Patch.stamp (given 5).now
    ((archivePatch (given 5).now (reviewed given amount reviewer) deployment (fields amount)).merge
      (reviewed given amount reviewer))

/-- No step fails, and in the end the instance and its execution agree. -/
theorem lead_succeeds (served : ∀ n, (given n).Served) :
    ∃ s, outcome (lead given amount reviewer) setUp =
      (.ok (archived given amount reviewer, .synced), s) := by
  have creation := create_of_fresh (s := setUp) (p := process) (d := deployment) (served 0)
    (fields amount) initiator (by decide +kernel) (by decide +kernel) rfl rfl
  obtain ⟨s₁, starting, (scene₁ : Scene s₁ (started given amount))⟩ :=
    Scene.of_start (served 1) (i := created given amount)
      (s := (setUp.enter (created given amount)).send
        (deployment.notices (created given amount) .instanceCreated (given 0).now))
      (SortedMap.get?_insert_self _ _ _) (SortedMap.get?_insert_self _ _ _) rfl rfl
  obtain ⟨s₂, recording, (scene₂ : Scene s₂ (recorded given amount reviewer))⟩ :=
    scene₁.recordTask (served 2) (review reviewer (given 2).now) rfl rfl
  have looking : outcome (getInstance (given 2) (started given amount).id) s₂ =
      (.ok (recorded given amount reviewer), s₂) := by
    have stored : s₂.storage.instances.get? (started given amount).id =
        some (recorded given amount reviewer) := scene₂.stored
    rw [outcome_getInstance, served, stored]
  have pending : (recorded given amount reviewer).applicationStatus = some "pending-review" := rfl
  obtain ⟨s₃, claims, (scene₃ : Scene s₃ (claimed given amount reviewer))⟩ :=
    scene₂.operate (served 3) .claim rfl (claiming given reviewer) (Entity.user reviewer) rfl
      (by rw [pending]; decide) rfl
  have inReview : (claimed given amount reviewer).applicationStatus = some "in-review" := rfl
  obtain ⟨s₄, completing, (scene₄ : Scene s₄ (reviewed given amount reviewer))⟩ :=
    scene₃.operate (served 4) .complete rfl (approving given reviewer) (Entity.user reviewer) rfl
      (by rw [inReview]; decide) rfl
  have approved : (reviewed given amount reviewer).applicationStatus = some "approved" := rfl
  obtain ⟨s₅, archiving, (scene₅ : Scene s₅ (archived given amount reviewer))⟩ :=
    scene₄.archive (served 5) (by rw [approved]; decide) (fields amount)
  obtain ⟨s₆, verifying⟩ := scene₅.verify (served 6) nofun
  refine ⟨s₆, ?_⟩
  calc outcome (lead given amount reviewer) setUp = _ := outcome_bind_of_ok creation
    _ = _ := outcome_bind_of_ok starting
    _ = _ := outcome_bind_of_ok (outcome_discard_of_ok recording)
    _ = _ := outcome_bind_of_ok looking
    _ = _ := outcome_bind_of_ok claims
    _ = _ := outcome_bind_of_ok completing
    _ = _ := outcome_bind_of_ok archiving
    _ = (.ok (archived given amount reviewer, .synced), s₆) := outcome_bind_of_ok verifying

/-- The instance as it is printed. -/
structure Finished (i : Instance) : Prop where
  sound : i.fault? = none
  status : i.status = .complete
  applicationStatus : i.applicationStatus = some "paid"
  label : i.label = Text.trim ("Expense " ++ amount)
  data : i.data = SortedMap.ofList [("amount", [.text amount])]
  /-- There is one task, which the reviewer has completed. -/
  tasks : ∃ task, i.tasks.values = [task] ∧ task.id = "review-1" ∧ task.complete = true ∧
    task.active = false ∧ task.assignee = some reviewer
  /-- The reviewer has claimed the task and then completed it. -/
  operations : i.operations.map (fun entry => (entry.kind, entry.user)) =
    [(.claim, reviewer), (.complete, reviewer)]
  engineId : i.engineId ≠ none
  version : i.version = 5

/-- The template of the process names the amount and nothing else. -/
theorem pieces_template : Template.pieces "Expense \x7b\x7bamount\x7d\x7d".toList =
    [.literal "Expense ".toList, .field "amount".toList, .literal []] := by
  have opened : Template.cutAt? '\x7b' "Expense \x7b\x7bamount\x7d\x7d".toList =
      some ("Expense ".toList, "amount\x7d\x7d".toList) := by decide +kernel
  have closed : Template.cutAt? '\x7d' "amount\x7d\x7d".toList = some ("amount".toList, []) := by
    decide +kernel
  rw [Template.pieces_of_closed opened closed, Template.pieces_of_unopened rfl]

/-- The amount stands in the label as it is, whatever braces it holds. -/
theorem label_created : (created given amount).label = Text.trim ("Expense " ++ amount) := by
  have named : Text.trim "amount" = "amount" := by decide +kernel
  have held : (fields amount).get? "amount" = some [.text amount] :=
    SortedMap.get?_insert_self _ _ _
  show (if Text.trim "Expense \x7b\x7bamount\x7d\x7d" = "" then process.label
    else Template.fill "Expense \x7b\x7bamount\x7d\x7d" (fields amount)) = _
  rw [if_neg (by decide +kernel), Template.fill, pieces_template]
  simp [Template.shown, Template.shownValue, named, held, String.join]

/-- The only task of an instance is changed by an operation. -/
theorem upsertMany_delta (kind : OperationKind) {tasks : TaskSet} (old reported : Task) {new : Task}
    (only : tasks = SortedMap.insert ∅ reported.id old) (now : Instant)
    (change : kind.change? (some old) reported now = some new) (same : new.id = reported.id) :
    tasks.upsertMany (kind.delta tasks (some reported) now) =
      SortedMap.insert ∅ reported.id new := by
  have known : tasks.get? reported.id = some old := by
    rw [only]
    exact SortedMap.get?_insert_self _ _ _
  have changes : kind.delta tasks (some reported) now = [new] := by
    simp [OperationKind.delta, known, change]
  rw [changes, only, ← same]
  exact SortedMap.insert_insert_self _ _ _ _

theorem tasks_claimed : (claimed given amount reviewer).tasks =
    SortedMap.insert ∅ "review-1" (assigned given reviewer) :=
  upsertMany_delta .claim (review reviewer (given 2).now) (assigned given reviewer)
    (rfl : (recorded given amount reviewer).tasks = _) (given 3).now rfl rfl

theorem tasks_reviewed : (reviewed given amount reviewer).tasks =
    SortedMap.insert ∅ "review-1" ((assigned given reviewer).completedAt (given 4).now) :=
  upsertMany_delta .complete (assigned given reviewer) (assigned given reviewer)
    (tasks_claimed given amount reviewer) (given 4).now rfl rfl

theorem tasks_archived : (archived given amount reviewer).tasks =
    SortedMap.insert ∅ "review-1" ((assigned given reviewer).completedAt (given 4).now) := by
  have closed : (reviewed given amount reviewer).tasks.active = [] := by
    rw [tasks_reviewed]
    rfl
  have left : (archivePatch (given 5).now (reviewed given amount reviewer) deployment
      (fields amount)).tasks = [] := by rw [archivePatch, closed]; rfl
  unfold archived
  rw [Patch.tasks_stamp_merge, left]
  exact tasks_reviewed given amount reviewer

theorem data_archived : (archived given amount reviewer).data = fields amount := by
  show (fields amount).merge (fields amount) = fields amount
  refine SortedMap.ext_get? fun name => ?_
  rw [FieldData.get?_merge, Option.or_self]

theorem operations_archived (apart : (given 3).newOperation ≠ (given 4).newOperation) :
    (archived given amount reviewer).operations =
      [logEntry (given 3) .claim (claiming given reviewer) (Entity.user reviewer),
        logEntry (given 4) .complete (approving given reviewer) (Entity.user reviewer)] := by
  show (if OperationLog.contains
      [logEntry (given 3) .claim (claiming given reviewer) (Entity.user reviewer)]
      (given 4).newOperation then _ else _) = _
  rw [if_neg]
  · rfl
  · simpa [OperationLog.contains, logEntry] using apart

theorem finished_archived (apart : (given 3).newOperation ≠ (given 4).newOperation) :
    Finished amount reviewer (archived given amount reviewer) where
  sound := by
    refine (Instance.fault?_eq_none_iff _).2 fun _ => ⟨nofun, ?_⟩
    rw [tasks_archived]
    rfl
  status := rfl
  applicationStatus := rfl
  label := label_created given amount
  data := data_archived given amount reviewer
  tasks := ⟨_, by rw [tasks_archived]; rfl, rfl, rfl, rfl, rfl⟩
  operations := by
    show (archived given amount reviewer).operations.map _ = _
    rw [operations_archived given amount reviewer apart]
    rfl
  engineId := nofun
  version := rfl

/-- The amount is the only value in the data of the instance. -/
theorem eq_amount_of_mem_archived {values : List Json} {j : Json}
    (held : values ∈ (archived given amount reviewer).data.values) (member : j ∈ values) :
    j = .text amount := by
  rw [data_archived] at held
  obtain rfl := List.mem_singleton.1 held
  exact List.mem_singleton.1 member

/-- The times of the instance are readings of the clock. -/
theorem times_archived (apart : (given 3).newOperation ≠ (given 4).newOperation) :
    ∀ time ∈ (archived given amount reviewer).times, ∃ n, time = (given n).now := by
  have tasks : (archived given amount reviewer).tasks.times = [(given 2).now, (given 4).now] := by
    rw [tasks_archived]
    rfl
  have operations : (archived given amount reviewer).operations.times =
      [(given 3).now, (given 4).now] := by
    rw [operations_archived given amount reviewer apart]
    rfl
  have start : (archived given amount reviewer).start = (given 0).now := rfl
  have modified : (archived given amount reviewer).modified = (given 5).now := rfl
  have finish : (archived given amount reviewer).finish = some (given 5).now := rfl
  intro time member
  simp only [Instance.times, tasks, operations, start, modified, finish, Option.toList_some,
    List.mem_cons, List.mem_append, List.not_mem_nil, or_false] at member
  rcases member with rfl | rfl | (rfl | rfl | rfl) | rfl | rfl <;> exact ⟨_, rfl⟩

end

/-- Under any settings, and whatever amount and reviewer are given, no step of the demonstration
    fails, the instance is found to agree with its execution, and what is printed is the instance
    as it is to be: the text is that of its document, and it is read back as the instance itself
    while the clock is in the years 0 to 9999. The services answer, and the two operations get
    different names. -/
theorem run_completes (settings : Settings) (given : Nat → Context) (amount reviewer : String)
    (served : ∀ n, (given n).Served)
    (apart : (given 3).newOperation ≠ (given 4).newOperation) :
    ∃ i, run settings given amount reviewer = .ok (i, .synced) ∧
      Admin.perform settings given (.demo amount reviewer) = .ok (Admin.printed i) ∧
      Json.Source.read? (Admin.printed i) = some (.written (Document.encode i)) ∧
      ((∀ n, (given n).now.InYears) →
        (Json.Source.read? (Admin.printed i)).bind Document.read? = some i) ∧
      Finished amount reviewer i := by
  let configured := fun n => configure settings (given n)
  obtain ⟨s, led⟩ := lead_succeeds configured amount reviewer served
  have ran : run settings given amount reviewer =
      .ok (archived configured amount reviewer, .synced) := congrArg Prod.fst led
  have printed : Admin.perform settings given (.demo amount reviewer) =
      .ok (Admin.printed (archived configured amount reviewer)) := by
    unfold Admin.perform
    simp only [ran]
  have plain (depth : Nat) : ∀ values ∈ (archived configured amount reviewer).data.values,
      ∀ j ∈ values, Json.Plain depth j := by
    intro values held j member
    rw [eq_amount_of_mem_archived configured amount reviewer held member]
    trivial
  have fits : (archived configured amount reviewer).data.Fits .text := by
    intro values held j member
    rw [eq_amount_of_mem_archived configured amount reviewer held member]
    trivial
  refine ⟨_, ran, printed, Json.read?_pretty (Instance.plain (plain _)), fun years => ?_,
    finished_archived configured amount reviewer apart⟩
  refine Instance.read?_pretty (fun time member => ?_) (plain _) fits
  obtain ⟨n, rfl⟩ := times_archived configured amount reviewer apart time member
  exact years n

/-- Versions are checked, and instances are fetched one at a time. -/
def strict : Settings := { concurrency := .versionChecked, pageSize := 1 }

/-- What the steps are given; each operation gets a name of its own. -/
def supplied (n : Nat) : Context := { Desk.context "case-1" with newOperation := .ofNat n }

/-- An amount that looks like a placeholder is not filled in, and it is printed as it is. -/
theorem run_completes_braces :
    (∀ n, (supplied n).Served) ∧ (supplied 3).newOperation ≠ (supplied 4).newOperation ∧
      ∃ i text, run strict supplied " \x7b\x7bamount\x7d\x7d " "" = .ok (i, .synced) ∧
        Admin.perform strict supplied (.demo " \x7b\x7bamount\x7d\x7d " "") = .ok text ∧
        (Json.Source.read? text).bind Document.read? = some i ∧
        i.label = "Expense  \x7b\x7bamount\x7d\x7d" ∧
        i.data.get? "amount" = some [.text " \x7b\x7bamount\x7d\x7d "] ∧ i.version = 5 := by
  have served : ∀ n, (supplied n).Served := fun n call => rfl
  have apart : (supplied 3).newOperation ≠ (supplied 4).newOperation := by decide
  have years : ∀ n, (supplied n).now.InYears := by
    intro n
    show (Desk.context "case-1").now.InYears
    unfold Instant.InYears
    decide +kernel
  obtain ⟨i, ran, printed, -, again, finished⟩ :=
    run_completes strict supplied " \x7b\x7bamount\x7d\x7d " "" served apart
  refine ⟨served, apart, i, _, ran, printed, again years, finished.label.trans (by decide +kernel),
    ?_, finished.version⟩
  rw [finished.data]
  exact SortedMap.get?_insert_self _ _ _

end Demo
end Casework
