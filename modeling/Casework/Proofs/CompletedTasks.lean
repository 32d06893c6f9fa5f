import Casework.Proofs.Statuses

/-!
Tasks that are complete. A task that is complete should not be active any more, and no operation but
a claim and an assignment makes it so (`coherent_change_iff`). So in a run where only coherent tasks
are handed in, all tasks are coherent throughout exactly if no claim or assignment takes up a task
that is complete (`coherent_tasks_iff`).
-/

namespace Casework

open Casework.Action Casework.Lifecycle

/-- If the task is complete, it is not active. -/
def Task.Coherent (task : Task) : Prop := task.complete = true → task.active = false

theorem Task.coherent_completedAt (task : Task) (time : Instant) :
    (task.completedAt time).Coherent :=
  fun _ => rfl

theorem Task.coherent_deactivated (task : Task) : task.deactivated.Coherent := fun _ => rfl

namespace TaskSet

/-- No task of the set is both complete and active. -/
def Coherent (s : TaskSet) : Prop := ∀ id task, s.get? id = some task → task.Coherent

theorem Coherent.upsertMany {s : TaskSet} (coherent : s.Coherent) {tasks : List Task}
    (brought : ∀ task ∈ tasks, task.Coherent) : (s.upsertMany tasks).Coherent := by
  intro id task held
  rw [get?_upsertMany] at held
  cases last : lastOf tasks id with
  | some changed =>
    rw [last] at held
    obtain rfl := Option.some.inj held
    exact brought changed (mem_of_lastOf last)
  | none =>
    rw [last] at held
    exact coherent id task held

theorem Coherent.of_upsertMany {s : TaskSet} {tasks : List Task} (single : tasks.length ≤ 1)
    (coherent : (s.upsertMany tasks).Coherent) : ∀ task ∈ tasks, task.Coherent := by
  intro task member
  cases tasks with
  | nil => cases member
  | cons only rest =>
    obtain rfl : rest = [] := by simpa using single
    obtain rfl := List.mem_singleton.1 member
    refine coherent task.id task ?_
    rw [get?_upsertMany]
    simp [lastOf]

end TaskSet

/-! ### What operations do to tasks -/

namespace OperationKind

/-- The operation takes up the reported task, and the task is complete: in the record or, if the
    record does not have it, as it is reported. -/
def TakesUpComplete (kind : OperationKind) (tasks : TaskSet) (reported : Option Task) : Prop :=
  (kind = .assign ∨ kind = .claim) ∧
    ∃ task, reported = some task ∧ ((tasks.get? task.id).getD task).complete = true

/-- The task that an operation leaves is coherent unless the operation takes up a complete task. -/
theorem coherent_change_iff {kind : OperationKind} {known : Option Task} {reported task : Task}
    {now : Instant} (report : reported.Coherent)
    (changed : kind.change? known reported now = some task) :
    task.Coherent ↔
      ¬((kind = .assign ∨ kind = .claim) ∧ (known.getD reported).complete = true) := by
  cases kind with
  | assign | claim =>
    cases changed
    simp [Task.Coherent, Task.assignedTo]
  | complete | reject =>
    cases changed
    simp [Task.coherent_completedAt]
  | update =>
    cases changed
    simpa using report
  | cancel | activation | suspension => cases changed

theorem length_delta_le (kind : OperationKind) (tasks : TaskSet) (reported : Option Task)
    (now : Instant) : (kind.delta tasks reported now).length ≤ 1 := by
  unfold delta
  cases reported with
  | none => exact Nat.zero_le 1
  | some task => cases kind.change? (tasks.get? task.id) task now <;> simp

theorem coherent_delta_iff {kind : OperationKind} {tasks : TaskSet} {reported : Option Task}
    {now : Instant} (report : ∀ task, reported = some task → task.Coherent) :
    (∀ task ∈ kind.delta tasks reported now, task.Coherent) ↔
      ¬kind.TakesUpComplete tasks reported := by
  unfold delta TakesUpComplete
  cases reported with
  | none => simp
  | some task =>
    have changes {changed : Task}
        (change : kind.change? (tasks.get? task.id) task now = some changed) :=
      coherent_change_iff (report task rfl) change
    cases change : kind.change? (tasks.get? task.id) task now with
    | none => cases kind <;> simp_all [change?]
    | some changed => simpa [change] using changes change

end OperationKind

namespace Request

variable {ctx : Context} {s : State}

/-- The task that a request hands in. -/
def handed? : Request → Option Task
  | .operate _ result _ _ => result.task
  | .recordTask _ task => task
  | .applyTask _ _ reported => reported
  | _ => none

/-- The request takes up a task that is complete, and is carried out. -/
inductive Reawakens (ctx : Context) (s : State) : Request → Prop
  | claim {result : Outcome} {seen current : Instance} {principal : Entity}
      (found : s.storage.instances.get? seen.id = some current)
      (complete : OperationKind.claim.TakesUpComplete current.tasks result.task)
      (ok : (outcome ((operate .claim result seen principal).perform ctx) s).1.isOk = true) :
      Reawakens ctx s (.operate .claim result seen principal)
  | applyTask {id : InstanceId} {kind : OperationKind} {reported : Option Task}
      {current : Instance} (found : s.storage.instances.get? id = some current)
      (complete : kind.TakesUpComplete current.tasks reported)
      (ok : (outcome ((applyTask id kind reported).perform ctx) s).1.isOk = true) :
      Reawakens ctx s (.applyTask id kind reported)

theorem Reawakens.isOk {r : Request} (reawakens : Reawakens ctx s r) :
    (outcome (r.perform ctx) s).1.isOk = true := by
  cases reawakens <;> assumption

/-- All stored tasks are coherent. -/
abbrev AllCoherent (s : State) : Prop := Every (fun i => i.tasks.Coherent) s

theorem allCoherent_iff_of_failed {r : Request}
    (kept : (outcome (r.perform ctx) s).2.storage.instances = s.storage.instances)
    (failed : (outcome (r.perform ctx) s).1.isOk = false) (coherent : AllCoherent s) :
    AllCoherent (outcome (r.perform ctx) s).2 ↔ ¬Reawakens ctx s r := by
  refine iff_of_true (fun id i held => ?_) fun reawakens => ?_
  · rw [kept] at held
    exact coherent id i held
  · exact Bool.false_ne_true (failed.symm.trans reawakens.isOk)

/-- Some tasks of one instance have been upserted, and of the other instances none. -/
structure Upserted (id : InstanceId) (changed : List Task) (s s' : State)
    (current i : Instance) : Prop where
  found : s.storage.instances.get? id = some current
  held : s'.storage.instances.get? id = some i
  tasks : i.tasks = current.tasks.upsertMany changed
  others : ∀ other, other ≠ id →
    s'.storage.instances.get? other = s.storage.instances.get? other

/-- After a task of one instance has been upserted, all tasks are coherent exactly if that one
    is. -/
theorem Upserted.allCoherent_iff {s' : State} {id : InstanceId} {current i : Instance}
    {changed : List Task} (upserted : Upserted id changed s s' current i)
    (single : changed.length ≤ 1) (coherent : AllCoherent s) :
    AllCoherent s' ↔ ∀ task ∈ changed, task.Coherent := by
  constructor
  · intro kept
    have after : (current.tasks.upsertMany changed).Coherent := by
      rw [← upserted.tasks]
      exact kept id i upserted.held
    exact after.of_upsertMany single
  · intro brought other j held
    by_cases here : other = id
    · subst here
      obtain rfl := Option.some.inj (upserted.held.symm.trans held)
      rw [upserted.tasks]
      exact (coherent other current upserted.found).upsertMany brought
    · rw [upserted.others other here] at held
      exact coherent other j held

def WorksOnTasks : Request → Prop
  | .operate _ _ _ _ | .applyTask _ _ _ => True
  | _ => False

theorem lasting_coherent :
    Lasting (fun r => ¬r.Writes ∧ (∀ task, r.handed? = some task → task.Coherent) ∧
      ¬r.WorksOnTasks) fun i => i.tasks.Coherent where
  opened := by
    rintro ctx r i ⟨allowed, -⟩ opens
    cases opens with
    | create => exact fun id task held => by cases held
    | saveInstance => exact absurd trivial allowed
  patched := by
    rintro ctx s r id current patch updated ⟨allowed, report, idle⟩ sends coherent applied
    have brought : ∀ task ∈ patch.tasks, task.Coherent := by
      intro task member
      cases sends with
      | operate | applyTask => exact absurd trivial idle
      | archive =>
        rw [guarded_eq] at member
        obtain ⟨active, -, rfl⟩ := List.mem_map.1 member
        exact active.coherent_deactivated
      | detach =>
        rw [guarded_eq] at member
        exact absurd member List.not_mem_nil
      | recordTask =>
        obtain rfl := List.mem_singleton.1 member
        exact report _ rfl
      | accept | start => exact absurd member List.not_mem_nil
      | changeInstance | updateInstance => exact absurd trivial allowed
    have merged := coherent.upsertMany brought
    rw [Patch.eq_of_apply applied]
    exact merged

variable {kind : OperationKind} {result : Outcome} {seen : Instance} {principal : Entity}

theorem coherent_taskPatch_iff {current : Instance}
    (report : ∀ task, result.task = some task → task.Coherent) :
    (∀ task ∈ taskPatch ctx.now kind result current, task.Coherent) ↔
      ¬(kind = .claim ∧ kind.TakesUpComplete current.tasks result.task) := by
  cases kind with
  | assign | update => simp [taskPatch]
  | claim =>
    rw [and_iff_right rfl]
    exact OperationKind.coherent_delta_iff report
  | complete | reject | cancel | activation | suspension =>
    refine (OperationKind.coherent_delta_iff report).trans ?_
    simp [OperationKind.TakesUpComplete]

theorem length_taskPatch_le (now : Instant) (kind : OperationKind) (result : Outcome)
    (current : Instance) : (taskPatch now kind result current).length ≤ 1 := by
  cases kind with
  | assign | update => exact Nat.zero_le 1
  | _ => exact OperationKind.length_delta_le _ _ _ _

theorem allCoherent_operate_iff (report : ∀ task, result.task = some task → task.Coherent)
    (coherent : AllCoherent s) :
    AllCoherent (outcome ((operate kind result seen principal).perform ctx) s).2 ↔
      ¬Reawakens ctx s (.operate kind result seen principal) := by
  cases ok : (outcome ((operate kind result seen principal).perform ctx) s).1.isOk with
  | false => exact allCoherent_iff_of_failed (instances_of_not_isOk ok) ok coherent
  | true =>
    obtain ⟨current, i, done⟩ := done_of_isOk ok
    have upserted : Upserted seen.id (taskPatch ctx.now kind result current) s _ current i :=
      ⟨done.found, done.held, done.tasks, done.others⟩
    rw [upserted.allCoherent_iff (length_taskPatch_le ctx.now kind result current) coherent,
      coherent_taskPatch_iff report]
    refine not_congr ⟨?_, fun reawakens => ?_⟩
    · rintro ⟨rfl, complete⟩
      exact .claim done.found complete ok
    · cases reawakens with
      | claim found complete =>
        obtain rfl := Option.some.inj (done.found.symm.trans found)
        exact ⟨rfl, complete⟩

variable {id : InstanceId} {reported : Option Task}

/-- The tasks of an instance are changed as an operation would change them, or nothing is. -/
theorem applied_or_kept (ctx : Context) (id : InstanceId) (kind : OperationKind)
    (reported : Option Task) (s : State) :
    (∃ current i, Upserted id (kind.delta current.tasks reported ctx.now) s
          (outcome ((applyTask id kind reported).perform ctx) s).2 current i ∧
        (outcome ((applyTask id kind reported).perform ctx) s).1.isOk = true) ∨
      (outcome ((applyTask id kind reported).perform ctx) s).2.storage.instances =
          s.storage.instances ∧
        (outcome ((applyTask id kind reported).perform ctx) s).1.isOk = false := by
  rw [perform, state_map, isOk_map]
  have ended := applyTask_taskApplied ctx id kind reported s
  generalize outcome (Lifecycle.applyTask ctx id kind reported) s = after at ended ⊢
  cases ended with
  | refused => exact .inr ⟨rfl, rfl⟩
  | @idle current found nothing =>
    exact .inl ⟨current, current, ⟨found, found, by rw [nothing]; rfl, fun _ _ => rfl⟩, rfl⟩
  | @done current after found change =>
    cases change with
    | refused => exact .inr ⟨rfl, rfl⟩
    | @done stored updated changed found' applied =>
      obtain rfl := Option.some.inj (found.symm.trans found')
      obtain ⟨i, held, same⟩ := get?_keep found applied
      have tasks := congrArg Instance.tasks same
      have merged : updated.tasks = current.tasks.upsertMany
          (kind.delta current.tasks reported ctx.now) := by
        rw [Patch.eq_of_apply applied]
        cases changed <;> rfl
      exact .inl ⟨current, i, ⟨found, held, tasks.symm.trans merged,
        fun other apart => get?_keep_of_ne apart changed updated⟩, rfl⟩

theorem allCoherent_applyTask_iff (report : ∀ task, reported = some task → task.Coherent)
    (coherent : AllCoherent s) :
    AllCoherent (outcome ((applyTask id kind reported).perform ctx) s).2 ↔
      ¬Reawakens ctx s (.applyTask id kind reported) := by
  rcases applied_or_kept ctx id kind reported s with
    ⟨current, i, upserted, ok⟩ | ⟨kept, failed⟩
  · rw [upserted.allCoherent_iff (kind.length_delta_le _ _ _) coherent,
      OperationKind.coherent_delta_iff report]
    refine not_congr ⟨fun complete => .applyTask upserted.found complete ok, fun reawakens => ?_⟩
    cases reawakens with
    | applyTask found complete =>
      obtain rfl := Option.some.inj (upserted.found.symm.trans found)
      exact complete
  · exact allCoherent_iff_of_failed kept failed coherent

/-! ### Runs -/

/-- A request that is handed a coherent task keeps all tasks coherent exactly if it does not take
    up a complete one. -/
theorem allCoherent_perform_iff {r : Request} (allowed : ¬r.Writes)
    (report : ∀ task, r.handed? = some task → task.Coherent) (coherent : AllCoherent s) :
    AllCoherent (outcome (r.perform ctx) s).2 ↔ ¬Reawakens ctx s r := by
  by_cases works : r.WorksOnTasks
  · cases r with
    | operate kind result seen principal => exact allCoherent_operate_iff report coherent
    | applyTask id kind reported => exact allCoherent_applyTask_iff report coherent
    | _ => exact works.elim
  · have kept := perform_every lasting_coherent ctx r s ⟨allowed, report, works⟩ coherent
    refine iff_of_true kept fun reawakens => ?_
    cases reawakens <;> exact works trivial

/-- In a run that writes no record as it comes and is handed coherent tasks only, no stored task is
    ever both complete and active exactly if no claim and no assignment of a complete task is
    carried out in it. -/
theorem coherent_tasks_iff {calls : List (Context × Request)}
    (allowed : ∀ call ∈ calls, ¬call.2.Writes)
    (report : ∀ call ∈ calls, ∀ task, call.2.handed? = some task →
      task.complete = true → task.active = false)
    {s : State} (first : ∀ id i, s.storage.instances.get? id = some i →
      ∀ name task, i.tasks.get? name = some task → task.complete = true → task.active = false) :
    (∀ n id i, (run (calls.take n) s).2.storage.instances.get? id = some i →
        ∀ name task, i.tasks.get? name = some task → task.complete = true → task.active = false) ↔
      ∀ n ctx r, calls[n]? = some (ctx, r) → ¬Reawakens ctx (run (calls.take n) s).2 r := by
  have step (n : Nat) (ctx : Context) (r : Request) (at_n : calls[n]? = some (ctx, r))
      (coherent : AllCoherent (run (calls.take n) s).2) :
      AllCoherent (outcome (r.perform ctx) (run (calls.take n) s).2).2 ↔
        ¬Reawakens ctx (run (calls.take n) s).2 r := by
    have member := List.mem_of_getElem? at_n
    exact allCoherent_perform_iff (allowed _ member) (report _ member) coherent
  exact run_always_iff first step

def inspection : Task := { id := "inspection-1", definition := "inspection", start := .ofSecond 0 }

theorem coherent_empty (id : InstanceId) (i : Instance)
    (found : Desk.empty.storage.instances.get? id = some i) (name : TaskId) (task : Task)
    (_ : i.tasks.get? name = some task) : task.complete = true → task.active = false := by
  cases found

def inspecting (kind : OperationKind) : Context × Request :=
  (Desk.context "-", .operate kind { task := some inspection } Desk.opened Desk.alice)

/-- The inspection is reported, claimed and completed, and rejected after that. -/
def inspected : List (Context × Request) := [
  Desk.creation,
  (Desk.context "-", .recordTask Desk.opened (some inspection)),
  inspecting .claim, inspecting .complete, inspecting .reject]

theorem coherent_tasks_inspected :
    (∀ call ∈ inspected, ¬call.2.Writes) ∧
      (∀ call ∈ inspected, ∀ task, call.2.handed? = some task →
        task.complete = true → task.active = false) ∧
      ((run inspected Desk.empty).2.storage.instances.get? "case-1").map
        (fun i => i.tasks.values.map fun task => (task.id, task.complete)) =
          some [("inspection-1", true)] ∧
      ∀ n id i, (run (inspected.take n) Desk.empty).2.storage.instances.get? id = some i →
        ∀ name task, i.tasks.get? name = some task →
          task.complete = true → task.active = false := by
  have allowed : ∀ call ∈ inspected, ¬call.2.Writes := by
    simp [inspected, inspecting, Desk.creation, Writes]
  have report : ∀ call ∈ inspected, ∀ task, call.2.handed? = some task →
      task.complete = true → task.active = false := by
    simp [inspected, inspecting, Desk.creation, handed?, inspection]
  refine ⟨allowed, report, by decide +kernel, ?_⟩
  refine (coherent_tasks_iff allowed report coherent_empty).2 fun n ctx r at_n reawakens => ?_
  obtain _ | _ | _ | _ | _ | n := n
  · cases at_n
    cases reawakens
  · cases at_n
    cases reawakens
  · -- The inspection is claimed while it is to be done.
    have undone : ((run (inspected.take 2) Desk.empty).2.storage.instances.get? "case-1").map
        (fun i => ((i.tasks.get? inspection.id).getD inspection).complete) = some false := by
      decide +kernel
    cases at_n
    cases reawakens with
    | claim found complete =>
      obtain ⟨-, task, same, done⟩ := complete
      obtain rfl := Option.some.inj same
      have stored := congrArg (Option.map fun i : Instance =>
        ((i.tasks.get? inspection.id).getD inspection).complete) found
      have contrary := Option.some.inj (undone.symm.trans stored)
      exact Bool.false_ne_true (contrary.trans done)
  · cases at_n
    cases reawakens
  · cases at_n
    cases reawakens
  · cases at_n

/-- The inspection is reported and completed, and claimed after that. -/
def claimedLate : List (Context × Request) := [
  Desk.creation,
  (Desk.context "-", .recordTask Desk.opened (some inspection)),
  inspecting .complete, inspecting .claim]

theorem active_claimedLate :
    (∀ call ∈ claimedLate, ¬call.2.Writes) ∧
      (∀ call ∈ claimedLate, ∀ task, call.2.handed? = some task →
        task.complete = true → task.active = false) ∧
      (∀ id i, Desk.empty.storage.instances.get? id = some i →
        ∀ name task, i.tasks.get? name = some task →
          task.complete = true → task.active = false) ∧
      ∃ i task, (run claimedLate Desk.empty).2.storage.instances.get? "case-1" = some i ∧
        i.tasks.get? "inspection-1" = some task ∧ task.complete = true ∧ task.active = true := by
  refine ⟨by simp [claimedLate, inspecting, Desk.creation, Writes],
    by simp [claimedLate, inspecting, Desk.creation, handed?, inspection], coherent_empty, ?_⟩
  have held : ((run claimedLate Desk.empty).2.storage.instances.get? "case-1").map
      (fun i => (i.tasks.get? "inspection-1").map fun task => (task.complete, task.active)) =
        some (some (true, true)) := by decide +kernel
  obtain ⟨i, found, same⟩ := Option.map_eq_some_iff.1 held
  obtain ⟨task, stored, flags⟩ := Option.map_eq_some_iff.1 same
  obtain ⟨complete, active⟩ := Prod.mk.inj flags
  exact ⟨i, task, found, stored, complete, active⟩

end Request
end Casework
