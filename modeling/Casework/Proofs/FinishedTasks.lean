import Casework.Proofs.CompletedTasks
import Casework.Proofs.ForwardRecords

/-!
Tasks that are finished. An operation starts from the instance's own copy of a task, and none takes
the mark of completion away: a claim sets the task active and leaves it complete, so it is not open.
So a task that is complete is never open again (`finished_tasks_stay`), unless a request puts
another task in its place as it comes (`ReplacesTasks`).
-/

namespace Casework

open Casework.Action Casework.Lifecycle

namespace TaskSet

/-- Whichever of the tasks takes the place of a complete one is complete itself. -/
def Spares (s : TaskSet) (tasks : List Task) : Prop :=
  ∀ changed ∈ tasks, ∀ known, s.get? changed.id = some known →
    known.complete = true → changed.complete = true

/-- The second set has its tasks under their own names, and what is complete in the first set is
    complete in it. -/
structure Finished (s t : TaskSet) : Prop where
  keyed : t.Keyed
  complete : ∀ name task, s.get? name = some task → task.complete = true →
    ∃ kept, t.get? name = some kept ∧ kept.complete = true

theorem Keyed.finished_self {s : TaskSet} (keyed : s.Keyed) : s.Finished s :=
  ⟨keyed, fun _ task held complete => ⟨task, held, complete⟩⟩

theorem Finished.trans {s t u : TaskSet} (first : s.Finished t) (next : t.Finished u) :
    s.Finished u := by
  refine ⟨next.keyed, fun name task held complete => ?_⟩
  obtain ⟨kept, held', complete'⟩ := first.complete name task held complete
  exact next.complete name kept held' complete'

theorem Keyed.finished_upsertMany {s : TaskSet} (keyed : s.Keyed) {tasks : List Task}
    (spares : s.Spares tasks) : s.Finished (s.upsertMany tasks) := by
  refine ⟨keyed.upsertMany tasks, fun name task held complete => ?_⟩
  rw [get?_upsertMany]
  cases last : lastOf tasks name with
  | none => exact ⟨task, held, complete⟩
  | some changed =>
    have named : changed.id = name := by simpa using List.find?_some last
    rw [← named] at held
    exact ⟨changed, rfl, spares changed (mem_of_lastOf last) task held complete⟩

theorem Keyed.id_ne_of_active {s : TaskSet} (keyed : s.Keyed) {name : TaskId} {task : Task}
    (held : s.get? name = some task) (complete : task.complete = true) :
    ∀ active ∈ s.active, active.id ≠ name := by
  rintro active member rfl
  obtain ⟨⟨id, held'⟩, isOpen⟩ := (s.mem_active_iff active).1 member
  rw [← keyed.id_eq held', held] at held'
  obtain rfl := Option.some.inj held'
  simp [Task.isOpen, complete] at isOpen

/-! ### What takes the place of a task -/

/-- An operation other than an update works on the task that the set has. -/
theorem Keyed.spares_delta {s : TaskSet} (keyed : s.Keyed) {kind : OperationKind}
    (works : kind ≠ .update) (reported : Option Task) (now : Instant) :
    s.Spares (kind.delta s reported now) := by
  cases reported with
  | none => exact fun changed member => absurd member List.not_mem_nil
  | some task =>
    intro changed member known held complete
    have change : kind.change? (s.get? task.id) task now = some changed :=
      Option.mem_toList.1 member
    cases here : s.get? task.id with
    | none =>
      -- The set does not have the task that is reported, so nothing stands in its place.
      have same : changed.id = task.id := by
        rw [here] at change
        cases kind with
        | update => exact absurd rfl works
        | assign | claim | complete | reject => cases change; rfl
        | cancel | activation | suspension => cases change
      rw [same, here] at held
      cases held
    | some own =>
      rw [here] at change
      have name := keyed.id_eq here
      cases kind with
      | update => exact absurd rfl works
      | assign | claim =>
        cases change
        have same : own = known :=
          Option.some.inj (here.symm.trans ((congrArg s.get? name.symm).trans held))
        rw [← same] at complete
        exact complete
      | complete | reject => cases change; rfl
      | cancel | activation | suspension => cases change

theorem Keyed.spares_deactivated {s : TaskSet} (keyed : s.Keyed) :
    s.Spares (s.active.map Task.deactivated) := by
  intro changed member known held complete
  obtain ⟨active, isActive, rfl⟩ := List.mem_map.1 member
  exact absurd rfl (keyed.id_ne_of_active held complete active isActive)

end TaskSet

namespace Request

variable {ctx : Context} {s : State} {r : Request}

/-- The request puts tasks in the place of others as they come. -/
def ReplacesTasks : Request → Prop
  | .recordTask _ _ | .applyTask _ .update _ | .changeInstance _ _ | .updateInstance _ _ => True
  | _ => False

theorem spares_taskPatch {current : Instance} (keyed : current.tasks.Keyed) (now : Instant)
    (kind : OperationKind) (result : Outcome) :
    current.tasks.Spares (taskPatch now kind result current) := by
  cases kind with
  | assign | update => exact fun changed member => absurd member List.not_mem_nil
  | _ => exact keyed.spares_delta (by decide) result.task now

theorem spares_of_sends (allowed : ¬r.ReplacesTasks) {id : InstanceId} {current : Instance}
    {patch : Patch} (keyed : current.tasks.Keyed) (sends : r.Sends ctx s id current patch) :
    current.tasks.Spares patch.tasks := by
  have nothing : current.tasks.Spares [] := fun changed member => absurd member List.not_mem_nil
  cases sends with
  | operate =>
    rw [guarded_eq]
    exact spares_taskPatch keyed _ _ _
  | archive =>
    rw [guarded_eq]
    exact keyed.spares_deactivated
  | detach =>
    rw [guarded_eq]
    exact nothing
  | @applyTask _ kind =>
    have works : kind ≠ .update := by
      rintro rfl
      exact allowed trivial
    exact keyed.spares_delta works _ _
  | accept | start => exact nothing
  | recordTask | changeInstance | updateInstance => exact absurd trivial allowed

theorem finished_perform (allowed : ¬r.ReplacesTasks) :
    s.Carries (fun i j => i.tasks.Keyed → i.tasks.Finished j.tasks)
      (outcome (r.perform ctx) s).2 := by
  refine carries_perform (fun _ keyed => keyed.finished_self) fun sends applied keyed => ?_
  have merged := keyed.finished_upsertMany (spares_of_sends allowed keyed sends)
  rw [Patch.eq_of_apply applied]
  exact merged

theorem finished_run {calls : List (Context × Request)}
    (allowed : ∀ call ∈ calls, ¬call.2.ReplacesTasks) {m n : Nat} (later : m ≤ n) :
    (run (calls.take m) s).2.Carries (fun i j => i.tasks.Keyed → i.tasks.Finished j.tasks)
      (run (calls.take n) s).2 :=
  carries_run (fun _ keyed => keyed.finished_self)
    (fun first next keyed => (first keyed).trans (next (first keyed).keyed))
    (fun call member _ => finished_perform (allowed call member)) later

/-- In a run that puts no tasks in the place of others as they come, a task that is complete at some
    point stays in its instance under its name, stays complete and is none of the open ones. -/
theorem finished_tasks_stay {calls : List (Context × Request)}
    (allowed : ∀ call ∈ calls, ¬call.2.ReplacesTasks) {s : State} {id : InstanceId}
    {i : Instance} (found : s.storage.instances.get? id = some i) (keyed : i.tasks.Keyed)
    {m n : Nat} (later : m ≤ n) {j : Instance}
    (between : (run (calls.take m) s).2.storage.instances.get? id = some j) {name : TaskId}
    {task : Task} (held : j.tasks.get? name = some task) (complete : task.complete = true) :
    ∃ k kept, (run (calls.take n) s).2.storage.instances.get? id = some k ∧
      k.tasks.get? name = some kept ∧ kept.id = name ∧ kept.complete = true ∧
      ∀ active ∈ k.tasks.active, active.id ≠ name := by
  obtain ⟨j', between', first⟩ := finished_run allowed (Nat.zero_le m) id i found
  obtain rfl := Option.some.inj (between.symm.trans between')
  obtain ⟨k, after, next⟩ := finished_run allowed later id j between
  have finished := next (first keyed).keyed
  obtain ⟨kept, held', complete'⟩ := finished.complete name task held complete
  exact ⟨k, kept, after, held', finished.keyed.id_eq held', complete',
    finished.keyed.id_ne_of_active held' complete'⟩

/-- The instance has been created with the inspection to be done. -/
def toInspect : State :=
  (run [Desk.creation, (Desk.context "-", .recordTask Desk.opened (some inspection))]
    Desk.empty).2

/-- The inspection is completed and the instance is cancelled. Then it is activated, and the
    inspection is claimed, rejected and claimed again as if it were still to be done. -/
def inspectedAgain : List (Context × Request) := [
  inspecting .complete, inspecting .cancel, inspecting .activation, inspecting .claim,
  inspecting .reject, (Desk.context "-", .archive Desk.opened ∅), inspecting .claim]

theorem finished_tasks_stay_inspected :
    (∀ call ∈ inspectedAgain, ¬call.2.ReplacesTasks) ∧
      (∃ i, toInspect.storage.instances.get? "case-1" = some i ∧ i.tasks.Keyed ∧
        i.tasks.active = [inspection]) ∧
      (run inspectedAgain toInspect).1.map Except.isOk =
        [true, true, true, true, true, true, true] ∧
      ∃ k kept, (run inspectedAgain toInspect).2.storage.instances.get? "case-1" = some k ∧
        k.tasks.get? "inspection-1" = some kept ∧ kept.complete = true ∧ kept.active = true ∧
        ∀ active ∈ k.tasks.active, active.id ≠ "inspection-1" := by
  have allowed : ∀ call ∈ inspectedAgain, ¬call.2.ReplacesTasks := by
    simp [inspectedAgain, inspecting, ReplacesTasks]
  have first : (toInspect.storage.instances.get? "case-1").map (fun i => i.tasks) =
      some (TaskSet.ofTasks [inspection]) := by decide +kernel
  obtain ⟨i, found, tasks⟩ := Option.map_eq_some_iff.1 first
  have keyed : i.tasks.Keyed := by
    rw [tasks]
    exact TaskSet.keyed_empty.upsertMany [inspection]
  have completed : ((run (inspectedAgain.take 1) toInspect).2.storage.instances.get? "case-1").map
      (fun i => (i.tasks.get? "inspection-1").map Task.complete) = some (some true) := by
    decide +kernel
  obtain ⟨j, between, done⟩ := Option.map_eq_some_iff.1 completed
  obtain ⟨task, held, complete⟩ := Option.map_eq_some_iff.1 done
  obtain ⟨k, kept, after, there, -, stays, closed⟩ :=
    finished_tasks_stay allowed found keyed (by decide : 1 ≤ 7) between held complete
  have claimed : ((run inspectedAgain toInspect).2.storage.instances.get? "case-1").map
      (fun i => (i.tasks.get? "inspection-1").map Task.active) = some (some true) := by
    decide +kernel
  have whole : inspectedAgain.take 7 = inspectedAgain := rfl
  rw [whole] at after
  refine ⟨allowed, ⟨i, found, keyed, by rw [tasks]; decide +kernel⟩, by decide +kernel, k, kept,
    after, there, stays, ?_, closed⟩
  rw [after, Option.map_some, there] at claimed
  exact Option.some.inj (Option.some.inj claimed)

end Request
end Casework
