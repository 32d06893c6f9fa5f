import Casework.Proofs.StoredChanges

/-!
Complete instances. What a complete instance must be, its record is not checked for: archiving alone
completes an instance, and it sets the end time and closes the open tasks, and after that the record
refuses every open task. So records that are `Sound` stay so in every run of requests that do not
write records as they come (`run_faultless`).
-/

namespace Casework

open Casework.Action Casework.Lifecycle Casework.Reconcile

/-- The tasks stand under their own names, and if the record is complete, nothing is missing. -/
structure Instance.Sound (i : Instance) : Prop where
  keyed : i.tasks.Keyed
  faultless : i.fault? = none

namespace Patch

/-- If the patch completes the instance, it sets the end time and changes every open task. -/
def WindsUp (p : Patch) (i : Instance) : Prop :=
  p.status = some .complete →
    p.finish ≠ none ∧ ∀ task ∈ i.tasks.active, ∃ changed ∈ p.tasks, changed.id = task.id

theorem windsUp_of_status {p : Patch} {i : Instance} (other : p.status ≠ some .complete) :
    p.WindsUp i := fun complete => absurd complete other

/-- What a patch leaves complete was complete before, or the patch completes it. -/
theorem complete_of_statusAfter {p : Patch} {i : Instance}
    (complete : p.statusAfter i = .complete) :
    p.status = some .complete ∨ i.status = .complete := by
  unfold statusAfter at complete
  cases set : p.status with
  | none =>
    rw [set] at complete
    exact .inr complete
  | some status =>
    rw [set] at complete
    exact .inl (congrArg some complete)

theorem finish_merge {p : Patch} {i : Instance} (windsUp : p.WindsUp i) (sound : i.Sound)
    (complete : p.statusAfter i = .complete) : (p.merge i).finish ≠ none := by
  show p.finish.or i.finish ≠ none
  intro unfinished
  obtain ⟨unset, unfinished⟩ := Option.or_eq_none_iff.1 unfinished
  rcases complete_of_statusAfter complete with set | was
  · exact (windsUp set).1 unset
  · exact ((i.fault?_eq_none_iff.1 sound.faultless was).1) unfinished

/-- A patch that an ended instance takes brings closed tasks only, and the open tasks are closed
    already or are among those that it brings. -/
theorem active_merge {p : Patch} {i : Instance} (windsUp : p.WindsUp i) (sound : i.Sound)
    (accepted : p.refusal? i = none) (complete : p.statusAfter i = .complete) :
    (p.merge i).tasks.active = [] := by
  have closed := (p.openTask?_eq_none_iff i).1 ((p.refusal?_eq_none_iff i).1 accepted).2.2
    (by rw [complete]; rfl)
  refine (sound.keyed.active_upsertMany closed).2 fun task active => ?_
  rcases complete_of_statusAfter complete with set | was
  · exact (windsUp set).2 task active
  · rw [(i.fault?_eq_none_iff.1 sound.faultless was).2] at active
    exact absurd active List.not_mem_nil

theorem sound_merge {p : Patch} {i : Instance} (windsUp : p.WindsUp i) (sound : i.Sound)
    (accepted : p.refusal? i = none) : (p.merge i).Sound where
  keyed := sound.keyed.upsertMany p.tasks
  faultless := (p.merge i).fault?_eq_none_iff.2 fun complete =>
    ⟨finish_merge windsUp sound complete, active_merge windsUp sound accepted complete⟩

end Patch

/-! ### What requests send -/

namespace OperationKind

/-- The status that an operation gives to an instance, if it gives it one. -/
def status? : OperationKind → Option Status
  | .suspension => some .suspended
  | .activation => some .running
  | .cancel => some .cancelled
  | .assign | .claim | .complete | .reject | .update => none

theorem status?_ne_complete (kind : OperationKind) : kind.status? ≠ some .complete := by
  cases kind <;> simp [status?]

end OperationKind

namespace Lifecycle

@[simp] theorem status_guarded (ctx : Context) (seen : Instance) (patch : Patch) :
    (guarded ctx seen patch).status = patch.status := by
  rw [guarded_eq]

theorem status_operationPatch (ctx : Context) (kind : OperationKind) (result : Outcome)
    (current : Instance) (deployment : Option Deployment) (principal : Entity) :
    (operationPatch ctx kind result current deployment principal).status = kind.status? := by
  cases kind <;> rfl

theorem windsUp_archivePatch (ctx : Context) (seen current : Instance) (d : Deployment)
    (data : FieldData) :
    (guarded ctx seen (archivePatch ctx.now current d data)).WindsUp current := by
  have winds : (archivePatch ctx.now current d data).WindsUp current := by
    refine fun _ => ⟨by simp [archivePatch], fun task active => ?_⟩
    exact ⟨task.deactivated, List.mem_map_of_mem active, rfl⟩
  unfold guarded
  cases ctx.concurrency <;> exact winds

end Lifecycle

namespace Request

/-- The request writes a record, or a change of one, as it comes. -/
def Writes : Request → Prop
  | .saveInstance _ | .changeInstance _ _ | .updateInstance _ _ => True
  | _ => False

theorem windsUp_of_sends {ctx : Context} {s : State} {r : Request} {id : InstanceId}
    {current : Instance} {patch : Patch} (allowed : ¬r.Writes)
    (sends : r.Sends ctx s id current patch) : patch.WindsUp current := by
  cases sends with
  | operate looked =>
    refine Patch.windsUp_of_status ?_
    rw [status_guarded, status_operationPatch]
    exact OperationKind.status?_ne_complete _
  | archive looked => exact windsUp_archivePatch _ _ _ _ _
  | detach held =>
    refine Patch.windsUp_of_status ?_
    rw [status_guarded]
    simp
  | accept named => exact Patch.windsUp_of_status (by simp [formPatch])
  | recordTask | applyTask | start => exact Patch.windsUp_of_status (by simp)
  | changeInstance | updateInstance => exact absurd trivial allowed

theorem sound_of_opens {ctx : Context} {r : Request} {i : Instance} (allowed : ¬r.Writes)
    (opens : r.Opens ctx i) : i.Sound := by
  cases opens with
  | create =>
    exact ⟨TaskSet.keyed_empty, (Instance.fault?_eq_none_iff _).2 fun complete => by cases complete⟩
  | saveInstance => exact absurd trivial allowed

theorem lasting_sound : Lasting (fun r => ¬r.Writes) Instance.Sound where
  opened := sound_of_opens
  patched allowed sends sound applied := by
    have merged := Patch.sound_merge (windsUp_of_sends allowed sends) sound
      (Patch.refusal?_of_apply applied)
    rw [Patch.eq_of_apply applied]
    exact ⟨merged.keyed, merged.faultless⟩

/-- No complete instance is ever without an end time or with an open task. -/
theorem run_faultless (calls : List (Context × Request))
    (allowed : ∀ call ∈ calls, ¬call.2.Writes) {s : State}
    (sound : ∀ id i, s.storage.instances.get? id = some i →
      i.tasks.Keyed ∧ i.fault? = none) :
    ∀ id i, (run calls s).2.storage.instances.get? id = some i →
      i.fault? = none ∧ (i.status = .complete → i.finish ≠ none ∧ i.tasks.active = []) := by
  intro id i held
  have every : Every Instance.Sound s := fun id i held => ⟨(sound id i held).1, (sound id i held).2⟩
  have kept := run_every lasting_sound calls allowed every id i held
  exact ⟨kept.faultless, i.fault?_eq_none_iff.1 kept.faultless⟩

/-- A review is taken up, its instance archived, and the same review reported as open again. -/
theorem run_faultless_archived :
    let review : Task := { id := "review-1", definition := "review", start := .ofSecond 1 }
    let seen : Instance :=
      { Instance.opening "case-1" Desk.process "dep-1" (.ofSecond 1) with
        tasks := TaskSet.ofTasks [review] }
    let s := Desk.empty.enter seen
    let calls := [
      (Desk.context "-", Request.operate .claim { task := some review } seen Desk.alice),
      (Desk.context "-", .archive seen ∅),
      (Desk.context "-", .recordTask seen (some review))]
    (∀ call ∈ calls, ¬call.2.Writes) ∧
      (∀ id i, s.storage.instances.get? id = some i → i.tasks.Keyed ∧ i.fault? = none) ∧
      ∃ i, (run calls s).2.storage.instances.get? "case-1" = some i ∧ i.status = .complete ∧
        i.finish ≠ none ∧ i.tasks.active = [] := by
  intro review seen s calls
  have allowed : ∀ call ∈ calls, ¬call.2.Writes := by
    simp [calls, Writes]
  have sound : ∀ id i, s.storage.instances.get? id = some i →
      i.tasks.Keyed ∧ i.fault? = none := by
    intro id i held
    have stored : (Desk.empty.storage.instances.insert "case-1" seen).get? id = some i := held
    rw [SortedMap.get?_insert] at stored
    split at stored
    · obtain rfl := Option.some.inj stored
      exact ⟨TaskSet.keyed_empty.upsertMany [review], rfl⟩
    · cases stored
  have completed : ((run calls s).2.storage.instances.get? "case-1").map Instance.status =
      some .complete := by decide +kernel
  obtain ⟨i, held, complete⟩ := Option.map_eq_some_iff.1 completed
  exact ⟨allowed, sound, i, held, complete,
    (run_faultless calls allowed sound "case-1" i held).2 complete⟩

end Request
end Casework
