import Casework.Proofs.Statuses

/-!
Open tasks of instances that have ended. A patch leaves a record `Settled` unless it ends the
instance and passes over an open task (`settled_merge_iff`): only the tasks that it brings are
looked at. Archiving changes every open task, and cancelling none. So a run keeps all records
settled exactly if nothing is cancelled in it that has an open task (`settled_iff`).
-/

namespace Casework

open Casework.Action Casework.Lifecycle

/-- If the instance has ended, no task of it is open. -/
def Instance.Settled (i : Instance) : Prop := i.status.isFinal = true → i.tasks.active = []

/-- The tasks stand under their own names, and none is open once the instance has ended. -/
structure Instance.Orderly (i : Instance) : Prop where
  keyed : i.tasks.Keyed
  settled : i.Settled

namespace Patch

/-- The patch ends the instance and passes over one of its open tasks. -/
structure Strands (p : Patch) (i : Instance) : Prop where
  ends : ∃ status, p.status = some status ∧ status.isFinal = true
  left : ∃ task ∈ i.tasks.active, ∀ changed ∈ p.tasks, changed.id ≠ task.id

/-- A patch that is not refused leaves a settled record settled exactly if it strands no task. -/
theorem settled_merge_iff {p : Patch} {i : Instance} (orderly : i.Orderly)
    (accepted : p.refusal? i = none) : (p.merge i).Settled ↔ ¬p.Strands i := by
  by_cases ended : (p.statusAfter i).isFinal = true
  · have closed := (p.openTask?_eq_none_iff i).1 ((p.refusal?_eq_none_iff i).1 accepted).2.2 ended
    have settled : (p.merge i).Settled ↔
        ∀ task ∈ i.tasks.active, ∃ changed ∈ p.tasks, changed.id = task.id := by
      rw [← orderly.keyed.active_upsertMany closed]
      exact ⟨fun settled => settled ended, fun nothing _ => nothing⟩
    rw [settled]
    constructor
    · rintro changes ⟨-, task, active, unchanged⟩
      obtain ⟨changed, member, same⟩ := changes task active
      exact unchanged changed member same
    · intro unstranded task active
      cases set : p.status with
      | none =>
        -- The record had ended before, so that there is no such task.
        have was : i.status.isFinal = true := by simpa [statusAfter, set] using ended
        rw [orderly.settled was] at active
        exact absurd active List.not_mem_nil
      | some status =>
        have isFinal : status.isFinal = true := by simpa [statusAfter, set] using ended
        refine Classical.byContradiction fun unchanged => unstranded ?_
        refine ⟨⟨status, set, isFinal⟩, task, active, fun changed member same => unchanged ?_⟩
        exact ⟨changed, member, same⟩
  · refine iff_of_true (fun isFinal => absurd isFinal ended) ?_
    rintro ⟨⟨status, set, isFinal⟩, -⟩
    exact ended (by simpa [statusAfter, set] using isFinal)

theorem settled_apply_iff {p : Patch} {now : Instant} {i updated : Instance} {changed : Bool}
    (orderly : i.Orderly) (applied : p.apply now i = .ok (changed, updated)) :
    updated.Settled ↔ ¬p.Strands i := by
  rw [← settled_merge_iff orderly (refusal?_of_apply applied), eq_of_apply applied]
  cases changed <;> rfl

/-- A patch that would leave an open task where the instance has ended is refused, or the task is
    one that it passes over. -/
theorem conflict_or_strands {p : Patch} {i : Instance} (now : Instant) (orderly : i.Orderly)
    (unsettled : ¬(p.merge i).Settled) :
    (∃ cause, p.apply now i = .error (.conflict i.id cause)) ∨ p.Strands i := by
  cases refused : p.refusal? i with
  | some cause => exact .inl ⟨cause, by simp [apply, refused]⟩
  | none =>
    exact .inr (Classical.not_not.1 fun strands =>
      unsettled ((settled_merge_iff orderly refused).2 strands))

end Patch

namespace Request

variable {ctx : Context} {s : State}

/-- The request cancels an instance that has an open task, and is carried out. -/
inductive Strands (ctx : Context) (s : State) : Request → Prop
  | cancel {result : Outcome} {seen current : Instance} {principal : Entity}
      (feasible : Feasible ctx .cancel seen s current) (active : current.tasks.active ≠ []) :
      Strands ctx s (.operate .cancel result seen principal)

theorem not_strands_of_sends {r : Request} {id : InstanceId} {current : Instance} {patch : Patch}
    (allowed : ¬r.Writes) (other : r.status? ≠ some .cancelled)
    (sends : r.Sends ctx s id current patch) : ¬patch.Strands current := by
  rintro ⟨⟨status, set, isFinal⟩, task, active, unchanged⟩
  have windsUp := windsUp_of_sends allowed sends
  cases status with
  | complete =>
    obtain ⟨changed, member, same⟩ := (windsUp set).2 task active
    exact unchanged changed member same
  | cancelled => exact other ((status_of_sends allowed sends).symm.trans set)
  | running | suspended => cases isFinal

theorem lasting_orderly :
    Lasting (fun r => ¬r.Writes ∧ r.status? ≠ some .cancelled) Instance.Orderly where
  opened allowed opens := by
    refine ⟨(sound_of_opens allowed.1 opens).keyed, fun isFinal => ?_⟩
    rw [status_of_opens allowed.1 opens] at isFinal
    cases isFinal
  patched allowed sends orderly applied := by
    refine ⟨?_, ?_⟩
    · rw [Patch.eq_of_apply applied]
      exact orderly.keyed.upsertMany _
    · exact (Patch.settled_apply_iff orderly applied).2
        (not_strands_of_sends allowed.1 allowed.2 sends)

theorem lasting_keyed : Lasting (fun r => ¬r.Writes) fun i => i.tasks.Keyed where
  opened allowed opens := (sound_of_opens allowed opens).keyed
  patched _ _ keyed applied := by
    rw [Patch.eq_of_apply applied]
    exact keyed.upsertMany _

/-! ### Cancelling -/

variable {result : Outcome} {seen : Instance} {principal : Entity}

theorem tasks_of_cancelled {s' : State} {current i : Instance}
    (done : Done ctx .cancel result seen s s' current i) : i.tasks = current.tasks := by
  rw [done.tasks, taskPatch_of_isInstanceLevel rfl]
  rfl

theorem every_orderly_cancel (every : Every Instance.Orderly s)
    (unstranded : ¬Strands ctx s (.operate .cancel result seen principal)) :
    Every Instance.Orderly
      (outcome ((operate .cancel result seen principal).perform ctx) s).2 := by
  intro id i held
  rcases kept_or_done ctx s .cancel rfl result seen principal with
    kept | ⟨current, j, feasible, done⟩
  · rw [kept] at held
    exact every id i held
  · by_cases here : id = seen.id
    · subst here
      obtain rfl := Option.some.inj (held.symm.trans done.held)
      have orderly := every seen.id current feasible.found
      have nothing : current.tasks.active = [] :=
        Classical.byContradiction fun active => unstranded (.cancel feasible active)
      have tasks := tasks_of_cancelled done
      exact ⟨by rw [tasks]; exact orderly.keyed, fun _ => by rw [tasks]; exact nothing⟩
    · rw [done.others id here] at held
      exact every id i held

/-- A request keeps all records orderly exactly if it strands no task. -/
theorem orderly_perform_iff {r : Request} (allowed : ¬r.Writes)
    (every : Every Instance.Orderly s) :
    Every Instance.Orderly (outcome (r.perform ctx) s).2 ↔ ¬Strands ctx s r := by
  constructor
  · intro kept strands
    cases strands with
    | @cancel result seen current principal feasible active =>
      obtain ⟨i, done⟩ := done_of_feasible result principal rfl feasible
      have ended : i.status.isFinal = true := by
        rw [done.status]
        rfl
      have nothing := (kept seen.id i done.held).settled ended
      rw [tasks_of_cancelled done] at nothing
      exact active nothing
  · intro unstranded
    by_cases cancels : r.status? = some .cancelled
    · cases r with
      | operate kind result seen principal =>
        cases kind <;> cases cancels
        exact every_orderly_cancel every unstranded
      | _ => cases cancels
    · exact perform_every lasting_orderly ctx r s ⟨allowed, cancels⟩ every

/-- No patch leaves an open task where an instance has ended but one that ends it and passes over
    the task, and in a run that does not write records as they come this happens only where an
    instance is cancelled that has an open task. -/
theorem settled_iff (p : Patch) (now : Instant) {i : Instance} (keyed : i.tasks.Keyed)
    (settled : i.Settled) {calls : List (Context × Request)}
    (allowed : ∀ call ∈ calls, ¬call.2.Writes) {s : State}
    (first : ∀ id i, s.storage.instances.get? id = some i → i.tasks.Keyed ∧ i.Settled) :
    ((∀ changed updated, p.apply now i = .ok (changed, updated) →
          (updated.Settled ↔ ¬p.Strands i)) ∧
        (¬(p.merge i).Settled → ¬p.Strands i →
          ∃ cause, p.apply now i = .error (.conflict i.id cause))) ∧
      ((∀ n id i, (run (calls.take n) s).2.storage.instances.get? id = some i → i.Settled) ↔
        ∀ n ctx r, calls[n]? = some (ctx, r) → ¬Strands ctx (run (calls.take n) s).2 r) := by
  refine ⟨⟨?_, ?_⟩, ?_⟩
  · exact fun changed updated applied => Patch.settled_apply_iff ⟨keyed, settled⟩ applied
  · intro unsettled unstranded
    exact (Patch.conflict_or_strands now ⟨keyed, settled⟩ unsettled).resolve_right unstranded
  · have orderly : Every Instance.Orderly s :=
      fun id i held => ⟨(first id i held).1, (first id i held).2⟩
    have names (n : Nat) : Every (fun i => i.tasks.Keyed) (run (calls.take n) s).2 :=
      run_every lasting_keyed (calls.take n)
        (fun call member => allowed call (List.mem_of_mem_take member))
        fun id i held => (orderly id i held).keyed
    have always : (∀ n, Every Instance.Orderly (run (calls.take n) s).2) ↔
        ∀ n ctx r, calls[n]? = some (ctx, r) → ¬Strands ctx (run (calls.take n) s).2 r :=
      run_always_iff orderly fun n ctx r at_n every =>
        orderly_perform_iff (allowed _ (List.mem_of_getElem? at_n)) every
    rw [← always]
    exact ⟨fun settled n id i held => ⟨names n id i held, settled n id i held⟩,
      fun every n id i held => (every n id i held).settled⟩

def review : Task := { id := "review-1", definition := "review", start := .ofSecond 0 }

def underReview : Instance := { Desk.opened with tasks := TaskSet.ofTasks [review] }

theorem orderly_underReview : underReview.tasks.Keyed ∧ underReview.Settled :=
  ⟨TaskSet.keyed_empty.upsertMany [review], fun ended => by cases ended⟩

theorem orderly_empty (id : InstanceId) (i : Instance)
    (found : Desk.empty.storage.instances.get? id = some i) : i.tasks.Keyed ∧ i.Settled := by
  cases found

/-- The review is reported and completed before the instance is cancelled. -/
def reviewed : List (Context × Request) := [
  Desk.creation,
  (Desk.context "-", .recordTask Desk.opened (some review)),
  (Desk.context "-", .operate .complete { task := some review } Desk.opened Desk.alice),
  (Desk.context "-", .operate .cancel {} Desk.opened Desk.alice)]

/-- The run leaves the instance cancelled with the review closed, an archiving patch closes the
    review, and one that brings it as still open is refused. -/
theorem reviewed_settled :
    let closing : Patch := { status := some .complete, tasks := [review.completedAt (.ofSecond 0)] }
    let keeping : Patch := { status := some .complete, tasks := [review] }
    (underReview.tasks.Keyed ∧ underReview.Settled) ∧
      (∃ updated, closing.apply (.ofSecond 0) underReview = .ok (true, updated) ∧
        updated.Settled) ∧
      (∃ cause, keeping.apply (.ofSecond 0) underReview = .error (.conflict "case-1" cause)) ∧
      (∀ call ∈ reviewed, ¬call.2.Writes) ∧
      (∀ id i, Desk.empty.storage.instances.get? id = some i → i.tasks.Keyed ∧ i.Settled) ∧
      ((run reviewed Desk.empty).2.storage.instances.get? "case-1").map
        (fun i => (i.status, i.tasks.size)) = some (.cancelled, 1) ∧
      ∀ n id i, (run (reviewed.take n) Desk.empty).2.storage.instances.get? id = some i →
        i.Settled := by
  intro closing keeping
  obtain ⟨keyed, settled⟩ := orderly_underReview
  have allowed : ∀ call ∈ reviewed, ¬call.2.Writes := by simp [reviewed, Desk.creation, Writes]
  have active : underReview.tasks.active = [review] := by decide +kernel
  -- Both patches bring the one task that is open.
  have unstranded {p : Patch} (brings : ∃ changed ∈ p.tasks, changed.id = review.id) :
      ¬p.Strands underReview := by
    rintro ⟨-, task, member, unchanged⟩
    obtain ⟨changed, brought, same⟩ := brings
    rw [active, List.mem_singleton] at member
    subst member
    exact unchanged changed brought same
  refine ⟨⟨keyed, settled⟩, ?_, ?_, allowed, orderly_empty, by decide +kernel, ?_⟩
  · have applied : closing.apply (.ofSecond 0) underReview =
        .ok (true, Patch.stamp (.ofSecond 0) (closing.merge underReview)) := by rfl
    refine ⟨_, applied, ?_⟩
    exact ((settled_iff closing (.ofSecond 0) keyed settled allowed orderly_empty).1.1 true _
      applied).2 (unstranded ⟨review.completedAt (.ofSecond 0), List.mem_singleton_self _, rfl⟩)
  · refine (settled_iff keeping (.ofSecond 0) keyed settled allowed orderly_empty).1.2
      (fun kept => ?_) (unstranded ⟨review, List.mem_singleton_self _, rfl⟩)
    have left : (keeping.merge underReview).tasks.active = [review] := by decide +kernel
    rw [kept rfl] at left
    cases left
  · refine (settled_iff closing (.ofSecond 0) keyed settled allowed orderly_empty).2.2 ?_
    intro n ctx r at_n strands
    cases strands with
    | @cancel result seen current principal feasible open' =>
      obtain _ | _ | _ | _ | n := n
      · cases at_n
      · cases at_n
      · cases at_n
      · have closed : ((run (reviewed.take 3) Desk.empty).2.storage.instances.get? "case-1").map
          (fun i => i.tasks.active) = some [] := by decide +kernel
        cases at_n
        have tasks := congrArg (Option.map fun i => i.tasks.active) feasible.found
        exact open' (Option.some.inj (tasks.symm.trans closed))
      · cases at_n

/-- The instance is cancelled while the review is to be done. -/
def unreviewed : List (Context × Request) := [
  Desk.creation,
  (Desk.context "-", .recordTask Desk.opened (some review)),
  (Desk.context "-", .operate .cancel {} Desk.opened Desk.alice)]

/-- A patch that cancels the instance and says nothing of the review is taken, and the run leaves
    the instance cancelled with the review to be done. -/
theorem unreviewed_unsettled :
    let cancelling : Patch := { status := some .cancelled }
    (underReview.tasks.Keyed ∧ underReview.Settled) ∧
      (∃ updated, cancelling.apply (.ofSecond 0) underReview = .ok (true, updated) ∧
        ¬updated.Settled) ∧
      (∀ call ∈ unreviewed, ¬call.2.Writes) ∧
      (∀ id i, Desk.empty.storage.instances.get? id = some i → i.tasks.Keyed ∧ i.Settled) ∧
      ∃ i, (run unreviewed Desk.empty).2.storage.instances.get? "case-1" = some i ∧
        i.status = .cancelled ∧ i.tasks.active = [review] ∧ ¬i.Settled := by
  intro cancelling
  refine ⟨orderly_underReview, ?_, by simp [unreviewed, Desk.creation, Writes], orderly_empty, ?_⟩
  · refine ⟨Patch.stamp (.ofSecond 0) (cancelling.merge underReview), by rfl, fun settled => ?_⟩
    have left : (cancelling.merge underReview).tasks.active = [review] := by decide +kernel
    have nothing : (cancelling.merge underReview).tasks.active = [] := settled rfl
    rw [nothing] at left
    cases left
  · have held : ((run unreviewed Desk.empty).2.storage.instances.get? "case-1").map
        (fun i => (i.status, i.tasks.active)) = some (.cancelled, [review]) := by decide +kernel
    obtain ⟨i, found, same⟩ := Option.map_eq_some_iff.1 held
    obtain ⟨status, active⟩ := Prod.mk.inj same
    refine ⟨i, found, status, active, fun settled => ?_⟩
    rw [settled (by rw [status]; rfl)] at active
    cases active

end Request
end Casework
