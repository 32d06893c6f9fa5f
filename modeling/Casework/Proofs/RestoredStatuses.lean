import Casework.Proofs.RepeatedOperations

/-!
Suspended instances that are activated again. A suspension puts the application status of its
instance aside, where no request but another suspension changes it (`previous_run`), and an
activation that brings no status takes it up again. But if the instance had none, nothing is put
aside, since a patch never takes a status away. So the activation brings the status back exactly if
there was one, or there is none to be found (`restored_iff`).
-/

namespace Casework

open Casework.Action Casework.Lifecycle

namespace Request

variable {ctx : Context} {s : State}

/-- The request suspends the instance of this name. -/
def Suspends (id : InstanceId) : Request → Prop
  | .operate .suspension _ seen _ => seen.id = id
  | _ => False

theorem previous_of_sends {r : Request} {id : InstanceId} {current : Instance} {patch : Patch}
    (allowed : ¬r.Writes) (other : ¬r.Suspends id) (sends : r.Sends ctx s id current patch) :
    patch.previousApplicationStatus = none := by
  cases sends with
  | @operate kind result seen current principal deployment looked =>
    rw [guarded_eq]
    cases kind with
    | suspension => exact absurd rfl other
    | _ => rfl
  | archive looked =>
    rw [guarded_eq]
    rfl
  | detach held => rw [guarded_eq]
  | accept | recordTask | applyTask | start => rfl
  | changeInstance | updateInstance => exact absurd trivial allowed

/-- A request keeps the status that is put aside unless it suspends the instance. -/
theorem previous_perform (ctx : Context) {r : Request} (allowed : ¬r.Writes) {id : InstanceId}
    (other : ¬r.Suspends id) {i : Instance} (found : s.storage.instances.get? id = some i) :
    ∃ j, (outcome (r.perform ctx) s).2.storage.instances.get? id = some j ∧
      j.previousApplicationStatus = i.previousApplicationStatus := by
  obtain ⟨j, held, rfl | ⟨patch, sends, applied⟩⟩ := patched_of_stored ctx r found
  · exact ⟨j, held, rfl⟩
  · have left : j.previousApplicationStatus =
        patch.previousApplicationStatus.or i.previousApplicationStatus := by
      rw [Patch.eq_of_apply applied]
      rfl
    rw [previous_of_sends allowed other sends, Option.none_or] at left
    exact ⟨j, held, left⟩

theorem previous_run {calls : List (Context × Request)} {id : InstanceId}
    (kept : ∀ call ∈ calls, ¬call.2.Writes ∧ ¬call.2.Suspends id) {s : State} {i : Instance}
    (found : s.storage.instances.get? id = some i) :
    ∃ j, (run calls s).2.storage.instances.get? id = some j ∧
      j.previousApplicationStatus = i.previousApplicationStatus := by
  induction calls generalizing s i with
  | nil => exact ⟨i, found, rfl⟩
  | cons call rest ih =>
    obtain ⟨allowed, other⟩ := kept call List.mem_cons_self
    obtain ⟨j, held, first⟩ := previous_perform call.1 allowed other found
    obtain ⟨k, last, rest⟩ :=
      ih (fun later member => kept later (List.mem_cons_of_mem call member)) held
    exact ⟨k, last, rest.trans first⟩

/-! ### Suspension and activation -/

variable {later : Context} {result conclusion : Outcome} {seen back : Instance}
  {principal other : Entity}

/-- An activation that brings no status takes up the one that the instance had when it was
    suspended, or else one that had been put aside before, or else leaves the status as it is. So it
    restores the status of an instance that had one, and that the instance had none exactly if
    nothing had been put aside and the instance has got none since. -/
theorem restored_iff {calls : List (Context × Request)}
    (kept : ∀ call ∈ calls, ¬call.2.Writes ∧ ¬call.2.Suspends seen.id)
    (suspended :
      (outcome ((operate .suspension result seen principal).perform ctx) s).1.isOk = true)
    (same : back.id = seen.id) (blank : conclusion.applicationStatus = none)
    (activated : (outcome ((operate .activation conclusion back other).perform later)
      (run ((ctx, operate .suspension result seen principal) :: calls) s).2).1.isOk = true) :
    ∃ before waiting after, s.storage.instances.get? seen.id = some before ∧
      (run ((ctx, operate .suspension result seen principal) :: calls)
        s).2.storage.instances.get? seen.id = some waiting ∧
      (outcome ((operate .activation conclusion back other).perform later)
        (run ((ctx, operate .suspension result seen principal) :: calls)
          s).2).2.storage.instances.get? seen.id = some after ∧
      after.applicationStatus = before.applicationStatus.or
        (before.previousApplicationStatus.or waiting.applicationStatus) ∧
      (after.applicationStatus = before.applicationStatus ↔
        (before.applicationStatus = none →
          before.previousApplicationStatus = none ∧ waiting.applicationStatus = none)) := by
  obtain ⟨before, i, _, first⟩ := restated_of_isOk suspended
  obtain ⟨waiting, after, _, second⟩ := restated_of_isOk activated
  obtain ⟨j, held, aside⟩ := previous_run kept first.held
  have there := second.found
  rw [same] at there
  obtain rfl := Option.some.inj (held.symm.trans there)
  have put : i.previousApplicationStatus =
      before.applicationStatus.or before.previousApplicationStatus :=
    congrArg Standing.previousApplicationStatus first.standing
  have taken : after.applicationStatus =
      (conclusion.applicationStatus.or j.previousApplicationStatus).or j.applicationStatus :=
    congrArg Standing.applicationStatus second.standing
  rw [blank, Option.none_or, aside, put, Option.or_assoc] at taken
  refine ⟨before, j, after, first.found, held, same ▸ second.held, taken, ?_⟩
  rw [taken]
  cases before.applicationStatus with
  | none => simp [Option.or_eq_none_iff]
  | some status => simp

/-- The instance is claimed and given another status while it is suspended. -/
def handled : List (Context × Request) := [
  (Desk.context "-", .operate .claim { applicationStatus := some "claimed" } Desk.opened
    Desk.alice),
  (Desk.context "-", .operate .update { applicationStatus := some "revised" } Desk.opened
    Desk.alice)]

def resumption : Request := .operate .activation {} Desk.opened Desk.alice

theorem restored_in_review :
    (outcome ((hold (some "on-hold")).perform (Desk.context "-")) inReview).1.isOk = true ∧
      (outcome (resumption.perform (Desk.context "-"))
        (run ((Desk.context "-", hold (some "on-hold")) :: handled) inReview).2).1.isOk = true ∧
      ∃ before after, inReview.storage.instances.get? "case-1" = some before ∧
        (outcome (resumption.perform (Desk.context "-"))
          (run ((Desk.context "-", hold (some "on-hold")) :: handled)
            inReview).2).2.storage.instances.get? "case-1" = some after ∧
        before.applicationStatus = some "in-review" ∧
        after.applicationStatus = before.applicationStatus := by
  have suspended :
      (outcome ((hold (some "on-hold")).perform (Desk.context "-")) inReview).1.isOk = true := by
    decide +kernel
  have activated : (outcome (resumption.perform (Desk.context "-"))
      (run ((Desk.context "-", hold (some "on-hold")) :: handled) inReview).2).1.isOk = true := by
    decide +kernel
  have reviewed : (inReview.storage.instances.get? "case-1").map Instance.applicationStatus =
      some (some "in-review") := by
    decide +kernel
  have kept : ∀ call ∈ handled, ¬call.2.Writes ∧ ¬call.2.Suspends "case-1" := by
    simp [handled, Writes, Suspends]
  obtain ⟨before, waiting, after, found, -, held, -, restored⟩ :=
    restored_iff kept suspended rfl rfl activated
  have status : before.applicationStatus = some "in-review" :=
    Option.some.inj
      ((congrArg (Option.map Instance.applicationStatus) found).symm.trans reviewed)
  refine ⟨suspended, activated, before, after, found, held, status, restored.2 ?_⟩
  rw [status]
  exact fun absent => absurd absent (Option.some_ne_none _)

/-- An instance without a status is suspended with one, and keeps it when it is activated. -/
theorem on_hold_for_good :
    let suspended := (run [Desk.creation, (Desk.context "-", hold (some "on-hold"))] Desk.empty).2
    ((run [Desk.creation] Desk.empty).2.storage.instances.get? "case-1").map
        Instance.applicationStatus = some none ∧
      (outcome ((hold (some "on-hold")).perform (Desk.context "-"))
        (run [Desk.creation] Desk.empty).2).1.isOk = true ∧
      (outcome (resumption.perform (Desk.context "-")) suspended).1.isOk = true ∧
      ((outcome (resumption.perform (Desk.context "-")) suspended).2.storage.instances.get?
        "case-1").map Instance.applicationStatus = some (some "on-hold") := by
  decide +kernel

end Request
end Casework
