import Casework.Proofs.Statuses

/-!
Operations that are carried out twice. What an operation does depends on where the instance stands
(`Standing.after`), so a second call starts from what the first one has left, and all but a
suspension find nothing to change. A suspension remembers the application status that it replaces,
so the second one forgets what was remembered before, unless the two are the same (`restands_iff`).
-/

namespace Casework

open Casework.Action Casework.Lifecycle

/-- Where an instance stands. -/
structure Standing where
  status : Status
  applicationStatus : Option String
  explanation : Option String
  previousApplicationStatus : Option String
  finish : Option Instant
  deriving DecidableEq

def Instance.standing (i : Instance) : Standing where
  status := i.status
  applicationStatus := i.applicationStatus
  explanation := i.explanation
  previousApplicationStatus := i.previousApplicationStatus
  finish := i.finish

namespace Standing

/-- Where an instance stands after an operation, if its deployment gives this application status
    to cancelled instances. -/
def after (now : Instant) (kind : OperationKind) (result : Outcome) (cancellation : Option String)
    (x : Standing) : Standing :=
  let given : Standing :=
    { x with
      applicationStatus := result.applicationStatus.or x.applicationStatus
      explanation := result.explanation.or x.explanation }
  match kind with
  | .suspension =>
    { given with
      status := .suspended
      previousApplicationStatus := x.applicationStatus.or x.previousApplicationStatus }
  | .activation =>
    { given with
      status := .running
      applicationStatus :=
        (result.applicationStatus.or x.previousApplicationStatus).or x.applicationStatus }
  | .cancel =>
    { given with
      status := .cancelled
      applicationStatus := (result.applicationStatus.or cancellation).or x.applicationStatus
      finish := some (x.finish.getD now) }
  | .assign | .claim | .complete | .reject | .update => given

theorem or_or_self_left (a b : Option String) : a.or (a.or b) = a.or b := by
  rw [← Option.or_assoc, Option.or_self]

/-- The second of two equal operations leaves an instance where the first one has put it, but for
    the application status that a suspension remembers. -/
theorem after_after (now later : Instant) (kind : OperationKind) (result : Outcome)
    (cancellation : Option String) (x : Standing) :
    (x.after now kind result cancellation).after later kind result cancellation =
      { x.after now kind result cancellation with
        previousApplicationStatus :=
          if kind = .suspension then
            result.applicationStatus.or (x.applicationStatus.or x.previousApplicationStatus)
          else x.previousApplicationStatus } := by
  cases kind with
  | suspension =>
    have remembered : (result.applicationStatus.or x.applicationStatus).or
        (x.applicationStatus.or x.previousApplicationStatus) =
          result.applicationStatus.or (x.applicationStatus.or x.previousApplicationStatus) := by
      rw [Option.or_assoc, or_or_self_left]
    simp [after, or_or_self_left, remembered]
  | _ => simp [after, or_or_self_left]

theorem previous_after (now : Instant) (kind : OperationKind) (result : Outcome)
    (cancellation : Option String) (x : Standing) :
    (x.after now kind result cancellation).previousApplicationStatus =
      if kind = .suspension then x.applicationStatus.or x.previousApplicationStatus
      else x.previousApplicationStatus := by
  cases kind <;> rfl

/-- The operation sets another application status than the one that it remembers as the previous
    one. -/
def Forgets (kind : OperationKind) (result : Outcome) (x : Standing) : Prop :=
  kind = .suspension ∧ ∃ status, result.applicationStatus = some status ∧
    x.applicationStatus.or x.previousApplicationStatus ≠ some status

/-- A repeated operation keeps an instance where it stands unless it forgets a status. -/
theorem after_after_eq_iff (now later : Instant) (kind : OperationKind) (result : Outcome)
    (cancellation : Option String) (x : Standing) :
    (x.after now kind result cancellation).after later kind result cancellation =
        x.after now kind result cancellation ↔ ¬Forgets kind result x := by
  have previous := previous_after now kind result cancellation x
  rw [after_after]
  generalize x.after now kind result cancellation = y at previous ⊢
  have restands (z : Option String) :
      { y with previousApplicationStatus := z } = y ↔ z = y.previousApplicationStatus :=
    ⟨fun same => congrArg Standing.previousApplicationStatus same, fun same => by rw [same]⟩
  rw [restands, previous]
  by_cases suspension : kind = .suspension
  · rw [if_pos suspension, if_pos suspension]
    constructor
    · rintro kept ⟨-, status, given, lost⟩
      rw [given] at kept
      exact lost kept.symm
    · intro kept
      cases given : result.applicationStatus with
      | none => rfl
      | some status =>
        exact Classical.byContradiction fun lost =>
          kept ⟨suspension, status, given, fun same => lost same.symm⟩
  · rw [if_neg suspension, if_neg suspension]
    exact iff_of_true rfl fun forgets => suspension forgets.1

end Standing

/-! ### Operations that succeed -/

namespace Request

variable {ctx later : Context} {kind : OperationKind} {result : Outcome} {seen : Instance}
  {principal : Entity} {s : State}

theorem standing_operationPatch (ctx : Context) (kind : OperationKind) (result : Outcome)
    (current : Instance) (deployment : Option Deployment) (principal : Entity) :
    ((operationPatch ctx kind result current deployment principal).merge current).standing =
      current.standing.after ctx.now kind result
        (deployment.bind Deployment.cancellationStatus) := by
  cases kind <;> rfl

/-- Where an operation that succeeds puts its instance. -/
structure Restated (ctx : Context) (kind : OperationKind) (result : Outcome) (seen : Instance)
    (s s' : State) (current i : Instance) (deployment : Option Deployment) : Prop where
  found : s.storage.instances.get? seen.id = some current
  looked : Cancels kind s current deployment
  held : s'.storage.instances.get? seen.id = some i
  deployed : i.deploymentId = current.deploymentId
  deployments : s'.storage.deployments = s.storage.deployments
  standing : i.standing = current.standing.after ctx.now kind result
    (deployment.bind Deployment.cancellationStatus)

theorem restated_of_isOk
    (ok : (outcome ((operate kind result seen principal).perform ctx) s).1.isOk = true) :
    ∃ current i deployment, Restated ctx kind result seen s
      (outcome ((operate kind result seen principal).perform ctx) s).2 current i deployment := by
  rw [isOk_operate] at ok
  rw [perform, state_map]
  have ended := operate_operated ctx kind result seen principal s
  generalize outcome (Lifecycle.operate ctx kind result seen principal) s = after at ended ok ⊢
  cases ended with
  | refused => cases ok
  | halted => cases ok
  | @done current updated deployment changed before found looked stopped applied =>
    have unpatched := State.storage_of_stopped stopped
    have found' : before.storage.instances.get? seen.id = some current := by
      rw [unpatched, found]
    obtain ⟨i, held, same⟩ := get?_keep_guarded found' applied
    have standing := congrArg Instance.standing same
    have deployed := congrArg Instance.deploymentId same
    have patched := standing_operationPatch ctx kind result current deployment principal
    refine ⟨current, i, deployment, found, looked, held, deployed.symm, ?_,
      standing.symm.trans patched⟩
    show before.storage.deployments = s.storage.deployments
    rw [unpatched]

theorem deployment_eq {s' : State} {current i : Instance} {deployment other : Option Deployment}
    (first : Restated ctx kind result seen s s' current i deployment)
    (looked : Cancels kind s' i other) : other = deployment := by
  have before := first.looked
  unfold Cancels at before looked
  by_cases cancel : kind = .cancel
  · rw [if_pos cancel] at before looked
    rw [first.deployed, first.deployments] at looked
    exact looked.2.symm.trans before.2
  · rw [if_neg cancel] at before looked
    exact looked.trans before.symm

/-- When an operation is repeated, where the instance stands does not change but for the previous
    application status, and that does not change either exactly if the operation is no suspension
    that forgets it. -/
theorem restands_iff
    (ok : (outcome ((operate kind result seen principal).perform ctx) s).1.isOk = true)
    (again : (outcome ((operate kind result seen principal).perform later)
      (outcome ((operate kind result seen principal).perform ctx) s).2).1.isOk = true) :
    ∃ current i j, s.storage.instances.get? seen.id = some current ∧
      (outcome ((operate kind result seen principal).perform ctx) s).2.storage.instances.get?
        seen.id = some i ∧
      (outcome ((operate kind result seen principal).perform later)
        (outcome ((operate kind result seen principal).perform ctx) s).2).2.storage.instances.get?
          seen.id = some j ∧
      j.standing =
        { i.standing with previousApplicationStatus := j.previousApplicationStatus } ∧
      (j.standing = i.standing ↔ ¬Standing.Forgets kind result current.standing) := by
  obtain ⟨current, i, deployment, first⟩ := restated_of_isOk ok
  obtain ⟨i', j, other, second⟩ := restated_of_isOk again
  obtain rfl := Option.some.inj (first.held.symm.trans second.found)
  obtain rfl := deployment_eq first second.looked
  refine ⟨current, i, j, first.found, first.held, second.held, ?_, ?_⟩
  · have repeated := second.standing
    rw [first.standing, Standing.after_after, ← first.standing] at repeated
    have previous := congrArg Standing.previousApplicationStatus repeated
    exact repeated.trans (congrArg (Standing.mk _ _ _ · _) previous.symm)
  · rw [second.standing, first.standing]
    exact Standing.after_after_eq_iff _ _ _ _ _ _

/-- An instance is created and set in review. -/
def inReview : State :=
  (run [Desk.creation,
    (Desk.context "-", .operate .update { applicationStatus := some "in-review" } Desk.opened
      Desk.alice)] Desk.empty).2

def hold (status : Option String) : Request :=
  .operate .suspension { applicationStatus := status } Desk.opened Desk.alice

/-- The state after this many suspensions with this application status. -/
def onHold (status : Option String) (n : Nat) : State :=
  (run (List.replicate n (Desk.context "-", hold status)) inReview).2

theorem restands_suspended :
    (outcome ((hold none).perform (Desk.context "-")) inReview).1.isOk = true ∧
      (outcome ((hold none).perform (Desk.context "-")) (onHold none 1)).1.isOk = true ∧
      ∃ i j, (onHold none 1).storage.instances.get? "case-1" = some i ∧
        (onHold none 2).storage.instances.get? "case-1" = some j ∧ j.standing = i.standing := by
  have ok : (outcome ((hold none).perform (Desk.context "-")) inReview).1.isOk = true := by
    decide +kernel
  have again :
      (outcome ((hold none).perform (Desk.context "-")) (onHold none 1)).1.isOk = true := by
    decide +kernel
  obtain ⟨current, i, j, found, first, second, -, kept⟩ := restands_iff ok again
  refine ⟨ok, again, i, j, first, second, kept.2 ?_⟩
  rintro ⟨-, status, given, -⟩
  cases given

theorem onHold_forgets :
    (Desk.context "-").concurrency = .lastWriteWins ∧
      (outcome ((hold (some "on-hold")).perform (Desk.context "-")) inReview).1.isOk = true ∧
      (outcome ((hold (some "on-hold")).perform (Desk.context "-"))
        (onHold (some "on-hold") 1)).1.isOk = true ∧
      ((onHold (some "on-hold") 1).storage.instances.get? "case-1").map
        Instance.previousApplicationStatus = some (some "in-review") ∧
      ((onHold (some "on-hold") 2).storage.instances.get? "case-1").map
        Instance.previousApplicationStatus = some (some "on-hold") := by
  decide +kernel

end Request
end Casework
