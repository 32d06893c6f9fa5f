import Casework.Proofs.StoredChanges

/-!
Requests that fail. A request that alters one instance checks all there is to check before it
changes anything, so that it leaves everything as it was when it fails (`outcome_of_failed`). There
is one exception: cancelling stops the execution first, and the execution stays stopped when the
record is not changed.
-/

namespace Casework

open Casework.Action Casework.Lifecycle Casework.Reconcile

namespace Lifecycle

theorem stale_of_refused_cancel {ctx : Context} {result : Outcome} {seen current : Instance}
    {deployment : Option Deployment} {principal : Entity} {e : Error}
    (failed : (guarded ctx seen
      (operationPatch ctx .cancel result current deployment principal)).apply ctx.now current =
        .error e) :
    ctx.concurrency = .versionChecked ∧ current.version ≠ seen.version ∧
      e = .conflict current.id (.staleVersion seen.version current.version) := by
  obtain ⟨cause, refused, rfl⟩ := Patch.conflict_of_apply failed
  rw [refusal?_of_isInstanceLevel ctx rfl] at refused
  split at refused
  · rename_i stale
    obtain rfl := Option.some.inj refused
    exact ⟨stale.1, stale.2, rfl⟩
  · cases refused

end Lifecycle

namespace Request

/-- The requests that alter one instance and bring nothing else to be filed. -/
inductive Alters : Request → Prop
  | operate {kind : OperationKind} {result : Outcome} {seen : Instance} {principal : Entity} :
      Alters (.operate kind result seen principal)
  | archive {seen : Instance} {data : FieldData} : Alters (.archive seen data)
  | detach {seen : Instance} {attachment : AttachmentId} : Alters (.detach seen attachment)
  | recordTask {seen : Instance} {task : Option Task} : Alters (.recordTask seen task)

theorem error_of_map {α β : Type} {f : α → β} {a : Action α} {s s' : State} {e : Error}
    (failed : outcome (f <$> a) s = (.error e, s')) : outcome a s = (.error e, s') := by
  rw [outcome_map] at failed
  cases ended : outcome a s with
  | mk answer after =>
    rw [ended] at failed
    cases answer with
    | error e =>
      cases failed
      rfl
    | ok x => cases failed

/-- A request to alter an instance that fails leaves everything as it was, but for the execution
    of an instance that was to be cancelled: that has been stopped if the storage did not answer
    or if the caller has seen another version. -/
theorem outcome_of_failed (ctx : Context) {r : Request} (alters : r.Alters) {s s' : State}
    {e : Error} (failed : outcome (r.perform ctx) s = (.error e, s')) :
    s' = s ∨ ∃ result seen principal current x,
      r = .operate .cancel result seen principal ∧ ctx.cancelsExecution = true ∧
        s.storage.instances.get? seen.id = some current ∧ current.engineId = some x ∧
        s' = { s with engine := s.engine.erase x } ∧
        (ctx.outage .updateInstance = some e ∨
          ctx.concurrency = .versionChecked ∧ current.version ≠ seen.version ∧
            e = .conflict current.id (.staleVersion seen.version current.version)) := by
  cases alters with
  | @archive seen data =>
    have ended := archive_archived ctx seen data s
    rw [error_of_map failed] at ended
    cases ended with
    | refused => exact .inl rfl
  | @detach seen attachment =>
    have ended := detach_detached ctx seen attachment s
    rw [error_of_map failed] at ended
    cases ended with
    | refused => exact .inl rfl
  | @recordTask seen task =>
    have ended := recordTask_taskRecorded ctx seen task s
    rw [error_of_map failed] at ended
    cases ended with
    | refused => exact .inl rfl
  | @operate kind result seen principal =>
    have ended := operate_operated ctx kind result seen principal s
    rw [error_of_map failed] at ended
    cases ended with
    | refused => exact .inl rfl
    | @halted current deployment _ found cancels cause =>
      obtain ⟨rfl, attached⟩ := cancels
      cases named : current.engineId with
      | none => exact .inl (by simp [State.stop, named])
      | some x =>
        refine .inr ⟨result, seen, principal, current, x, rfl, attached, found, named, ?_, ?_⟩
        · simp [State.stop, named]
        · exact cause.imp_right stale_of_refused_cancel

/-- The instance before its execution is started. -/
def early : Instance := Instance.opening "case-1" Desk.process "dep-1" (.ofSecond 0)

/-- The desk with the instance, whose execution has been started. -/
def started : State :=
  (run [
    (Desk.context "case-1", .create Desk.process Desk.deployment ∅ [] none Desk.alice),
    (Desk.context "-", .start Desk.deployment early)]
    Desk.empty).2

/-- Versions are checked, and cancelling stops executions. -/
def strict : Context :=
  { Desk.context "-" with concurrency := .versionChecked, cancelsExecution := true }

/-- To cancel the instance as it was before is refused, and the execution has been stopped. -/
theorem late_cancel_stops :
    (outcome ((operate .cancel {} early Desk.alice).perform strict) started).1.isOk = false ∧
      started.engine.size = 1 ∧
      (outcome ((operate .cancel {} early Desk.alice).perform strict) started).2.engine.size =
        0 := by
  decide +kernel

/-- To archive the instance as it was before is refused, and all is as before. -/
theorem late_archive_unchanged :
    (archive early ∅).Alters ∧
      (outcome ((archive early ∅).perform strict) started).1.isOk = false ∧
      (outcome ((archive early ∅).perform strict) started).2 = started := by
  have failed : (outcome ((archive early ∅).perform strict) started).1.isOk = false := by
    decide +kernel
  refine ⟨.archive, failed, ?_⟩
  cases ended : outcome ((archive early ∅).perform strict) started with
  | mk answer after =>
    rw [ended] at failed
    cases answer with
    | ok x => cases failed
    | error e =>
      rcases outcome_of_failed strict .archive ended with same | ⟨_, _, _, _, _, other, _⟩
      · exact same
      · cases other

end Request
end Casework
