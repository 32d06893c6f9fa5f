import Casework.Proofs.Slots

/-!
A patch that is applied a second time. A record that has taken a patch takes its execution and its
tasks once more (`refusal?_of_landed`), and there is nothing left to merge (`merge_merge`). So the
second application leaves the record as it is, unless the patch was meant for the version that it
has changed: then it is refused for that (`apply_again`).
-/

namespace Casework.Patch

variable {p : Patch} {i j : Instance}

theorem otherExecution?_of_landed (taken : p.otherExecution? i = none)
    (named : j.engineId = i.engineId.or p.engineId) : p.otherExecution? j = none := by
  unfold otherExecution? at taken ⊢
  rw [named]
  cases before : i.engineId with
  | none => cases p.engineId <;> simp
  | some current =>
    rw [before] at taken
    exact taken

theorem openTask?_of_landed (closed : p.openTask? i = none) (status : j.status = p.statusAfter i) :
    p.openTask? j = none := by
  have same : p.statusAfter j = p.statusAfter i := by
    unfold statusAfter at status ⊢
    rw [status]
    cases p.status <;> rfl
  unfold openTask? at closed ⊢
  rwa [same]

/-- A record that has the status and the execution that an accepted patch leaves refuses the
    patch for its version only. -/
theorem refusal?_of_landed (accepted : p.refusal? i = none) (status : j.status = p.statusAfter i)
    (named : j.engineId = i.engineId.or p.engineId) : p.refusal? j = p.staleVersion? j := by
  obtain ⟨-, taken, closed⟩ := (p.refusal?_eq_none_iff i).1 accepted
  unfold refusal?
  rw [otherExecution?_of_landed taken named, openTask?_of_landed closed status]
  simp

theorem version_of_accepted (accepted : p.refusal? i = none) {expected : UInt64}
    (guarded : p.expectedVersion = some expected) : i.version = expected := by
  have fresh := ((p.refusal?_eq_none_iff i).1 accepted).1
  simpa [staleVersion?, guarded] using fresh

/-! ### The second application -/

theorem apply_of_merge_eq (idle : p.merge i = i) (now : Instant) :
    p.apply now i =
      match p.refusal? i with
      | some cause => .error (.conflict i.id cause)
      | none => .ok (false, i) := by
  unfold apply
  cases p.refusal? i with
  | some cause => rfl
  | none => simp only [idle, i.agrees_refl, if_true]

/-- A patch that a record has taken changes nothing when it is applied again. It is refused if
    it has changed the version that it is meant for. -/
theorem apply_again {now : Instant} {updated : Instance} {changed : Bool}
    (applied : p.apply now i = .ok (changed, updated)) (later : Instant) :
    p.apply later updated =
      if changed = true ∧ p.expectedVersion ≠ none then
        .error (.conflict i.id (.staleVersion i.version (i.version + 1)))
      else .ok (false, updated) := by
  have accepted := refusal?_of_apply applied
  have landed := eq_of_apply applied
  have idle : p.merge updated = updated := by
    rw [landed]
    cases changed with
    | false => exact merge_merge p i
    | true => exact congrArg (stamp now) (merge_merge p i)
  have refusal : p.refusal? updated = p.staleVersion? updated := by
    refine refusal?_of_landed accepted ?_ ?_
    · rw [landed]
      cases changed <;> rfl
    · rw [landed]
      cases changed <;> rfl
  rw [apply_of_merge_eq idle, refusal]
  cases guarded : p.expectedVersion with
  | none => simp [staleVersion?, guarded]
  | some expected =>
    have seen := version_of_accepted accepted guarded
    cases changed with
    | false => simp [staleVersion?, guarded, landed, merge, seen]
    | true =>
      have moved : expected + 1 ≠ expected := by simp
      simp [staleVersion?, guarded, landed, stamp, merge, seen, moved]

def handIn : Operation :=
  { id := default, kind := .claim, time := default, user := "alice" }

def review : Task := { id := "review-1", definition := "review", start := default }

/-- A record whose log has the operation already. -/
def loggedCase : Instance :=
  { Instance.opening "case-1" { key := "expense", label := "Expense" } "dep-1" default with
    operations := [handIn] }

/-- One task as it is and as it is done, one attachment added and removed, and the operation. -/
def redundant : Patch where
  tasks := [review, review.completedAt (.ofSecond 5)]
  addAttachments := ["receipt"]
  removeAttachments := ["receipt"]
  operation := some handIn
  engineId := some "exec-1"

def redundantOnce : Patch := { redundant with expectedVersion := some 0 }

theorem apply_again_redundant :
    (∃ updated, redundant.apply (.ofSecond 1) loggedCase = .ok (true, updated) ∧
      redundant.apply (.ofSecond 2) updated = .ok (false, updated)) ∧
    ∃ updated, redundantOnce.apply (.ofSecond 1) loggedCase = .ok (true, updated) ∧
      redundantOnce.apply (.ofSecond 2) updated =
        .error (.conflict "case-1" (.staleVersion 0 1)) := by
  have free : ∃ updated, redundant.apply (.ofSecond 1) loggedCase = .ok (true, updated) := ⟨_, rfl⟩
  have guarded : ∃ updated, redundantOnce.apply (.ofSecond 1) loggedCase = .ok (true, updated) :=
    ⟨_, rfl⟩
  obtain ⟨updated, applied⟩ := free
  obtain ⟨updated', applied'⟩ := guarded
  exact ⟨⟨updated, applied, apply_again applied (.ofSecond 2)⟩,
    updated', applied', apply_again applied' (.ofSecond 2)⟩

end Casework.Patch
