import Casework.Patch

/-!
Agreement of records, which decides whether a patch has changed one. Values agree when they are
equal once all their zeros are the same (`Json.agrees_iff`), field data when what is held under each
name does (`FieldData.agrees_iff`), and records when they are equal but for their field data and
these agree (`Instance.agrees_iff`).
-/

namespace Casework

namespace Double

/-- The double, and for both zeros the same one. -/
def canonical (x : Double) : Double := if x.magnitude = 0 then zero false else x

theorem agrees_iff_canonical (x y : Double) : x.agrees y = true ↔ x.canonical = y.canonical := by
  rw [agrees_iff]
  unfold canonical
  constructor
  · rintro (rfl | ⟨left, right⟩)
    · rfl
    · rw [if_pos left, if_pos right]
  · intro same
    by_cases left : x.magnitude = 0
    · by_cases right : y.magnitude = 0
      · exact .inr ⟨left, right⟩
      · rw [if_pos left, if_neg right] at same
        exact absurd (by rw [← same]; rfl) right
    · by_cases right : y.magnitude = 0
      · rw [if_neg left, if_pos right] at same
        exact absurd (by rw [same]; rfl) left
      · rw [if_neg left, if_neg right] at same
        exact .inl same

end Double

namespace Json

mutual

/-- The value with all zeros of its doubles the same. -/
def canonical : Json → Json
  | .null => .null
  | .bool b => .bool b
  | .int n => .int n
  | .double x => .double x.canonical
  | .text s => .text s
  | .list items => .list (canonicalItems items)
  | .object members => .object (canonicalMembers members)

def canonicalItems : List Json → List Json
  | [] => []
  | x :: xs => x.canonical :: canonicalItems xs

def canonicalMembers : List (String × Json) → List (String × Json)
  | [] => []
  | (name, x) :: xs => (name, x.canonical) :: canonicalMembers xs

end

mutual

theorem agrees_iff : ∀ a b : Json, a.agrees b = true ↔ a.canonical = b.canonical
  | .null, b => by cases b <;> simp [agrees, canonical]
  | .bool x, b => by cases b <;> simp [agrees, canonical]
  | .int n, b => by cases b <;> simp [agrees, canonical]
  | .double x, b => by cases b <;> simp [agrees, canonical, Double.agrees_iff_canonical]
  | .text s, b => by cases b <;> simp [agrees, canonical]
  | .list xs, b => by
    cases b with
    | list ys => simpa [agrees, canonical] using itemsAgree_iff xs ys
    | _ => simp [agrees, canonical]
  | .object xs, b => by
    cases b with
    | object ys => simpa [agrees, canonical] using membersAgree_iff xs ys
    | _ => simp [agrees, canonical]

theorem itemsAgree_iff :
    ∀ xs ys : List Json, itemsAgree xs ys = true ↔ canonicalItems xs = canonicalItems ys
  | [], [] => by simp [itemsAgree]
  | [], y :: ys => by simp [itemsAgree, canonicalItems]
  | x :: xs, [] => by simp [itemsAgree, canonicalItems]
  | x :: xs, y :: ys => by
    simp only [itemsAgree, canonicalItems, Bool.and_eq_true, List.cons.injEq]
    rw [agrees_iff x y, itemsAgree_iff xs ys]

theorem membersAgree_iff : ∀ xs ys : List (String × Json),
    membersAgree xs ys = true ↔ canonicalMembers xs = canonicalMembers ys
  | [], [] => by simp [membersAgree]
  | [], y :: ys => by simp [membersAgree, canonicalMembers]
  | x :: xs, [] => by simp [membersAgree, canonicalMembers]
  | (k, x) :: xs, (l, y) :: ys => by
    simp only [membersAgree, canonicalMembers, Bool.and_eq_true, beq_iff_eq, List.cons.injEq,
      Prod.mk.injEq]
    rw [agrees_iff x y, membersAgree_iff xs ys]

end

end Json

/-! ### Field data -/

/-- A name that lists in key order have in common is in one of them at the front, or behind a
    smaller one. -/
theorem Increasing.key_of_isSome {κ ν : Type} [Ord κ] [Std.TransOrd κ] [Std.LawfulEqOrd κ]
    {first : κ × ν} {rest : List (κ × ν)} (sorted : Increasing (first :: rest)) {key : κ}
    (found : (findEntry key (first :: rest)).isSome = true) :
    key = first.1 ∨ compare first.1 key = .lt := by
  obtain ⟨value, found⟩ := Option.isSome_iff_exists.1 found
  rcases List.mem_cons.1 (mem_of_findEntry found) with same | later
  · exact .inl (congrArg Prod.fst same)
  · exact .inr ((List.pairwise_cons.1 sorted).1 _ later)

/-- Lists in key order that have the same keys begin with the same key. -/
theorem Increasing.first_key_eq {κ ν : Type} [Ord κ] [Std.TransOrd κ] [Std.LawfulEqOrd κ]
    {first second : κ × ν} {xs ys : List (κ × ν)} (left : Increasing (first :: xs))
    (right : Increasing (second :: ys))
    (same : ∀ key,
      (findEntry key (first :: xs)).isSome = (findEntry key (second :: ys)).isSome) :
    first.1 = second.1 := by
  have inRight : (findEntry first.1 (second :: ys)).isSome = true := by
    rw [← same]
    simp [findEntry]
  have inLeft : (findEntry second.1 (first :: xs)).isSome = true := by
    rw [same]
    simp [findEntry]
  rcases right.key_of_isSome inRight with equal | above
  · exact equal
  · rcases left.key_of_isSome inLeft with equal | below
    · exact equal.symm
    · have loop := Std.TransCmp.lt_trans above below
      simp at loop

namespace FieldData

/-- Two holdings of one field agree: both are absent, or their values agree. -/
def heldAgree : Option (List Json) → Option (List Json) → Bool
  | none, none => true
  | some x, some y => Json.itemsAgree x y
  | _, _ => false

theorem heldAgree_iff (a b : Option (List Json)) :
    heldAgree a b = true ↔ a.map Json.canonicalItems = b.map Json.canonicalItems := by
  cases a <;> cases b <;> simp [heldAgree, Json.itemsAgree_iff]

theorem heldAgree_refl (held : Option (List Json)) : heldAgree held held = true :=
  (heldAgree_iff held held).2 rfl

theorem isSome_eq_of_heldAgree {a b : Option (List Json)} (agree : heldAgree a b = true) :
    a.isSome = b.isSome := by
  cases a <;> cases b <;> simp_all [heldAgree]

theorem entriesAgree_iff {xs ys : List (String × List Json)} (left : Increasing xs)
    (right : Increasing ys) :
    entriesAgree xs ys = true ↔
      ∀ name, heldAgree (findEntry name xs) (findEntry name ys) = true := by
  induction xs generalizing ys with
  | nil =>
    cases ys with
    | nil => simp [entriesAgree, findEntry, heldAgree]
    | cons second ys =>
      constructor
      · intro agree
        simp [entriesAgree] at agree
      · intro agree
        have here := agree second.1
        simp [findEntry, heldAgree] at here
  | cons first xs ih =>
    cases ys with
    | nil =>
      constructor
      · intro agree
        simp [entriesAgree] at agree
      · intro agree
        have here := agree first.1
        simp [findEntry, heldAgree] at here
    | cons second ys =>
      obtain ⟨belowLeft, tailLeft⟩ := List.pairwise_cons.1 left
      obtain ⟨belowRight, tailRight⟩ := List.pairwise_cons.1 right
      constructor
      · intro agree name
        obtain ⟨⟨key, values⟩, rest⟩ : (first.1 = second.1 ∧
            Json.itemsAgree first.2 second.2 = true) ∧ entriesAgree xs ys = true := by
          simpa [entriesAgree] using agree
        by_cases here : name = first.1
        · simpa [findEntry, here, ← key, heldAgree] using values
        · have apart : name ≠ second.1 := fun e => here (e.trans key.symm)
          simpa [findEntry, here, apart] using (ih tailLeft tailRight).1 rest name
      · intro agree
        have key : first.1 = second.1 :=
          left.first_key_eq right fun name => isSome_eq_of_heldAgree (agree name)
        have values : Json.itemsAgree first.2 second.2 = true := by
          simpa [findEntry, key, heldAgree] using agree first.1
        have rest : entriesAgree xs ys = true := by
          refine (ih tailLeft tailRight).2 fun name => ?_
          by_cases here : name = first.1
          · -- Behind the first entry neither list has its name again.
            rw [here, findEntry_eq_none_of_lt belowLeft, key, findEntry_eq_none_of_lt belowRight]
            rfl
          · have apart : name ≠ second.1 := fun e => here (e.trans key.symm)
            simpa [findEntry, here, apart] using agree name
        simp [entriesAgree, key, values, rest]

theorem agrees_iff (a b : FieldData) :
    a.agrees b = true ↔ ∀ name, heldAgree (a.get? name) (b.get? name) = true :=
  entriesAgree_iff a.sorted b.sorted

end FieldData

namespace Instance

theorem agrees_iff (a b : Instance) :
    a.agrees b = true ↔
      { a with data := ∅ } = { b with data := ∅ } ∧
        ∀ name, FieldData.heldAgree (a.data.get? name) (b.data.get? name) = true := by
  unfold agrees
  rw [Bool.and_eq_true, decide_eq_true_eq, FieldData.agrees_iff]

theorem agrees_refl (i : Instance) : i.agrees i = true :=
  (agrees_iff i i).2 ⟨rfl, fun _ => FieldData.heldAgree_refl _⟩

theorem agrees_symm {a b : Instance} (agree : a.agrees b = true) : b.agrees a = true := by
  obtain ⟨same, held⟩ := (agrees_iff a b).1 agree
  refine (agrees_iff b a).2 ⟨same.symm, fun name => ?_⟩
  rw [FieldData.heldAgree_iff]
  exact ((FieldData.heldAgree_iff _ _).1 (held name)).symm

theorem agrees_trans {a b c : Instance} (first : a.agrees b = true) (second : b.agrees c = true) :
    a.agrees c = true := by
  obtain ⟨same, held⟩ := (agrees_iff a b).1 first
  obtain ⟨same', held'⟩ := (agrees_iff b c).1 second
  refine (agrees_iff a c).2 ⟨same.trans same', fun name => ?_⟩
  rw [FieldData.heldAgree_iff]
  exact ((FieldData.heldAgree_iff _ _).1 (held name)).trans
    ((FieldData.heldAgree_iff _ _).1 (held' name))

theorem version_of_agrees {a b : Instance} (agree : a.agrees b = true) :
    a.version = b.version := by
  have same := congrArg Instance.version ((agrees_iff a b).1 agree).1
  exact same

end Instance
end Casework
