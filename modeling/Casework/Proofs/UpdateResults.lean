import Casework.Proofs.Versions

/-!
What an update answers and what it stores. The storage keeps the old record if the patched one
agrees with it, but answers with the patched one, and records that agree may differ in the signs of
zeros. So the answer is what is stored, and a patch is said to change a record exactly if it does,
unless all it changes is the signs of zeros (`updated_as_shown_iff`).
-/

namespace Casework

open Casework.Action

namespace Patch

variable {p : Patch} {i : Instance}

/-- All that the patch changes in the record is the signs of zeros in its field data. -/
structure FlipsZeros (p : Patch) (i : Instance) : Prop where
  rest : { p.merge i with data := ∅ } = { i with data := ∅ }
  values : ∀ name, ((p.merge i).data.get? name).map Json.canonicalItems =
    (i.data.get? name).map Json.canonicalItems
  signs : (p.merge i).data ≠ i.data

/-- The records that agree without being equal are those with the signs of zeros flipped. -/
theorem flipsZeros_iff : p.FlipsZeros i ↔ (p.merge i).agrees i = true ∧ p.merge i ≠ i := by
  constructor
  · intro flips
    exact ⟨(Instance.agrees_iff _ _).2
      ⟨flips.rest, fun name => (FieldData.heldAgree_iff _ _).2 (flips.values name)⟩,
      fun same => flips.signs (congrArg Instance.data same)⟩
  · rintro ⟨agree, other⟩
    obtain ⟨rest, held⟩ := (Instance.agrees_iff _ _).1 agree
    refine ⟨rest, fun name => (FieldData.heldAgree_iff _ _).1 (held name), fun data => other ?_⟩
    calc p.merge i = { { p.merge i with data := ∅ } with data := (p.merge i).data } := rfl
      _ = i := by rw [rest, data]

theorem changed_iff_of_apply {now : Instant} {updated : Instance} {changed : Bool}
    (applied : p.apply now i = .ok (changed, updated)) :
    changed = true ↔ ¬(p.merge i).agrees i = true := by
  have accepted := refusal?_of_apply applied
  unfold apply at applied
  rw [accepted] at applied
  simp only at applied
  split at applied
  · rename_i agree
    cases applied
    simp [agree]
  · rename_i agree
    cases applied
    simp [agree]

/-- A patch is said to change a record exactly if the merged record is another one, unless all
    it changes is the signs of zeros. -/
theorem told_iff_of_apply {now : Instant} {updated : Instance} {changed : Bool}
    (applied : p.apply now i = .ok (changed, updated)) :
    (changed = true ↔ p.merge i ≠ i) ↔ ¬p.FlipsZeros i := by
  rw [flipsZeros_iff, changed_iff_of_apply applied]
  have equal : p.merge i = i → (p.merge i).agrees i = true := fun same =>
    same.symm ▸ i.agrees_refl
  by_cases agree : (p.merge i).agrees i = true
  · simp [agree]
  · simp [agree, mt equal agree]

/-- The record that a patch leaves unchanged, by what is said, is the old one unless the signs of
    zeros have been flipped. -/
theorem unchanged_iff_of_apply {now : Instant} {updated : Instance}
    (applied : p.apply now i = .ok (false, updated)) : updated = i ↔ ¬p.FlipsZeros i := by
  have merged : updated = p.merge i := eq_of_apply applied
  rw [← told_iff_of_apply applied, merged]
  simp

end Patch

namespace Action

variable {ctx : Context} {id : InstanceId} {patch : Patch} {s : State}

/-- How an update ends. -/
inductive Updated (ctx : Context) (id : InstanceId) (patch : Patch) (s : State) :
    Except Error (Option Instance) × State → Prop
  | refused (e : Error) : Updated ctx id patch s (.error e, s)
  | missing (absent : s.storage.instances.get? id = none) : Updated ctx id patch s (.ok none, s)
  | merged {old shown : Instance} {changed : Bool}
      (found : s.storage.instances.get? id = some old)
      (applied : patch.apply ctx.now old = .ok (changed, shown)) :
      Updated ctx id patch s (.ok (some shown), s.keep id changed shown)

theorem updateInstance_updated (ctx : Context) (id : InstanceId) (patch : Patch) (s : State) :
    Updated ctx id patch s (outcome (updateInstance ctx id patch) s) := by
  rw [outcome_updateInstance_keep]
  cases ctx.outage .updateInstance with
  | some e => exact .refused e
  | none =>
    cases found : s.storage.instances.get? id with
    | none => exact .missing found
    | some old =>
      cases applied : patch.apply ctx.now old with
      | error e =>
        simp only [applied]
        exact .refused e
      | ok result =>
        simp only [applied]
        exact .merged found applied

/-- An update that fails, or that finds no instance of its name, leaves the state as it was. One
    that answers with a record changes nothing but the record of its name, gives it the next
    version if it is said to be changed, and leaves it as it was if not. The record that is
    answered is the one that is stored, and what is said of the change is right, exactly if the
    patch does more, or less, than flip the signs of zeros in the field data. -/
theorem updated_as_shown_iff (ctx : Context) (id : InstanceId) (patch : Patch) (s : State)
    (bounded : ∀ i, s.storage.instances.get? id = some i → i.version.toNat + 1 < UInt64.size) :
    match outcome (updateInstance ctx id patch) s with
    | (.error _, after) => after = s
    | (.ok none, after) => s.storage.instances.get? id = none ∧ after = s
    | (.ok (some shown), after) =>
      ∃ old kept changed, s.storage.instances.get? id = some old ∧
        patch.apply ctx.now old = .ok (changed, shown) ∧
        after.storage.instances.get? id = some kept ∧
        (∀ other, other ≠ id →
          after.storage.instances.get? other = s.storage.instances.get? other) ∧
        after = { s with
          storage := { s.storage with instances := after.storage.instances } } ∧
        (changed = true → shown.version.toNat = old.version.toNat + 1) ∧
        (changed = false → after = s ∧ kept = old ∧ shown.version = old.version ∧
          shown.modified = old.modified) ∧
        (kept = shown ↔ ¬patch.FlipsZeros old) ∧
        ((changed = true ↔ patch.merge old ≠ old) ↔ ¬patch.FlipsZeros old) ∧
        (changed = false → (shown = old ↔ ¬patch.FlipsZeros old)) := by
  have ending := updateInstance_updated ctx id patch s
  generalize outcome (updateInstance ctx id patch) s = result at ending ⊢
  cases ending with
  | refused => rfl
  | missing absent => exact ⟨absent, rfl⟩
  | @merged old shown changed found applied =>
    have others : ∀ other, other ≠ id →
        (s.keep id changed shown).storage.instances.get? other =
          s.storage.instances.get? other := by
      intro other apart
      exact Request.get?_keep_of_ne apart changed shown
    have told := Patch.told_iff_of_apply applied
    cases changed with
    | false =>
      have same := Patch.unchanged_iff_of_apply applied
      have merged : shown = patch.merge old := Patch.eq_of_apply applied
      refine ⟨old, old, false, found, applied, found, others, rfl, nofun, fun _ => ?_,
        eq_comm.trans same, told, fun _ => same⟩
      exact ⟨rfl, rfl, by rw [merged]; rfl, by rw [merged]; rfl⟩
    | true =>
      have stored : (s.keep id true shown).storage.instances.get? id = some shown :=
        (SortedMap.get?_insert _ _ _ _).trans (if_pos rfl)
      have next : shown.version.toNat = old.version.toNat + 1 := by
        rw [Patch.version_of_apply applied, UInt64.toNat_add]
        exact Nat.mod_eq_of_lt (bounded old found)
      have honest : ¬patch.FlipsZeros old := fun flips =>
        (Patch.changed_iff_of_apply applied).1 rfl (Patch.flipsZeros_iff.1 flips).1
      exact ⟨old, shown, true, found, applied, stored, others, rfl, fun _ => next, nofun,
        iff_of_true rfl honest, told, nofun⟩

def priced (amount : Json) : State :=
  { Desk.empty with
    storage := { Desk.empty.storage with
      instances := SortedMap.ofList [("case-1",
        { Desk.opened with data := SortedMap.ofList [("amount", [amount])] })] } }

def pricing (amount : Json) : Patch := { data := some (SortedMap.ofList [("amount", [amount])]) }

theorem updated_as_shown_repriced :
    (∀ i, (priced (.int 12)).storage.instances.get? "case-1" = some i →
        i.version.toNat + 1 < UInt64.size) ∧
      ∃ shown, (outcome (updateInstance (Desk.context "-") "case-1" (pricing (.int 15)))
          (priced (.int 12))).1 = .ok (some shown) ∧
        (outcome (updateInstance (Desk.context "-") "case-1" (pricing (.int 15)))
          (priced (.int 12))).2.storage.instances.get? "case-1" = some shown ∧
        shown.data.get? "amount" = some [.int 15] := by
  have bounded : ∀ i, (priced (.int 12)).storage.instances.get? "case-1" = some i →
      i.version.toNat + 1 < UInt64.size := by
    intro i found
    cases found
    decide
  have amount : (outcome (updateInstance (Desk.context "-") "case-1" (pricing (.int 15)))
      (priced (.int 12))).1.toOption.map (Option.map fun i => i.data.get? "amount") =
      some (some (some [.int 15])) := by
    decide +kernel
  have shows := updated_as_shown_iff (Desk.context "-") "case-1" (pricing (.int 15))
    (priced (.int 12)) bounded
  refine ⟨bounded, ?_⟩
  generalize outcome (updateInstance (Desk.context "-") "case-1" (pricing (.int 15)))
    (priced (.int 12)) = result at amount shows ⊢
  obtain ⟨_ | _ | shown, after⟩ := result
  · cases amount
  · cases amount
  · obtain ⟨old, kept, -, found, -, stored, -, -, -, -, same, -, -⟩ := shows
    have repriced : shown.data.get? "amount" = some [.int 15] :=
      Option.some.inj (Option.some.inj amount)
    have honest : ¬(pricing (.int 15)).FlipsZeros old := by
      intro flips
      cases found
      exact absurd (flips.values "amount") (by decide)
    exact ⟨shown, rfl, stored.trans (congrArg some (same.2 honest)), repriced⟩

/-- The amount of zero is set to minus zero: the answer has it, the storage does not. -/
theorem repriced_without_trace :
    let update := outcome (updateInstance (Desk.context "-") "case-1"
      (pricing (.double (.zero true)))) (priced (.double (.zero false)))
    update.1.toOption.map (Option.map fun i => (i.data.get? "amount", i.version)) =
        some (some (some [.double (.zero true)], 0)) ∧
      (update.2.storage.instances.get? "case-1").map (fun i => (i.data.get? "amount", i.version)) =
        some (some [.double (.zero false)], 0) := by
  decide +kernel

end Action
end Casework
