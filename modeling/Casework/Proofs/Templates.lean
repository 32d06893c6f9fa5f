import Casework.Label
import Casework.Proofs.JsonTexts

/-!
Templates and their grammar. A name is opened by the leftmost double brace after the piece before
it, and it is closed by the first double brace behind that (`Decomposes`). Every text is taken apart
in exactly one way (`decomposes_iff`), also where braces run together. So a label is the literals
and the values of the named fields side by side, whatever braces the values hold, and it depends on
nothing else (`fill_decomposed`).
-/

namespace Casework.Template

/-- Somewhere in the text `c` stands twice in a row. -/
def Doubled (c : Char) (cs : List Char) : Prop := ∃ before behind, cs = before ++ c :: c :: behind

/-- Between the two texts stands a double `c`, and none begins further left. -/
def Leftmost (c : Char) (before behind : List Char) : Prop :=
  ∀ before' behind', before ++ c :: c :: behind = before' ++ c :: c :: behind' →
    before.length ≤ before'.length

variable {c : Char} {cs before behind : List Char}

theorem length_le_of_cutAt? (cut : cutAt? c cs = some (before, behind))
    {before' behind' : List Char} (split : cs = before' ++ c :: c :: behind') :
    before.length ≤ before'.length := by
  induction cs generalizing before before' with
  | nil => cases cut
  | cons a rest ih =>
    rw [cutAt?] at cut
    split at cut
    · cases cut
      exact Nat.zero_le _
    · rename_i unmarked
      obtain ⟨inner, later, pair⟩ := Option.map_eq_some_iff.1 cut
      obtain ⟨rfl, rfl⟩ := Prod.mk.inj pair
      cases before' with
      | nil =>
        obtain ⟨rfl, rfl⟩ := List.cons.inj split
        exact absurd ⟨rfl, rfl⟩ unmarked
      | cons b before' => exact Nat.succ_le_succ (ih later (List.cons.inj split).2)

theorem cutAt?_ne_none (c : Char) (before behind : List Char) :
    cutAt? c (before ++ c :: c :: behind) ≠ none := by
  induction before with
  | nil => simp [cutAt?]
  | cons a before ih =>
    rw [List.cons_append, cutAt?]
    split
    · exact Option.some_ne_none _
    · simpa using ih

theorem cutAt?_eq_none_iff : cutAt? c cs = none ↔ ¬Doubled c cs := by
  constructor
  · rintro uncut ⟨before, behind, rfl⟩
    exact cutAt?_ne_none c before behind uncut
  · intro single
    cases cut : cutAt? c cs with
    | none => rfl
    | some parts => exact absurd ⟨parts.1, parts.2, eq_of_cutAt? cut⟩ single

/-- The cut is at the leftmost double `c`, if there is one. -/
theorem cutAt?_eq_some_iff :
    cutAt? c cs = some (before, behind) ↔
      cs = before ++ c :: c :: behind ∧ Leftmost c before behind := by
  constructor
  · intro cut
    obtain rfl := eq_of_cutAt? cut
    exact ⟨rfl, fun _ _ split => length_le_of_cutAt? cut split⟩
  · rintro ⟨rfl, leftmost⟩
    cases cut : cutAt? c (before ++ c :: c :: behind) with
    | none => exact absurd cut (cutAt?_ne_none c before behind)
    | some parts =>
      have split := eq_of_cutAt? cut
      have lengths : before.length = parts.1.length :=
        Nat.le_antisymm (leftmost _ _ split) (length_le_of_cutAt? cut rfl)
      obtain ⟨same, rest⟩ := List.append_inj split lengths
      obtain ⟨-, rest⟩ := List.cons.inj rest
      rw [same, (List.cons.inj rest).2]

/-! ### The grammar -/

/-- The text is taken apart into these pieces. -/
inductive Decomposes : List Char → List Piece → Prop
  | literal {text : List Char} (unopened : ¬Doubled '\x7b' text) :
      Decomposes text [.literal text]
  | unclosed {before text : List Char} (opens : Leftmost '\x7b' before text)
      (unclosed : ¬Doubled '\x7d' text) :
      Decomposes (before ++ '\x7b' :: '\x7b' :: text) [.literal before, .unclosed text]
  | field {before name behind : List Char} {pieces : List Piece}
      (opens : Leftmost '\x7b' before (name ++ '\x7d' :: '\x7d' :: behind))
      (closes : Leftmost '\x7d' name behind) (rest : Decomposes behind pieces) :
      Decomposes (before ++ '\x7b' :: '\x7b' :: (name ++ '\x7d' :: '\x7d' :: behind))
        (.literal before :: .field name :: pieces)

theorem pieces_of_unopened {cs : List Char} (unopened : cutAt? '\x7b' cs = none) :
    pieces cs = [.literal cs] := by
  rw [pieces]
  split <;> simp_all

theorem pieces_of_unclosed {cs before behind : List Char}
    (opened : cutAt? '\x7b' cs = some (before, behind))
    (unclosed : cutAt? '\x7d' behind = none) :
    pieces cs = [.literal before, .unclosed behind] := by
  rw [pieces]
  split
  · simp_all
  · split <;> simp_all

theorem pieces_of_closed {cs before behind name rest : List Char}
    (opened : cutAt? '\x7b' cs = some (before, behind))
    (closed : cutAt? '\x7d' behind = some (name, rest)) :
    pieces cs = .literal before :: .field name :: pieces rest := by
  rw [pieces]
  split
  · simp_all
  · split <;> simp_all

theorem decomposes_pieces (cs : List Char) : Decomposes cs (pieces cs) := by
  fun_induction pieces cs with
  | case1 cs unopened => exact .literal (cutAt?_eq_none_iff.1 unopened)
  | case2 cs before behind opened unclosed =>
    obtain ⟨rfl, opens⟩ := cutAt?_eq_some_iff.1 opened
    exact .unclosed opens (cutAt?_eq_none_iff.1 unclosed)
  | case3 cs before behind opened name rest closed ih =>
    obtain ⟨rfl, opens⟩ := cutAt?_eq_some_iff.1 opened
    obtain ⟨rfl, closes⟩ := cutAt?_eq_some_iff.1 closed
    exact .field opens closes ih

/-- Every text is taken apart in exactly one way. -/
theorem decomposes_iff (cs : List Char) (ps : List Piece) : Decomposes cs ps ↔ ps = pieces cs := by
  constructor
  · intro decomposes
    induction decomposes with
    | literal unopened => exact (pieces_of_unopened (cutAt?_eq_none_iff.2 unopened)).symm
    | unclosed opens unclosed =>
      have opened := cutAt?_eq_some_iff.2 ⟨rfl, opens⟩
      exact (pieces_of_unclosed opened (cutAt?_eq_none_iff.2 unclosed)).symm
    | field opens closes rest ih =>
      have opened := cutAt?_eq_some_iff.2 ⟨rfl, opens⟩
      have closed := cutAt?_eq_some_iff.2 ⟨rfl, closes⟩
      rw [pieces_of_closed opened closed, ih]
  · rintro rfl
    exact decomposes_pieces cs

/-! ### Templates that are filled in -/

theorem shown_congr {data other : FieldData} {piece : Piece}
    (same : ∀ name, piece = .field name →
      data.get? (Text.trim (String.ofList name)) = other.get? (Text.trim (String.ofList name))) :
    shown data piece = shown other piece := by
  cases piece with
  | literal text => rfl
  | unclosed text => rfl
  | field name =>
    simp only [shown, same name rfl]

/-- A template has exactly one decomposition. Filled in, it is the literals as they stand, the
    values of the field that each name without its blanks stands for, and the braces that are not
    closed with what follows them, side by side and without blanks around them. Data that agree
    on these fields give the same text. -/
theorem fill_decomposed (template : String) :
    ∃ ps, (∀ qs, Decomposes template.toList qs ↔ qs = ps) ∧
      (∀ data : FieldData, fill template data =
        Text.trim (String.join (ps.map fun
          | .literal text => String.ofList text
          | .field name =>
            ", ".intercalate (((data.get? (Text.trim (String.ofList name))).getD []).map fun
              | .text s => s
              | .null => ""
              | value => value.compact)
          | .unclosed text => String.ofList ('\x7b' :: '\x7b' :: text)))) ∧
      ∀ data other : FieldData,
        (∀ name, .field name ∈ ps →
          data.get? (Text.trim (String.ofList name)) =
            other.get? (Text.trim (String.ofList name))) →
        fill template data = fill template other := by
  refine ⟨pieces template.toList, decomposes_iff template.toList, fun data => rfl, ?_⟩
  intro data other same
  have shown_eq : (pieces template.toList).map (shown data) =
      (pieces template.toList).map (shown other) := by
    refine List.map_congr_left fun piece member => shown_congr ?_
    rintro name rfl
    exact same name member
  unfold fill
  rw [shown_eq]

/-- A value that is neither a text nor null is read back from what is shown of it. -/
theorem read?_shownValue {value : Json} (plain : value.Plain Json.maxDepth)
    (ordered : value.Ordered) (notNull : value ≠ .null) (notText : ∀ s, value ≠ .text s) :
    Json.read? (shownValue value) = some value := by
  have compact : shownValue value = value.compact := by
    unfold shownValue
    split
    · exact absurd rfl (notText _)
    · exact absurd rfl notNull
    · rfl
  rw [compact]
  exact Json.read?_compact_of_ordered plain ordered

/-- A template with three braces in a row, two placeholders side by side and an open end. -/
def crowded : String := "\x7b\x7b\x7ba\x7d\x7d\x7d of \x7b\x7b b \x7d\x7d\x7b\x7bc"

def crowdedPieces : List Piece :=
  [.literal [], .field "\x7ba".toList, .literal "\x7d of ".toList, .field " b ".toList, .literal [],
    .unclosed "c".toList]

/-- Values that are shown as JSON. -/
def compactValues : List Json :=
  [.int (-3), .bool false, .list [.null, .text "\x7d\x7d"], .object [("n", .text "\"")]]

/-- A field whose name begins with a brace and whose value looks like a placeholder, and another. -/
def crowdedData : FieldData :=
  SortedMap.ofList [("\x7ba", [.text "\x7b\x7bc\x7d\x7d", .null]), ("b", compactValues)]

theorem decomposes_crowded : Decomposes crowded.toList crowdedPieces := by
  have opened : cutAt? '\x7b' crowded.toList =
      some ([], "\x7ba\x7d\x7d\x7d of \x7b\x7b b \x7d\x7d\x7b\x7bc".toList) := rfl
  have first : pieces crowded.toList = .literal [] :: .field "\x7ba".toList ::
      pieces "\x7d of \x7b\x7b b \x7d\x7d\x7b\x7bc".toList := pieces_of_closed opened rfl
  have later : pieces "\x7d of \x7b\x7b b \x7d\x7d\x7b\x7bc".toList =
      .literal "\x7d of ".toList :: .field " b ".toList :: pieces "\x7b\x7bc".toList :=
    pieces_of_closed rfl rfl
  have last : pieces "\x7b\x7bc".toList = [.literal [], .unclosed "c".toList] :=
    pieces_of_unclosed rfl rfl
  exact (decomposes_iff _ _).2 (by rw [first, later, last]; rfl)

/-- The first pair of braces counts, a value is not searched for braces, one that is not a text can
    be read again, and a field that is not named plays no part. -/
theorem fill_decomposed_crowded :
    Decomposes crowded.toList crowdedPieces ∧
      fill crowded crowdedData = "\x7b\x7bc\x7d\x7d, \x7d of " ++
        "-3, false, [null,\"\x7d\x7d\"], \x7b\"n\":\"\\\"\"\x7d" ++ "\x7b\x7bc" ∧
      (∀ value ∈ compactValues, Json.read? (shownValue value) = some value) ∧
      fill crowded (crowdedData.insert "c" [.bool true]) = fill crowded crowdedData := by
  obtain ⟨ps, only, filled, depends⟩ := fill_decomposed crowded
  obtain rfl := (only crowdedPieces).1 decomposes_crowded
  refine ⟨decomposes_crowded, (filled crowdedData).trans (by decide +kernel), ?_,
    depends _ _ fun name named => ?_⟩
  · simp only [compactValues, List.forall_mem_cons]
    refine ⟨?_, ?_, ?_, ?_, nofun⟩ <;> refine read?_shownValue ?_ ?_ nofun nofun <;>
      simp [Json.Plain, Json.PlainItems, Json.PlainMembers, Json.maxDepth, Json.Ordered,
        Json.OrderedItems, Json.OrderedMembers, Increasing]
  · have named : name = "\x7ba".toList ∨ name = " b ".toList := by
      simpa [crowdedPieces] using named
    rw [SortedMap.get?_insert, if_neg]
    rcases named with rfl | rfl <;> decide +kernel

end Casework.Template
