import Casework.Instant.Text
import Casework.Proofs.Dates
import Casework.Uuid

/-!
Points in time and identifiers are read back from their texts. Each part of a text is read back
where it stands in front of something else (`readDecimal_padded`, `readFraction_render`), so a date
is and a time of day is, and as long as the year has four digits and no sign, a point in time is
(`Instant.read?_render`). An identifier always is (`Uuid.read?_render`).
-/

namespace Casework

/-- What is written item by item is read back if every item is. -/
theorem mapM_map_of_back {α β : Type} {write : α → β} {read? : β → Option α} {items : List α}
    (back : ∀ x ∈ items, read? (write x) = some x) :
    (items.map write).mapM read? = some items := by
  induction items with
  | nil => rfl
  | cons x rest ih =>
    have first := back x List.mem_cons_self
    have later := ih fun y member => back y (List.mem_cons_of_mem x member)
    simp [first, later]

namespace Text

/-- The characters do not go on with a digit. -/
def Undigited : List Char → Prop
  | [] => True
  | c :: _ => c.isDigit = false

theorem undigited_cons {c : Char} (other : c.isDigit = false) (rest : List Char) :
    Undigited (c :: rest) := other

theorem isDigit_digitChar : ∀ d < 10, (digitChar d).isDigit = true := by decide

theorem isBlank_digitChar : ∀ d < 10, isBlank (digitChar d) = false := by decide

theorem digitChar_unsigned : ∀ d < 10, digitChar d ≠ '-' ∧ digitChar d ≠ '+' := by decide

theorem value_digitChar : ∀ d < 10, (digitChar d).toNat - 0x30 = d := by decide

@[simp] theorem length_padded (base width n : Nat) : (padded base width n).length = width := by
  simp [padded]

theorem isDigit_of_mem_padded {width n : Nat} {c : Char} (member : c ∈ padded 10 width n) :
    c.isDigit = true := by
  obtain ⟨d, digit, rfl⟩ := List.mem_map.1 member
  exact isDigit_digitChar d (fixedDigits_lt (by decide) digit)

/-- A number that has a width begins with a digit. -/
theorem exists_padded {base width : Nat} (digit : 0 < base) (positive : 0 < width) (n : Nat) :
    ∃ d < base, ∃ cs, padded base width n = digitChar d :: cs := by
  cases digits : fixedDigits base width n with
  | nil =>
    have none := congrArg List.length digits
    rw [length_fixedDigits] at none
    exact absurd none (Nat.ne_of_gt positive)
  | cons d ds =>
    have small : d < base := fixedDigits_lt digit (digits ▸ List.mem_cons_self)
    exact ⟨d, small, ds.map digitChar, by rw [padded, digits]; rfl⟩

theorem ofDigits_padded {width n : Nat} (fits : n < Nat.pow 10 width) :
    ofDigits 10 ((padded 10 width n).map fun c => c.toNat - 0x30) = n := by
  have digits : (padded 10 width n).map (fun c => c.toNat - 0x30) = fixedDigits 10 width n := by
    unfold padded
    rw [List.map_map]
    refine (List.map_congr_left fun d digit => ?_).trans (List.map_id _)
    exact value_digitChar d (fixedDigits_lt (by decide) digit)
  rw [digits]
  exact ofDigits_fixedDigits fits

theorem takeWhile_undigited {cs : List Char} (behind : Undigited cs) (limit : Nat) :
    (cs.take limit).takeWhile Char.isDigit = [] := by
  cases cs with
  | nil => simp
  | cons c rest =>
    have other : c.isDigit = false := behind
    cases limit <;> simp [other]

/-- A number that fills its width is read back from its digits. -/
theorem readDecimal_padded {limit width n : Nat} {rest : List Char} (fits : n < Nat.pow 10 width)
    (positive : 0 < width) (within : width ≤ limit) (behind : Undigited rest) :
    readDecimal limit (padded 10 width n ++ rest) = some (n, rest) := by
  have digits : ((padded 10 width n ++ rest).take limit).takeWhile Char.isDigit =
      padded 10 width n := by
    rw [List.take_append, List.take_of_length_le (by simpa using within),
      List.takeWhile_append_of_pos fun c member => isDigit_of_mem_padded member,
      takeWhile_undigited behind, List.append_nil]
  obtain ⟨d, -, cs, first⟩ := exists_padded (show 0 < 10 by decide) positive n
  have filled : (padded 10 width n).isEmpty = false := by rw [first]; rfl
  unfold readDecimal
  simp only [digits, filled, ofDigits_padded fits, List.drop_left]
  rfl

theorem trimStart_padded {width : Nat} (positive : 0 < width) (n : Nat) (rest : List Char) :
    trimStart (padded 10 width n ++ rest) = padded 10 width n ++ rest := by
  obtain ⟨d, small, cs, first⟩ := exists_padded (show 0 < 10 by decide) positive n
  rw [first]
  simp [trimStart, isBlank_digitChar d small]

end Text

namespace Instant

open Text

/-- The point in time is in one of the years 0 to 9999. -/
def InYears (t : Instant) : Prop :=
  0 ≤ (Date.ofDays (t.second / 86400)).year ∧ (Date.ofDays (t.second / 86400)).year ≤ 9999

theorem readField_padded {n : Nat} {rest : List Char} (fits : n < 100) (behind : Undigited rest) :
    readField 2 (padded 10 2 n ++ rest) = some (n, rest) := by
  unfold readField
  rw [trimStart_padded (by decide)]
  exact readDecimal_padded fits (by decide) (by decide) behind

theorem readMark_cons {mark : Char} (visible : isBlank mark = false) (rest : List Char) :
    readMark mark (mark :: rest) = some rest := by
  simp [readMark, trimStart, visible]

theorem readYear_render {year : Int} {rest : List Char} (low : 0 ≤ year) (high : year ≤ 9999)
    (behind : Undigited rest) : readYear (renderYear year ++ rest) = some (year, rest) := by
  have digits : renderYear year = padded 10 4 year.toNat := if_pos ⟨low, high⟩
  have fits : year.toNat < 10000 := by omega
  have number : readDecimal 4 (padded 10 4 year.toNat ++ rest) = some (year.toNat, rest) :=
    readDecimal_padded fits (by decide) (by decide) behind
  rw [digits]
  unfold readYear
  rw [trimStart_padded (by decide)]
  obtain ⟨d, small, cs, first⟩ :=
    exists_padded (show 0 < 10 by decide) (show 0 < 4 by decide) year.toNat
  rw [first, List.cons_append] at number ⊢
  obtain ⟨minus, plus⟩ := digitChar_unsigned d small
  split
  · rename_i sign
    exact absurd (List.cons.inj sign).1 minus
  · rename_i sign
    exact absurd (List.cons.inj sign).1 plus
  · rw [number]
    simp [Int.toNat_of_nonneg low]

/-- A date that exists is read back from its text. -/
theorem readDate_render {date : Date} {rest : List Char} (exist : date.exists? = true)
    (low : 0 ≤ date.year) (high : date.year ≤ 9999) (behind : Undigited rest) :
    readDate (renderYear date.year ++ '-' :: padded 10 2 date.month ++ '-' ::
      padded 10 2 date.day ++ rest) = some (date, rest) := by
  have bounds : 1 ≤ date.month ∧ date.month ≤ 12 ∧ 1 ≤ date.day ∧ date.day ≤ 31 := by
    simp only [Date.exists?, Bool.and_eq_true, decide_eq_true_eq] at exist
    obtain ⟨⟨⟨month_low, month_high⟩, day_low⟩, day_high⟩ := exist
    have most : Date.daysInMonth date.year date.month ≤ 31 := by
      unfold Date.daysInMonth
      split
      · split <;> omega
      · split <;> omega
    omega
  have dates : hasDates date.year = true := by
    simp only [hasDates, Bool.and_eq_true, decide_eq_true_eq]
    omega
  unfold readDate
  simp only [List.append_assoc, List.cons_append]
  rw [readYear_render low high (undigited_cons rfl _)]
  simp only [Option.bind_eq_bind, Option.bind_some]
  rw [readMark_cons rfl]
  simp only [Option.bind_some]
  rw [readField_padded (by omega) (undigited_cons rfl _)]
  simp only [Option.bind_some]
  rw [readMark_cons rfl]
  simp only [Option.bind_some]
  rw [readField_padded (by omega) behind]
  simp only [Option.bind_some, dates, exist, and_self, if_true]

theorem readFraction_padded {width n : Nat} {rest : List Char} (fits : n < Nat.pow 10 width)
    (positive : 0 < width) (within : width ≤ 9) (behind : Undigited rest) :
    readFraction ('.' :: padded 10 width n ++ rest) = some (n * Nat.pow 10 (9 - width), rest) := by
  have dropped : rest.dropWhile Char.isDigit = rest := by
    cases rest with
    | nil => rfl
    | cons c rest => exact List.dropWhile_cons_of_neg (by simp [show c.isDigit = false from behind])
  have used : (padded 10 width n ++ rest).length - rest.length = width := by simp
  rw [List.cons_append]
  unfold readFraction
  simp only [readDecimal_padded fits positive within behind, Option.bind_eq_bind,
    Option.bind_some, used, dropped]
  rfl

/-- A fraction is read back from its text, however many digits that has. -/
theorem readFraction_render {nano : Nat} {c : Char} (fits : nano < 1000000000)
    (behind : c.isDigit = false) (other : c ≠ '.') (rest : List Char) :
    readFraction (renderFraction nano ++ c :: rest) = some (nano, c :: rest) := by
  unfold renderFraction
  split
  · rename_i zero
    rw [zero]
    unfold readFraction
    split
    · rename_i point
      exact absurd (List.cons.inj point).1 other
    · rfl
  split
  · rename_i millis
    rw [readFraction_padded (show nano / 1000000 < 1000 by omega) (by decide) (by decide)
      (undigited_cons behind rest)]
    have whole : nano / 1000000 * 1000000 = nano := by omega
    rw [whole]
  split
  · rename_i micros
    rw [readFraction_padded (show nano / 1000 < 1000000 by omega) (by decide) (by decide)
      (undigited_cons behind rest)]
    have whole : nano / 1000 * 1000 = nano := by omega
    rw [whole]
  · rw [readFraction_padded (show nano < 1000000000 by omega) (by decide) (by decide)
      (undigited_cons behind rest)]
    simp

theorem undigited_fraction (nano : Nat) {c : Char} (behind : c.isDigit = false)
    (rest : List Char) : Undigited (renderFraction nano ++ c :: rest) := by
  unfold renderFraction
  split
  · exact undigited_cons behind rest
  split
  · exact undigited_cons rfl _
  split
  · exact undigited_cons rfl _
  · exact undigited_cons rfl _

/-- A time of day is read back from its text. A second after the 59th is a leap second. -/
theorem readTimeOfDay_render {ofDay nano : Nat} (day : ofDay < 86400) (fits : nano < 2000000000)
    (leap : 1000000000 ≤ nano → ofDay % 60 = 59) {c : Char} (behind : c.isDigit = false)
    (other : c ≠ '.') (rest : List Char) :
    readTimeOfDay (padded 10 2 (ofDay / 3600) ++ ':' :: padded 10 2 (ofDay / 60 % 60) ++
        ':' :: padded 10 2 (ofDay % 60 + nano / 1000000000) ++
        renderFraction (nano % 1000000000) ++ c :: rest) =
      some ((ofDay, nano), c :: rest) := by
  have hour : ofDay / 3600 < 24 := by omega
  have minute : ofDay / 60 % 60 < 60 := by omega
  unfold readTimeOfDay
  simp only [List.append_assoc, List.cons_append]
  rw [readField_padded (by omega) (undigited_cons rfl _)]
  simp only [Option.bind_eq_bind, Option.bind_some]
  rw [readMark_cons rfl]
  simp only [Option.bind_some]
  rw [readField_padded (by omega) (undigited_cons rfl _)]
  simp only [Option.bind_some]
  rw [readMark_cons rfl]
  simp only [Option.bind_some]
  rw [readField_padded (by omega) (undigited_fraction _ behind rest)]
  simp only [Option.bind_some]
  rw [readFraction_render (by omega) behind other rest]
  simp only [Option.bind_some, hour, minute, true_and]
  by_cases late : 1000000000 ≤ nano
  · have last := leap late
    have second : ofDay % 60 + nano / 1000000000 = 60 := by omega
    have time : ofDay / 3600 * 3600 + ofDay / 60 % 60 * 60 + 59 = ofDay := by omega
    have nanos : nano % 1000000000 + 1000000000 = nano := by omega
    simp [second, time, nanos]
  · have second : ofDay % 60 + nano / 1000000000 = ofDay % 60 := by omega
    have time : ofDay / 3600 * 3600 + ofDay / 60 % 60 * 60 + ofDay % 60 = ofDay := by omega
    have nanos : nano % 1000000000 = nano := by omega
    have below : ofDay % 60 < 60 := by omega
    simp [second, time, nanos, below]

/-! ### Points in time -/

/-- The parts of a point in time give it back. -/
theorem ofParts?_self {t : Instant} (years : t.InYears) :
    ofParts? (Date.ofDays (t.second / 86400)) (t.second % 86400).toNat t.nano 0 = some t := by
  have second : (Date.ofDays (t.second / 86400)).toDays * 86400 +
      ((t.second % 86400).toNat : Int) - 0 = t.second := by
    rw [Date.toDays_ofDays]
    omega
  have dates : hasDates (Date.ofDays (t.second / 86400)).year = true := by
    obtain ⟨low, high⟩ := years
    simp only [hasDates, Bool.and_eq_true, decide_eq_true_eq]
    omega
  unfold ofParts?
  simp only [second, dates, if_true]
  rw [dif_pos ⟨t.nano_lt, t.leap⟩]

/-- A point in time in the years 0 to 9999 is read back from its text. -/
theorem read?_render {t : Instant} (years : t.InYears) : read? t.render = some t := by
  have leap : 1000000000 ≤ t.nano → (t.second % 86400).toNat % 60 = 59 := by
    intro late
    have last := t.leap late
    omega
  have day : (t.second % 86400).toNat < 86400 := by omega
  have date (rest : List Char) := readDate_render (Date.exists_ofDays (t.second / 86400)) years.1
    years.2 (undigited_cons (c := 'T') rfl rest)
  have time := readTimeOfDay_render day t.nano_lt leap (c := 'Z') rfl (by decide) []
  simp only [List.append_assoc, List.cons_append] at date time
  unfold read? render
  simp only [String.toList_ofList, List.append_assoc, List.cons_append]
  rw [date]
  simp only [Option.bind_eq_bind, Option.bind_some, true_or, if_true]
  rw [time]
  simp only [Option.bind_some]
  exact ofParts?_self years

end Instant

/-! ### Identifiers -/

namespace Uuid

open Text

theorem hexDigits_padded (width n : Nat) :
    (padded 16 width n).mapM hexDigit? = some (fixedDigits 16 width n) :=
  mapM_map_of_back fun d digit => hexDigit?_digitChar d (fixedDigits_lt (by decide) digit)

theorem ofHex?_padded (u : Uuid) : ofHex? (padded 16 32 u.value) = some u := by
  have value : ofDigits 16 (fixedDigits 16 32 u.value) = u.value :=
    ofDigits_fixedDigits u.value_lt
  unfold ofHex?
  simp only [hexDigits_padded, Option.bind_eq_bind, Option.bind_some, value]
  exact dif_pos u.value_lt

/-- Thirty-two characters are groups of 8, 4, 4, 4 and 12. -/
theorem exists_groups {digits : List Char} (length : digits.length = 32) :
    ∃ a b c d e : List Char, a.length = 8 ∧ b.length = 4 ∧ c.length = 4 ∧ d.length = 4 ∧
      e.length = 12 ∧ digits = a ++ (b ++ (c ++ (d ++ e))) := by
  have cut (n m : Nat) : digits.drop n = (digits.drop n).take m ++ digits.drop (n + m) := by
    rw [← List.drop_drop, List.take_append_drop]
  refine ⟨digits.take 8, (digits.drop 8).take 4, (digits.drop 12).take 4,
    (digits.drop 16).take 4, digits.drop 20, ?_, ?_, ?_, ?_, ?_, ?_⟩
  case refine_6 => rw [← cut 16 4, ← cut 12 4, ← cut 8 4, List.take_append_drop]
  all_goals simp [length]

/-- Digits in groups are put together again. -/
theorem dropHyphens?_hyphenate {digits : List Char} (length : digits.length = 32) :
    (hyphenate digits).length = 36 ∧ dropHyphens? (hyphenate digits) = some digits := by
  obtain ⟨a, b, c, d, e, la, lb, lc, ld, le, rfl⟩ := exists_groups length
  have past (n : Nat) (cs : List Char) (behind : cs.length ≤ n) : cs.drop n = [] :=
    List.drop_eq_nil_of_le behind
  have parts : hyphenate (a ++ (b ++ (c ++ (d ++ e)))) =
      a ++ '-' :: (b ++ '-' :: (c ++ '-' :: (d ++ '-' :: e))) := by
    simp [hyphenate, List.drop_append, la, lb, lc, ld, past]
  have whole : (hyphenate (a ++ (b ++ (c ++ (d ++ e))))).length = 36 := by
    simp [parts, la, lb, lc, ld, le]
  refine ⟨whole, ?_⟩
  unfold dropHyphens?
  simp only [whole]
  simp [parts, List.drop_append, la, lb, lc, ld, le, past]

/-- The hyphenated form does not begin like the mark of the form that names itself. -/
theorem unmarked_hyphenate (n : Nat) :
    ((hyphenate (padded 16 32 n)).take mark.length).map Char.toLower ≠ mark := by
  have lower : ∀ d < 16, (digitChar d).toLower ≠ 'u' := by decide
  obtain ⟨d, small, cs, first⟩ := exists_padded (show 0 < 16 by decide) (show 0 < 32 by decide) n
  have letters : mark = ['u', 'r', 'n', ':', 'u', 'u', 'i', 'd', ':'] := by rfl
  rw [first, letters]
  intro same
  simp only [hyphenate, List.take_succ_cons, List.cons_append, List.length_cons, List.map_cons,
    List.cons.injEq] at same
  exact lower d small same.1

/-- An identifier is read back from its text. -/
theorem read?_render (u : Uuid) : read? u.render = some u := by
  obtain ⟨length, digits⟩ := dropHyphens?_hyphenate (length_padded 16 32 u.value)
  unfold read? render
  simp only [String.toList_ofList, length, Nat.reduceEqDiff, false_and, if_false,
    unmarked_hyphenate, digits, Option.bind_some, ofHex?_padded]

end Uuid
end Casework
