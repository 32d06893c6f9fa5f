import Casework.Json.Printer
import Casework.Json.Reader
import Casework.Proofs.Texts

/-!
A value is read from the text that it is written as, be it compact or indented (`read?_compact`,
`read?_pretty`). Both are layouts, which differ in their blanks alone (`Layout.write`), and the
reader skips blanks: in front of anything that does not go on with a number a written part is read
as such (`ReadsAs`, `readsAs_write`). Doubles are left out, and so is what is nested too deep.
-/

namespace Casework.Json

open Text (digitChar digit?)

/-- The character may stand between the parts of a text. -/
def Blank (c : Char) : Prop := c = ' ' ∨ c = '\n' ∨ c = '\t' ∨ c = '\r'

instance : DecidablePred Blank := fun c => by unfold Blank; infer_instance

/-- The characters are blank. -/
def Gap (cs : List Char) : Prop := ∀ c ∈ cs, Blank c

/-- The characters do not go on with a number. -/
def Ended : List Char → Prop
  | [] => True
  | c :: _ => c.isDigit = false ∧ c ≠ '.' ∧ c ≠ 'e' ∧ c ≠ 'E'

theorem skipBlanks_gap {gap : List Char} (blank : Gap gap) (rest : List Char) :
    skipBlanks (gap ++ rest) = skipBlanks rest := by
  unfold skipBlanks
  refine List.dropWhile_append_of_pos fun c member => ?_
  have := blank c member
  simpa [Blank, or_assoc] using this

theorem skipBlanks_cons {c : Char} (visible : ¬Blank c) (rest : List Char) :
    skipBlanks (c :: rest) = c :: rest := by
  unfold skipBlanks
  refine List.dropWhile_cons_of_neg ?_
  simpa [Blank, or_assoc] using visible

theorem ended_gap {gap : List Char} (blank : Gap gap) {c : Char} {rest : List Char}
    (ended : Ended (c :: rest)) : Ended (gap ++ c :: rest) := by
  cases gap with
  | nil => exact ended
  | cons b gap =>
    rcases blank b List.mem_cons_self with rfl | rfl | rfl | rfl <;>
      exact ⟨rfl, by decide, by decide, by decide⟩

theorem readString_plain {c : Char} (quote : c ≠ '"') (escape : c ≠ '\\')
    (printable : ¬c.toNat < 0x20) (fuel : Nat) (seen rest : List Char) :
    readString (fuel + 1) (some seen) (c :: rest) = readString fuel (some (c :: seen)) rest := by
  rw [readString]
  simp only [quote, escape, printable, if_false]
  rfl

theorem readString_escaped {c : Char} {cs rest : List Char}
    (escape : readEscape cs = some (some c, rest)) (fuel : Nat) (seen : List Char) :
    readString (fuel + 1) (some seen) ('\\' :: cs) = readString fuel (some (c :: seen)) rest := by
  rw [readString]
  simp only [escape]
  rfl

theorem readUnit_padded {n : Nat} (small : n < 0x20) (rest : List Char) :
    readUnit ('0' :: '0' :: digitChar (n / 16) :: digitChar (n % 16) :: rest) = some (n, rest) := by
  have high := Text.hexDigit?_digitChar (n / 16) (by omega)
  have low := Text.hexDigit?_digitChar (n % 16) (by omega)
  have zero : Text.hexDigit? '0' = some 0 := by decide
  unfold readUnit
  simp only [high, low, zero, Option.bind_eq_bind, Option.bind_some]
  have : (0 * 16 + 0) * 256 + (n / 16 * 16 + n % 16) = n := by omega
  rw [this]
  rfl

/-- A character is read back from what stands for it in a string. -/
theorem readString_escapeChar (c : Char) (fuel : Nat) (seen rest : List Char) :
    readString (fuel + 1) (some seen) (escapeChar c ++ rest) =
      readString fuel (some (c :: seen)) rest := by
  have of_toNat {n : Nat} (same : c.toNat = n) : Char.ofNat n = c := by
    rw [← same, Char.ofNat_toNat]
  unfold escapeChar
  by_cases quote : c = '"'
  · rw [if_pos quote]
    exact readString_escaped (by rw [quote]; rfl) fuel seen
  rw [if_neg quote]
  by_cases escape : c = '\\'
  · rw [if_pos escape]
    exact readString_escaped (by rw [escape]; rfl) fuel seen
  rw [if_neg escape]
  by_cases backspace : c.toNat = 0x08
  · rw [if_pos backspace]
    exact readString_escaped (by rw [← of_toNat backspace]; rfl) fuel seen
  rw [if_neg backspace]
  by_cases tab : c = '\t'
  · rw [if_pos tab]
    exact readString_escaped (by rw [tab]; rfl) fuel seen
  rw [if_neg tab]
  by_cases newline : c = '\n'
  · rw [if_pos newline]
    exact readString_escaped (by rw [newline]; rfl) fuel seen
  rw [if_neg newline]
  by_cases feed : c.toNat = 0x0C
  · rw [if_pos feed]
    exact readString_escaped (by rw [← of_toNat feed]; rfl) fuel seen
  rw [if_neg feed]
  by_cases back : c = '\r'
  · rw [if_pos back]
    exact readString_escaped (by rw [back]; rfl) fuel seen
  rw [if_neg back]
  by_cases small : c.toNat < 0x20
  · rw [if_pos small]
    refine readString_escaped ?_ fuel seen
    have high : ¬(0xD800 ≤ c.toNat ∧ c.toNat ≤ 0xDBFF) := by omega
    have low : ¬(0xDC00 ≤ c.toNat ∧ c.toNat ≤ 0xDFFF) := by omega
    show readEscapedUnit ('0' :: '0' :: digitChar (c.toNat / 16) :: digitChar (c.toNat % 16) ::
      rest) = some (some c, rest)
    unfold readEscapedUnit
    simp only [readUnit_padded small, Option.bind_eq_bind, Option.bind_some, high, low, if_false,
      Char.ofNat_toNat]
  · rw [if_neg small]
    exact readString_plain quote escape small fuel seen rest

/-- A string is read back, up to its closing quote. -/
theorem readString_flatMap (s : List Char) {fuel : Nat} (enough : s.length < fuel)
    (seen rest : List Char) :
    readString fuel (some seen) (s.flatMap escapeChar ++ '"' :: rest) =
      some (some (String.ofList (seen.reverse ++ s)), rest) := by
  induction s generalizing fuel seen with
  | nil =>
    obtain ⟨fuel, rfl⟩ := Nat.exists_eq_succ_of_ne_zero (Nat.ne_zero_of_lt enough)
    simp [readString]
  | cons c s ih =>
    obtain ⟨fuel, rfl⟩ := Nat.exists_eq_succ_of_ne_zero (Nat.ne_zero_of_lt enough)
    rw [List.flatMap_cons, List.append_assoc, readString_escapeChar,
      ih (Nat.lt_of_succ_lt_succ enough)]
    simp

theorem undigited_of_ended {cs : List Char} (ended : Ended cs) : Text.Undigited cs := by
  cases cs with
  | nil => trivial
  | cons c cs => exact ended.1

theorem digit?_of_isDigit {c : Char} (digit : c.isDigit = true) :
    digit? c = some (c.toNat - 0x30) := if_pos digit

/-- Digits that all fit are taken into the significand. -/
theorem takeDigits_append {digits : List Char} (each : ∀ c ∈ digits, c.isDigit = true)
    {rest : List Char} (behind : Text.Undigited rest) {significand taken : Nat}
    (fits : Nat.ofDigitChars 10 digits significand ≤ wordLimit) :
    takeDigits ⟨significand, taken, 0⟩ (digits ++ rest) =
      (⟨Nat.ofDigitChars 10 digits significand, taken + digits.length, 0⟩, rest) := by
  induction digits generalizing significand taken with
  | nil =>
    cases rest with
    | nil => rfl
    | cons c rest =>
      have other : digit? c = none := if_neg (by rw [show c.isDigit = false from behind]; decide)
      simp [takeDigits, other]
  | cons c digits ih =>
    have zero : '0'.toNat = 0x30 := rfl
    rw [Nat.ofDigitChars_cons, Nat.mul_comm, zero] at fits ⊢
    have within : significand * 10 + (c.toNat - 0x30) ≤ wordLimit := by
      rw [Nat.ofDigitChars_eq_ofDigitChars_zero] at fits
      have grows := Nat.le_mul_of_pos_left (significand * 10 + (c.toNat - 0x30))
        (Nat.pow_pos (show 0 < 10 by decide) : 0 < 10 ^ digits.length)
      omega
    rw [List.cons_append, takeDigits]
    simp only [digit?_of_isDigit (each c List.mem_cons_self), within, and_self, if_true]
    rw [ih (fun d member => each d (List.mem_cons_of_mem c member)) fits, List.length_cons,
      Nat.add_comm digits.length, Nat.add_assoc]

/-- The first digit of a number is zero only if the number is. -/
theorem exists_toDigits {n : Nat} (positive : 0 < n) :
    ∃ c cs, Nat.toDigits 10 n = c :: cs ∧ c ≠ '0' := by
  induction n using Nat.strongRecOn with
  | ind n ih =>
    by_cases small : n < 10
    · have visible : ∀ d < 10, 0 < d → d.digitChar ≠ '0' := by decide
      exact ⟨n.digitChar, [], Nat.toDigits_of_lt_base small, visible n small positive⟩
    · obtain ⟨c, cs, digits, visible⟩ := ih (n / 10) (by omega) (by omega)
      rw [Nat.toDigits_of_base_le (by decide) (by omega), digits]
      exact ⟨c, _, rfl, visible⟩

theorem readTail_ended (negative : Bool) (n taken : Nat) {rest : List Char} (ended : Ended rest) :
    readTail negative ⟨n, taken, 0⟩ rest = some (wholeOf? negative n, rest) := by
  unfold readTail
  split
  · exact absurd rfl ended.2.1
  · exact absurd rfl ended.2.2.1
  · exact absurd rfl ended.2.2.2
  · rfl

/-- A whole number is read back from its digits. -/
theorem readNumber_toDigits (negative : Bool) {n : Nat} (fits : n ≤ wordLimit) {rest : List Char}
    (ended : Ended rest) :
    readNumber negative (Nat.toDigits 10 n ++ rest) = some (wholeOf? negative n, rest) := by
  rcases Nat.eq_zero_or_pos n with rfl | positive
  · show readNumber negative ('0' :: rest) = _
    cases rest with
    | nil => exact readTail_ended negative 0 1 ended
    | cons c rest =>
      rw [readNumber, if_neg (by rw [ended.1]; decide)]
      exact readTail_ended negative 0 1 ended
  · have digits {c : Char} (member : c ∈ Nat.toDigits 10 n) : c.isDigit = true :=
      Nat.isDigit_of_mem_toDigits (by decide) (by decide) member
    have value : Nat.ofDigitChars 10 (Nat.toDigits 10 n) 0 = n :=
      Nat.ofDigitChars_toDigits (by decide) (by decide)
    obtain ⟨c, cs, split, visible⟩ := exists_toDigits positive
    rw [split] at digits value ⊢
    rw [Nat.ofDigitChars_cons, Nat.mul_zero, Nat.zero_add,
      show '0'.toNat = 0x30 from rfl] at value
    have fits' : Nat.ofDigitChars 10 cs (c.toNat - 0x30) ≤ wordLimit := by rwa [value]
    have taken : takeDigits ⟨c.toNat - 0x30, 1, 0⟩ (cs ++ rest) = _ :=
      takeDigits_append (fun d member => digits (List.mem_cons_of_mem c member))
        (undigited_of_ended ended) fits'
    rw [List.cons_append, readNumber]
    · simp only [digit?_of_isDigit (digits List.mem_cons_self), taken, value]
      exact readTail_ended negative n _ ended
    · exact visible

/-! ### Layouts -/

/-- Where a writer puts blanks: in front of what stands on a level, and behind colons. -/
structure Layout where
  gap : Nat → List Char
  colon : List Char
  blank : ∀ level, Gap (gap level)
  blank_colon : Gap colon

namespace Layout

variable (layout : Layout)

mutual

/-- The value in this layout, on a level. -/
def write (level : Nat) : Json → List Char
  | .null => "null".toList
  | .bool b => (if b then "true" else "false").toList
  | .int n => (toString n).toList
  | .double x => x.render.toList
  | .text s => (quote s).toList
  | .list [] => ['[', ']']
  | .list (item :: rest) =>
    '[' :: (layout.gap (level + 1) ++ write (level + 1) item ++ writeItems (level + 1) rest ++
      (layout.gap level ++ [']']))
  | .object [] => ['\x7b', '\x7d']
  | .object ((name, value) :: rest) =>
    '\x7b' :: (layout.gap (level + 1) ++ (quote name).toList ++ ':' :: (layout.colon ++
      write (level + 1) value) ++ writeMembers (level + 1) rest ++ (layout.gap level ++ ['\x7d']))

def writeItems (level : Nat) : List Json → List Char
  | [] => []
  | item :: rest =>
    ',' :: (layout.gap level ++ write level item ++ writeItems level rest)

def writeMembers (level : Nat) : List (String × Json) → List Char
  | [] => []
  | (name, value) :: rest =>
    ',' :: (layout.gap level ++ (quote name).toList ++ ':' :: (layout.colon ++ write level value) ++
      writeMembers level rest)

end

end Layout

mutual

/-- What a text of a value is read as. -/
def Source.written : Json → Source
  | .list items => .list (writtenItems items)
  | .object members => .object (writtenMembers members)
  | j => .value j

def Source.writtenItems : List Json → List Source
  | [] => []
  | item :: rest => written item :: writtenItems rest

def Source.writtenMembers : List (String × Json) → List (String × Source)
  | [] => []
  | (name, j) :: rest => (name, written j) :: writtenMembers rest

end

theorem writtenItems_eq_map (items : List Json) :
    Source.writtenItems items = items.map Source.written := by
  induction items with
  | nil => rfl
  | cons item rest ih => rw [Source.writtenItems, ih, List.map_cons]

theorem writtenMembers_eq_map (members : List (String × Json)) :
    Source.writtenMembers members = members.map fun (name, j) => (name, .written j) := by
  induction members with
  | nil => rfl
  | cons member rest ih => rw [Source.writtenMembers, ih, List.map_cons]

mutual

/-- The value holds whole numbers that are read as such and no doubles, and it is not nested
    deeper. -/
def Plain (depth : Nat) : Json → Prop
  | .null | .bool _ | .text _ => True
  | .int n => -(UInt64.size / 2 : Nat) ≤ n ∧ n < UInt64.size
  | .double _ => False
  | .list items => 0 < depth ∧ PlainItems (depth - 1) items
  | .object members => 0 < depth ∧ PlainMembers (depth - 1) members

def PlainItems (depth : Nat) : List Json → Prop
  | [] => True
  | item :: rest => Plain depth item ∧ PlainItems depth rest

def PlainMembers (depth : Nat) : List (String × Json) → Prop
  | [] => True
  | (_, value) :: rest => Plain depth value ∧ PlainMembers depth rest

end

/-- In front of what does not go on with a number the characters are read as this part, if there is
    fuel for each of them twice. -/
structure ReadsAs (depth : Nat) (cs : List Char) (part : Source) : Prop where
  visible : ∃ c rest, cs = c :: rest ∧ ¬Blank c ∧ c ≠ ']'
  reads : ∀ {fuel : Nat} {rest : List Char}, Ended rest → 2 * cs.length ≤ fuel →
    readPart fuel depth (cs ++ rest) = some (part, rest)

theorem readPart_gap {gap : List Char} (blank : Gap gap) (fuel depth : Nat) (cs : List Char) :
    readPart fuel depth (gap ++ cs) = readPart fuel depth cs := by
  cases fuel with
  | zero => rfl
  | succ fuel => rw [readPart, readPart, skipBlanks_gap blank]

/-- What follows an item, as `readItems` goes on with it. -/
def moreItems (fuel depth : Nat) (seen : List Source) (cs : List Char) :
    Option (List Source × List Char) :=
  match skipBlanks cs with
  | ',' :: rest => readItems fuel depth seen rest
  | ']' :: rest => some (seen.reverse, rest)
  | _ => none

theorem readItems_of_reads {fuel depth : Nat} {seen : List Source} {cs rest : List Char}
    {part : Source} (reads : readPart fuel depth cs = some (part, rest)) :
    readItems (fuel + 1) depth seen cs = moreItems fuel depth (part :: seen) rest := by
  rw [readItems, reads]
  rfl

/-- What follows a member, as `readMembers` goes on with it. -/
def moreMembers (fuel depth : Nat) (seen : List (Option String × Source)) (cs : List Char) :
    Option (List (Option String × Source) × List Char) :=
  match skipBlanks cs with
  | ',' :: rest => readMembers fuel depth seen rest
  | '\x7d' :: rest => some (seen.reverse, rest)
  | _ => none

theorem toList_quote (s : String) :
    (quote s).toList = '"' :: (s.toList.flatMap escapeChar ++ ['"']) := by
  simp [quote]

theorem length_le_flatMap (s : List Char) : s.length ≤ (s.flatMap escapeChar).length := by
  have filled (c : Char) : 1 ≤ (escapeChar c).length := by
    unfold escapeChar
    repeat' split
    all_goals simp
  induction s with
  | nil => exact Nat.le_refl _
  | cons c s ih =>
    have := filled c
    simp only [List.flatMap_cons, List.length_append, List.length_cons]
    omega

/-- A string is read back from between its quotes. -/
theorem readString_quote (s : String) (fuel : Nat) (enough : (quote s).toList.length ≤ fuel)
    (rest : List Char) :
    ∃ cs, (quote s).toList ++ rest = '"' :: cs ∧
      readString fuel (some []) cs = some (some s, rest) := by
  rw [toList_quote] at enough ⊢
  have short := length_le_flatMap s.toList
  have enough' : s.toList.length < fuel := by
    simp only [List.length_cons, List.length_append] at enough
    omega
  refine ⟨_, rfl, ?_⟩
  show readString fuel (some []) (s.toList.flatMap escapeChar ++ ['"'] ++ rest) = _
  rw [List.append_assoc, List.singleton_append, readString_flatMap s.toList enough']
  simp

theorem readMembers_of_reads {fuel depth : Nat} {seen : List (Option String × Source)}
    {gap colon cs rest : List Char} (blank : Gap gap) (blank_colon : Gap colon) {name : String}
    {part : Source} (reads : ReadsAs depth cs part) (ended : Ended rest)
    (enough : 2 * ((quote name).toList.length + cs.length) ≤ fuel) :
    readMembers (fuel + 1) depth seen
        (gap ++ ((quote name).toList ++ ':' :: (colon ++ (cs ++ rest)))) =
      moreMembers fuel depth ((some name, part) :: seen) rest := by
  obtain ⟨inner, opened, name_read⟩ :=
    readString_quote name fuel (by omega) (':' :: (colon ++ (cs ++ rest)))
  have part_read := reads.reads ended (show 2 * cs.length ≤ fuel by omega)
  rw [← readPart_gap blank_colon] at part_read
  rw [opened, readMembers, skipBlanks_gap blank, skipBlanks_cons (by decide)]
  simp only [name_read]
  rw [skipBlanks_cons (by decide)]
  simp only [part_read]
  rfl

/-- What stands behind a part does not go on with a number. -/
theorem ended_writeItems (layout : Layout) (level : Nat) (items : List Json) {cs : List Char}
    (ended : Ended cs) : Ended (layout.writeItems level items ++ cs) := by
  cases items with
  | nil => exact ended
  | cons => exact ⟨rfl, by decide, by decide, by decide⟩

theorem ended_writeMembers (layout : Layout) (level : Nat) (members : List (String × Json))
    {cs : List Char} (ended : Ended cs) : Ended (layout.writeMembers level members ++ cs) := by
  cases members with
  | nil => exact ended
  | cons => exact ⟨rfl, by decide, by decide, by decide⟩

theorem ended_cons {c : Char} (other : c.isDigit = false ∧ c ≠ '.' ∧ c ≠ 'e' ∧ c ≠ 'E')
    (rest : List Char) : Ended (c :: rest) := other

theorem readsAs_of_cons {c : Char} {word : List Char} {part : Source} {depth : Nat}
    (visible : ¬Blank c ∧ c ≠ ']')
    (reads : ∀ {fuel : Nat} {rest : List Char}, Ended rest → 2 * word.length < fuel →
      readPart (fuel + 1) depth (c :: (word ++ rest)) = some (part, rest)) :
    ReadsAs depth (c :: word) part where
  visible := ⟨c, word, rfl, visible⟩
  reads {fuel rest} ended enough := by
    rw [List.length_cons] at enough
    obtain ⟨fuel, rfl⟩ := Nat.exists_eq_succ_of_ne_zero (show fuel ≠ 0 by omega)
    exact reads ended (by omega)

theorem readsAs_quote (depth : Nat) (s : String) :
    ReadsAs depth (quote s).toList (.value (.text s)) := by
  have opened := toList_quote s
  rw [opened]
  refine readsAs_of_cons ⟨by decide, by decide⟩ fun {fuel rest} _ enough => ?_
  have enough' : (quote s).toList.length ≤ fuel := by
    rw [opened, List.length_cons]
    omega
  obtain ⟨cs, split, reads⟩ := readString_quote s fuel enough' rest
  rw [opened] at split
  rw [← List.cons_append, split, readPart, skipBlanks_cons (by decide)]
  simp only [reads]
  rfl

theorem readPart_of_isDigit {c : Char} (digit : c.isDigit = true) (fuel depth : Nat)
    (cs : List Char) : readPart (fuel + 1) depth (c :: cs) =
      (readNumber false (c :: cs)).map fun (j, rest) => (.ofValue? j, rest) := by
  have visible : ¬Blank c := by
    rintro (rfl | rfl | rfl | rfl) <;> exact absurd digit (by decide)
  rw [readPart, skipBlanks_cons visible]
  split
  -- A digit begins neither a word nor a string, a list, an object or a negative number.
  all_goals first
    | rfl
    | (rename_i same
       obtain ⟨rfl, -⟩ := List.cons.inj same
       exact absurd digit (by decide))

/-- A whole number in range is read back. -/
theorem readsAs_int (depth : Nat) {n : Int} (low : -(UInt64.size / 2 : Nat) ≤ n)
    (high : n < UInt64.size) :
    ReadsAs depth (toString n).toList (.value (.int n)) := by
  have digits {m : Nat} {c : Char} (member : c ∈ Nat.toDigits 10 m) : c.isDigit = true :=
    Nat.isDigit_of_mem_toDigits (by decide) (by decide) member
  cases n with
  | ofNat m =>
    have shown : (toString (Int.ofNat m)).toList = Nat.toDigits 10 m := Nat.toList_repr
    have fits : m ≤ wordLimit := by
      have high : m < UInt64.size := Int.ofNat_lt.1 high
      exact Nat.le_pred_of_lt high
    obtain ⟨c, cs, split⟩ := List.exists_cons_of_ne_nil (Nat.toDigits_ne_nil (n := m) (b := 10))
    have digit : c.isDigit = true := digits (split ▸ List.mem_cons_self)
    rw [shown, split]
    refine readsAs_of_cons ⟨?_, ?_⟩ fun {fuel rest} ended _ => ?_
    · rintro (rfl | rfl | rfl | rfl) <;> exact absurd digit (by decide)
    · rintro rfl
      exact absurd digit (by decide)
    · rw [readPart_of_isDigit digit, ← List.cons_append, ← split,
        readNumber_toDigits false fits ended]
      rfl
  | negSucc m =>
    have shown : (toString (Int.negSucc m)).toList = '-' :: Nat.toDigits 10 (m + 1) := by
      show ("-" ++ (m + 1).repr).toList = _
      rw [String.toList_append, Nat.toList_repr]
      rfl
    have half : m + 1 ≤ UInt64.size / 2 := by omega
    have fits : m + 1 ≤ wordLimit := Nat.le_trans half (by decide)
    have whole : wholeOf? true (m + 1) = some (.int (Int.negSucc m)) := by
      have small : ¬(m + 1 = 0 ∨ m + 1 > UInt64.size / 2) := by omega
      simp only [wholeOf?, if_true, small, if_false]
      rfl
    rw [shown]
    refine readsAs_of_cons ⟨by decide, by decide⟩ fun {fuel rest} ended _ => ?_
    rw [readPart, skipBlanks_cons (by decide)]
    simp only [readNumber_toDigits true fits ended, whole]
    rfl

theorem withinDepth_of_pos {depth : Nat} (room : 0 < depth) (part : Source) :
    withinDepth depth part = part := if_neg (Nat.ne_of_gt room)

theorem objectOf_named (members : List (String × Source)) :
    objectOf (members.map fun m => (some m.1, m.2)) = .object members := by
  have named : (members.map fun m => (some m.1, m.2)).mapM
      (fun m => m.1.map fun name => (name, m.2)) = some members :=
    mapM_map_of_back fun _ _ => rfl
  unfold objectOf
  rw [named]

theorem readPart_list {fuel depth : Nat} {gap cs rest : List Char} {c : Char}
    {parts : List Source} (blank : Gap gap) (visible : ¬Blank c) (other : c ≠ ']')
    (room : 0 < depth) (items : readItems fuel (depth - 1) [] (c :: cs) = some (parts, rest)) :
    readPart (fuel + 1) depth ('[' :: (gap ++ c :: cs)) = some (.list parts, rest) := by
  rw [readPart, skipBlanks_cons (by decide)]
  simp only [skipBlanks_gap blank, skipBlanks_cons visible]
  split
  · rename_i same
    exact absurd (List.cons.inj same).1 other
  · rw [items, Option.map_some, withinDepth_of_pos room]

theorem readPart_object {fuel depth : Nat} {gap cs rest : List Char}
    {parts : List (String × Source)} (blank : Gap gap) (room : 0 < depth)
    (members : readMembers fuel (depth - 1) [] ('"' :: cs) =
      some (parts.map fun m => (some m.1, m.2), rest)) :
    readPart (fuel + 1) depth ('\x7b' :: (gap ++ '"' :: cs)) = some (.object parts, rest) := by
  rw [readPart, skipBlanks_cons (by decide)]
  simp only [skipBlanks_gap blank, skipBlanks_cons (show ¬Blank '"' by decide)]
  refine (congrArg (Option.map _) members).trans ?_
  simp only [Option.map_some, objectOf_named, withinDepth_of_pos room]

mutual

/-- A plain value is read from its text in any layout, as far as it is nested. -/
theorem readsAs_write (layout : Layout) (depth level : Nat) :
    (j : Json) → Plain depth j → ReadsAs depth (layout.write level j) (.written j)
  | .null, _ => by
    show ReadsAs depth ('n' :: ['u', 'l', 'l']) (.value .null)
    refine readsAs_of_cons ⟨by decide, by decide⟩ fun {fuel rest} _ _ => ?_
    rw [readPart, skipBlanks_cons (by decide)]
    rfl
  | .bool true, _ => by
    show ReadsAs depth ('t' :: ['r', 'u', 'e']) (.value (.bool true))
    refine readsAs_of_cons ⟨by decide, by decide⟩ fun {fuel rest} _ _ => ?_
    rw [readPart, skipBlanks_cons (by decide)]
    rfl
  | .bool false, _ => by
    show ReadsAs depth ('f' :: ['a', 'l', 's', 'e']) (.value (.bool false))
    refine readsAs_of_cons ⟨by decide, by decide⟩ fun {fuel rest} _ _ => ?_
    rw [readPart, skipBlanks_cons (by decide)]
    rfl
  | .int n, plain => readsAs_int depth plain.1 plain.2
  | .text s, _ => readsAs_quote depth s
  | .list [], plain => by
    refine readsAs_of_cons ⟨by decide, by decide⟩ fun {fuel rest} _ _ => ?_
    rw [List.singleton_append, readPart, skipBlanks_cons (by decide)]
    simp only [skipBlanks_cons (show ¬Blank ']' by decide)]
    rw [withinDepth_of_pos plain.1]
    rfl
  | .list (item :: rest), plain => by
    obtain ⟨room, plain, later⟩ := plain
    have first := readsAs_write layout (depth - 1) (level + 1) item plain
    obtain ⟨c, cs, opened, visible, other⟩ := first.visible
    refine readsAs_of_cons ⟨by decide, by decide⟩ fun {fuel tail} _ enough => ?_
    simp only [List.length_append] at enough
    obtain ⟨fuel, rfl⟩ := Nat.exists_eq_succ_of_ne_zero (show fuel ≠ 0 by omega)
    have ended : Ended (layout.writeItems (level + 1) rest ++ (layout.gap level ++ ']' :: tail)) :=
      ended_writeItems layout _ rest (ended_gap (layout.blank level) (ended_cons (by decide) _))
    have read := first.reads ended (show 2 * _ ≤ fuel by omega)
    have more := moreItems_writeItems layout (depth - 1) (level + 1) rest later fuel _
      [.written item] tail
      (layout.blank level) (show 2 * _ ≤ fuel by omega)
    rw [← readItems_of_reads read, opened, List.cons_append] at more
    simp only [opened, List.append_assoc, List.cons_append, List.nil_append]
    exact readPart_list (layout.blank (level + 1)) visible other room more
  | .object [], plain => by
    refine readsAs_of_cons ⟨by decide, by decide⟩ fun {fuel rest} _ _ => ?_
    rw [List.singleton_append, readPart, skipBlanks_cons (by decide)]
    simp only [skipBlanks_cons (show ¬Blank '\x7d' by decide)]
    rw [withinDepth_of_pos plain.1]
    rfl
  | .object ((name, j) :: rest), plain => by
    obtain ⟨room, plain, later⟩ := plain
    have first := readsAs_write layout (depth - 1) (level + 1) j plain
    refine readsAs_of_cons ⟨by decide, by decide⟩ fun {fuel tail} _ enough => ?_
    simp only [List.length_append, List.length_cons] at enough
    obtain ⟨fuel, rfl⟩ := Nat.exists_eq_succ_of_ne_zero (show fuel ≠ 0 by omega)
    have ended : Ended (layout.writeMembers (level + 1) rest ++
        (layout.gap level ++ '\x7d' :: tail)) :=
      ended_writeMembers layout _ rest (ended_gap (layout.blank level) (ended_cons (by decide) _))
    have more := moreMembers_writeMembers layout (depth - 1) (level + 1) rest later fuel _
      [(some name, .written j)] tail (layout.blank level) (show 2 * _ ≤ fuel by omega)
    have nothing : Gap [] := nofun
    rw [← readMembers_of_reads nothing layout.blank_colon first ended (by omega),
      List.nil_append, toList_quote, List.cons_append, List.append_assoc] at more
    simp only [toList_quote, List.append_assoc, List.cons_append]
    exact readPart_object (layout.blank (level + 1)) room more

theorem moreItems_writeItems (layout : Layout) (depth level : Nat) :
    (items : List Json) → PlainItems depth items → ∀ (fuel : Nat) (gap : List Char)
      (seen : List Source) (tail : List Char), Gap gap →
      2 * (layout.writeItems level items).length ≤ fuel →
      moreItems fuel depth seen (layout.writeItems level items ++ (gap ++ ']' :: tail)) =
        some (seen.reverse ++ Source.writtenItems items, tail)
  | [], _ => fun fuel gap seen tail blank _ => by
    unfold moreItems
    rw [Layout.writeItems, List.nil_append, skipBlanks_gap blank, skipBlanks_cons (by decide)]
    simp [Source.writtenItems]
  | item :: rest, plain => fun fuel gap seen tail blank enough => by
    obtain ⟨plain, later⟩ := plain
    have first := readsAs_write layout depth level item plain
    rw [Layout.writeItems, List.length_cons, List.length_append, List.length_append] at enough
    obtain ⟨fuel, rfl⟩ := Nat.exists_eq_succ_of_ne_zero (show fuel ≠ 0 by omega)
    have ended : Ended (layout.writeItems level rest ++ (gap ++ ']' :: tail)) :=
      ended_writeItems layout _ rest (ended_gap blank (ended_cons (by decide) _))
    have read := first.reads ended (show 2 * _ ≤ fuel by omega)
    rw [← readPart_gap (layout.blank level)] at read
    have more := moreItems_writeItems layout depth level rest later fuel gap
      (.written item :: seen) tail blank (show 2 * _ ≤ fuel by omega)
    rw [Layout.writeItems]
    unfold moreItems
    rw [List.cons_append, skipBlanks_cons (by decide)]
    simp only [List.append_assoc]
    rw [readItems_of_reads read, more, Source.writtenItems]
    simp

theorem moreMembers_writeMembers (layout : Layout) (depth level : Nat) :
    (members : List (String × Json)) → PlainMembers depth members → ∀ (fuel : Nat)
      (gap : List Char) (seen : List (Option String × Source)) (tail : List Char), Gap gap →
      2 * (layout.writeMembers level members).length ≤ fuel →
      moreMembers fuel depth seen (layout.writeMembers level members ++ (gap ++ '\x7d' :: tail)) =
        some (seen.reverse ++ (Source.writtenMembers members).map fun m => (some m.1, m.2), tail)
  | [], _ => fun fuel gap seen tail blank _ => by
    unfold moreMembers
    rw [Layout.writeMembers, List.nil_append, skipBlanks_gap blank, skipBlanks_cons (by decide)]
    simp [Source.writtenMembers]
  | (name, j) :: rest, plain => fun fuel gap seen tail blank enough => by
    obtain ⟨plain, later⟩ := plain
    have first := readsAs_write layout depth level j plain
    rw [Layout.writeMembers] at enough
    simp only [List.length_cons, List.length_append] at enough
    obtain ⟨fuel, rfl⟩ := Nat.exists_eq_succ_of_ne_zero (show fuel ≠ 0 by omega)
    have ended : Ended (layout.writeMembers level rest ++ (gap ++ '\x7d' :: tail)) :=
      ended_writeMembers layout _ rest (ended_gap blank (ended_cons (by decide) _))
    have more := moreMembers_writeMembers layout depth level rest later fuel gap
      ((some name, .written j) :: seen) tail blank (show 2 * _ ≤ fuel by omega)
    rw [Layout.writeMembers]
    unfold moreMembers
    rw [List.cons_append, skipBlanks_cons (by decide)]
    simp only [List.append_assoc, List.cons_append]
    rw [readMembers_of_reads (layout.blank level) layout.blank_colon first ended (by omega), more,
      Source.writtenMembers]
    simp

end

/-- A plain value is read from its text in any layout. -/
theorem read?_write (layout : Layout) {j : Json} (plain : Plain maxDepth j) (gap : List Char)
    (blank : Gap gap) :
    Source.read? (String.ofList (layout.write 0 j ++ gap)) = some (.written j) := by
  have ended : Ended gap := by
    have ended := ended_gap blank (ended_cons (c := ' ') (by decide) [])
    cases gap with
    | nil => trivial
    | cons => exact ended
  have read := (readsAs_write layout maxDepth 0 j plain).reads ended
    (show _ ≤ 2 * (layout.write 0 j ++ gap).length + 2 by rw [List.length_append]; omega)
  have nothing : skipBlanks gap = [] := by
    have skipped := skipBlanks_gap blank []
    rwa [List.append_nil] at skipped
  unfold Source.read?
  simp only [String.toList_ofList, read, nothing]
  rfl

/-! ### The two layouts -/

/-- Without any blank. -/
def Layout.tight : Layout := ⟨fun _ => [], [], nofun, nofun⟩

theorem Layout.gap_tight (level : Nat) : Layout.tight.gap level = [] := rfl

theorem Layout.colon_tight : Layout.tight.colon = [] := rfl

theorem newLine_toList (level : Nat) :
    (newLine level).toList = '\n' :: List.replicate (2 * level) ' ' := by
  simp [newLine]

/-- Indented by two spaces a level. -/
def Layout.indented : Layout where
  gap level := '\n' :: List.replicate (2 * level) ' '
  colon := [' ']
  blank level c member := by
    rcases List.mem_cons.1 member with rfl | space
    · exact .inr (.inl rfl)
    · exact .inl (List.eq_of_mem_replicate space)
  blank_colon c member := .inl (List.mem_singleton.1 member)

theorem Layout.gap_indented (level : Nat) : Layout.indented.gap level = (newLine level).toList :=
  (newLine_toList level).symm

/-- Texts with commas between them. -/
theorem toList_commas (first : String) (rest : List String) :
    (",".intercalate (first :: rest)).toList =
      first.toList ++ rest.flatMap fun text => ',' :: text.toList := by
  rw [String.toList_intercalate]
  induction rest generalizing first with
  | nil => simp
  | cons second rest ih =>
    rw [List.map_cons, List.map_cons, List.intercalate_cons_cons, ← List.map_cons, ih]
    simp

mutual

theorem toList_compact (level : Nat) :
    (j : Json) → (compact j).toList = Layout.tight.write level j
  | .null | .bool _ | .int _ | .double _ | .text _ | .list [] | .object [] => rfl
  | .list (item :: rest) => by
    rw [compact, compactItems, String.toList_append, String.toList_append, toList_commas,
      toList_compact (level + 1) item, toList_compactItems (level + 1) rest]
    rfl
  | .object ((name, j) :: rest) => by
    rw [compact, compactMembers, String.toList_append, String.toList_append, toList_commas,
      String.toList_append, String.toList_append, toList_compact (level + 1) j,
      toList_compactMembers (level + 1) rest, List.append_assoc (quote name).toList, Layout.write,
      Layout.gap_tight, Layout.gap_tight, Layout.colon_tight, List.nil_append, List.nil_append,
      List.nil_append, show "\x7b".toList = ['\x7b'] from rfl, show ":".toList = [':'] from rfl,
      List.singleton_append, List.singleton_append, List.cons_append]
    rfl

theorem toList_compactItems (level : Nat) :
    (items : List Json) → ((compactItems items).flatMap fun text => ',' :: text.toList) =
      Layout.tight.writeItems level items
  | [] => rfl
  | item :: rest => by
    rw [compactItems, List.flatMap_cons, toList_compact level item, toList_compactItems level rest]
    rfl

theorem toList_compactMembers (level : Nat) :
    (members : List (String × Json)) →
      ((compactMembers members).flatMap fun text => ',' :: text.toList) =
        Layout.tight.writeMembers level members
  | [] => rfl
  | (name, j) :: rest => by
    rw [compactMembers, List.flatMap_cons, toList_compactMembers level rest, String.toList_append,
      String.toList_append, toList_compact level j, List.append_assoc, Layout.writeMembers,
      Layout.gap_tight, Layout.colon_tight, List.nil_append]
    rfl

end

mutual

theorem toList_pretty (level : Nat) :
    (j : Json) → (pretty level j).toList = Layout.indented.write level j
  | .null | .bool _ | .int _ | .double _ | .text _ => rfl
  | .list [] | .object [] => by
    rw [pretty, Layout.write]
    rfl
  | .list (item :: rest) => by
    rw [pretty, prettyItems, String.toList_append, String.toList_append, String.toList_append,
      toList_commas, String.toList_append, toList_pretty (level + 1) item,
      toList_prettyItems (level + 1) rest, Layout.write, Layout.gap_indented, Layout.gap_indented,
      List.append_assoc]
    rfl
  | .object ((name, j) :: rest) => by
    rw [pretty, prettyMembers, String.toList_append, String.toList_append, String.toList_append,
      toList_commas, String.toList_append, String.toList_append, String.toList_append,
      toList_pretty (level + 1) j, toList_prettyMembers (level + 1) rest, Layout.write,
      Layout.gap_indented, Layout.gap_indented, List.append_assoc,
      List.append_assoc (_ ++ (quote name).toList)]
    rfl

theorem toList_prettyItems (level : Nat) :
    (items : List Json) → ((prettyItems level items).flatMap fun text => ',' :: text.toList) =
      Layout.indented.writeItems level items
  | [] => rfl
  | item :: rest => by
    rw [prettyItems, List.flatMap_cons, String.toList_append, toList_pretty level item,
      toList_prettyItems level rest, Layout.writeItems, Layout.gap_indented]
    rfl

theorem toList_prettyMembers (level : Nat) :
    (members : List (String × Json)) →
      ((prettyMembers level members).flatMap fun text => ',' :: text.toList) =
        Layout.indented.writeMembers level members
  | [] => rfl
  | (name, j) :: rest => by
    rw [prettyMembers, List.flatMap_cons, toList_prettyMembers level rest, String.toList_append,
      String.toList_append, String.toList_append, toList_pretty level j, Layout.writeMembers,
      Layout.gap_indented, List.append_assoc (_ ++ (quote name).toList)]
    rfl

end

/-- A plain value is read from its compact text. -/
theorem read?_compact {j : Json} (plain : Plain maxDepth j) :
    Source.read? (compact j) = some (.written j) := by
  have read := read?_write .tight plain [] nofun
  rwa [List.append_nil, ← toList_compact, String.ofList_toList] at read

/-- A plain value is read from its indented text with a line break behind it. -/
theorem read?_pretty {j : Json} (plain : Plain maxDepth j) :
    Source.read? (pretty 0 j ++ "\n") = some (.written j) := by
  have blank : Gap "\n".toList := fun c member => .inr (.inl (List.mem_singleton.1 member))
  have read := read?_write .indented plain _ blank
  rwa [← toList_pretty, ← String.toList_append, String.ofList_toList] at read

/-! ### Values -/

mutual

/-- The members of every object are in the order of their names. -/
def Ordered : Json → Prop
  | .list items => OrderedItems items
  | .object members => Increasing members ∧ OrderedMembers members
  | _ => True

def OrderedItems : List Json → Prop
  | [] => True
  | item :: rest => Ordered item ∧ OrderedItems rest

def OrderedMembers : List (String × Json) → Prop
  | [] => True
  | (_, j) :: rest => Ordered j ∧ OrderedMembers rest

end

mutual

/-- A value in whose objects the members are in order is the value of its text. -/
theorem value?_written : (j : Json) → Ordered j → (Source.written j).value? = some j
  | .null, _ | .bool _, _ | .int _, _ | .double _, _ | .text _, _ => Source.value?_value _
  | .list items, ordered => by
    rw [Source.written, Source.value?, itemValues?_written items ordered]
    rfl
  | .object members, ordered => by
    have values := memberValues?_written members ordered.2 ∅
    have same := SortedMap.ofList_entries ⟨members, ordered.1⟩
    rw [Source.written, Source.value?]
    change Source.memberValues? _ [] = _ at values
    rw [values]
    exact congrArg (fun m : SortedMap String Json => some (Json.object m.entries)) same

theorem itemValues?_written : (items : List Json) → OrderedItems items →
    Source.itemValues? (Source.writtenItems items) = some items
  | [], _ => rfl
  | item :: rest, ordered => by
    rw [Source.writtenItems, Source.itemValues?, value?_written item ordered.1,
      itemValues?_written rest ordered.2]
    rfl

theorem memberValues?_written : (members : List (String × Json)) → OrderedMembers members →
    ∀ m : SortedMap String Json,
      Source.memberValues? (Source.writtenMembers members) m.entries =
        some (m.insertMany members).entries
  | [], _ => fun _ => rfl
  | (name, j) :: rest, ordered => fun m => by
    rw [Source.writtenMembers, Source.memberValues?, value?_written j ordered.1]
    exact memberValues?_written rest ordered.2 (m.insert name j)

end

mutual

/-- Nothing that is written is without a value. -/
theorem exists_value? : (j : Json) → ∃ value, (Source.written j).value? = some value
  | .null | .bool _ | .int _ | .double _ | .text _ => ⟨_, Source.value?_value _⟩
  | .list items => by
    obtain ⟨values, held⟩ := exists_itemValues? items
    exact ⟨.list values, by rw [Source.written, Source.value?, held]; rfl⟩
  | .object members => by
    obtain ⟨values, held⟩ := exists_memberValues? members []
    exact ⟨.object values, by rw [Source.written, Source.value?, held]; rfl⟩

theorem exists_itemValues? : (items : List Json) →
    ∃ values, Source.itemValues? (Source.writtenItems items) = some values
  | [] => ⟨[], rfl⟩
  | item :: rest => by
    obtain ⟨value, held⟩ := exists_value? item
    obtain ⟨values, later⟩ := exists_itemValues? rest
    exact ⟨value :: values, by rw [Source.writtenItems, Source.itemValues?, held, later]; rfl⟩

theorem exists_memberValues? : (members seen : List (String × Json)) →
    ∃ values, Source.memberValues? (Source.writtenMembers members) seen = some values
  | [], seen => ⟨seen, rfl⟩
  | (name, j) :: rest, seen => by
    obtain ⟨value, held⟩ := exists_value? j
    obtain ⟨values, later⟩ := exists_memberValues? rest (insertEntry name value seen)
    refine ⟨values, ?_⟩
    rw [Source.writtenMembers, Source.memberValues?, held]
    exact later

end

/-- A plain value is read back from its compact text if its members are in order. -/
theorem read?_compact_of_ordered {j : Json} (plain : Plain maxDepth j) (ordered : Ordered j) :
    Json.read? (compact j) = some j := by
  rw [Json.read?, read?_compact plain, Option.bind_some, value?_written j ordered]

end Casework.Json
