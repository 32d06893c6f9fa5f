import Casework.Double.Nearest
import Casework.Json.Source
import Casework.Text.Digits

/-!
JSON text: one strict value with blanks around it and nothing after it.

`Source.read?` refuses what is not well formed and marks what is well formed but
has no value: numbers too large for a double, halves of surrogate pairs, lists and
objects nested more than 127 deep. `read?` gives the value of a text that has one.

A number without fraction and exponent is whole if it lies between `-2 ^ 63` and
`2 ^ 64 - 1`; every other number, and `-0`, is a double.
-/

namespace Casework.Json

open Text (digit? hexDigit?)

def skipBlanks (cs : List Char) : List Char :=
  cs.dropWhile fun c => c = ' ' || c = '\n' || c = '\t' || c = '\r'

/-- The characters behind a fixed word. -/
def dropWord? : List Char → List Char → Option (List Char)
  | [], cs => some cs
  | w :: ws, c :: cs => if w = c then dropWord? ws cs else none
  | _ :: _, [] => none

/-! ### Numbers -/

/-- The largest significand that a further digit may still extend. -/
def wordLimit : Nat := UInt64.size - 1

/-- Digits taken into a significand as long as it fits a word of 64 bits. -/
structure Digits where
  significand : Nat
  /-- Digits that entered the significand. -/
  taken : Nat
  /-- Digits that no longer fitted. -/
  dropped : Nat

/-- Extends a significand by the digits that come first; after the first digit that does not fit,
    none is taken any more. -/
def takeDigits (d : Digits) : List Char → Digits × List Char
  | [] => (d, [])
  | c :: cs =>
    match digit? c with
    | none => (d, c :: cs)
    | some n =>
      let extended := d.significand * 10 + n
      if d.dropped = 0 ∧ extended ≤ wordLimit then takeDigits ⟨extended, d.taken + 1, 0⟩ cs
      else takeDigits { d with dropped := d.dropped + 1 } cs

/-- An exponent, which ends at `2 ^ 31`. -/
inductive Exponent where
  | value (n : Int)
  | tooSmall
  | tooLarge

/-- The largest exponent that is told apart from larger ones. -/
def exponentLimit : Int := Int32.maxValue.toInt

/-- The exponent behind its letter, added to the one that the digits imply. -/
def readExponent (implied : Int) (cs : List Char) : Option (Exponent × List Char) :=
  let (negative, cs) :=
    match cs with
    | '+' :: rest => (false, rest)
    | '-' :: rest => (true, rest)
    | _ => (false, cs)
  let digits := cs.takeWhile Char.isDigit
  if digits.isEmpty then none
  else
    let written : Int := digits.foldl (fun n c => n * 10 + (c.toNat - 0x30)) 0
    let rest := cs.dropWhile Char.isDigit
    if written > exponentLimit then some (if negative then .tooSmall else .tooLarge, rest)
    else
      let total := if negative then implied - written else implied + written
      some (.value (max (min total exponentLimit) (-exponentLimit - 1)), rest)

/-- A double given by its sign, its significand and its exponent. -/
def doubleOf? (negative : Bool) (significand : Nat) : Exponent → Option Double
  | .value n => Double.scaled? negative significand n
  | .tooSmall => some (Double.zero negative)
  | .tooLarge => if significand = 0 then some (Double.zero negative) else none

/-- A whole number, or the double nearest to it where it is out of range. -/
def wholeOf? (negative : Bool) (significand : Nat) : Option Json :=
  if negative then
    if significand = 0 ∨ significand > UInt64.size / 2 then
      (Double.nearest? true significand 1).map .double
    else some (.int (-significand))
  else some (.int significand)

/-- What follows the whole part of a number: a fraction, an exponent, both or none. The number has
    no value if it is too large. -/
def readTail (negative : Bool) (whole : Digits) (cs : List Char) :
    Option (Option Json × List Char) :=
  let implied : Int := whole.dropped
  match cs with
  | '.' :: cs =>
    -- a digit may still fit behind the point after one before it did not
    let (all, cs') := takeDigits { whole with taken := 0, dropped := 0 } cs
    if all.taken + all.dropped = 0 then none
    else
      let implied := implied - all.taken
      match cs' with
      | 'e' :: rest | 'E' :: rest => do
        let (exponent, rest) ← readExponent implied rest
        return ((doubleOf? negative all.significand exponent).map .double, rest)
      | _ => some ((Double.scaled? negative all.significand implied).map .double, cs')
  | 'e' :: rest | 'E' :: rest => do
    let (exponent, rest) ← readExponent implied rest
    return ((doubleOf? negative whole.significand exponent).map .double, rest)
  | _ =>
    if whole.dropped = 0 then some (wholeOf? negative whole.significand, cs)
    else some ((Double.scaled? negative whole.significand implied).map .double, cs)

/-- A number from its first digit on; a leading zero stands alone. -/
def readNumber (negative : Bool) : List Char → Option (Option Json × List Char)
  | [] => none
  | '0' :: cs =>
    match cs with
    | c :: _ => if c.isDigit then none else readTail negative ⟨0, 1, 0⟩ cs
    | [] => readTail negative ⟨0, 1, 0⟩ []
  | c :: cs =>
    match digit? c with
    | none => none
    | some n =>
      let (whole, rest) := takeDigits ⟨n, 1, 0⟩ cs
      readTail negative whole rest

/-! ### Strings -/

/-- Four hexadecimal digits. -/
def readUnit : List Char → Option (Nat × List Char)
  | a :: b :: c :: d :: rest => do
    let high := (← hexDigit? a) * 16 + (← hexDigit? b)
    let low := (← hexDigit? c) * 16 + (← hexDigit? d)
    return (high * 256 + low, rest)
  | _ => none

/-- The character of one unit, or of the two units of a surrogate pair; half a pair has none. -/
def readEscapedUnit (cs : List Char) : Option (Option Char × List Char) := do
  let (unit, rest) ← readUnit cs
  if 0xD800 ≤ unit ∧ unit ≤ 0xDBFF then
    match rest with
    | '\\' :: 'u' :: more =>
      let (low, behind) ← readUnit more
      if 0xDC00 ≤ low ∧ low ≤ 0xDFFF then
        some (some (Char.ofNat (0x10000 + (unit - 0xD800) * 0x400 + (low - 0xDC00))), behind)
      else some (none, rest)
    | _ => some (none, rest)
  else if 0xDC00 ≤ unit ∧ unit ≤ 0xDFFF then some (none, rest)
  else some (some (Char.ofNat unit), rest)

/-- The character behind a backslash. -/
def readEscape : List Char → Option (Option Char × List Char)
  | '"' :: rest => some ('"', rest)
  | '\\' :: rest => some ('\\', rest)
  | '/' :: rest => some ('/', rest)
  | 'b' :: rest => some (Char.ofNat 0x08, rest)
  | 'f' :: rest => some (Char.ofNat 0x0C, rest)
  | 'n' :: rest => some ('\n', rest)
  | 'r' :: rest => some ('\r', rest)
  | 't' :: rest => some ('\t', rest)
  | 'u' :: rest => readEscapedUnit rest
  | _ => none

/-- The rest of a string behind its opening quote, after characters that are known unless one of
    them is half a pair; `fuel` bounds the characters read. -/
def readString (fuel : Nat) (seen : Option (List Char)) (cs : List Char) :
    Option (Option String × List Char) :=
  match fuel, cs with
  | fuel + 1, c :: rest =>
    if c = '"' then some (seen.map fun seen => String.ofList seen.reverse, rest)
    else if c = '\\' then
      match readEscape rest with
      | some (escaped, rest) =>
        readString fuel (seen.bind fun seen => escaped.map fun c => c :: seen) rest
      | none => none
    else if c.toNat < 0x20 then none
    else readString fuel (seen.map (c :: ·)) rest
  | _, _ => none

/-! ### Parts -/

/-- The part that a list or an object is, unless it is nested too deep. -/
def withinDepth (depth : Nat) (part : Source) : Source := if depth = 0 then .void else part

/-- The object with these members, each of which has a name. -/
def objectOf (members : List (Option String × Source)) : Source :=
  match members.mapM fun (name, part) => name.map fun name => (name, part) with
  | some members => .object members
  | none => .void

mutual

/-- A part, in which values are nested at most `depth` levels; `fuel` bounds the characters
    read. -/
def readPart (fuel depth : Nat) (cs : List Char) : Option (Source × List Char) :=
  match fuel with
  | 0 => none
  | fuel + 1 =>
    match skipBlanks cs with
    | 'n' :: rest => (dropWord? ['u', 'l', 'l'] rest).map fun rest => (.value .null, rest)
    | 't' :: rest => (dropWord? ['r', 'u', 'e'] rest).map fun rest => (.value (.bool true), rest)
    | 'f' :: rest =>
      (dropWord? ['a', 'l', 's', 'e'] rest).map fun rest => (.value (.bool false), rest)
    | '"' :: rest =>
      (readString fuel (some []) rest).map fun (s, rest) => (.ofValue? (s.map .text), rest)
    | '[' :: rest =>
      match skipBlanks rest with
      | ']' :: rest => some (withinDepth depth (.list []), rest)
      | rest =>
        (readItems fuel (depth - 1) [] rest).map fun (items, rest) =>
          (withinDepth depth (.list items), rest)
    | '\x7b' :: rest =>
      match skipBlanks rest with
      | '\x7d' :: rest => some (withinDepth depth (.object []), rest)
      | rest =>
        (readMembers fuel (depth - 1) [] rest).map fun (members, rest) =>
          (withinDepth depth (objectOf members), rest)
    | '-' :: rest => (readNumber true rest).map fun (j, rest) => (.ofValue? j, rest)
    | rest => (readNumber false rest).map fun (j, rest) => (.ofValue? j, rest)

/-- The items of a list that is not empty, up to its bracket. -/
def readItems (fuel depth : Nat) (seen : List Source) (cs : List Char) :
    Option (List Source × List Char) :=
  match fuel with
  | 0 => none
  | fuel + 1 =>
    match readPart fuel depth cs with
    | none => none
    | some (item, rest) =>
      match skipBlanks rest with
      | ',' :: rest => readItems fuel depth (item :: seen) rest
      | ']' :: rest => some ((item :: seen).reverse, rest)
      | _ => none

/-- The members of an object that is not empty, up to its brace. -/
def readMembers (fuel depth : Nat) (seen : List (Option String × Source)) (cs : List Char) :
    Option (List (Option String × Source) × List Char) :=
  match fuel with
  | 0 => none
  | fuel + 1 =>
    match skipBlanks cs with
    | '"' :: rest =>
      match readString fuel (some []) rest with
      | none => none
      | some (name, rest) =>
        match skipBlanks rest with
        | ':' :: rest =>
          match readPart fuel depth rest with
          | none => none
          | some (part, rest) =>
            let seen := (name, part) :: seen
            match skipBlanks rest with
            | ',' :: rest => readMembers fuel depth seen rest
            | '\x7d' :: rest => some (seen.reverse, rest)
            | _ => none
        | _ => none
    | _ => none

end

/-- The deepest nesting of lists and objects that have values. -/
def maxDepth : Nat := 127

/-- What a text holds. Two steps of a reader take at least one character, so the fuel, twice the
    number of characters and two, is never used up. -/
def Source.read? (s : String) : Option Source :=
  let cs := s.toList
  match readPart (2 * cs.length + 2) maxDepth cs with
  | some (part, rest) => if (skipBlanks rest).isEmpty then some part else none
  | none => none

/-- The one value that a text holds. -/
def read? (s : String) : Option Json := (Source.read? s).bind Source.value?

end Casework.Json
