import Casework.Text.Digits

/-!
Universally unique identifiers: numbers of 128 bits, ordered as numbers.

They are written as 32 lower-case hexadecimal digits in groups of 8, 4, 4, 4 and
12. They are read in that form, without hyphens, in braces or behind `urn:uuid:`,
with letters of either case.
-/

namespace Casework

/-- The number of identifiers: they have 128 bits. -/
def Uuid.size : Nat := 0x100000000000000000000000000000000

/-- A universally unique identifier. -/
structure Uuid where
  value : Nat
  value_lt : value < Uuid.size

namespace Uuid

theorem ext {a b : Uuid} (h : a.value = b.value) : a = b := by
  cases a; cases b; cases h; rfl

instance : DecidableEq Uuid := fun a b =>
  if h : a.value = b.value then isTrue (ext h) else isFalse fun e => h (e ▸ rfl)

instance : Inhabited Uuid := ⟨⟨0, by decide⟩⟩

instance : Ord Uuid := ⟨fun a b => compare a.value b.value⟩

instance : Std.TransOrd Uuid where
  eq_swap {a b} := Std.OrientedOrd.eq_swap (a := a.value) (b := b.value)
  isLE_trans {a b c} := Std.TransOrd.isLE_trans (a := a.value) (b := b.value) (c := c.value)

instance : Std.LawfulEqOrd Uuid where
  compare_self {a} := Std.ReflOrd.compare_self (a := a.value)
  eq_of_compare {a b} h := ext (Std.LawfulEqOrd.eq_of_compare (a := a.value) (b := b.value) h)

/-- The identifier whose number is this one modulo their count. -/
def ofNat (n : Nat) : Uuid := ⟨n % size, Nat.mod_lt _ (by decide)⟩

/-- The random identifier made of these bits: all of them count but the six that say how the
    identifier was made. -/
def ofRandom (bits : Nat) : Uuid :=
  let front := bits >>> 80 % 1 <<< 48
  let middle := bits >>> 64 % 1 <<< 12
  let back := bits % 1 <<< 62
  ofNat (front <<< 80 + 4 <<< 76 + middle <<< 64 + 2 <<< 62 + back)

/-- Digits in groups of 8, 4, 4, 4 and 12 between hyphens. -/
def hyphenate (digits : List Char) : List Char :=
  digits.take 8 ++ '-' :: (digits.drop 8).take 4 ++ '-' :: (digits.drop 12).take 4 ++
    '-' :: (digits.drop 16).take 4 ++ '-' :: digits.drop 20

def render (u : Uuid) : String := String.ofList (hyphenate (Text.padded 16 32 u.value))

/-- The identifier of 32 digits. -/
def ofHex? (digits : List Char) : Option Uuid := do
  let values ← digits.mapM Text.hexDigit?
  let value := Text.ofDigits 16 values
  if h : value < size then some ⟨value, h⟩ else none

/-- The digits of the hyphenated form. -/
def dropHyphens? (cs : List Char) : Option (List Char) :=
  let hyphens := [cs[8]?, cs[13]?, cs[18]?, cs[23]?]
  if cs.length = 36 ∧ hyphens.all (· = some '-') then
    some (cs.take 8 ++ (cs.drop 9).take 4 ++ (cs.drop 14).take 4 ++ (cs.drop 19).take 4 ++
      cs.drop 24)
  else none

/-- What may stand in front of the hyphenated form. -/
def mark : List Char := "urn:uuid:".toList

/-- The identifier that a text names. -/
def read? (s : String) : Option Uuid :=
  let cs := s.toList
  if cs.length = 32 then ofHex? cs
  else if cs.length = 38 ∧ cs.head? = some '\x7b' ∧ cs.getLast? = some '\x7d' then
    (dropHyphens? ((cs.drop 1).take 36)).bind ofHex?
  else if (cs.take mark.length).map Char.toLower = mark then
    (dropHyphens? (cs.drop mark.length)).bind ofHex?
  else (dropHyphens? cs).bind ofHex?

end Uuid
end Casework
