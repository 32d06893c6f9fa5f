/-!
Finite double-precision numbers, given by their sign and the other 63 bits of
their word. Those bits, read as a number, grow with the absolute value, so two
finite doubles are numerically equal exactly when their words are equal or both
are zeros (`agrees_iff`).
-/

namespace Casework

/-- A finite double: its sign, and its word without the sign bit. -/
structure Double where
  negative : Bool
  magnitude : Nat
  finite : magnitude < 0x7FF0000000000000

namespace Double

theorem ext {x y : Double} (sign : x.negative = y.negative) (word : x.magnitude = y.magnitude) :
    x = y := by
  cases x; cases y; cases sign; cases word; rfl

instance : DecidableEq Double := fun x y =>
  if h : x.negative = y.negative ∧ x.magnitude = y.magnitude then isTrue (ext h.1 h.2)
  else isFalse fun e => h (e ▸ ⟨rfl, rfl⟩)

/-- The zero with this sign. -/
def zero (negative : Bool) : Double := ⟨negative, 0, by decide⟩

instance : Inhabited Double := ⟨zero false⟩

def isZero (x : Double) : Bool := x.magnitude == 0

/-- Equal as numbers: the two zeros are, and otherwise only a double and itself. -/
def agrees (x y : Double) : Bool := x == y || (x.isZero && y.isZero)

theorem agrees_iff (x y : Double) :
    x.agrees y = true ↔ x = y ∨ (x.magnitude = 0 ∧ y.magnitude = 0) := by
  simp [agrees, isZero]

/-- The leading bit of a significand, which the word leaves out unless the double is subnormal. -/
def leadingBit : Nat := 0x10000000000000

/-- The significand and the power of two whose product is the absolute value. -/
def parts (x : Double) : Nat × Int :=
  let exponent : Nat := x.magnitude / leadingBit
  let fraction : Nat := x.magnitude % leadingBit
  if exponent = 0 then (fraction, -1074) else (fraction + leadingBit, (exponent : Int) - 1075)

/-- The absolute value as a quotient of natural numbers. -/
def ratio (x : Double) : Nat × Nat :=
  let (significand, power) := x.parts
  if power ≥ 0 then (significand <<< power.toNat, 1) else (significand, 1 <<< (-power).toNat)

end Double
end Casework
