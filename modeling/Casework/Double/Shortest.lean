import Casework.Double

/-!
The shortest decimal that reads back as a given double, and its two written
forms: with an exponent where the number is very large or very small, and plain
throughout.

Every decimal grid `10 ^ -k` is tried from one digit to seventeen; on each the two
neighbours of the value are tested against the interval of reals that round to
it. The first grid with a hit wins, and of two hits the nearer one. Halfway between
two hits, the form with exponents takes the even one and the plain form the greater.
-/

namespace Casework.Double

/-- A positive decimal `0.d₁d₂… * 10 ^ point`, its digits as one number. -/
structure Decimal where
  digits : Nat
  point : Int

/-- The number of decimal digits. -/
def digitCount (n : Nat) : Nat := (Nat.toDigits 10 n).length

/-- The least `steps` for which `num * 10 ^ steps` reaches `den`. -/
def stepsToReach (num den : Nat) : Nat → Nat
  | 0 => 0
  | fuel + 1 => if den ≤ num then 0 else stepsToReach (num * 10) den fuel + 1

/-- The position of the decimal point before which the first digit of `num / den` stands:
    the quotient is at least `10 ^ (point - 1)` and below `10 ^ point`. -/
def decimalPoint (num den : Nat) : Int :=
  if den ≤ num then digitCount (num / den) else 1 - (stepsToReach num den 400 : Int)

/-- The ends of the interval of reals that round to the double, and the double itself, as
    numerators over one denominator. -/
structure Neighbourhood where
  low : Nat
  value : Nat
  high : Nat
  den : Nat
  closed : Bool

/-- Half a unit on either side, a quarter below a power of two. -/
def neighbourhood (x : Double) : Neighbourhood :=
  let (significand, power) := x.parts
  let narrow := x.magnitude % leadingBit = 0 ∧ x.magnitude / leadingBit > 1
  let low := 4 * significand - if narrow then 1 else 2
  let high := 4 * significand + 2
  let closed := significand % 2 == 0
  let power := power - 2
  if power ≥ 0 then
    let shift := power.toNat
    ⟨low <<< shift, (4 * significand) <<< shift, high <<< shift, 1, closed⟩
  else ⟨low, 4 * significand, high, 1 <<< (-power).toNat, closed⟩

/-- Which of two neighbours stands for what is halfway between them. -/
inductive Tie where
  | even
  | above

/-- The neighbour that is taken, given the lower one. -/
def Tie.settle (below : Nat) : Tie → Nat
  | even => below + below % 2
  | above => below + 1

/-- The digits, of the given count, of a decimal in the interval: the value's neighbour on the
    grid below or above, the nearer one if both are inside. -/
def onGrid? (tie : Tie) (n : Neighbourhood) (point : Int) (count : Nat) : Option Nat :=
  -- the grid's unit is `10 ^ (point - count)`
  let shift := point - count
  let scale := if shift ≥ 0 then 1 else Nat.pow 10 (-shift).toNat
  let unit := if shift ≥ 0 then n.den * Nat.pow 10 shift.toNat else n.den
  let low := n.low * scale
  let value := n.value * scale
  let high := n.high * scale
  let inside (digits : Nat) : Bool :=
    let at' := digits * unit
    if n.closed then low ≤ at' && at' ≤ high else low < at' && at' < high
  let below := value / unit
  let above := below + 1
  match inside below, inside above with
  | true, true =>
    let gapBelow := value - below * unit
    let gapAbove := above * unit - value
    if gapBelow < gapAbove then some below
    else if gapAbove < gapBelow then some above
    else some (tie.settle below)
  | true, false => some below
  | false, true => some above
  | false, false => none

/-- The digits without the zeros at their end. -/
def dropZeros (digits : Nat) : Nat → Nat
  | 0 => digits
  | fuel + 1 => if digits % 10 = 0 ∧ digits ≠ 0 then dropZeros (digits / 10) fuel else digits

/-- The first hit on the grids of `count`, `count + 1`, … digits. -/
def firstHit (tie : Tie) (n : Neighbourhood) (point : Int) (count : Nat) : Nat → Decimal
  | 0 => ⟨0, 0⟩
  | fuel + 1 =>
    match onGrid? tie n point count with
    | some digits =>
      let carried := if digitCount digits > count then 1 else 0
      ⟨dropZeros digits 20, point + carried⟩
    | none => firstHit tie n point (count + 1) fuel

/-- The shortest decimal that rounds to a double that is not zero. -/
def shortest (tie : Tie) (x : Double) : Decimal :=
  let n := x.neighbourhood
  firstHit tie n (decimalPoint n.value n.den) 1 17

/-! ### Written forms -/

def zeros (count : Nat) : List Char := List.replicate count '0'

/-- All digits in place around a point, which is left out with nothing behind it. -/
def plainDigits (d : Decimal) : List Char × List Char :=
  let digits := Nat.toDigits 10 d.digits
  if d.point ≤ 0 then (['0'], zeros (-d.point).toNat ++ digits)
  else
    let whole := d.point.toNat
    if digits.length ≤ whole then (digits ++ zeros (whole - digits.length), [])
    else (digits.take whole, digits.drop whole)

def sign (x : Double) : List Char := if x.negative then ['-'] else []

/-- One digit before the point and a signed exponent. -/
def scientific (d : Decimal) : List Char :=
  let exponent := d.point - 1
  let mantissa :=
    match Nat.toDigits 10 d.digits with
    | first :: more => if more.isEmpty then [first] else first :: '.' :: more
    | [] => []
  let mark := if exponent < 0 then '-' else '+'
  mantissa ++ 'e' :: mark :: Nat.toDigits 10 exponent.natAbs

/-- Numbers from `10 ^ -5` up to `10 ^ 16` are written plain and always with a point, the others
    with an exponent. -/
def render (x : Double) : String :=
  if x.isZero then String.ofList (x.sign ++ ['0', '.', '0'])
  else
    let d := x.shortest .even
    if -5 < d.point ∧ d.point ≤ 16 then
      let (whole, fraction) := plainDigits d
      String.ofList (x.sign ++ whole ++ '.' :: if fraction.isEmpty then ['0'] else fraction)
    else String.ofList (x.sign ++ scientific d)

/-- All digits in place whatever the size, and no point behind a whole number. -/
def renderPlain (x : Double) : String :=
  if x.isZero then String.ofList (x.sign ++ ['0'])
  else
    let (whole, fraction) := plainDigits (x.shortest .above)
    String.ofList (x.sign ++ whole ++ if fraction.isEmpty then [] else '.' :: fraction)

end Casework.Double
