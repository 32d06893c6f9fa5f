import Casework.Double

/-!
The double nearest to a quotient of natural numbers, ties to the even
significand, and what is built on it: products and quotients of doubles, and the
value of a decimal with a power of ten. All of it is exact arithmetic on natural
numbers followed by one rounding.
-/

namespace Casework.Double

/-- The quotient rounded to the nearest natural number, a half to the even one. -/
def roundHalfEven (num den : Nat) : Nat :=
  let floor := num / den
  let rest := 2 * (num % den)
  if rest < den then floor
  else if den < rest then floor + 1
  else floor + floor % 2

/-- The largest power of two that is at most `num / den`, for positive `num` and `den`. -/
def binaryExponent (num den : Nat) : Int :=
  let guess : Int := (num.log2 : Int) - (den.log2 : Int)
  let reaches := if guess ≥ 0 then den <<< guess.toNat ≤ num else den ≤ num <<< (-guess).toNat
  if reaches then guess else guess - 1

/-- The word, without its sign bit, of the double nearest to `num / den`; from the word of
    infinity on, the quotient is too large for a double. -/
def nearestWord (num den : Nat) : Nat :=
  if num = 0 then 0
  else
    let power := max (binaryExponent num den - 52) (-1074)
    let significand :=
      if power ≥ 0 then roundHalfEven num (den <<< power.toNat)
      else roundHalfEven (num <<< (-power).toNat) den
    (power + 1074).toNat * leadingBit + significand

/-- The nearest double with this sign, unless the quotient is too large. -/
def nearest? (negative : Bool) (num den : Nat) : Option Double :=
  let word := nearestWord num den
  if h : word < 0x7FF0000000000000 then some ⟨negative, word, h⟩ else none

/-- The product of the absolute values, rounded, unless it is too large. -/
def times? (negative : Bool) (x y : Double) : Option Double :=
  nearest? negative (x.ratio.1 * y.ratio.1) (x.ratio.2 * y.ratio.2)

/-- The quotient of the absolute values, rounded. -/
def quotient? (negative : Bool) (x y : Double) : Option Double :=
  nearest? negative (x.ratio.1 * y.ratio.2) (x.ratio.2 * y.ratio.1)

/-- The double nearest to a power of ten, for exponents up to 308. -/
def tenTo? (exponent : Nat) : Option Double := nearest? false (Nat.pow 10 exponent) 1

/-- `x` divided by `10 ^ 308` `count` times, rounding each time. -/
def shrink? (x : Double) : Nat → Option Double
  | 0 => some x
  | count + 1 => do (← quotient? false x (← tenTo? 308)).shrink? count

/-- The value of `significand * 10 ^ exponent` in three roundings: the significand, the power of
    ten, and their product or quotient. Powers below `10 ^ -308` are reached by dividing by
    `10 ^ 308` as often as it takes; a value that is too large for a double is refused. -/
def scaled? (negative : Bool) (significand : Nat) (exponent : Int) : Option Double := do
  let whole ← nearest? false significand 1
  if exponent ≥ 0 then
    if exponent.toNat ≤ 308 then times? negative whole (← tenTo? exponent.toNat)
    else if whole.isZero then some (zero negative)
    else none
  else
    let depth := (-exponent).toNat
    -- no significand of 64 bits survives three divisions by `10 ^ 308`
    if depth ≤ 308 then quotient? negative whole (← tenTo? depth)
    else if depth > 1232 ∨ whole.isZero then some (zero negative)
    else
      let steps := (depth - 1) / 308
      quotient? negative (← shrink? whole steps) (← tenTo? (depth - 308 * steps))

/-- The nearest double to `significand * 10 ^ exponent`, in one rounding. -/
def ofDecimal? (negative : Bool) (significand : Nat) (exponent : Int) : Option Double :=
  if exponent ≥ 0 then
    -- a positive significand times `10 ^ 310` is too large already
    if significand = 0 then some (zero negative)
    else if exponent > 310 then none
    else nearest? negative (significand * Nat.pow 10 exponent.toNat) 1
  else nearest? negative significand (Nat.pow 10 (-exponent).toNat)

end Casework.Double
