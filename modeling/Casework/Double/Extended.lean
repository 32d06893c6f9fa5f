import Casework.Double.Nearest
import Casework.Double.Shortest
import Casework.Text.Digits

/-!
Double-precision numbers with the infinities and with what is no number: how they
are read from text, written without exponents, and rounded to words of 64 bits.
-/

namespace Casework

/-- A double, an infinity, or no number. -/
inductive Extended where
  | finite (x : Double)
  | infinite (negative : Bool)
  | notANumber
  deriving DecidableEq, Inhabited

namespace Extended

/-- The nearest number to `digits * 10 ^ exponent`; beyond the largest double it is infinite. -/
def ofDecimal (negative : Bool) (digits : List Char) (exponent : Int) : Extended :=
  -- no number of that many digits reaches the smallest double
  if exponent + digits.length < -400 then finite (Double.zero negative)
  else
    let significand := Text.ofDigits 10 (digits.map fun c => c.toNat - 0x30)
    match Double.ofDecimal? negative significand exponent with
    | some x => finite x
    | none => infinite negative

/-- The sign in front, if there is one. -/
def readSign : List Char → Bool × List Char
  | '-' :: rest => (true, rest)
  | '+' :: rest => (false, rest)
  | rest => (false, rest)

/-- An exponent behind its letter and nothing more, or nothing at all. -/
def readExponent? : List Char → Option Int
  | [] => some 0
  | e :: rest =>
    if e = 'e' ∨ e = 'E' then
      let (negative, digits) := readSign rest
      if digits ≠ [] ∧ digits.all Char.isDigit then
        let n : Int := Text.ofDigits 10 (digits.map fun c => c.toNat - 0x30)
        some (if negative then -n else n)
      else none
    else none

/-- A decimal number: digits, perhaps with a point among or around them, and perhaps an
    exponent. -/
def readDecimal? (negative : Bool) (cs : List Char) : Option Extended := do
  let whole := cs.takeWhile Char.isDigit
  let rest := cs.dropWhile Char.isDigit
  let (fraction, rest) :=
    match rest with
    | '.' :: rest => (rest.takeWhile Char.isDigit, rest.dropWhile Char.isDigit)
    | rest => ([], rest)
  if whole = [] ∧ fraction = [] then none
  else return ofDecimal negative (whole ++ fraction) ((← readExponent? rest) - fraction.length)

/-- The number that a text names, in decimal digits or as `inf`, `infinity` or `nan`. -/
def read? (s : String) : Option Extended :=
  let (negative, cs) := readSign s.toList
  let word := String.ofList (cs.map Char.toLower)
  if word = "inf" ∨ word = "infinity" then some (infinite negative)
  else if word = "nan" then some notANumber
  else readDecimal? negative cs

/-- All digits in place whatever the size. -/
def render : Extended → String
  | finite x => x.renderPlain
  | infinite negative => if negative then "-inf" else "inf"
  | notANumber => "NaN"

/-- The nearest word, halves away from zero; what is no number is zero. -/
def toWord : Extended → UInt64
  | finite x =>
    if x.negative then 0
    else
      let (num, den) := x.ratio
      UInt64.ofNat (min ((2 * num + den) / (2 * den)) (UInt64.size - 1))
  | infinite negative => if negative then 0 else UInt64.ofNat (UInt64.size - 1)
  | notANumber => 0

end Extended
end Casework
