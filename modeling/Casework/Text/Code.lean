import Casework.Text.Digits

/-!
Characters by their codes, as escapes name them.
-/

namespace Casework.Text

/-- The character of this code, unless it has none. -/
def charOf? (n : Nat) : Option Char :=
  if n < 0xD800 ∨ (0xDFFF < n ∧ n < 0x110000) then some (Char.ofNat n) else none

/-- The character of a code with this number of hexadecimal digits. -/
def readCode? (width : Nat) (cs : List Char) : Option (Char × List Char) := do
  if cs.length < width then none
  let digits ← (cs.take width).mapM hexDigit?
  return (← charOf? (ofDigits 16 digits), cs.drop width)

end Casework.Text
