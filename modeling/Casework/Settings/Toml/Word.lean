import Casework.Settings.Value

/-!
Words of TOML, which are values without quotes: booleans, whole numbers in four
bases, and decimal numbers.
-/

namespace Casework.Toml

/-- The digits without the underscores, each of which stands between two digits. -/
def plainDigits? (isDigit : Char → Bool) : List Char → Option (List Char)
  | [] => none
  | [c] => if isDigit c then some [c] else none
  | c :: '_' :: rest => if isDigit c then (plainDigits? isDigit rest).map (c :: ·) else none
  | c :: rest => if isDigit c then (plainDigits? isDigit rest).map (c :: ·) else none

def intOf? (n : Int) : Option SettingValue :=
  if SettingValue.fitsWord n then some (.int n) else none

/-- A whole number in the base that its second character names. -/
def readBased? (base : Nat) (cs : List Char) : Option SettingValue := do
  let isDigit (c : Char) : Bool := (Text.hexDigit? c).any (· < base)
  let digits ← (← plainDigits? isDigit cs).mapM Text.hexDigit?
  intOf? (Text.ofDigits base digits)

/-- Decimal digits that do not begin with a zero, a single zero apart. -/
def readWhole? (cs : List Char) : Option (List Char) := do
  let digits ← plainDigits? Char.isDigit cs
  if digits.head? = some '0' ∧ digits.length > 1 then none else some digits

/-- An exponent behind its letter. -/
def readExponent? (cs : List Char) : Option Int := do
  let (negative, digits) := Extended.readSign cs
  let n : Int :=
    Text.ofDigits 10 ((← plainDigits? Char.isDigit digits).map fun c => c.toNat - 0x30)
  return if negative then -n else n

/-- A double of these digits; one that is too large is refused unless it is negative. -/
def floatOf? (negative : Bool) (digits : List Char) (exponent : Int) : Option SettingValue :=
  match Extended.ofDecimal negative digits exponent with
  | .infinite false => none
  | x => some (.float x)

/-- A decimal number without its sign. -/
def readDecimal? (negative : Bool) (cs : List Char) : Option SettingValue := do
  let isMark (c : Char) : Bool := c = '.' || c = 'e' || c = 'E'
  let whole ← readWhole? (cs.takeWhile (!isMark ·))
  match cs.dropWhile (!isMark ·) with
  | [] =>
    let n : Int := Text.ofDigits 10 (whole.map fun c => c.toNat - 0x30)
    intOf? (if negative then -n else n)
  | '.' :: rest =>
    let fraction ← plainDigits? Char.isDigit (rest.takeWhile (!isMark ·))
    let exponent ←
      match rest.dropWhile (!isMark ·) with
      | [] => some 0
      | '.' :: _ => none
      | _ :: digits => readExponent? digits
    floatOf? negative (whole ++ fraction) (exponent - fraction.length)
  | _ :: digits => floatOf? negative whole (← readExponent? digits)

/-- The value of a word without quotes. -/
def readWord? (word : List Char) : Option SettingValue :=
  match word with
  | ['t', 'r', 'u', 'e'] => some (.bool true)
  | ['f', 'a', 'l', 's', 'e'] => some (.bool false)
  | '0' :: 'x' :: digits => readBased? 16 digits
  | '0' :: 'o' :: digits => readBased? 8 digits
  | '0' :: 'b' :: digits => readBased? 2 digits
  | _ =>
    let (negative, rest) := Extended.readSign word
    match rest with
    | ['i', 'n', 'f'] => some (.float (.infinite negative))
    | ['n', 'a', 'n'] => some (.float .notANumber)
    | _ => readDecimal? negative rest

end Casework.Toml
