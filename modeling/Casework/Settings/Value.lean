import Casework.Double.Extended
import Casework.Json
import Casework.Named

/-!
Values of settings as their sources give them, how the values of one source are
laid over those of another, and how leniently they are taken for what a setting
needs.
-/

namespace Casework

/-- A value that a source of settings gives. -/
inductive SettingValue where
  | null
  | bool (b : Bool)
  | int (n : Int)
  | float (x : Extended)
  | text (s : String)
  | list (items : List SettingValue)
  | table (entries : List (String × SettingValue))
  deriving Inhabited

namespace SettingValue

/-- The whole number has at most 63 bits and a sign. -/
def fitsWord (n : Int) : Bool := Int64.minValue.toInt ≤ n && n ≤ Int64.maxValue.toInt

/-- The whole number of these digits in a base up to sixteen, a sign perhaps in front of them. -/
def readWhole? (base : Nat) (cs : List Char) : Option Int := do
  let (negative, cs) := Extended.readSign cs
  let digits ← cs.mapM fun c => (Text.hexDigit? c).filter (· < base)
  let n : Int := Text.ofDigits base digits
  let n := if negative then -n else n
  if digits ≠ [] ∧ fitsWord n then some n else none

/-! ### Layers -/

/-- The letter in lower case, as far as that is a letter of ASCII: beyond it, the sign of the
    kelvin alone has such a one. -/
def foldChar (c : Char) : Char := if c = '\u212a' then 'k' else c.toLower

/-- Keys are told apart without regard to case. -/
def foldKey (key : String) : String := String.ofList (key.toList.map foldChar)

/-- The entries with a value under a key, in place of any other. -/
def setEntry (key : String) (value : SettingValue) :
    List (String × SettingValue) → List (String × SettingValue)
  | [] => [(key, value)]
  | (k, v) :: rest => if k = key then (k, value) :: rest else (k, v) :: setEntry key value rest

/-- The entries of a table; other values make way for an empty one. -/
def entries : SettingValue → List (String × SettingValue)
  | table entries => entries
  | _ => []

/-- The items of a list; other values make way for an empty one. -/
def items : SettingValue → List SettingValue
  | list items => items
  | _ => []

mutual

/-- The upper value over the lower one: a table is merged into what is below it, entry by entry,
    and any other value replaces it. An empty table leaves what is below it. -/
def overlay (lower : SettingValue) : SettingValue → SettingValue
  | table [] => lower
  | table (entry :: rest) => table (overlayEntries lower.entries (entry :: rest))
  | upper => upper

/-- The entries with those of an upper table merged in, from the first to the last. -/
def overlayEntries (lower : List (String × SettingValue)) :
    List (String × SettingValue) → List (String × SettingValue)
  | [] => lower
  | (key, value) :: rest =>
    let key := foldKey key
    overlayEntries (setEntry key (overlay ((lower.lookup key).getD (table [])) value) lower) rest

end

mutual

/-- A value of a JSON file. Whole numbers beyond 63 bits are taken as doubles. -/
def ofJson : Json → SettingValue
  | .null => null
  | .bool b => bool b
  | .int n =>
    if n ≤ Int64.maxValue.toInt then int n
    else
      match Double.nearest? false n.toNat 1 with
      | some x => float (.finite x)
      | none => float (.infinite false)
  | .double x => float (.finite x)
  | .text s => text s
  | .list items => list (listOfJson items)
  | .object members => table (entriesOfJson members)

def listOfJson : List Json → List SettingValue
  | [] => []
  | item :: rest => ofJson item :: listOfJson rest

def entriesOfJson : List (String × Json) → List (String × SettingValue)
  | [] => []
  | (key, value) :: rest => (key, ofJson value) :: entriesOfJson rest

end

/-! ### What a setting needs -/

/-- Numbers and booleans are taken as their texts. -/
def toText? : SettingValue → Option String
  | text s => some s
  | bool b => some (if b then "true" else "false")
  | int n => some (toString n)
  | float x => some x.render
  | null | list _ | table _ => none

/-- The whole number that a text gives in decimal digits. -/
def wordOfDigits? (s : String) : Option UInt64 :=
  let digits :=
    match s.toList with
    | '+' :: rest => rest
    | cs => cs
  if digits ≠ [] ∧ digits.all Char.isDigit then
    let n := Text.ofDigits 10 (digits.map fun c => c.toNat - 0x30)
    if n < UInt64.size then some (UInt64.ofNat n) else none
  else none

/-- Texts and booleans are taken as whole numbers, and doubles are rounded. -/
def toWord? : SettingValue → Option UInt64
  | int n => if 0 ≤ n ∧ n < UInt64.size then some (UInt64.ofNat n.toNat) else none
  | text s =>
    let word := foldKey s
    if word = "true" ∨ word = "on" ∨ word = "yes" then some 1
    else if word = "false" ∨ word = "off" ∨ word = "no" then some 0
    else wordOfDigits? s
  | bool b => some (if b then 1 else 0)
  | float x => some x.toWord
  | null | list _ | table _ => none

/-- A name is taken without regard to case, from a text or from the only key of a table. -/
def toNamed? {α : Type} [Named α] (value : SettingValue) : Option α :=
  let named (name : String) : Option α :=
    (Named.all : List α).find? fun a => foldKey (Named.name a) == foldKey name
  match value with
  | text s => named s
  | table [(key, _)] => named key
  | _ => none

end SettingValue
end Casework
