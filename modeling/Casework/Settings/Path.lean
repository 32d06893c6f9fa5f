import Casework.Settings.Value

/-!
Paths to settings. The keys of a source are paths: `a.b` leads to the entry `b` of the
table under `a`, and `a[0]` to the first item of the list there. A key that is no path
stands for itself.

A value put at the end of a path makes a table or a list of whatever stands in its way.
-/

namespace Casework

/-- One step from a value to a part of it. -/
inductive Step where
  | key (name : String)
  | index (i : Int)
  deriving DecidableEq

/-- Steps from the table of all settings to one of them. -/
abbrev Path := List Step

namespace Path

/-! ### Reading -/

/-- Letters, digits, spaces, underscores and hyphens. -/
def isNameChar (c : Char) : Bool := c.isAlphanum || c = ' ' || c = '_' || c = '-'

/-- The name that comes first. -/
def readName? (cs : List Char) : Option (Step × List Char) :=
  let name := cs.takeWhile isNameChar
  if name = [] then none else some (.key (String.ofList name), cs.dropWhile isNameChar)

def skipSpaces (cs : List Char) : List Char := cs.dropWhile fun c => c = ' ' || c = '\t'

/-- A whole number with spaces around it, up to the bracket behind it. -/
def readIndex? (cs : List Char) : Option (Step × List Char) :=
  let (negative, cs) :=
    match skipSpaces cs with
    | '-' :: rest => (true, rest)
    | rest => (false, rest)
  let digits := cs.takeWhile Char.isDigit
  let n : Int := Text.ofDigits 10 (digits.map fun c => c.toNat - 0x30)
  let n := if negative then -n else n
  match skipSpaces (cs.dropWhile Char.isDigit) with
  | ']' :: rest =>
    if digits ≠ [] ∧ SettingValue.fitsWord n then some (.index n, rest) else none
  | _ => none

/-- The steps behind the first name, each behind its mark. -/
def readSteps? : Nat → List Char → Option Path
  | _, [] => some []
  | fuel + 1, '.' :: rest => do
    let (step, rest) ← readName? rest
    return step :: (← readSteps? fuel rest)
  | fuel + 1, '[' :: rest => do
    let (step, rest) ← readIndex? rest
    return step :: (← readSteps? fuel rest)
  | _, _ => none

/-- The path that a key stands for. -/
def ofKey (key : String) : Path :=
  let path? : Option Path := do
    let (first, rest) ← readName? key.toList
    return first :: (← readSteps? rest.length rest)
  path?.getD [.key key]

end Path

namespace SettingValue

/-! ### Putting values -/

/-- The items with the one at a place changed. A negative place is counted from the end. Items
    that are missing up to the place are null. -/
def changeItem (i : Int) (change : SettingValue → SettingValue) (items : List SettingValue) :
    List SettingValue :=
  let place := if i < 0 then items.length + i else i
  let missing := if place < 0 then place.natAbs else place.toNat + 1 - items.length
  let padding := List.replicate missing null
  (if place < 0 then padding ++ items else items ++ padding).modify place.toNat change

/-- The whole with a value at the end of a path. Behind a key, a table is merged into what is
    there. -/
def put (value : SettingValue) : Path → SettingValue → SettingValue
  | [], _ => value
  | [.key name], whole => overlay whole (table [(name, value)])
  | .key name :: path, whole =>
    let key := foldKey name
    let inner := put value path ((whole.entries.lookup key).getD null)
    table (setEntry key inner whole.entries)
  | .index i :: path, whole => list (changeItem i (put value path) whole.items)

end SettingValue
end Casework
