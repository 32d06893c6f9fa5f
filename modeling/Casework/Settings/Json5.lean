import Casework.Json.Reader
import Casework.Settings.Value
import Casework.Text.Alphanumeric
import Casework.Text.Blank
import Casework.Text.Code

/-!
Settings files in JSON5: JSON with comments, keys without quotes, strings in single
quotes, a comma before a closing bracket, and further ways to write numbers. Whole
numbers have at most 63 bits, hexadecimal ones 32 bits and no sign.
-/

namespace Casework.Json5

/-! ### Blanks -/

def isLineEnd (c : Char) : Bool := c = '\n' || c = '\r' || c = '\u2028' || c = '\u2029'

def isBlank (c : Char) : Bool := c = '\ufeff' || (Text.isBlank c && c ≠ '\x85')

/-- The characters behind the end of a comment of several lines. -/
def behindComment? : List Char → Option (List Char)
  | '*' :: '/' :: rest => some rest
  | _ :: rest => behindComment? rest
  | [] => none

/-- The characters behind blanks and at most `fuel` comments. -/
def skipBlanks (fuel : Nat) (cs : List Char) : List Char :=
  match fuel with
  | 0 => cs
  | fuel + 1 =>
    match cs.dropWhile isBlank with
    | '/' :: '/' :: rest => skipBlanks fuel (rest.dropWhile (!isLineEnd ·))
    | '/' :: '*' :: rest =>
      match behindComment? rest with
      | some rest => skipBlanks fuel rest
      | none => '/' :: '*' :: rest
    | rest => rest

/-- The characters behind all blanks and comments. -/
def skip (cs : List Char) : List Char := skipBlanks (cs.length + 1) cs

/-! ### Texts -/

/-- The character that an escape behind a backslash stands for. -/
def readEscape? : List Char → Option (Char × List Char)
  | 'b' :: rest => some ('\x08', rest)
  | 'f' :: rest => some ('\x0c', rest)
  | 'n' :: rest => some ('\n', rest)
  | 'r' :: rest => some ('\r', rest)
  | 't' :: rest => some ('\t', rest)
  | 'v' :: rest => some ('\x0b', rest)
  | 'x' :: rest => Text.readCode? 2 rest
  | 'u' :: rest => do
    let (c, rest) ← Json.readEscapedUnit rest
    return (← c, rest)
  | '0' :: rest => if (rest.head?.map Char.isDigit).getD false then none else some ('\x00', rest)
  | c :: rest => if c.isDigit then none else some (c, rest)
  | [] => none

/-- The text up to the quote; a line break behind a backslash is no part of it. -/
def readString? (quote : Char) : Nat → List Char → List Char → Option (String × List Char)
  | 0, _, _ => none
  | _, _, [] => none
  | fuel + 1, seen, c :: rest =>
    if c = quote then some (String.ofList seen.reverse, rest)
    else if c = '\n' ∨ c = '\r' then none
    else if c ≠ '\\' then readString? quote fuel (c :: seen) rest
    else
      match rest with
      | '\r' :: '\n' :: rest => readString? quote fuel seen rest
      | e :: behind =>
        if isLineEnd e then readString? quote fuel seen behind
        else do
          let (c, rest) ← readEscape? rest
          readString? quote fuel (c :: seen) rest
      | [] => none

/-- Characters of keys without quotes, the first of which is no digit. -/
def isNameChar (c : Char) : Bool :=
  Text.isAlphanumeric c || c = '_' || c = '$' || c = '\u200c' || c = '\u200d'

/-- A key, with or without quotes. -/
def readKey? (cs : List Char) : Option (String × List Char) :=
  match cs with
  | '"' :: rest => readString? '"' cs.length [] rest
  | '\'' :: rest => readString? '\'' cs.length [] rest
  | _ =>
    let name := cs.takeWhile isNameChar
    if name = [] ∨ name.head?.any Char.isDigit then none
    else some (String.ofList name, cs.dropWhile isNameChar)

/-! ### Words -/

/-- A number. A point may begin or end it. -/
def readNumber? (word : List Char) : Option SettingValue :=
  let (negative, digits) := Extended.readSign word
  let positive := word.head? = some '+'
  match digits with
  | '0' :: x :: digits =>
    if x = 'x' ∨ x = 'X' then do
      let digits ← digits.mapM Text.hexDigit?
      let n := Text.ofDigits 16 digits
      if digits = [] ∨ negative ∨ positive ∨ UInt32.size ≤ n then none else some (.int n)
    else if x.isDigit then none
    else readDecimal? negative ('0' :: x :: digits)
  | ['I', 'n', 'f', 'i', 'n', 'i', 't', 'y'] =>
    if positive then none else some (.float (.infinite negative))
  | ['N', 'a', 'N'] => if positive then none else some (.float .notANumber)
  | _ =>
    if digits.all Char.isDigit then (SettingValue.readWhole? 10 word).map .int
    else readDecimal? negative digits
where
  readDecimal? (negative : Bool) (cs : List Char) : Option SettingValue := do
    match ← Extended.readDecimal? negative cs with
    | .finite x => some (.float (.finite x))
    | _ => none

/-- A value without quotes. -/
def readWord? (word : List Char) : Option SettingValue :=
  match word with
  | ['n', 'u', 'l', 'l'] => some .null
  | ['t', 'r', 'u', 'e'] => some (.bool true)
  | ['f', 'a', 'l', 's', 'e'] => some (.bool false)
  | _ => readNumber? word

def isWordChar (c : Char) : Bool := c.isAlphanum || c = '+' || c = '-' || c = '.'

/-! ### Values -/

mutual

/-- The value that comes next. -/
def readValue? : Nat → List Char → Option (SettingValue × List Char)
  | 0, _ => none
  | fuel + 1, cs =>
    match skip cs with
    | '[' :: rest => (readItems? fuel rest).map fun (items, rest) => (.list items, rest)
    | '\x7b' :: rest =>
      (readEntries? fuel [] rest).map fun (entries, rest) => (.table entries, rest)
    | '"' :: rest =>
      (readString? '"' (rest.length + 1) [] rest).map fun (s, rest) => (.text s, rest)
    | '\'' :: rest =>
      (readString? '\'' (rest.length + 1) [] rest).map fun (s, rest) => (.text s, rest)
    | rest =>
      (readWord? (rest.takeWhile isWordChar)).map fun v => (v, rest.dropWhile isWordChar)

/-- The items of a list, up to its bracket. -/
def readItems? : Nat → List Char → Option (List SettingValue × List Char)
  | 0, _ => none
  | fuel + 1, cs =>
    match skip cs with
    | ']' :: rest => some ([], rest)
    | cs => do
      let (item, rest) ← readValue? fuel cs
      match skip rest with
      | ',' :: rest =>
        let (items, rest) ← readItems? fuel rest
        return (item :: items, rest)
      | ']' :: rest => return ([item], rest)
      | _ => none

/-- The entries of a table, up to its brace. The last of several under one key counts. -/
def readEntries? : Nat → List (String × SettingValue) → List Char →
    Option (List (String × SettingValue) × List Char)
  | 0, _, _ => none
  | fuel + 1, entries, cs =>
    match skip cs with
    | '\x7d' :: rest => some (entries, rest)
    | cs => do
      let (key, rest) ← readKey? cs
      match skip rest with
      | ':' :: rest =>
        let (value, rest) ← readValue? fuel rest
        let entries := SettingValue.setEntry key value entries
        match skip rest with
        | ',' :: rest => readEntries? fuel entries rest
        | '\x7d' :: rest => return (entries, rest)
        | _ => none
      | _ => none

end

/-- The one value that a file gives. -/
def read? (s : String) : Option SettingValue := do
  let cs := s.toList
  let (value, rest) ← readValue? (2 * cs.length + 2) cs
  if skip rest = [] then some value else none

end Casework.Json5
