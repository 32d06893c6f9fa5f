import Casework.Settings.Value
import Casework.Text.Blank
import Casework.Text.Code

/-!
Settings files in INI: assignments of texts to keys, those behind a heading in
brackets inside the table of that name. A key ends at an equals sign or a colon,
and a value at the end of its line unless it is quoted. Comments have lines of
their own.
-/

namespace Casework.Ini

/-- What a file consists of. -/
inductive Item where
  /-- The heading of a table, which is empty at first. -/
  | heading (name : String)
  | entry (key value : String)

/-! ### Texts -/

/-- The character of four hexadecimal digits, the first of which may be a plus sign. -/
def readCode? : List Char → Option (Char × List Char)
  | '+' :: rest => Text.readCode? 3 rest
  | rest => Text.readCode? 4 rest

/-- What an escape behind a backslash stands for; a line break stands for nothing. -/
def readEscape? : List Char → Option (List Char × List Char)
  | [] => none
  | '0' :: rest => some (['\x00'], rest)
  | 'a' :: rest => some (['\x07'], rest)
  | 'b' :: rest => some (['\x08'], rest)
  | 't' :: rest => some (['\t'], rest)
  | 'r' :: rest => some (['\r'], rest)
  | 'n' :: rest => some (['\n'], rest)
  | '\n' :: rest => some ([], rest)
  | 'x' :: rest => (readCode? rest).map fun (c, rest) => ([c], rest)
  | c :: rest => some ([c], rest)

/-- The text up to a character at which it stops, and the characters from that one on. It must
    stop unless it may run to the end. -/
def readUntil? (stops : Char → Bool) (mayEnd : Bool) :
    Nat → List Char → List Char → Option (List Char × List Char)
  | 0, _, _ => none
  | _, seen, [] => if mayEnd then some (seen.reverse, []) else none
  | fuel + 1, seen, c :: rest =>
    if stops c then some (seen.reverse, c :: rest)
    else if c = '\\' then do
      let (text, rest) ← readEscape? rest
      readUntil? stops mayEnd fuel (text ++ seen) rest
    else readUntil? stops mayEnd fuel (c :: seen) rest

def isLineEnd (c : Char) : Bool := c = '\n' || c = '\r'

/-- The parts of a value: any number of quoted texts and then one that ends with the line.
    Blanks around that one are no part of it, but those behind a quoted text are. -/
def readParts? : Nat → Option (List Char) → List Char → Option (List Char × List Char)
  | 0, _, _ => none
  | fuel + 1, seen, cs =>
    let quoted (quote : Char) (rest : List Char) : Option (List Char × List Char) := do
      let (text, rest) ← readUntil? (· = quote) false cs.length [] rest
      readParts? fuel (some (seen.getD [] ++ text)) (rest.drop 1)
    match cs with
    | '"' :: rest => quoted '"' rest
    | '\'' :: rest => quoted '\'' rest
    | _ => do
      let (text, rest) ← readUntil? isLineEnd true (cs.length + 1) [] cs
      match seen with
      | none => return (Text.trimChars text, rest)
      | some seen => return (seen ++ Text.trimEnd text, rest)

/-- The value that comes next, on the same line. -/
def readValue? (cs : List Char) : Option (String × List Char) :=
  let cs := cs.dropWhile fun c => Text.isBlank c && !isLineEnd c
  (readParts? (cs.length + 1) none cs).map fun (text, rest) => (String.ofList text, rest)

/-! ### Files -/

/-- The characters behind blanks, and whether the first of them begins a line. -/
def skipBlanks : Bool → List Char → Bool × List Char
  | atStart, [] => (atStart, [])
  | atStart, c :: rest =>
    if Text.isBlank c then skipBlanks (c = '\n') rest else (atStart, c :: rest)

/-- The items of a file from here on; `atStart` says whether a line begins here. -/
def readItems? : Nat → Bool → List Char → Option (List Item)
  | 0, _, _ => none
  | fuel + 1, atStart, cs =>
    match skipBlanks atStart cs with
    | (_, []) => some []
    | (atStart, c :: rest) =>
      if c = ';' ∨ c = '#' then
        if atStart then readItems? fuel false (rest.dropWhile (· ≠ '\n')) else none
      else if c = '[' then do
        let (name, rest) ← readUntil? (· = ']') false cs.length [] rest
        let heading := .heading (String.ofList (Text.trimChars name))
        return heading :: (← readItems? fuel false (rest.drop 1))
      else do
        let (key, rest) ← readUntil? (fun c => c = '=' || c = ':') false cs.length [] (c :: rest)
        let key := Text.trimChars key
        if key = [] then none
        let (value, rest) ← readValue? (rest.drop 1)
        return .entry (String.ofList key) value :: (← readItems? fuel false rest)

/-- The entries with one more item; `heading` is that of the table in which it is. -/
def addItem : Option String × List (String × SettingValue) → Item →
    Option String × List (String × SettingValue)
  | (_, entries), .heading name => (some name, SettingValue.setEntry name (.table []) entries)
  | (none, entries), .entry key value =>
    (none, SettingValue.setEntry key (.text value) entries)
  | (some name, entries), .entry key value =>
    let inner := ((entries.lookup name).getD .null).entries
    (some name,
      SettingValue.setEntry name (.table (SettingValue.setEntry key (.text value) inner)) entries)

/-- The table that a file gives. -/
def read? (s : String) : Option SettingValue := do
  let cs := s.toList
  let items ← readItems? (cs.length + 1) true cs
  return .table (items.foldl addItem (none, [])).2

end Casework.Ini
