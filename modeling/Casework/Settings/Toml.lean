import Casework.Settings.Toml.Quoted
import Casework.Settings.Toml.Tree
import Casework.Settings.Toml.Word

/-!
Settings files in TOML: comments, tables, dotted and quoted keys, strings of all
four kinds, numbers, booleans, dates and times, arrays and inline tables.
-/

namespace Casework.Toml

/-! ### Keys -/

def isBare (c : Char) : Bool := c.isAlphanum || c = '_' || c = '-'

/-- One part of a key. -/
def readSimpleKey? (cs : List Char) : Option (String × List Char) :=
  match cs with
  | '"' :: rest => readLine? '"' true cs.length [] rest
  | '\'' :: rest => readLine? '\'' false cs.length [] rest
  | _ =>
    let name := cs.takeWhile isBare
    if name = [] then none else some (String.ofList name, cs.dropWhile isBare)

/-- The deepest nesting of arrays and inline tables, and the greatest number of parts of a key. -/
def maxDepth : Nat := 79

/-- At most `limit` parts of a key, between which there are points. -/
def readParts? : Nat → List Char → Option (List String × List Char)
  | 0, _ => none
  | limit + 1, cs => do
    let (part, rest) ← readSimpleKey? (skipSpaces cs)
    match skipSpaces rest with
    | '.' :: rest =>
      let (parts, rest) ← readParts? limit rest
      return (part :: parts, rest)
    | rest => return ([part], rest)

/-- The parts of a key and the characters behind it. -/
def readKey? (cs : List Char) : Option (List String × List Char) := readParts? maxDepth cs

/-! ### Values -/

def isWordEnd (c : Char) : Bool :=
  isSpace c || c = '\n' || c = '\r' || c = ',' || c = ']' || c = '\x7d' || c = '#'

mutual

/-- A value, from its first character on; `depth` arrays and inline tables may be nested in one
    another. -/
def readValue? : Nat → Nat → List Char → Option (Node × List Char)
  | 0, _, _ => none
  | fuel + 1, depth, cs =>
    match cs with
    | '[' :: rest => do
      if depth = 0 then none
      let (items, rest) ← readItems? fuel (depth - 1) rest
      return (.list items, rest)
    | '\x7b' :: rest => do
      if depth = 0 then none
      match skipSpaces rest with
      | '\x7d' :: rest => return (.table .braced [], rest)
      | _ =>
        let (entries, rest) ← readEntries? fuel (depth - 1) [] rest
        return (.table .braced entries, rest)
    | c :: _ =>
      if c = '"' ∨ c = '\'' then
        (readString? cs).map fun (s, rest) => (.value (.text s), rest)
      else
        match readMoment? cs with
        | some (moment, rest) => some (.moment moment, rest)
        | none =>
          (readWord? (cs.takeWhile (!isWordEnd ·))).map fun v =>
            (.value v, cs.dropWhile (!isWordEnd ·))
    | [] => none

/-- The values of an array, up to its closing bracket. -/
def readItems? : Nat → Nat → List Char → Option (List Node × List Char)
  | 0, _, _ => none
  | fuel + 1, depth, cs =>
    match skipLines cs.length cs with
    | ']' :: rest => some ([], rest)
    | cs => do
      let (item, rest) ← readValue? fuel depth cs
      match skipLines rest.length rest with
      | ',' :: rest =>
        let (items, rest) ← readItems? fuel depth rest
        return (item :: items, rest)
      | ']' :: rest => return ([item], rest)
      | _ => none

/-- The entries of an inline table, up to its closing brace. -/
def readEntries? : Nat → Nat → Entries → List Char → Option (Entries × List Char)
  | 0, _, _, _ => none
  | fuel + 1, depth, entries, cs => do
    let (key, rest) ← readKey? cs
    match rest with
    | '=' :: rest =>
      let (node, rest) ← readValue? fuel depth (skipSpaces rest)
      let entries ← assign? node key entries
      match skipSpaces rest with
      | ',' :: rest => readEntries? fuel depth entries rest
      | '\x7d' :: rest => return (entries, rest)
      | _ => none
    | _ => none

end

/-! ### Documents -/

/-- The characters behind closing brackets and the rest of their line. -/
def closeHeading? : Nat → List Char → Option (List Char)
  | 0, cs => finishLine? cs
  | count + 1, ']' :: rest => closeHeading? count rest
  | _ + 1, _ => none

/-- A heading: the entries with its table begun, its path, and the characters of the next line. -/
def readHeading? (brackets : Nat) (start : String → Entries → Option Entries) (root : Entries)
    (cs : List Char) : Option (Entries × List String × List Char) := do
  let (key, rest) ← readKey? cs
  let rest ← closeHeading? brackets rest
  return (← within? (start (← key.getLast?)) key.dropLast root, key, rest)

/-- The entries of a document from here on; `path` leads to the table of the latest heading. -/
def readDocument? : Nat → Entries → List String → List Char → Option Entries
  | 0, _, _, _ => none
  | fuel + 1, root, path, cs =>
    match skipLines cs.length cs with
    | [] => some root
    | '[' :: '[' :: rest => do
      let (root, path, rest) ← readHeading? 2 beginNext? root rest
      readDocument? fuel root path rest
    | '[' :: rest => do
      let (root, path, rest) ← readHeading? 1 begin? root rest
      readDocument? fuel root path rest
    | cs => do
      let (key, rest) ← readKey? cs
      match rest with
      | '=' :: rest =>
        let (node, rest) ← readValue? (cs.length + 1) maxDepth (skipSpaces rest)
        let rest ← finishLine? rest
        readDocument? fuel (← within? (assign? node key) path root) path rest
      | _ => none

/-- What a document gives, which is a table unless its first key is a `momentKey`. The mark of the
    byte order may stand in front. -/
def read? (s : String) : Option SettingValue := do
  let cs :=
    match s.toList with
    | '\ufeff' :: rest => rest
    | cs => cs
  finishTable? (← readDocument? (cs.length + 1) [] [] cs)

end Casework.Toml
