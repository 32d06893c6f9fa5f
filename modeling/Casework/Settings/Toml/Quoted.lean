import Casework.Settings.Toml.Line
import Casework.Text.Code

/-!
Strings of TOML: in double quotes with escapes, in single quotes without, and both of
them on one line or, between three quotes, on several.
-/

namespace Casework.Toml

/-- The character that an escape behind a backslash stands for. -/
def readEscape? : List Char → Option (Char × List Char)
  | 'b' :: rest => some ('\x08', rest)
  | 't' :: rest => some ('\t', rest)
  | 'n' :: rest => some ('\n', rest)
  | 'f' :: rest => some ('\x0c', rest)
  | 'r' :: rest => some ('\r', rest)
  | '"' :: rest => some ('"', rest)
  | '\\' :: rest => some ('\\', rest)
  | 'u' :: rest => Text.readCode? 4 rest
  | 'U' :: rest => Text.readCode? 8 rest
  | _ => none

/-- The text up to the quote, on one line; escapes are read if the string has them. -/
def readLine? (quote : Char) (escapes : Bool) :
    Nat → List Char → List Char → Option (String × List Char)
  | 0, _, _ => none
  | _, _, [] => none
  | fuel + 1, seen, c :: rest =>
    if c = quote then some (String.ofList seen.reverse, rest)
    else if c = '\\' ∧ escapes then do
      let (c, rest) ← readEscape? rest
      readLine? quote escapes fuel (c :: seen) rest
    else if isControl c then none
    else readLine? quote escapes fuel (c :: seen) rest

/-- The characters behind spaces and line ends. -/
def skipBreaks : List Char → List Char
  | '\r' :: '\n' :: rest => skipBreaks rest
  | c :: rest => if isSpace c || c = '\n' then skipBreaks rest else c :: rest
  | [] => []

/-- The characters behind spaces and line ends, at least one line end among them. -/
def skipBreak? (cs : List Char) : Option (List Char) :=
  (lineEnd? (skipSpaces cs)).map skipBreaks

/-- The text up to three quotes; up to two more before them belong to the text. -/
def readLines? (quote : Char) (escapes : Bool) :
    Nat → List Char → List Char → Option (String × List Char)
  | 0, _, _ => none
  | _, _, [] => none
  | fuel + 1, seen, c :: rest =>
    if c = quote then
      let quotes := (c :: rest).takeWhile (· = quote)
      let behind := (c :: rest).dropWhile (· = quote)
      if quotes.length < 3 then readLines? quote escapes fuel (quotes ++ seen) behind
      else if quotes.length ≤ 5 then
        some (String.ofList (seen.reverse ++ quotes.drop 3), behind)
      else none
    else if c = '\\' ∧ escapes then
      match skipBreak? rest with
      | some rest => readLines? quote escapes fuel seen rest
      | none => do
        let (c, rest) ← readEscape? rest
        readLines? quote escapes fuel (c :: seen) rest
    else
      match lineEnd? (c :: rest) with
      | some rest => readLines? quote escapes fuel ('\n' :: seen) rest
      | none => if isControl c then none else readLines? quote escapes fuel (c :: seen) rest

/-- A string of any kind, from its first quote on. -/
def readString? (cs : List Char) : Option (String × List Char) :=
  match cs with
  | '"' :: '"' :: '"' :: rest =>
    readLines? '"' true cs.length [] ((lineEnd? rest).getD rest)
  | '\'' :: '\'' :: '\'' :: rest =>
    readLines? '\'' false cs.length [] ((lineEnd? rest).getD rest)
  | '"' :: rest => readLine? '"' true cs.length [] rest
  | '\'' :: rest => readLine? '\'' false cs.length [] rest
  | _ => none

end Casework.Toml
