import Casework.Settings.Value
import Casework.Text.Code

/-!
Settings files in RON: structs, tuples, lists and maps, of which structs and maps
are tables. What has a name but no parts, and what is left out of an option, is
null.
-/

namespace Casework.Ron

/-! ### Blanks -/

/-- The characters behind the end of a comment, which may hold others. -/
def behindComment? : Nat → List Char → Option (List Char)
  | 0, '*' :: '/' :: rest => some rest
  | depth + 1, '*' :: '/' :: rest => behindComment? depth rest
  | depth, '/' :: '*' :: rest => behindComment? (depth + 1) rest
  | depth, _ :: rest => behindComment? depth rest
  | _, [] => none

def isBlank (c : Char) : Bool := c = ' ' || c = '\t' || c = '\n' || c = '\r'

/-- The characters behind blanks and at most `fuel` comments. -/
def skipBlanks (fuel : Nat) (cs : List Char) : List Char :=
  match fuel with
  | 0 => cs
  | fuel + 1 =>
    match cs.dropWhile isBlank with
    | '/' :: '/' :: rest => skipBlanks fuel (rest.dropWhile (· ≠ '\n'))
    | '/' :: '*' :: rest =>
      match behindComment? 0 rest with
      | some rest => skipBlanks fuel rest
      | none => '/' :: '*' :: rest
    | rest => rest

/-- The characters behind all blanks and comments. -/
def skip (cs : List Char) : List Char := skipBlanks (cs.length + 1) cs

/-! ### Texts -/

/-- The character that an escape behind a backslash stands for. -/
def readEscape? : List Char → Option (Char × List Char)
  | 'n' :: rest => some ('\n', rest)
  | 'r' :: rest => some ('\r', rest)
  | 't' :: rest => some ('\t', rest)
  | '0' :: rest => some ('\x00', rest)
  | 'x' :: rest => Text.readCode? 2 rest
  | 'u' :: '\x7b' :: rest => do
    let digits := (rest.take 6).takeWhile (· ≠ '\x7d')
    let (c, behind) ← Text.readCode? digits.length rest
    match digits, behind with
    | _ :: _, '\x7d' :: behind => return (c, behind)
    | _, _ => none
  | c :: rest => if c = '"' ∨ c = '\'' ∨ c = '\\' then some (c, rest) else none
  | [] => none

/-- The text up to the quote, on any number of lines. -/
def readString? : Nat → List Char → List Char → Option (String × List Char)
  | 0, _, _ => none
  | _, _, [] => none
  | fuel + 1, seen, c :: rest =>
    if c = '"' then some (String.ofList seen.reverse, rest)
    else if c = '\\' then do
      let (c, rest) ← readEscape? rest
      readString? fuel (c :: seen) rest
    else readString? fuel (c :: seen) rest

/-- The text up to a quote with as many number signs behind it as there are before the text. -/
def readRaw? (signs : List Char) : List Char → List Char → Option (String × List Char)
  | _, [] => none
  | seen, c :: rest =>
    if c = '"' ∧ signs.isPrefixOf rest then
      some (String.ofList seen.reverse, rest.drop signs.length)
    else readRaw? signs (c :: seen) rest

/-- The one character between single quotes. -/
def readChar? (cs : List Char) : Option (String × List Char) := do
  let (c, rest) ←
    match cs with
    | '\\' :: rest => readEscape? rest
    | c :: rest => if c = '\'' then none else some (c, rest)
    | [] => none
  match rest with
  | '\'' :: rest => return (String.singleton c, rest)
  | _ => none

/-! ### Numbers -/

def isWholeChar (c : Char) : Bool := (Text.hexDigit? c).isSome || c = 'x' || c = 'o' || c = '_'

def isDecimalChar (c : Char) : Bool :=
  c.isDigit || c = 'e' || c = 'E' || c = '.' || c = '+' || c = '-' || c = '_'

/-- The digits of a whole number, between or behind which there may be underscores. -/
def readDigits? (base : Nat) (cs : List Char) : Option Nat := do
  let digits ← (cs.filter (· ≠ '_')).mapM fun c => (Text.hexDigit? c).filter (· < base)
  if cs = [] ∨ cs.head? = some '_' then none else some (Text.ofDigits base digits)

/-- A whole number, in the base that its second character may name. Beyond 63 bits it is a
    double. -/
def readWhole? (negative : Bool) (cs : List Char) : Option SettingValue := do
  let n ←
    match cs with
    | '0' :: 'x' :: digits => readDigits? 16 digits
    | '0' :: 'o' :: digits => readDigits? 8 digits
    | '0' :: 'b' :: digits => readDigits? 2 digits
    | _ => readDigits? 10 cs
  let signed : Int := if negative then -n else n
  if SettingValue.fitsWord signed then some (.int signed)
  else if negative ∨ UInt64.size ≤ n then none
  else (Double.nearest? false n 1).map fun x => .float (.finite x)

/-- The number that comes next. It has a fraction or a signed exponent if more characters belong to
    it than to a whole number. -/
def readNumber? (cs : List Char) : Option (SettingValue × List Char) := do
  let (negative, cs) := Extended.readSign cs
  let whole := cs.takeWhile isWholeChar
  let decimal := cs.takeWhile isDecimalChar
  if whole.length < decimal.length then
    return (.float (← Extended.readDecimal? negative decimal), cs.drop decimal.length)
  else return (← readWhole? negative whole, cs.drop whole.length)

/-! ### Values -/

def isNameStart (c : Char) : Bool := c.isAlpha || c = '_'

def isNameChar (c : Char) : Bool := c.isAlphanum || c = '_'

/-- The characters behind a mark, if it comes next. -/
def readMark? (mark : Char) (cs : List Char) : Option (List Char) :=
  match skip cs with
  | c :: rest => if c = mark then some rest else none
  | [] => none

/-- The name and the characters behind it and a colon. -/
def readField? (cs : List Char) : Option (String × List Char) := do
  let cs := skip cs
  if !cs.head?.any isNameStart then none
  let rest ← readMark? ':' (cs.dropWhile isNameChar)
  return (String.ofList (cs.takeWhile isNameChar), rest)

mutual

/-- The value that comes next. -/
def readValue? : Nat → List Char → Option (SettingValue × List Char)
  | 0, _ => none
  | fuel + 1, cs =>
    match skip cs with
    | '[' :: rest => (readItems? ']' fuel rest).map fun (items, rest) => (.list items, rest)
    | '\x7b' :: rest =>
      (readEntries? fuel [] rest).map fun (entries, rest) => (.table entries, rest)
    | '(' :: ')' :: rest => some (.null, rest)
    | '(' :: rest => readParts? fuel rest
    | '"' :: rest => (readString? (rest.length + 1) [] rest).map fun (s, rest) => (.text s, rest)
    | '\'' :: rest => (readChar? rest).map fun (s, rest) => (.text s, rest)
    | '-' :: 'i' :: 'n' :: 'f' :: rest => some (.float (.infinite true), rest)
    | 'r' :: '"' :: rest => (readRaw? [] [] rest).map fun (s, rest) => (.text s, rest)
    | 'r' :: '#' :: rest =>
      let signs := '#' :: rest.takeWhile (· = '#')
      match rest.dropWhile (· = '#') with
      | '"' :: rest => (readRaw? signs [] rest).map fun (s, rest) => (.text s, rest)
      | _ => none
    | cs =>
      if cs.head?.any isNameStart then
        readNamed? fuel (String.ofList (cs.takeWhile isNameChar)) (cs.dropWhile isNameChar)
      else readNumber? cs

/-- The value that begins with a name. -/
def readNamed? : Nat → String → List Char → Option (SettingValue × List Char)
  | 0, _, _ => none
  | fuel + 1, name, cs =>
    if name = "true" then some (.bool true, cs)
    else if name = "false" then some (.bool false, cs)
    else if name = "None" then some (.null, cs)
    else if name = "inf" then some (.float (.infinite false), cs)
    else if name = "NaN" then some (.float .notANumber, cs)
    else if name = "Some" then do
      let (value, rest) ← readValue? fuel (← readMark? '(' cs)
      return (value, ← readMark? ')' rest)
    else
      match readMark? '(' cs with
      | some rest => readParts? fuel rest
      | none => some (.null, cs)

/-- The fields of a struct or the items of a tuple, up to the bracket. -/
def readParts? : Nat → List Char → Option (SettingValue × List Char)
  | 0, _ => none
  | fuel + 1, cs =>
    match readField? cs with
    | some _ => (readFields? fuel [] cs).map fun (entries, rest) => (.table entries, rest)
    | none => (readItems? ')' fuel cs).map fun (items, rest) => (.list items, rest)

/-- The items up to a closing bracket. -/
def readItems? (close : Char) : Nat → List Char → Option (List SettingValue × List Char)
  | 0, _ => none
  | fuel + 1, cs =>
    match readMark? close cs with
    | some rest => some ([], rest)
    | none => do
      let (item, rest) ← readValue? fuel cs
      match readMark? ',' rest with
      | some rest =>
        let (items, rest) ← readItems? close fuel rest
        return (item :: items, rest)
      | none => return ([item], ← readMark? close rest)

/-- The fields of a struct, up to its bracket. -/
def readFields? : Nat → List (String × SettingValue) → List Char →
    Option (List (String × SettingValue) × List Char)
  | 0, _, _ => none
  | fuel + 1, entries, cs =>
    match readMark? ')' cs with
    | some rest => some (entries, rest)
    | none => do
      let (key, rest) ← readField? cs
      let (value, rest) ← readValue? fuel rest
      let entries := SettingValue.setEntry key value entries
      match readMark? ',' rest with
      | some rest => readFields? fuel entries rest
      | none => return (entries, ← readMark? ')' rest)

/-- The entries of a map, up to its brace. Its keys are texts. -/
def readEntries? : Nat → List (String × SettingValue) → List Char →
    Option (List (String × SettingValue) × List Char)
  | 0, _, _ => none
  | fuel + 1, entries, cs =>
    match readMark? '\x7d' cs with
    | some rest => some (entries, rest)
    | none => do
      let (key, rest) ← readValue? fuel cs
      match key with
      | .text key =>
        let (value, rest) ← readValue? fuel (← readMark? ':' rest)
        let entries := SettingValue.setEntry key value entries
        match readMark? ',' rest with
        | some rest => readEntries? fuel entries rest
        | none => return (entries, ← readMark? '\x7d' rest)
      | _ => none

end

/-- The characters behind the attributes of a file, each of which enables extensions. -/
def skipAttributes : Nat → List Char → List Char
  | 0, cs => cs
  | fuel + 1, cs =>
    match skip cs with
    | '#' :: '!' :: '[' :: rest => skipAttributes fuel ((rest.dropWhile (· ≠ ']')).drop 1)
    | rest => rest

/-- The one value that a file gives. -/
def read? (s : String) : Option SettingValue := do
  let cs := skipAttributes (s.length + 1) s.toList
  let (value, rest) ← readValue? (4 * cs.length + 4) cs
  if skip rest = [] then some value else none

end Casework.Ron
