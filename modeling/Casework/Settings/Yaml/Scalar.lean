import Casework.Settings.Yaml.Place
import Casework.Text.Code

/-!
Scalars of YAML: without quotes, and in double or single quotes. They may take
several lines, whose ends are folded. What a scalar without quotes stands for is
read off its text unless it has a tag.
-/

namespace Casework.Yaml

/-! ### Values -/

/-- The tag in front of a value. -/
inductive Tag where
  /-- One of those that name a kind of values. -/
  | kind (name : String)
  | other

/-- The number that a text with a digit gives. Infinities and what is no number are refused. -/
def readFloat? (s : String) : Option SettingValue :=
  if s ∈ [".inf", ".Inf", ".INF", "+.inf", "+.Inf", "+.INF", "-.inf", "-.Inf", "-.INF",
      ".nan", ".NaN", ".NAN"] then none
  else if s.toList.any Char.isDigit then
    some ((Extended.read? s).elim (.text s) .float)
  else some (.text s)

/-- A whole number, in the base that its first characters name. -/
def readWhole? (cs : List Char) : Option Int :=
  let based :=
    match cs with
    | '0' :: 'x' :: digits => SettingValue.readWhole? 16 digits
    | '0' :: 'o' :: digits => SettingValue.readWhole? 8 digits
    | '+' :: digits => SettingValue.readWhole? 10 digits
    | _ => none
  based.or (SettingValue.readWhole? 10 cs)

/-- What a text without quotes stands for. -/
def ofPlain? (s : String) : Option SettingValue :=
  if s = "~" ∨ s = "null" then some .null
  else if s ∈ ["true", "True", "TRUE"] then some (.bool true)
  else if s ∈ ["false", "False", "FALSE"] then some (.bool false)
  else
    match readWhole? s.toList with
    | some n => some (.int n)
    | none => readFloat? s

/-- What a text without quotes stands for behind a tag; null if it is not of its kind. -/
def ofTagged? (s : String) : Tag → Option SettingValue
  | .kind "bool" =>
    some (if s = "true" then .bool true else if s = "false" then .bool false else .null)
  | .kind "int" => some (((SettingValue.readWhole? 10 s.toList).map .int).getD .null)
  | .kind "float" =>
    match readFloat? s with
    | some (.text _) => some .null
    | value => value
  | .kind "null" => some .null
  | _ => some (.text s)

/-- What a text without quotes stands for behind a tag, if there is one. -/
def ofScalar? (tag : Option Tag) (s : String) : Option SettingValue :=
  match tag with
  | some tag => ofTagged? s tag
  | none => ofPlain? s

/-! ### Without quotes -/

/-- Characters that do not begin a scalar without quotes. -/
def isIndicator (c : Char) : Bool :=
  isFlowMark c || "#&*!|>'\"%@\x60".toList.contains c

/-- A scalar without quotes begins here; `inFlow` says whether brackets are open. -/
def startsPlain (inFlow : Bool) : List Char → Bool
  | [] => false
  | c :: rest =>
    if c = '-' ∨ c = '?' ∨ c = ':' then
      !isGap rest.head? && !(inFlow && rest.head?.any isFlowMark)
    else !isIndicator c

/-- The characters of this line that belong to a scalar without quotes, and perhaps blanks. -/
def plainLine (inFlow : Bool) : List Char → List Char
  | [] => []
  | c :: rest =>
    let ends :=
      match c with
      | '\n' => true
      | ':' => isGap rest.head? || (inFlow && rest.head?.any isFlowMark)
      | _ => (inFlow && isFlowMark c) || (isBlank c && rest.head? = some '#')
    if ends then [] else c :: plainLine inFlow rest

/-- The part of a scalar without quotes on this line, and the place behind it. -/
def readPlainLine (inFlow : Bool) (p : Place) : List Char × Place :=
  let text := ((plainLine inFlow p.rest).reverse.dropWhile isBlank).reverse
  (text, p.move text.length)

/-- The further lines of a scalar without quotes, none of which begins before this column. -/
def readPlainLines (inFlow : Bool) (column : Nat) :
    Nat → List Char → Place → List Char × Place
  | 0, seen, p => (seen, p)
  | fuel + 1, seen, p =>
    let (breaks, next) := p.skipBreaks (p.rest.length + 1)
    let (text, behind) := readPlainLine inFlow next
    if breaks = 0 ∨ next.column < column ∨ next.atEnd ∨ next.rest.head? = some '#' ∨ text = [] then
      (seen, p)
    else readPlainLines inFlow column fuel (seen ++ foldedBreaks breaks ++ text) behind

/-- The scalar without quotes that begins here. -/
def readPlain (inFlow : Bool) (column : Nat) (p : Place) : String × Place :=
  let (text, behind) := readPlainLine inFlow p
  let (text, behind) := readPlainLines inFlow column p.rest.length text behind
  (String.ofList text, behind)

/-! ### In quotes -/

/-- The character that an escape behind a backslash stands for. -/
def readEscape? : List Char → Option (Char × List Char)
  | '0' :: rest => some ('\x00', rest)
  | 'a' :: rest => some ('\x07', rest)
  | 'b' :: rest => some ('\x08', rest)
  | 't' :: rest | '\t' :: rest => some ('\t', rest)
  | 'n' :: rest => some ('\n', rest)
  | 'v' :: rest => some ('\x0b', rest)
  | 'f' :: rest => some ('\x0c', rest)
  | 'r' :: rest => some ('\r', rest)
  | 'e' :: rest => some ('\x1b', rest)
  | 'N' :: rest => some ('\x85', rest)
  | '_' :: rest => some ('\xa0', rest)
  | 'L' :: rest => some ('\u2028', rest)
  | 'P' :: rest => some ('\u2029', rest)
  | 'x' :: rest => Text.readCode? 2 rest
  | 'u' :: rest => Text.readCode? 4 rest
  | 'U' :: rest => Text.readCode? 8 rest
  | c :: rest => if c = ' ' ∨ c = '"' ∨ c = '/' ∨ c = '\\' then some (c, rest) else none
  | [] => none

/-- The text up to the quote, behind what is seen of it, its latest character first. Between double
    quotes there are escapes, and a backslash takes the line end behind it away; between single
    quotes a quote is written twice. -/
def readQuoted? (quote : Char) : Nat → List Char → Place → Option (String × Place)
  | 0, _, _ => none
  | fuel + 1, seen, p =>
    match p.rest with
    | [] => none
    | c :: rest =>
      if c = quote then
        if quote = '\'' ∧ rest.head? = some '\'' then
          readQuoted? quote fuel (c :: seen) (p.move 2)
        else some (String.ofList seen.reverse, p.move 1)
      else if c = '\\' ∧ quote = '"' then
        match rest with
        | '\n' :: rest =>
          let (breaks, next) := (p.atLine rest).skipBreaks (rest.length + 1)
          readQuoted? quote fuel (List.replicate breaks '\n' ++ seen) next
        | _ => do
          let (c, behind) ← readEscape? rest
          readQuoted? quote fuel (c :: seen) (p.move (p.rest.length - behind.length))
      else if isBlank c ∨ c = '\n' then
        let (breaks, next) := p.skipBreaks (p.rest.length + 1)
        let text := if breaks = 0 then p.upTo next else foldedBreaks breaks
        if next.atBoundary then none else readQuoted? quote fuel (text.reverse ++ seen) next
      else readQuoted? quote fuel (c :: seen) (p.move 1)

/-- The text in quotes that begins here. -/
def readText? (p : Place) : Option (String × Place) :=
  match p.rest with
  | '"' :: rest => readQuoted? '"' (rest.length + 1) [] (p.move 1)
  | '\'' :: rest => readQuoted? '\'' (rest.length + 1) [] (p.move 1)
  | _ => none

end Casework.Yaml
