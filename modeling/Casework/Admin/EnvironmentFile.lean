import Casework.Environment
import Casework.Text.Alphanumeric
import Casework.Text.Blank

/-!
Files of environment variables, one assignment a line. Blank lines and lines that
begin with `#` say nothing, and `export` may stand in front of a name. Values may
be quoted, escape characters by a backslash, and name other variables behind a
dollar sign.

Reading ends at the first line that is no assignment; those before it count. A
variable that is set already keeps its value.
-/

namespace Casework.EnvironmentFile

/-! ### Values -/

/-- What the next character of a value is part of. -/
inductive Mode where
  | plain
  /-- Behind the value; a comment may follow. -/
  | ended
  /-- Between single quotes. -/
  | verbatim
  /-- The letters and digits of the name behind a dollar sign, the latest first. -/
  | name (seen : List Char)
  /-- The name in braces behind a dollar sign, its latest character first. -/
  | bracedName (seen : List Char)
  /-- Behind a backslash. -/
  | escaped
  deriving DecidableEq

/-- A value that is being read, its latest character first. -/
structure Progress where
  output : List Char := []
  mode : Mode := .plain
  /-- Between double quotes. -/
  quoted : Bool := false

/-- The output with the value of a variable added; unknown variables have none. -/
def addVariable (environment : Environment) (seen output : List Char) : List Char :=
  match environment.get? (String.ofList seen.reverse) with
  | some value => value.toList.reverse ++ output
  | none => output

/-- The progress after one character of a value that is neither quoted verbatim nor a name. -/
def stepPlain? (p : Progress) (c : Char) : Option Progress :=
  if c = '$' then some { p with mode := .name [] }
  else if p.quoted then
    if c = '"' then some { p with quoted := false }
    else if c = '\\' then some { p with mode := .escaped }
    else some { p with output := c :: p.output }
  else if c = '\'' then some { p with mode := .verbatim }
  else if c = '"' then some { p with quoted := true }
  else if c = '\\' then some { p with mode := .escaped }
  else if c = ' ' ∨ c = '\t' then some { p with mode := .ended }
  else some { p with output := c :: p.output }

/-- The progress after one character. -/
def step? (environment : Environment) (p : Progress) (c : Char) : Option Progress :=
  match p.mode with
  | .ended => if c = ' ' ∨ c = '\t' then some p else none
  | .escaped =>
    let plain := { p with mode := .plain }
    if c = '\\' ∨ c = '\'' ∨ c = '"' ∨ c = '$' ∨ c = ' ' then
      some { plain with output := c :: p.output }
    else if c = 'n' then some { plain with output := '\n' :: p.output }
    else none
  | .verbatim =>
    if c = '\'' then some { p with mode := .plain } else some { p with output := c :: p.output }
  | .name seen =>
    if Text.isAlphanumeric c then some { p with mode := .name (c :: seen) }
    else if c = '\x7b' ∧ seen = [] then some { p with mode := .bracedName [] }
    else
      let output := addVariable environment seen p.output
      if c = '$' then some { p with output, mode := .name [] }
      else some { p with output := c :: output, mode := .plain }
  | .bracedName seen =>
    if c = '\x7d' then
      some { p with output := addVariable environment seen p.output, mode := .plain }
    else some { p with mode := .bracedName (c :: seen) }
  | .plain => stepPlain? p c

/-- The progress after the characters of a value, up to a comment behind it. -/
def progress? (environment : Environment) (p : Progress) : List Char → Option Progress
  | [] => some p
  | c :: rest =>
    if p.mode = .ended ∧ c = '#' then some p
    else
      match step? environment p c with
      | some next => progress? environment next rest
      | none => none

/-- The value that is written so. -/
def readValue? (environment : Environment) (cs : List Char) : Option String := do
  let p ← progress? environment {} cs
  if p.quoted then none
  match p.mode with
  | .verbatim | .bracedName _ => none
  | .name seen => return String.ofList (addVariable environment seen p.output).reverse
  | .plain | .ended | .escaped => return String.ofList p.output.reverse

/-! ### Lines -/

/-- The name that comes first. -/
def readName? (cs : List Char) : Option (String × List Char) :=
  match cs with
  | c :: _ =>
    if c.isAlpha ∨ c = '_' then
      let belongs (c : Char) : Bool := c.isAlphanum || c = '_' || c = '.'
      some (String.ofList (cs.takeWhile belongs), Text.trimStart (cs.dropWhile belongs))
    else none
  | [] => none

/-- What a line says: nothing, or that a variable has a value; `none` if it is no assignment. -/
def readLine? (environment : Environment) (line : List Char) :
    Option (Option (String × String)) := do
  let cs := Text.trimStart (Text.trimEnd line)
  if cs = [] ∨ cs.head? = some '#' then return none
  let (first, rest) ← readName? cs
  let (name, rest) ←
    if first = "export" ∧ rest.head? ≠ some '=' then readName? rest else some (first, rest)
  if rest.head? ≠ some '=' then none
  let value := Text.trimStart (rest.drop 1)
  if value = [] ∨ value.head? = some '#' then return some (name, "")
  return some (name, ← readValue? environment value)

/-- The environment with the assignments of these lines. -/
def extendBy (environment : Environment) : List (List Char) → Environment
  | [] => environment
  | line :: rest =>
    match readLine? environment line with
    | none => environment
    | some none => extendBy environment rest
    | some (some (name, value)) =>
      if (environment.get? name).isSome then extendBy environment rest
      else extendBy (environment.assign name value) rest

/-- The environment with the assignments of a file. -/
def extend (environment : Environment) (content : String) : Environment :=
  extendBy environment ((content.splitOn "\n").map String.toList)

end Casework.EnvironmentFile
