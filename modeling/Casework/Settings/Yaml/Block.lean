import Casework.Settings.Yaml.Place
import Casework.Text.Digits

/-!
Block scalars of YAML: the lines behind `|` or `>` that are indented, with their
line ends kept or folded. Marks behind the first say how far the lines are
indented and what becomes of the line ends behind the last of them.
-/

namespace Casework.Yaml

/-- What becomes of the line ends behind the text. -/
inductive Chomping where
  | strip
  /-- One is left. -/
  | clip
  | keep

/-- What stands in front of the lines of a block scalar. -/
structure Header where
  /-- Line ends inside the text are folded. -/
  folded : Bool
  chomping : Chomping := .clip
  /-- By how much the lines are indented, if that is said. -/
  indent : Option Nat := none

/-- The header with the marks that come next, and the characters behind them. -/
def readMarks : Header → List Char → Header × List Char
  | header, '-' :: rest => readMarks { header with chomping := .strip } rest
  | header, '+' :: rest => readMarks { header with chomping := .keep } rest
  | header, c :: rest =>
    if c.isDigit ∧ c ≠ '0' then readMarks { header with indent := Text.digit? c } rest
    else (header, c :: rest)
  | header, [] => (header, [])

/-! ### Lines -/

/-- The line that comes first and the characters behind its end. -/
def splitLine (cs : List Char) : List Char × List Char :=
  (cs.takeWhile (· ≠ '\n'), (cs.dropWhile (· ≠ '\n')).drop 1)

/-- The number of spaces that come first. -/
def indentOf (line : List Char) : Nat := (line.takeWhile (· = ' ')).length

/-- The greatest indent among empty lines and the first that is not empty. -/
def detectIndent : Nat → List Char → Nat
  | 0, _ => 0
  | fuel + 1, cs =>
    let (line, rest) := splitLine cs
    if indentOf line = line.length ∧ rest ≠ [] then max (indentOf line) (detectIndent fuel rest)
    else indentOf line

/-- The lines of at least this indent, without it, and the characters behind them. Lines of fewer
    spaces and nothing else are empty. -/
def takeLines (indent : Nat) : Nat → List Char → List (List Char) × List Char
  | 0, cs => ([], cs)
  | fuel + 1, cs =>
    let (line, rest) := splitLine cs
    let isText := indentOf line < line.length
    let ends := isText && (indentOf line < indent || Place.atBoundary { rest := cs })
    if cs = [] ∨ ends then ([], cs)
    else
      let (lines, behind) := takeLines indent fuel rest
      (line.drop indent :: lines, behind)

/-! ### Texts -/

/-- The line begins with a blank, so that line ends around it are kept. -/
def isSpaced (line : List Char) : Bool := line.head?.any isBlank

/-- The lines from one with a text on, with the line ends between them folded. -/
def foldLines : Nat → List Char → List (List Char) → List Char
  | _, line, [] => line
  | breaks, line, [] :: rest => foldLines (breaks + 1) line rest
  | breaks, line, next :: rest =>
    let between :=
      if isSpaced line || isSpaced next then List.replicate (breaks + 1) '\n'
      else foldedBreaks (breaks + 1)
    line ++ between ++ foldLines 0 next rest

/-- The text of lines. -/
def textOf (header : Header) (lines : List (List Char)) : String :=
  let ending := (lines.reverse.takeWhile (· = [])).length
  let lines := lines.take (lines.length - ending)
  let text :=
    if header.folded then
      let leading := (lines.takeWhile (· = [])).length
      match lines.drop leading with
      | line :: rest => List.replicate leading '\n' ++ foldLines 0 line rest
      | [] => []
    else ['\n'].intercalate lines
  let breaks := if lines = [] then 0 else 1
  let behind :=
    match header.chomping with
    | .strip => 0
    | .clip => breaks
    | .keep => breaks + ending
  String.ofList (text ++ List.replicate behind '\n')

/-- The block scalar that begins here. `column` is the one from which its lines may begin. -/
def readBlock? (column : Nat) (p : Place) : Option (String × Place) := do
  let (header, rest) ←
    match p.rest with
    | '|' :: rest => some (readMarks { folded := false } rest)
    | '>' :: rest => some (readMarks { folded := true } rest)
    | _ => none
  let behind := p.move (p.rest.length - rest.length)
  let next := behind.skipBlanks
  let comment := next.rest.head? = some '#' && next.column ≠ behind.column
  let (line, rest) := splitLine next.rest
  if line ≠ [] ∧ !comment then none
  let indent :=
    match header.indent with
    | some indent => column - 1 + indent
    | none => max column (detectIndent rest.length rest)
  let (lines, rest) := takeLines indent (rest.length + 1) rest
  return (textOf header lines, p.atLine rest)

end Casework.Yaml
