import Casework.Settings.Value

/-!
Places in a YAML text. Lines end with a line feed, and columns are counted from the
one before.
-/

namespace Casework.Yaml

/-- Where reading has got to. -/
structure Place where
  /-- The characters ahead. -/
  rest : List Char
  /-- The characters of this line that are behind. -/
  column : Nat := 0
  /-- What the anchors behind stand for, the latest first. -/
  anchors : List (String × SettingValue) := []

def isBlank (c : Char) : Bool := c = ' ' || c = '\t'

/-- The character is a blank or a line end, or there is none. -/
def isGap (c : Option Char) : Bool := c.all fun c => isBlank c || c = '\n'

/-- Characters that end what is without quotes inside brackets and braces. -/
def isFlowMark (c : Char) : Bool :=
  c = ',' || c = '[' || c = ']' || c = '\x7b' || c = '\x7d'

namespace Place

/-- The place behind this number of characters, of which none is a line end. -/
def move (p : Place) (count : Nat) : Place :=
  { p with rest := p.rest.drop count, column := p.column + count }

/-- The place behind the characters of a kind to which line ends do not belong. -/
def skipWhile (p : Place) (belongs : Char → Bool) : Place :=
  p.move (p.rest.takeWhile belongs).length

def skipBlanks (p : Place) : Place := p.skipWhile isBlank

/-- The place later in the text where a line begins with these characters. -/
def atLine (p : Place) (rest : List Char) : Place := { p with rest, column := 0 }

/-- The place behind blanks, line ends and comments. A comment begins a line or follows a blank. -/
def skipGap : Nat → Place → Place
  | 0, p => p
  | fuel + 1, p =>
    let next := p.skipBlanks
    match next.rest with
    | '\n' :: rest => skipGap fuel (p.atLine rest)
    | '#' :: _ =>
      if next.column = 0 ∨ next.column ≠ p.column then
        skipGap fuel (next.skipWhile (· ≠ '\n'))
      else next
    | _ => next

/-- The place of what comes next. -/
def ahead (p : Place) : Place := skipGap (p.rest.length + 1) p

/-- The characters between a place and a later one. -/
def upTo (p q : Place) : List Char := p.rest.take (p.rest.length - q.rest.length)

/-- The two places are on one line. -/
def sameLine (p q : Place) : Bool := !(p.upTo q).contains '\n'

/-- A tab stands between a place and a later one, on the line of that. -/
def tabbed (p q : Place) : Bool := ((p.upTo q).reverse.takeWhile (· ≠ '\n')).contains '\t'

/-- A line of three such characters begins here, perhaps with more behind a blank. -/
def atMark (p : Place) (mark : Char) : Bool :=
  p.column = 0 &&
    match p.rest with
    | a :: b :: c :: rest => a = mark && b = mark && c = mark && isGap rest.head?
    | _ => false

/-- A document ends here, or another begins. -/
def atBoundary (p : Place) : Bool := p.atMark '-' || p.atMark '.'

/-- The document ends here. -/
def atEnd (p : Place) : Bool := p.rest = [] || p.atBoundary

/-- An indicator stands here: the character, with a gap behind it. -/
def atIndicator (p : Place) (c : Char) : Bool :=
  match p.rest with
  | first :: rest => first = c && isGap rest.head?
  | [] => false

/-- The place behind blanks and line ends, and the number of line ends. -/
def skipBreaks : Nat → Place → Nat × Place
  | 0, p => (0, p)
  | fuel + 1, p =>
    match p.skipBlanks.rest with
    | '\n' :: rest =>
      let (count, next) := skipBreaks fuel (p.atLine rest)
      (count + 1, next)
    | _ => (0, p.skipBlanks)

end Place

/-- What line ends stand for between two parts of a text: one for a blank, and more for all but the
    first. -/
def foldedBreaks : Nat → List Char
  | 0 => []
  | 1 => [' ']
  | count + 2 => List.replicate (count + 1) '\n'

end Casework.Yaml
