import Casework.Calendar
import Casework.Instant
import Casework.Text.Blank
import Casework.Text.Digits

/-!
Points in time as text, after RFC 3339.

They are written in UTC with `Z`, without a fraction when it is zero and else
with the fewest of 3, 6 or 9 digits that are exact; years outside 0 to 9999 carry
a sign. Reading is more liberal: any offset, blanks between the parts, one digit
where two are usual, a blank in place of the `T`, digits beyond the ninth of a
fraction ignored.
-/

namespace Casework.Instant

open Text (padded readDecimal trimStart)

/-! ### Writing -/

def renderYear (year : Int) : List Char :=
  if 0 ≤ year ∧ year ≤ 9999 then padded 10 4 year.toNat
  else
    let digits := Nat.toDigits 10 year.natAbs
    (if year < 0 then '-' else '+') :: List.replicate (4 - digits.length) '0' ++ digits

def renderFraction (nano : Nat) : List Char :=
  if nano = 0 then []
  else if nano % 1000000 = 0 then '.' :: padded 10 3 (nano / 1000000)
  else if nano % 1000 = 0 then '.' :: padded 10 6 (nano / 1000)
  else '.' :: padded 10 9 nano

/-- The point in time in UTC. -/
def render (t : Instant) : String :=
  let date := Date.ofDays (t.second / 86400)
  let ofDay := (t.second % 86400).toNat
  let leap := t.nano / 1000000000
  String.ofList <|
    renderYear date.year ++ '-' :: padded 10 2 date.month ++ '-' :: padded 10 2 date.day ++
      'T' :: padded 10 2 (ofDay / 3600) ++ ':' :: padded 10 2 (ofDay / 60 % 60) ++
      ':' :: padded 10 2 (ofDay % 60 + leap) ++ renderFraction (t.nano % 1000000000) ++ ['Z']

/-! ### Reading -/

/-- The number of at most `limit` digits that comes next, blanks before it skipped. -/
def readField (limit : Nat) (cs : List Char) : Option (Nat × List Char) :=
  readDecimal limit (trimStart cs)

/-- The characters behind a mark, blanks before it skipped. -/
def readMark (mark : Char) (cs : List Char) : Option (List Char) :=
  match trimStart cs with
  | c :: rest => if c = mark then some rest else none
  | [] => none

/-- A year has up to four digits, or a sign and any number of them. -/
def readYear (cs : List Char) : Option (Int × List Char) :=
  match trimStart cs with
  | '-' :: rest => (readDecimal rest.length rest).map fun (n, rest) => (-(n : Int), rest)
  | '+' :: rest => (readDecimal rest.length rest).map fun (n, rest) => ((n : Int), rest)
  | rest => (readDecimal 4 rest).map fun (n, rest) => ((n : Int), rest)

/-- The years that have dates. -/
def hasDates (year : Int) : Bool := -262143 ≤ year && year ≤ 262142

def readDate (cs : List Char) : Option (Date × List Char) := do
  let (year, cs) ← readYear cs
  let cs ← readMark '-' cs
  let (month, cs) ← readField 2 cs
  let cs ← readMark '-' cs
  let (day, cs) ← readField 2 cs
  let date : Date := ⟨year, month, day⟩
  if hasDates year ∧ date.exists? then some (date, cs) else none

/-- The nanoseconds of a fraction, if there is one. -/
def readFraction : List Char → Option (Nat × List Char)
  | '.' :: cs => do
    let (n, rest) ← readDecimal 9 cs
    let used := cs.length - rest.length
    return (n * Nat.pow 10 (9 - used), rest.dropWhile Char.isDigit)
  | cs => some (0, cs)

/-- The seconds since midnight and the nanoseconds, from one second on in a leap second. -/
def readTimeOfDay (cs : List Char) : Option ((Nat × Nat) × List Char) := do
  let (hour, cs) ← readField 2 cs
  let cs ← readMark ':' cs
  let (minute, cs) ← readField 2 cs
  let cs ← readMark ':' cs
  let (second, cs) ← readField 2 cs
  let (nano, cs) ← readFraction cs
  if hour < 24 ∧ minute < 60 ∧ second < 60 then
    some ((hour * 3600 + minute * 60 + second, nano), cs)
  else if hour < 24 ∧ minute < 60 ∧ second = 60 then
    some ((hour * 3600 + minute * 60 + 59, nano + 1000000000), cs)
  else none

/-- The seconds by which local time is ahead of UTC. -/
def readOffset (cs : List Char) : Option (Int × List Char) :=
  match trimStart cs with
  | 'Z' :: rest | 'z' :: rest => some (0, rest)
  | a :: b :: c :: rest =>
    if a.toUpper = 'U' ∧ b.toUpper = 'T' ∧ c.toUpper = 'C' then some (0, rest)
    else if a = '+' ∨ a = '-' ∨ a.toNat = 0x2212 then
      match Text.digit? b, Text.digit? c, rest.dropWhile fun x => x = ':' || Text.isBlank x with
      | some h₁, some h₂, d :: e :: rest =>
        match Text.digit? d, Text.digit? e with
        | some m₁, some m₂ =>
          let ahead : Int := (h₁ * 10 + h₂) * 3600 + (m₁ * 10 + m₂) * 60
          if m₁ < 6 ∧ ahead < 86400 then some (if a = '+' then ahead else -ahead, rest) else none
        | _, _ => none
      | _, _, _ => none
    else none
  | _ => none

/-- The point in time with these parts, unless its date in UTC has no year. -/
def ofParts? (date : Date) (ofDay nano : Nat) (ahead : Int) : Option Instant :=
  let second := date.toDays * 86400 + ofDay - ahead
  if h : nano < 2000000000 ∧ (1000000000 ≤ nano → second % 60 = 59) then
    if hasDates (Date.ofDays (second / 86400)).year then some ⟨second, nano, h.1, h.2⟩ else none
  else none

/-- The point in time that a text names; there may be blanks behind it. -/
def read? (s : String) : Option Instant := do
  let (date, cs) ← readDate s.toList
  let cs ←
    match cs with
    | c :: rest => if c = 'T' ∨ c = 't' ∨ c = ' ' then some rest else none
    | [] => none
  let ((ofDay, nano), cs) ← readTimeOfDay cs
  let (ahead, cs) ← readOffset cs
  if (trimStart cs).isEmpty then ofParts? date ofDay nano ahead else none

end Casework.Instant
