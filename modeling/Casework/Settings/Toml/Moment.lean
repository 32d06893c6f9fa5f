import Casework.Instant.Text

/-!
Dates and times in TOML: a date, a time of day, or a date with a time, perhaps in a
zone. Every field has all its digits. In writing, letters are capital and a fraction
does not end in a zero.
-/

namespace Casework.Toml

open Text (padded)

/-- A time of day. Its last second may be a leap second. -/
structure TimeOfDay where
  hour : Nat
  minute : Nat
  second : Nat
  nano : Nat
  deriving DecidableEq

/-- A zone, by what its time is ahead of UTC. -/
inductive Zone where
  | utc
  | ahead (minutes : Int)
  deriving DecidableEq

/-- A date, a time of day or both. -/
inductive Moment where
  | date (d : Date)
  | time (t : TimeOfDay)
  | both (d : Date) (t : TimeOfDay) (zone : Option Zone)
  deriving DecidableEq

/-! ### Writing -/

def renderDate (d : Date) : List Char :=
  padded 10 4 d.year.toNat ++ '-' :: padded 10 2 d.month ++ '-' :: padded 10 2 d.day

def renderTime (t : TimeOfDay) : List Char :=
  let fraction :=
    if t.nano = 0 then []
    else '.' :: ((padded 10 9 t.nano).reverse.dropWhile (· = '0')).reverse
  padded 10 2 t.hour ++ ':' :: padded 10 2 t.minute ++ ':' :: padded 10 2 t.second ++ fraction

def renderZone : Zone → List Char
  | .utc => ['Z']
  | .ahead minutes =>
    let sign := if minutes < 0 then '-' else '+'
    sign :: padded 10 2 (minutes.natAbs / 60) ++ ':' :: padded 10 2 (minutes.natAbs % 60)

def Moment.render : Moment → String
  | .date d => String.ofList (renderDate d)
  | .time t => String.ofList (renderTime t)
  | .both d t zone =>
    String.ofList (renderDate d ++ 'T' :: renderTime t ++ (zone.map renderZone).getD [])

/-! ### Reading -/

/-- The number of exactly `width` digits that comes first. -/
def readField? (width : Nat) (cs : List Char) : Option (Nat × List Char) :=
  let digits := cs.take width
  if digits.length = width ∧ digits.all Char.isDigit then
    some (Text.ofDigits 10 (digits.map fun c => c.toNat - 0x30), cs.drop width)
  else none

/-- The number of two digits behind a mark. -/
def readNext? (mark : Char) : List Char → Option (Nat × List Char)
  | c :: rest => if c = mark then readField? 2 rest else none
  | [] => none

/-- A date that exists. -/
def readDate? (cs : List Char) : Option (Date × List Char) := do
  let (year, cs) ← readField? 4 cs
  let (month, cs) ← readNext? '-' cs
  let (day, cs) ← readNext? '-' cs
  let date : Date := ⟨year, month, day⟩
  if date.exists? then some (date, cs) else none

/-- A time of day; digits beyond the ninth of its fraction are ignored. -/
def readTime? (cs : List Char) : Option (TimeOfDay × List Char) := do
  let (hour, cs) ← readField? 2 cs
  let (minute, cs) ← readNext? ':' cs
  let (second, cs) ← readNext? ':' cs
  let (nano, cs) ← Instant.readFraction cs
  if hour < 24 ∧ minute < 60 ∧ second ≤ 60 then some (⟨hour, minute, second, nano⟩, cs) else none

def readZone? : List Char → Option (Zone × List Char)
  | [] => none
  | sign :: rest =>
    if sign = 'Z' ∨ sign = 'z' then some (.utc, rest)
    else if sign = '+' ∨ sign = '-' then do
      let (hour, rest) ← readField? 2 rest
      let (minute, rest) ← readNext? ':' rest
      let n : Int := hour * 60 + minute
      if hour < 24 ∧ minute < 60 then some (.ahead (if sign = '-' then -n else n), rest) else none
    else none

/-- The time behind a date and the mark between the two. -/
def readTimeBehind? : List Char → Option (TimeOfDay × List Char)
  | mark :: rest => if mark = 'T' ∨ mark = 't' ∨ mark = ' ' then readTime? rest else none
  | [] => none

/-- The date or time that comes first, with as many parts as there are. -/
def readMoment? (cs : List Char) : Option (Moment × List Char) :=
  match readDate? cs with
  | none => (readTime? cs).map fun (t, rest) => (.time t, rest)
  | some (d, rest) =>
    match readTimeBehind? rest with
    | none => some (.date d, rest)
    | some (t, rest) =>
      match readZone? rest with
      | none => some (.both d t none, rest)
      | some (zone, rest) => some (.both d t (some zone), rest)

/-- The date or time that a text gives. -/
def Moment.read? (s : String) : Option Moment :=
  match readMoment? s.toList with
  | some (moment, []) => some moment
  | _ => none

end Casework.Toml
