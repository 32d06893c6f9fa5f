import Casework.Settings.Toml.Moment
import Casework.Settings.Value

/-!
The tables of a TOML document while it is read.

A key is given a value once, a table has one heading, and neither makes its way
into a table that was closed by its braces.
-/

namespace Casework.Toml

/-- How a table came to be, which says what may still be added to it. -/
inductive Origin where
  /-- By the heading of a table inside it. -/
  | implied
  /-- By its own heading. -/
  | headed
  /-- By a dotted key. -/
  | dotted
  /-- Between braces. -/
  | braced

/-- A value in a document that is being read. -/
inductive Node where
  | value (v : SettingValue)
  | moment (m : Moment)
  | list (items : List Node)
  | table (origin : Origin) (entries : List (String × Node))
  /-- The tables of one heading in double brackets, the latest first. -/
  | tables (items : List (List (String × Node)))

/-- The entries of a table, in the order that decides which is the first. -/
abbrev Entries := List (String × Node)

/-- The entries with another node under a key. -/
def setNode (key : String) (node : Node) : Entries → Entries
  | [] => [(key, node)]
  | (k, n) :: rest => if k = key then (k, node) :: rest else (k, n) :: setNode key node rest

/-- The entries with a node under a dotted key. Tables on the way are made by dotted keys or by the
    headings of tables inside them; the one that gets the node is made by dotted keys. -/
def assign? (node : Node) : List String → Entries → Option Entries
  | [], _ => none
  | [key], entries =>
    if (entries.lookup key).isSome then none else some (setNode key node entries)
  | key :: path, entries => do
    let getsNode := path.length = 1
    match entries.lookup key with
    | none => return setNode key (.table .dotted (← assign? node path [])) entries
    | some (.table .dotted inner) =>
      return setNode key (.table .dotted (← assign? node path inner)) entries
    | some (.table .implied inner) =>
      if getsNode then none
      return setNode key (.table .implied (← assign? node path inner)) entries
    | some (.tables (latest :: items)) =>
      if getsNode then none
      return setNode key (.tables ((← assign? node path latest) :: items)) entries
    | some _ => none

/-- The entries with those of the table under a heading changed. -/
def within? (change : Entries → Option Entries) : List String → Entries → Option Entries
  | [], entries => change entries
  | key :: path, entries => do
    match entries.lookup key with
    | none => return setNode key (.table .implied (← within? change path [])) entries
    | some (.table .braced _) => none
    | some (.table origin inner) =>
      return setNode key (.table origin (← within? change path inner)) entries
    | some (.tables (latest :: items)) =>
      return setNode key (.tables ((← within? change path latest) :: items)) entries
    | some _ => none

/-- The entries with the table of a heading begun. It comes last, even if it is implied
    already. -/
def begin? (key : String) (entries : Entries) : Option Entries :=
  match entries.lookup key with
  | none => some (entries ++ [(key, .table .headed [])])
  | some (.table .implied inner) =>
    some (entries.filter (·.1 ≠ key) ++ [(key, .table .headed inner)])
  | some _ => none

/-- The entries with a further table of a heading in double brackets begun. -/
def beginNext? (key : String) (entries : Entries) : Option Entries :=
  match entries.lookup key with
  | none => some (setNode key (.tables [[]]) entries)
  | some (.tables items) => some (setNode key (.tables ([] :: items)) entries)
  | some _ => none

/-! ### Finished values -/

/-- The key whose text gives the date or time that the table beginning with it stands for. The
    other entries of such a table say nothing. -/
def momentKey : String := "$__toml_private_datetime"

mutual

/-- The value of a finished node. -/
def Node.finish? : Node → Option SettingValue
  | .value v => some v
  | .moment m => some (.text m.render)
  | .list items => do return .list (← finishItems? items)
  | .table _ entries => finishTable? entries
  | .tables items => do return .list (← finishTables? items)

/-- What a table with these entries stands for. -/
def finishTable? : List (String × Node) → Option SettingValue
  | [] => some (.table [])
  | (key, node) :: rest => do
    if key = momentKey then
      match node with
      | .value (.text s) => return .text (← Moment.read? s).render
      | _ => none
    else return .table ((key, ← node.finish?) :: (← finishEntries? rest))

def finishEntries? : List (String × Node) → Option (List (String × SettingValue))
  | [] => some []
  | (key, node) :: rest => do return (key, ← node.finish?) :: (← finishEntries? rest)

def finishItems? : List Node → Option (List SettingValue)
  | [] => some []
  | item :: rest => do return (← item.finish?) :: (← finishItems? rest)

def finishTables? : List (List (String × Node)) → Option (List SettingValue)
  | [] => some []
  | entries :: rest => do return (← finishTables? rest) ++ [← finishTable? entries]

end

end Casework.Toml
