import Casework.Json
import Casework.SortedMap

/-!
What documents are read from: values that are there as such, and JSON texts.

A text says more than a value: it may name a member twice, and parts of it may be
well formed and still stand for no value. Who reads a part looks at it through one
of the views below; a part that nobody looks at need not have a value. All of a
text together stands for a value if each of its parts does (`value?`).
-/

namespace Casework.Json

/-- What a document is read from. -/
inductive Source where
  /-- A value that is there as such; of a text, one that is neither a list nor an object. -/
  | value (j : Json)
  /-- A list of a text. -/
  | list (items : List Source)
  /-- An object of a text: its members as they are written. -/
  | object (members : List (String × Source))
  /-- A part of a text that has no value: a number too large for a double, a string with half a
      surrogate pair, an object with such a name, or what is nested too deep. -/
  | void
  deriving Inhabited

namespace Source

/-- The part with this value, or without one. -/
def ofValue? : Option Json → Source
  | some j => value j
  | none => void

/-! ### Views -/

/-- The text that a part is. -/
def text? : Source → Option String
  | value (.text s) => some s
  | _ => none

/-- The items of a part that is a list. -/
def items? : Source → Option (List Source)
  | value (.list items) => some (items.map value)
  | list items => some items
  | _ => none

/-- The members of a part that is an object. -/
def members? : Source → Option (List (String × Source))
  | value (.object members) => some (members.map fun (name, j) => (name, value j))
  | object members => some members
  | _ => none

/-- The text gives one of these names to more than one member. -/
def repeats (names : List String) : Source → Bool
  | object members => names.any fun name => (members.countP fun m => m.1 = name) > 1
  | _ => false

/-! ### Values -/

mutual

/-- The value of a part. The members of an object are put in the order of their names, and the
    last of several members of one name counts. -/
def value? : Source → Option Json
  | value j => some j
  | list items => (itemValues? items).map .list
  | object members => (memberValues? members []).map .object
  | void => none

def itemValues? : List Source → Option (List Json)
  | [] => some []
  | item :: rest => do return (← value? item) :: (← itemValues? rest)

/-- The members with the values of these parts put to their places among them. -/
def memberValues? : List (String × Source) → List (String × Json) → Option (List (String × Json))
  | [], seen => some seen
  | (name, part) :: rest, seen => do memberValues? rest (insertEntry name (← value? part) seen)

end

@[simp] theorem value?_value (j : Json) : value? (value j) = some j := by
  simp [value?]

end Source
end Casework.Json
