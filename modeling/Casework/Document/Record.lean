import Casework.Document

/-!
Records as documents.

A record is written as an object whose members are its fields, in their order. It
is read from an object by the names of its fields, others being ignored, and from a
list by the places of its fields, the last of which may be missing. A text must not
name a field twice.
-/

namespace Casework.Document

/-! ### Writing -/

section
variable {α : Type} [Document α]

/-- A field that is always written. -/
def field (name : String) (value : α) : List (String × Json) := [(name, encode value)]

/-- A field that is written if it is there. -/
def fieldIfAny (name : String) : Option α → List (String × Json)
  | some value => field name value
  | none => []

end

/-- A record with these fields. -/
def record (fields : List (List (String × Json))) : Json := .object fields.flatten

/-! ### Reading -/

/-- The fields of a record that is being read. -/
structure Fields where
  members : List (String × Json.Source)
  /-- The fields were given by their places. -/
  byPlace : Bool

namespace Fields

/-- The fields that a document gives for these names. -/
def of? (names : List String) (source : Json.Source) : Option Fields :=
  match source.members?, source.items? with
  | some members, _ => if source.repeats names then none else some ⟨members, false⟩
  | none, some items => if items.length ≤ names.length then some ⟨names.zip items, true⟩ else none
  | none, none => none

variable {α : Type} [Document α]

/-- A field that must be there. -/
def required (f : Fields) (name : String) : Option α := (f.members.lookup name).bind read?

/-- A field that has a value of its own when it is not there. -/
def withDefault (f : Fields) (name : String) (default : α) : Option α :=
  match f.members.lookup name with
  | some part => read? part
  | none => some default

/-- A field that may be missing or null. -/
def optional (f : Fields) (name : String) : Option (Option α) := f.withDefault name none

/-- A field that may be null; among fields given by their places it may not be missing. -/
def nullable (f : Fields) (name : String) : Option (Option α) :=
  if f.byPlace then f.required name else f.optional name

end Fields
end Casework.Document
