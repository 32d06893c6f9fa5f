import Casework.Instant.Text
import Casework.Json.Source
import Casework.Named
import Casework.Uuid

/-!
Values that are kept as JSON documents. `encode` writes a value, `decode?` reads one
from a JSON value, and `read?` from a text as well. A value has one written form, and
several forms may be read as it.

Reading looks at no more of a text than it needs: members that a record does not
know may be anything that is well formed.
-/

namespace Casework

/-- A type whose values are written as documents and read from them. -/
class Document (α : Type) where
  encode : α → Json
  read? : Json.Source → Option α

namespace Document

/-- The value whose document this is. -/
def decode? {α : Type} [Document α] (j : Json) : Option α := read? (.value j)

instance : Document Json where
  encode j := j
  read? := Json.Source.value?

instance : Document String where
  encode := .text
  read? := Json.Source.text?

instance : Document Bool where
  encode := .bool
  read?
    | .value (.bool b) => some b
    | _ => none

/-- Whole numbers are read from whole numbers in their range. -/
instance : Document UInt64 where
  encode n := .int n.toNat
  read?
    | .value (.int n) => if 0 ≤ n ∧ n < UInt64.size then some (UInt64.ofNat n.toNat) else none
    | _ => none

instance : Document Int32 where
  encode n := .int n.toInt
  read?
    | .value (.int n) =>
      if Int32.minValue.toInt ≤ n ∧ n ≤ Int32.maxValue.toInt then some (Int32.ofInt n) else none
    | _ => none

instance : Document Instant where
  encode t := .text t.render
  read? source := source.text?.bind Instant.read?

instance : Document Uuid where
  encode u := .text u.render
  read? source := source.text?.bind Uuid.read?

/-- A name is written as a text. It is read from a text, and from an object that holds nothing
    but a null under the name. -/
instance (priority := low) {α : Type} [Named α] : Document α where
  encode a := .text (Named.name a)
  read? source :=
    match source.text?, source.members? with
    | some name, _ | none, some [(name, .value .null)] => Named.ofName? name
    | none, _ => none

section
variable {α : Type} [Document α]

/-- An absent value is written as null. -/
instance : Document (Option α) where
  encode
    | none => .null
    | some a => encode a
  read?
    | .value .null => some none
    | source => (read? source).map some

instance : Document (List α) where
  encode items := .list (items.map encode)
  read? source := source.items?.bind (·.mapM read?)

/-- A map from texts is an object. The last value under a key counts. -/
instance : Document (SortedMap String α) where
  encode m := .object (m.map encode).entries
  read? source := do
    let entries ← (← source.members?).mapM fun (key, part) => (read? part).map fun a => (key, a)
    return SortedMap.ofList entries

/-- A set is the list of its elements. It is read from a list in any order, and elements may be
    repeated there. -/
instance [Ord α] [Std.TransOrd α] : Document (SortedSet α) where
  encode s := .list (s.toList.map encode)
  read? source := do return SortedSet.ofList (← (← source.items?).mapM read?)

end
end Document
end Casework
