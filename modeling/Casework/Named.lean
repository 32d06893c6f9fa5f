/-!
Values that are written by a name of their own. A type of this kind lists its
values, and a name is read as the first value of the list that has it.
-/

namespace Casework

/-- A finite type whose values are written by their names. -/
class Named (α : Type) where
  all : List α
  name : α → String

/-- The value with this name. -/
def Named.ofName? {α : Type} [Named α] (name : String) : Option α :=
  (Named.all : List α).find? fun value => Named.name value == name

end Casework
