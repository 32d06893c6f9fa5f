/-!
The environment: what the surroundings of a program tell it by name.

Every assignment is one text, `name=value`. Who asks for a name gets what follows it and
an equals sign in the first assignment that begins so; a name of the asker's may hold
such a sign itself.
-/

namespace Casework

/-- Assignments `name=value` in the order in which they were made. -/
abbrev Environment := List String

namespace Environment

/-- What follows a name and an equals sign. -/
def valueBehind? (name assignment : List Char) : Option (List Char) :=
  match name, assignment with
  | [], '=' :: value => some value
  | n :: name, c :: rest => if n = c then valueBehind? name rest else none
  | _, _ => none

/-- The value of a name. The empty name has none. -/
def get? (environment : Environment) (name : String) : Option String :=
  if name = "" then none
  else environment.findSome? fun assignment =>
    (valueBehind? name.toList assignment.toList).map String.ofList

/-- The environment with one more assignment. -/
def assign (environment : Environment) (name value : String) : Environment :=
  environment ++ [s!"{name}={value}"]

/-- The name and the value of an assignment: the name ends at the first equals sign, which is not
    its first character. -/
def split? (assignment : String) : Option (String × String) :=
  match assignment.toList with
  | [] => none
  | first :: rest =>
    match rest.dropWhile (· ≠ '=') with
    | _ :: value =>
      some (String.ofList (first :: rest.takeWhile (· ≠ '=')), String.ofList value)
    | [] => none

/-- The names with their values. -/
def entries (environment : Environment) : List (String × String) :=
  environment.filterMap split?

end Environment
end Casework
