import Casework.Json.Reader
import Casework.Settings.Ini
import Casework.Settings.Json5
import Casework.Settings.Path
import Casework.Settings.Ron
import Casework.Settings.Toml
import Casework.Settings.Yaml

/-!
Settings files: which file a name stands for, and what it gives.

A name is a path of parts between slashes. It stands for the file of that very name,
or else for one with an ending of a known kind added to its last part.
-/

namespace Casework.Settings

/-- Values at the ends of paths, the later to be put after the earlier. -/
abbrev Layer := List (Path × SettingValue)

/-- Files by their names, with what they hold. -/
abbrev Files := List (String × String)

/-- The kinds of settings files. -/
inductive FileKind where
  | json
  | toml
  | yaml
  | ini
  | ron
  | json5

namespace FileKind

def all : List FileKind := [json, toml, yaml, ini, ron, json5]

/-- The endings of the names of files of a kind. -/
def endings : FileKind → List String
  | json => ["json"]
  | toml => ["toml"]
  | yaml => ["yaml", "yml"]
  | ini => ["ini"]
  | ron => ["ron"]
  | json5 => ["json5"]

/-- The kind of the files with this ending. -/
def ofEnding? (ending : String) : Option FileKind := all.find? (·.endings.contains ending)

/-- The value that a file of a kind holds. -/
def read? (kind : FileKind) (content : String) : Option SettingValue :=
  match kind with
  | json => (Json.read? content).map SettingValue.ofJson
  | toml => Toml.read? content
  | yaml => Yaml.read? content
  | ini => Ini.read? content
  | ron => Ron.read? content
  | json5 => Json5.read? content

end FileKind

/-! ### Names -/

/-- The parts of a name between its slashes. Empty parts and points lead nowhere else and are
    left out, but for the empty part in front of a name that begins at the root. -/
def nameParts (name : String) : List String :=
  let leads (part : String) : Bool := part ≠ "" && part ≠ "."
  match name.splitOn "/" with
  | "" :: part :: rest => "" :: (part :: rest).filter leads
  | parts => parts.filter leads

/-- A name that ends in a slash or a point as its last part is that of a folder. -/
def namesFile (name : String) : Bool :=
  match (name.splitOn "/").getLast? with
  | some last => last ≠ "" && last ≠ "."
  | none => false

/-- What follows the last point of a part, unless that begins the part. -/
def endingOf? (part : String) : Option String :=
  match part.splitOn "." with
  | [_] | "" :: [_] => none
  | pieces => pieces.getLast?

/-- The parts with an ending added to the last one, which must name something. -/
def withEnding? (parts : List String) (ending : String) : Option (List String) :=
  match parts.getLast? with
  | none | some "" | some ".." => none
  | some last => some (parts.dropLast ++ [s!"{last}.{ending}"])

/-- The parts with each ending of a known kind added. -/
def withEndings (parts : List String) : List (List String) :=
  (FileKind.all.flatMap FileKind.endings).filterMap (withEnding? parts)

/-- The parts of the name as they stand, if it is that of a file. -/
def exactly? (name : String) : Option (List String) :=
  if namesFile name then some (nameParts name) else none

/-- The names of the files that a name may stand for. -/
def candidates (name : String) : List String :=
  ((exactly? name).toList ++ withEndings (nameParts name)).map ("/".intercalate ·)

/-! ### Contents -/

/-- A settings file. -/
structure Found where
  kind : FileKind
  content : String

/-- A file lies in the folder with these parts. -/
def isFolder (files : Files) (parts : List String) : Bool :=
  files.any fun file => parts.isPrefixOf (nameParts file.1) && parts ≠ nameParts file.1

/-- The parts without those that lead up from a folder; `passed` are the parts on the way, the last
    one first. Nothing is known of what lies above the working directory. -/
def resolve? (files : Files) (passed : List String) : List String → Option (List String)
  | [] => some passed.reverse
  | ".." :: rest =>
    match passed with
    | [] => none
    | [""] => resolve? files [""] rest
    | _ :: above => if isFolder files passed.reverse then resolve? files above rest else none
  | part :: rest => resolve? files (part :: passed) rest

/-- What the file at these parts holds. -/
def contentAt? (files : Files) (parts : List String) : Option String :=
  let named (parts : List String) : Option String :=
    (files.find? fun file => nameParts file.1 == parts).map (·.2)
  (named parts).or ((resolve? files [] parts).bind named)

/-- The file at these parts, whose last one has the ending of a known kind. -/
def fileAt? (files : Files) (parts : List String) : Option Found := do
  let content ← contentAt? files parts
  return ⟨← FileKind.ofEnding? (← endingOf? (← parts.getLast?)), content⟩

/-- The file that a name stands for. A file of the very name is as good as none if it is of no known
    kind. -/
def findFile? (files : Files) (name : String) : Option Found :=
  match exactly? name with
  | some parts =>
    if (contentAt? files parts).isSome then fileAt? files parts
    else (withEndings parts).findSome? (fileAt? files)
  | none => (withEndings (nameParts name)).findSome? (fileAt? files)

/-- What a file gives; it must hold a table. -/
def Found.read? (file : Found) : Option Layer := do
  match ← file.kind.read? file.content with
  | .table entries => return entries.map fun (key, value) => (.ofKey key, value)
  | _ => none

end Casework.Settings
