import Casework.Document.Record
import Casework.Environment
import Casework.Settings.File
import Casework.State

/-!
The settings of the system. They are laid in layers, the later over the earlier:
what holds without any, a settings file, and the variables of the environment
whose names begin with `PROCESS_DESK__`.
-/

namespace Casework
open Document (field record Fields)

/-- The settings of the system. -/
structure Settings where
  logFilter : String := "info"
  concurrency : Concurrency := .lastWriteWins
  /-- The number of instances that are fetched at a time. -/
  pageSize : UInt64 := Storage.defaultPageSize
  /-- The number of notices that wait for a receiver. -/
  notificationBuffer : UInt64 := 1024
  deriving DecidableEq, Inhabited

instance : Document Settings where
  encode s := record [
    field "log_filter" s.logFilter,
    field "concurrency" s.concurrency,
    field "page_size" s.pageSize,
    field "notification_buffer" s.notificationBuffer]
  read? source := do
    let fields ← Fields.of?
      ["log_filter", "concurrency", "page_size", "notification_buffer"] source
    let standard : Settings := {}
    return {
      logFilter := ← fields.withDefault "log_filter" standard.logFilter
      concurrency := ← fields.withDefault "concurrency" standard.concurrency
      pageSize := ← fields.withDefault "page_size" standard.pageSize
      notificationBuffer := ← fields.withDefault "notification_buffer" standard.notificationBuffer }

namespace Settings

/-- The layer that says the same. -/
def layer (s : Settings) : Layer :=
  (SettingValue.ofJson (Document.encode s)).entries.map fun (key, value) => ([.key key], value)

/-- The settings that the layers give together. -/
def ofLayers? (layers : List Layer) : Option Settings := do
  let whole := (layer {} ++ layers.flatten).foldl
    (fun whole (path, value) => SettingValue.put value path whole) (.table [])
  let table := whole.entries
  return {
    logFilter := ← (← table.lookup "log_filter").toText?
    concurrency := ← (← table.lookup "concurrency").toNamed?
    pageSize := ← (← table.lookup "page_size").toWord?
    notificationBuffer := ← (← table.lookup "notification_buffer").toWord? }

/-- The file that is read when none is named. -/
def standardFile : String := "process-desk"

/-- The layer of the file, of which there must be one if it is named. -/
def fileLayer? (files : Files) (path : Option String) : Option Layer :=
  match findFile? files (path.getD standardFile) with
  | some file => file.read?
  | none => if path.isSome then none else some []

/-! ### Environment -/

/-- A value of the environment is a boolean, a whole number, a double or else a text. -/
def variableValue (s : String) : SettingValue :=
  let word := SettingValue.foldKey s
  if word = "true" then .bool true
  else if word = "false" then .bool false
  else
    match SettingValue.readWhole? 10 s.toList with
    | some n => .int n
    | none =>
      match Extended.read? s with
      | some x => .float x
      | none => .text s

/-- What the names of variables that are settings begin with. -/
def variableMark : String := "process_desk__"

/-- What one variable sets, if it is a setting. -/
def setByVariable? (name value : String) : Option (Path × SettingValue) :=
  let key := SettingValue.foldKey name
  if key.startsWith variableMark then
    let key := ((key.drop variableMark.length).toString).replace "__" "."
    some (.ofKey key, variableValue value)
  else none

/-- The settings in force: those of the named file, or of the standard one if there is it, under
    those of the environment. -/
def load? (files : Files) (environment : Environment) (path : Option String) :
    Option Settings := do
  let file ← fileLayer? files path
  ofLayers? [file, environment.entries.filterMap fun (name, value) => setByVariable? name value]

end Settings
end Casework
