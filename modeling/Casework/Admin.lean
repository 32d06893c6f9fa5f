import Casework.Admin.CommandLine
import Casework.Admin.Demo
import Casework.Admin.EnvironmentFile
import Casework.Document.Instance
import Casework.Json.Printer

/-!
The administration tool: it prints the settings in force or runs the
demonstration. What it does depends on its arguments, the files it finds and the
environment; a file of variables adds to the environment first.
-/

namespace Casework.Admin

open Settings (Files)

/-- Why the tool fails. -/
inductive Failure where
  /-- The command line makes no sense. -/
  | misused
  /-- The settings cannot be loaded. -/
  | noSettings
  /-- The demonstration fails. -/
  | failed (e : Error)

/-- The exit code that tells of a failure. -/
def Failure.exitCode : Failure → UInt32
  | misused => 2
  | noSettings | failed _ => 1

def Failure.message : Failure → String
  | misused => "usage: process-desk-admin [--config FILE] [--verbose] config|demo"
  | noSettings => "the configuration cannot be loaded"
  | failed e => e.message

/-- The variable that names the settings file when no argument does. -/
def fileVariable : String := "PROCESS_DESK_CONFIG"

/-- The file of variables. -/
def variableFile : String := ".env"

/-- The environment with the variables of the file, if there is one. -/
def environmentIn (files : Files) (environment : Environment) : Environment :=
  match Settings.contentAt? files [variableFile] with
  | some content => EnvironmentFile.extend environment content
  | none => environment

/-- A document as it is printed. -/
def printed {α : Type} [Document α] (a : α) : String := (Document.encode a).pretty 0 ++ "\n"

/-- What a command prints under these settings. -/
def perform (settings : Settings) (given : Nat → Context) : CommandLine.Command →
    Except Failure String
  | .settings => .ok (printed settings)
  | .demo amount reviewer =>
    match Demo.run settings given amount reviewer with
    | .ok (i, _) => .ok (printed i)
    | .error e => .error (.failed e)

/-- What the tool prints. -/
def run (files : Files) (environment : Environment) (given : Nat → Context)
    (arguments : List String) : Except Failure String :=
  let environment := environmentIn files environment
  match CommandLine.read arguments with
  | .misused => .error .misused
  | .version => .ok "process-desk-admin 0.1\n"
  | .run command configuration _ =>
    match Settings.load? files environment (configuration.or (environment.get? fileVariable)) with
    | some settings => perform settings given command
    | none => .error .noSettings

/-- The names of the files that the tool may read. -/
def filesToRead (environment : Environment) (arguments : List String) : List String :=
  let configuration :=
    match CommandLine.read arguments with
    | .run _ configuration _ => configuration.or (environment.get? fileVariable)
    | .version | .misused => none
  Settings.candidates (configuration.getD Settings.standardFile)

end Casework.Admin
