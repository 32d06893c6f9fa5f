import Casework.Admin
import Std.Time.DateTime.Timestamp

/-!
The administration tool as a program: it gathers the files, the environment, the
time and random identifiers, and prints what the tool says.
-/

namespace Casework.Program

/-- What a file holds, if it can be read. -/
def readIfAny (name : String) : IO (Option String) := do
  try
    return some (← IO.FS.readFile name)
  catch _ => return none

/-- The files among these that can be read. -/
def readFiles (names : List String) : IO Settings.Files := do
  let found ← names.mapM fun name => do
    return (← readIfAny name).map fun content => (name, content)
  return found.filterMap id

/-- The nearest file of this name in the working directory or above it. -/
def readAbove (name : String) : Nat → IO (Option String)
  | 0 => readIfAny name
  | levels + 1 => do
    match ← readIfAny name with
    | some content => return some content
    | none => readAbove ("../" ++ name) levels

/-- The environment of the program. -/
def readEnvironment : IO Environment := do
  return ((← readIfAny "/proc/self/environ").getD "").splitOn "\x00"

/-- A random number of 128 bits. -/
def drawBits : IO Nat := do
  return (← IO.getRandomBytes 16).foldl (fun n byte => n * 256 + byte.toNat) 0

/-- What the steps of the demonstration are given: times one nanosecond apart, and identifiers
    from these random numbers. -/
def supply (second : Int) (nano : Nat) (bits : Array Nat) (n : Nat) : Context :=
  let name (k : Nat) : Uuid := Uuid.ofRandom (bits.getD k 0)
  { now := Instant.ofNanos second (min (nano + n) 999999999)
    newInstance := (name (3 * n)).render
    newOperation := name (3 * n + 1)
    executionName := fun k => "exec-" ++ (name (3 * k + 2)).render }

/-- Runs the tool with these arguments and gives its exit code. -/
def run (arguments : List String) : IO UInt32 := do
  let depth := ((← IO.currentDir).toString.splitOn "/").length
  let assigned := (← readAbove Admin.variableFile depth).toList.map (Admin.variableFile, ·)
  let environment ← readEnvironment
  let names := Admin.filesToRead (Admin.environmentIn assigned environment) arguments
  let files := assigned ++ (← readFiles names)
  let nanos := (← Std.Time.Timestamp.now).toNanosecondsSinceUnixEpoch.val
  let bits ← (List.range 32).mapM fun _ => drawBits
  let given := supply (nanos / 1000000000) (nanos % 1000000000).toNat bits.toArray
  match Admin.run files environment given arguments with
  | .ok output =>
    IO.print output
    return 0
  | .error failure =>
    IO.eprintln failure.message
    return failure.exitCode

end Casework.Program

def main (arguments : List String) : IO UInt32 := Casework.Program.run arguments
