/-!
The command line of the administration tool: options of the tool, a command, and
the options of the command.

An option is given once. Its value stands behind an equals sign or is the next
argument, which then must not look like an option.
-/

namespace Casework.CommandLine

/-- What the tool is to do. -/
inductive Command where
  /-- Print the settings in force. -/
  | settings
  /-- Lead one instance through its life. -/
  | demo (amount reviewer : String)
  deriving DecidableEq

/-- What a command line asks for. -/
inductive Parsed where
  | run (command : Command) (configuration : Option String) (verbose : Bool)
  | version
  /-- The command line makes no sense. -/
  | misused
  deriving DecidableEq

/-- An argument that begins like an option. -/
def isOption (argument : String) : Bool := argument.startsWith "-" && argument ≠ "-"

/-- The value of an option at the front of the arguments, and the arguments behind it. -/
def valueOf? (option : String) : List String → Option (String × List String)
  | [] => none
  | argument :: rest =>
    if argument = option then
      match rest with
      | value :: rest => if isOption value then none else some (value, rest)
      | [] => none
    else if argument.startsWith (option ++ "=") then
      some ((argument.drop (option.length + 1)).toString, rest)
    else none

/-- The arguments of the demonstration; there is nothing but its two options. -/
def readDemo? (amount reviewer : Option String) : Nat → List String → Option Command
  | 0, _ => none
  | _, [] | _, ["--"] => some (.demo (amount.getD "100") (reviewer.getD "bob"))
  | fuel + 1, arguments =>
    match valueOf? "--amount" arguments, valueOf? "--reviewer" arguments with
    | some (value, rest), _ =>
      if amount.isSome then none else readDemo? (some value) reviewer fuel rest
    | none, some (value, rest) =>
      if reviewer.isSome then none else readDemo? amount (some value) fuel rest
    | none, none => none

/-- A command with its arguments. -/
def readCommand? : List String → Option Command
  | ["config"] | ["config", "--"] => some .settings
  | "demo" :: arguments => readDemo? none none (arguments.length + 1) arguments
  | _ => none

/-- Letters behind one hyphen: whether more output is wanted, unless they decide what the whole
    command line asks for. -/
def readLetters (verbose : Bool) : List Char → Except Parsed Bool
  | [] => .ok verbose
  | 'V' :: _ => .error .version
  | 'v' :: rest => if verbose then .error .misused else readLetters true rest
  | _ :: _ => .error .misused

/-- The options of the tool and the command behind them. -/
def readFrom (configuration : Option String) (verbose : Bool) : Nat → List String → Parsed
  | 0, _ | _, [] => .misused
  | fuel + 1, argument :: rest =>
    if argument = "--version" then .version
    else if argument = "--verbose" then
      if verbose then .misused else readFrom configuration true fuel rest
    else
      match valueOf? "--config" (argument :: rest) with
      | some (value, rest) =>
        if configuration.isSome then .misused else readFrom (some value) verbose fuel rest
      | none =>
        if argument.startsWith "--" then .misused
        else if isOption argument then
          match readLetters verbose (argument.toList.drop 1) with
          | .error parsed => parsed
          | .ok verbose => readFrom configuration verbose fuel rest
        else
          match readCommand? (argument :: rest) with
          | some command => .run command configuration verbose
          | none => .misused

/-- What the arguments ask for. -/
def read (arguments : List String) : Parsed := readFrom none false (arguments.length + 1) arguments

end Casework.CommandLine
