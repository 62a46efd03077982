import Pipeline.Text.Split

/-!
# Requests

What a command line can ask for, and why one is turned down.
-/

namespace Pipeline.Cli

/-- Where the values of inputs come from, the environment apart. -/
structure InputOptions where
  /-- Keys with their values, in the order of the command line. -/
  flags : List (String × String)
  file : Option String
deriving DecidableEq, Repr

/-- What a command line asks for. -/
inductive Request where
  | run (inputs : InputOptions) (json noCleanup : Bool)
  | compile (inputs : InputOptions) (output : Option String)
  | runStep (inputs : InputOptions) (name : String)
  | steps
deriving DecidableEq, Repr

/-- A command line that was understood. -/
structure CommandLine where
  request : Request
  logLevel : String
deriving DecidableEq, Repr

/-- Why a command line is turned down. -/
inductive UsageError where
  | helpAsked
  | versionAsked
  /-- Nothing was asked for at all. -/
  | empty
  | subcommandMissing
  | subcommandUnknown
  | argumentUnknown
  /-- What may be given once was given again. -/
  | argumentRepeated
  | argumentMissing
  /-- An option has no value, or an empty one where that will not do. -/
  | valueMissing
  | valueMalformed
  /-- A value was attached to a flag. -/
  | valueUnneeded
deriving DecidableEq, Repr

/-- The established name of the kind of error. -/
def UsageError.kind : UsageError → String
  | .helpAsked => "DisplayHelp"
  | .versionAsked => "DisplayVersion"
  | .empty => "DisplayHelpOnMissingArgumentOrSubcommand"
  | .subcommandMissing => "MissingSubcommand"
  | .subcommandUnknown => "InvalidSubcommand"
  | .argumentUnknown => "UnknownArgument"
  | .argumentRepeated => "ArgumentConflict"
  | .argumentMissing => "MissingRequiredArgument"
  | .valueMissing => "InvalidValue"
  | .valueMalformed => "ValueValidation"
  | .valueUnneeded => "TooManyValues"

/-- Splits a key from its value at the first equals sign. The key may not be empty. -/
def keyValue (text : String) : Option (String × String) :=
  match Text.cutOnce '=' text with
  | some (key, value) => if key = "" then none else some (key, value)
  | none => none

end Pipeline.Cli
