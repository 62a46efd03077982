import Pipeline.Cli.Reading

/-!
# The command line

The subcommands and their options. The log level may be given before the subcommand and after it;
the later one counts, then the environment, then the default.
-/

namespace Pipeline.Cli

/-- The subcommands, help apart. -/
def subcommands : List String := ["run", "compile", "run-task-step", "steps"]

/-- Shows help like the options for it. -/
def helpCommand : String := "help"

/-- The options of every level. -/
def sharedLong : String → Option OptionRule
  | "log-level" => some (.value .logLevel)
  | "help" => some .help
  | _ => none

/-- The options of every level by their letters. -/
def sharedShort : Char → Option OptionRule
  | 'l' => some (.value .logLevel)
  | 'h' => some .help
  | _ => none

def topLevel : Level where
  long
    | "version" => some .version
    | name => sharedLong name
  short
    | 'V' => some .version
    | c => sharedShort c
  positional := none
  subcommands := helpCommand :: subcommands
  stray := .subcommandUnknown

def inputLong : String → Option OptionRule
  | "input" => some (.value .input)
  | "inputs-file" => some (.value .inputsFile)
  | name => sharedLong name

/-- The options for inputs by their letters. -/
def inputShort : Char → Option OptionRule
  | 'i' => some (.value .input)
  | c => sharedShort c

/-- What may follow `run`. -/
def runLevel : Level where
  long
    | "json" => some (.flag .json)
    | "no-cleanup" => some (.flag .noCleanup)
    | name => inputLong name
  short := inputShort
  positional := none
  subcommands := []
  stray := .argumentUnknown

/-- What may follow `compile`. -/
def compileLevel : Level where
  long
    | "output" => some (.value .output)
    | name => inputLong name
  short
    | 'o' => some (.value .output)
    | c => inputShort c
  positional := none
  subcommands := []
  stray := .argumentUnknown

/-- What may follow `run-task-step`: the name of the step and the options for inputs. -/
def runStepLevel : Level where
  long := inputLong
  short := inputShort
  positional := some .name
  subcommands := []
  stray := .argumentUnknown

/-- What may follow `steps`: the options of every level only. -/
def stepsLevel : Level where
  long := sharedLong
  short := sharedShort
  positional := none
  subcommands := []
  stray := .argumentUnknown

/-- The pairs given for inputs in order, and the file named last. -/
def Reading.inputOptions (r : Reading) : InputOptions :=
  ⟨(r.values .input).filterMap keyValue, r.value? .inputsFile⟩

/-- Reads the words after a subcommand. -/
def readLevel (level : Level) (words : List String) : Except UsageError Reading := do
  let (r, _) ← level.read words .start
  r.settle

/-- Reads a subcommand with the words after it. -/
def readRequest (name : String) (words : List String) : Except UsageError (Request × Reading) :=
  match name with
  | "run" => do
    let r ← readLevel runLevel words
    return (.run r.inputOptions (r.has .json) (r.has .noCleanup), r)
  | "compile" => do
    let r ← readLevel compileLevel words
    return (.compile r.inputOptions (r.value? .output), r)
  | "run-task-step" => do
    let r ← readLevel runStepLevel words
    match r.value? .name with
    | some name => return (.runStep r.inputOptions name, r)
    | none => .error .argumentMissing
  | "steps" => do
    let r ← readLevel stepsLevel words
    return (.steps, r)
  | _ => .error .subcommandUnknown

/-- Answers a request for help on the subcommands named. -/
def readHelp : List String → UsageError
  | [] => .helpAsked
  | [name] => if name ∈ topLevel.subcommands then .helpAsked else .subcommandUnknown
  | _ => .subcommandUnknown

/-- The log level if nothing names one. -/
def defaultLogLevel : String := "info"

/-- Reads a command line; `environmentLevel` is the log level of the environment. -/
def CommandLine.read (environmentLevel : Option String) (words : List String) :
    Except UsageError CommandLine := do
  match ← topLevel.read words .start with
  | (top, some (name, words)) =>
    if name = helpCommand then .error (readHelp words)
    else
      let (request, inner) ← readRequest name words
      let top ← top.settle
      let level := inner.value? .logLevel <|> top.value? .logLevel <|> environmentLevel
      return ⟨request, level.getD defaultLogLevel⟩
  | (top, none) =>
    let top ← top.settle
    if top.settings.isEmpty ∧ environmentLevel.isNone then .error .empty
    else .error .subcommandMissing

end Pipeline.Cli
