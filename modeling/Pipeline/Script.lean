import Pipeline.Run.Resolve
import Pipeline.Stream.Writer
import Pipeline.Task.Basic

/-!
# Compiling a task to a shell script

The script has a shebang, stops at the first failing command, guards every declared input, in the
order of the keys, and then has one line for each main step. A command step is its own command line,
with the arguments joined by single blanks and never quoted. A function step calls the program back.
A reference to an output is written as a placeholder: the value is not known before the script runs.

Nothing is executed. The script is written line by line, so an error leaves the lines before it.
-/

namespace Pipeline
open Text

/-- Why a script breaks off. -/
inductive CompileError where
  | resolve (e : ResolveError)
  | io (e : IoError)
deriving DecidableEq, Repr

def CompileError.message : CompileError → String
  | .resolve e => e.message
  | .io e => "IO error: " ++ e.message

/-- The texts of the errors behind an error. -/
def CompileError.causes : CompileError → List String
  | .resolve _ => []
  | .io e => [e.message]

namespace Script

/-- Finds the shell by the search list. -/
def defaultShebang : String := "#!/usr/bin/env bash"

/-- What a script depends on beside the task. -/
structure Options where
  shebang : String
  /-- The program that the script calls back for function steps. -/
  selfInvocation : String
deriving DecidableEq, Repr

/-- Calls back `program`, under the default shebang. -/
def Options.calling (program : String) : Options := ⟨defaultShebang, program⟩

/-- The step named in the error for an input that is missing at compile time. -/
def inputsStep : String := "task inputs"

/-- A character in the name of a shell variable. -/
def variableChar (c : Char) : Char := if c.isAlphanum then c.toUpper else '_'

/-- The shell variable that stands for a command step's standard output. -/
def stdoutVariable (step : String) : String :=
  .ofList (step.toList.map variableChar) ++ "_STDOUT"

/-- What stands for a command step's standard output. -/
def stdoutPlaceholder (step : String) : String := "$\x7b" ++ stdoutVariable step ++ "\x7d"

/-- The line that checks an input. -/
def guardLine (key value : String) : String :=
  "if [ -z \"" ++ value ++ "\" ]; then echo \"input " ++ key ++ " is empty\" >&2; exit 1; fi"

/-- The placeholders for the outputs of a step. -/
def placeholders (s : Step) : Dict String :=
  match s.runnable with
  | .command _ => Dict.empty.insert stdoutKey (stdoutPlaceholder s.name)
  | .func f => Dict.ofList (f.outputs.map fun key => (key, Func.placeholder f.name key))

/-- The line of a step, given the placeholders of the steps before it. -/
def stepLine (o : Options) (inputs : Inputs) (state : RunState) (s : Step) :
    Except ResolveError String :=
  match s.runnable with
  | .command c =>
    match resolveArgs s.name inputs state c.args with
    | .error e => .error e
    | .ok args => .ok (spaced (c.path :: args))
  | .func _ => .ok (o.selfInvocation ++ " run-task-step " ++ quoted s.name)

def putLine (w : Writer) (line : String) : Except CompileError Unit × Writer :=
  match w.putText (line ++ "\n") with
  | (none, w) => (.ok (), w)
  | (some e, w) => (.error (.io e), w)

/-- Writes the guards of inputs in turn. -/
def putGuards (inputs : Inputs) : List String → Writer → Except CompileError Unit × Writer
  | [], w => (.ok (), w)
  | key :: keys, w =>
    match inputs.get? key with
    | none => (.error (.resolve (.missingInput inputsStep key)), w)
    | some value =>
      match putLine w (guardLine key value) with
      | (.ok (), w) => putGuards inputs keys w
      | (.error e, w) => (.error e, w)

/-- Writes the lines of steps in turn. -/
def putSteps (o : Options) (inputs : Inputs) :
    List Step → RunState → Writer → Except CompileError Unit × Writer
  | [], _, w => (.ok (), w)
  | s :: ss, state, w =>
    match stepLine o inputs state s with
    | .error e => (.error (.resolve e), w)
    | .ok line =>
      match putLine w line with
      | (.ok (), w) => putSteps o inputs ss (state.record s.name (placeholders s)) w
      | (.error e, w) => (.error e, w)

/-- Writes the two lines that every script begins with. -/
def putHeader (o : Options) (w : Writer) : Except CompileError Unit × Writer :=
  match putLine w o.shebang with
  | (.ok (), w) => putLine w "set -e"
  | (.error e, w) => (.error e, w)

/-- The declared inputs in the order of their guards. -/
def guarded (task : Task) : List String := task.inputs.keys.mergeSort fun a b => a ≤ b

/-- Writes the script of a task. -/
def write (task : Task) (inputs : Inputs) (o : Options) (w : Writer) :
    Except CompileError Unit × Writer :=
  match putHeader o w with
  | (.error e, w) => (.error e, w)
  | (.ok (), w) =>
    match putGuards inputs (guarded task) w with
    | (.error e, w) => (.error e, w)
    | (.ok (), w) => putSteps o inputs task.steps .empty w

/-- The script of a task as text. -/
def compile (task : Task) (inputs : Inputs) (o : Options) : Except CompileError String :=
  match write task inputs o .unbounded with
  | (.ok (), w) => .ok (Utf8.decode w.written)
  | (.error e, _) => .error e

end Script
end Pipeline
