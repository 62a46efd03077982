import Pipeline.Cli.Inputs
import Pipeline.Cli.Listing
import Pipeline.Run.Exec
import Pipeline.Script
import Pipeline.Task.Builder

/-!
# What the command line does

`run` runs the steps of a task and then, unless told otherwise, attempts its cleanup whether they
succeeded or failed; the failure of the run comes before that of the cleanup. A panic that goes on
past the steps leaves no cleanup. `runStep` runs one function step on an empty state and prints its
outputs as assignments. `compile` writes the script.
-/

namespace Pipeline.Cli
open Text

/-- The state of a run as JSON, laid out over lines. -/
def stateJson (state : RunState) : String :=
  Json.layoutObject 0 <| state.toList.map fun step =>
    (step.1, Json.layoutObject 1 <| step.2.toList.map fun e => (e.1, Json.renderString e.2))

section
variable {σ : Type} (t : Target σ) (inputs : Inputs) (task : Task)

/-- Attempts the cleanup steps, if there are any and they are wanted. -/
def cleanUp (noCleanup : Bool) (state : RunState) (w : World σ) :
    Except (Halt RunError) Unit × World σ :=
  if noCleanup || task.cleanup.isEmpty then (.ok (), w) else runCleanup t inputs task state w

/-- Runs a task and cleans up after it, on the state of the run or, if that failed, on an empty
one. -/
def run (noCleanup : Bool) (w : World σ) : Except (Halt Failure) RunState × World σ :=
  match runTask t inputs task w with
  | (.error (.unwound p), w) => (.error (.unwound p), w)
  | (.error (.failed e), w) =>
    match cleanUp t inputs task noCleanup .empty w with
    | (.error (.unwound p), w) => (.error (.unwound p), w)
    | (_, w) => (.error (.failed (e.failure.within "Task failed")), w)
  | (.ok state, w) =>
    match cleanUp t inputs task noCleanup state w with
    | (.error halt, w) => (.error (halt.map fun e => e.failure.within "Cleanup failed"), w)
    | (.ok (), w) => (.ok state, w)

/-- The function of the step that a name finds. -/
def funcOf (name : String) : Except Failure (Step × Func) :=
  match task.find? name with
  | none => .error ⟨"no step named " ++ quoted name, []⟩
  | some s =>
    match s.runnable with
    | .func f => .ok (s, f)
    | .command _ =>
      .error ⟨"step " ++ quoted name ++
        " is a command step; only function steps can be run on their own", []⟩

def assignment (f : Func) (key value : String) : String :=
  Func.variableName f.name key ++ "=" ++ value ++ "\n"

/-- Runs one function step on an empty state; answers the lines to print. -/
def runStepAlone (s : Step) (f : Func) (w : World σ) : Except (Halt Failure) String × World σ :=
  match runStep t inputs s .empty w with
  | (.error halt, w) =>
    (.error (halt.map fun e => e.failure.within ("Step " ++ quoted s.name ++ " failed")), w)
  | (.ok state, w) =>
    let outputs := (state.outputs? s.name).getD .empty
    (.ok (String.join (outputs.toList.map fun e => assignment f e.1 e.2)), w)

end

def compileTask (task : Task) (inputs : Inputs) (program : String) : Except Failure String :=
  match Script.compile task inputs (.calling program) with
  | .ok script => .ok script
  | .error e => .error (Failure.within ⟨e.message, e.causes⟩ "Failed to compile task")

/-- Writes a script that anybody may execute. -/
def writeScript (fs : FileSystem) (here : Place) (path script : String) :
    Except Failure FileSystem :=
  match fs.write here path (Utf8.encode script) with
  | .error e => .error ⟨"Failed to write " ++ path, [e.message]⟩
  | .ok fs =>
    match fs.setMode here path FileSystem.executableMode with
    | .error e => .error ⟨"Failed to make " ++ path ++ " executable", [e.message]⟩
    | .ok fs => .ok fs

/-- A task that cannot be built. -/
def defineFailure (e : DefineError) : Failure := ⟨"Failed to define task", [e.message]⟩

end Pipeline.Cli
