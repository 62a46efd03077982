import Pipeline.Cli.Commands
import Pipeline.Target.Process

/-!
# Sessions

A session answers one request on a machine: it runs, compiles or lists a task, and ends with what
was printed, the failure if there was one, and the files as they then are. What the commands of a
run print stands before what the session prints itself.
-/

namespace Pipeline.Cli

/-- What a session knows of its process. -/
structure Session where
  /-- The name the process was called by. -/
  program : String
  env : Dict String
  here : Place

/-- What a session leaves: its output, why it broke off if it did, and the files. -/
structure Ended where
  stdout : Bytes
  stderr : Bytes
  failure : Option (Halt Failure)
  files : FileSystem

namespace Session

/-- How a session starts the commands of a task. -/
def options (s : Session) : ProcessOptions := ⟨s.env, [], none⟩

/-- The end of a session that ran commands. -/
def ended (w : World Host) (printed : Except (Halt Failure) String) : Ended :=
  let o := w.target.outputs
  match printed with
  | .ok text => ⟨o.stdout ++ Utf8.encode text, o.stderr, none, w.target.files⟩
  | .error halt => ⟨o.stdout, o.stderr, some halt, w.target.files⟩

/-- The end of a session that printed at most. -/
def endedPlain (fs : FileSystem) : Except Failure String → Ended
  | .ok text => ⟨Utf8.encode text, [], none, fs⟩
  | .error e => ⟨[], [], some (.failed e), fs⟩

section
variable (s : Session) (start : Starter) (task : Task) (fs : FileSystem)

/-- Collects the inputs of a task from the environment of the session and what the request gives. -/
def inputs (o : InputOptions) (placeholders : Bool) : Except Failure Inputs :=
  (collectInputs task o fs s.here s.env.get? placeholders).map (·.inputs)

def answerRun (o : InputOptions) (json noCleanup : Bool) : Ended :=
  match s.inputs task fs o false with
  | .error e => endedPlain fs (.error e)
  | .ok inputs =>
    let (result, w) := run (processes start s.options) inputs task noCleanup ⟨.ofFiles fs, []⟩
    ended w (result.map fun state => if json then stateJson state ++ "\n" else "")

def answerCompile (o : InputOptions) (output : Option String) : Ended :=
  match s.inputs task fs o true >>= fun inputs => compileTask task inputs s.program with
  | .error e => endedPlain fs (.error e)
  | .ok script =>
    match output with
    | none => endedPlain fs (.ok script)
    | some path =>
      match writeScript fs s.here path script with
      | .error e => endedPlain fs (.error e)
      | .ok fs => endedPlain fs (.ok "")

def answerRunStep (o : InputOptions) (name : String) : Ended :=
  match funcOf task name with
  | .error e => endedPlain fs (.error e)
  | .ok (step, f) =>
    match s.inputs task fs o false with
    | .error e => endedPlain fs (.error e)
    | .ok inputs =>
      let (result, w) := runStepAlone (processes start s.options) inputs step f ⟨.ofFiles fs, []⟩
      ended w result

def answer : Request → Ended
  | .run o json noCleanup => s.answerRun start task fs o json noCleanup
  | .compile o output => s.answerCompile task fs o output
  | .runStep o name => s.answerRunStep start task fs o name
  | .steps => endedPlain fs (.ok (describe task))

end
end Session
end Pipeline.Cli
