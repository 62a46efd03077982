import Pipeline.Run.Error
import Pipeline.Target.Basic
import Pipeline.Task.Basic

/-!
# Running tasks

The steps of a task run one after another against a target, each on the state that the steps before
it left. The first that fails ends the run. Cleanup steps run in reverse order of declaration, and
after a failure the others are attempted all the same. Panics of streams and of the futures of
targets and bodies are caught and come back as errors. But a target or a body is called before there
is a future to guard: a panic in that call goes on past the step, and past the run or the cleanup.

A run leaves a log of what it did to the world, in order.
-/

namespace Pipeline

/-- One thing that a run did to the world. -/
inductive Event where
  /-- Work on a step began. -/
  | began (step : String)
  /-- The target was asked to execute a command for a step. -/
  | called (step path : String) (args : List String)
  /-- The sinks of the target took the output of a step's command. -/
  | wrote (step : String) (stdout stderr : Bytes)
  /-- The body of a step left a note. -/
  | note (step text : String)
deriving DecidableEq, Repr

/-- What a run acts on: the state of its target, and the log. -/
structure World (σ : Type) where
  target : σ
  log : List Event

/-- Adds an event to the log. -/
def World.tell {σ : Type} (w : World σ) (e : Event) : World σ := { w with log := w.log ++ [e] }

/-- How a body ended. -/
inductive BodyEnd where
  | done
  | failed (f : Failure)
  /-- Its future panicked, which was caught. -/
  | panicked (payload : Panic)
  /-- It panicked before there was a future. -/
  | unwound (payload : Panic)

/-- The end of a body whose panics are caught. -/
def BodyEnd.guarded : BodyEnd → BodyEnd
  | .unwound p => .panicked p
  | ending => ending

section
variable {σ : Type} (t : Target σ) (inputs : Inputs)

/-- Asks the target to execute a command for a step. -/
def call (step : String) (c : Command) (args : List String) (w : World σ) : Execution × World σ :=
  let (answer, s) := t.execute c args w.target
  (answer, { w with target := s }.tell (.called step c.path args))

/-- Copies the output of a step's command to the sinks of the target. -/
def copyOut (step : String) (stdout stderr : Reader) (w : World σ) :
    Except StreamError Captured × World σ :=
  let c := copyStreams stdout stderr (t.sink .stdout w.target) (t.sink .stderr w.target)
  let w := { w with target := t.absorb c.stdout.taken c.stderr.taken w.target }
  (c.settle, w.tell (.wrote step c.stdout.taken c.stderr.taken))

/-- Runs a command: resolves its arguments, has it executed and copies its output. Its standard
output is the one output that is recorded. -/
def runCommand (step : String) (c : Command) (state : RunState) (w : World σ) :
    Except (Halt RunError) (Dict String) × World σ :=
  match resolveArgs step inputs state c.args with
  | .error e => (.error (.failed (.resolve e)), w)
  | .ok args =>
    match call t step c args w with
    | (.panic p, w) => (.error (.failed (.panicked step p.message)), w)
    | (.unwound p, w) => (.error (.unwound p), w)
    | (.error e, w) => (.error (.failed (.execution step e)), w)
    | (.streams stdout stderr, w) =>
      match copyOut t step stdout stderr w with
      | (.error e, w) => (.error (.failed (.stream step e)), w)
      | (.ok captured, w) => (.ok (Dict.empty.insert stdoutKey captured.stdout), w)

/-- Runs a body on the state that its step began with; `set` holds the outputs set so far. -/
def runBody (step : String) (state : RunState) :
    Body → Dict String → World σ → BodyEnd × Dict String × World σ
  | .done, set, w => (.done, set, w)
  | .fail f, set, w => (.failed f, set, w)
  | .panic p, set, w => (.unwound p, set, w)
  | .future next, set, w =>
    let (ending, set, w) := runBody step state next set w
    (ending.guarded, set, w)
  | .stepName next, set, w => runBody step state (next step) set w
  | .outputs next, set, w => runBody step state (next set) set w
  | .set key value next, set, w => runBody step state next (set.insert key value) w
  | .resolve r next, set, w => runBody step state (next (resolve step inputs state r)) set w
  | .note text next, set, w => runBody step state next set (w.tell (.note step text))
  | .exec c next, set, w =>
    match resolveArgs step inputs state c.args with
    | .error e => runBody step state (next (.error (.resolve e))) set w
    | .ok args =>
      match call t step c args w with
      | (.panic p, w) | (.unwound p, w) => (.unwound p, set, w)
      | (.error e, w) => runBody step state (next (.error (.target e))) set w
      | (.streams stdout stderr, w) =>
        match readAll stdout stderr with
        | .ok captured => runBody step state (next (.ok captured)) set w
        | .error (.inl e) => runBody step state (next (.error (.io e))) set w
        | .error (.inr p) => (.unwound p, set, w)

/-- Gives every declared output that was not set the empty text. -/
def withDefaults (keys : List String) (set : Dict String) : Dict String :=
  keys.foldl (fun d key => d.insertIfNew key "") set

/-- Runs a function: what its body set, and the empty text for every declared output that it did not
set. -/
def runFunc (step : String) (f : Func) (state : RunState) (w : World σ) :
    Except (Halt RunError) (Dict String) × World σ :=
  match runBody t inputs step state f.body .empty w with
  | (.done, set, w) => (.ok (withDefaults f.outputs set), w)
  | (.failed failure, _, w) => (.error (.failed (.func step failure)), w)
  | (.panicked p, _, w) => (.error (.failed (.panicked step p.message)), w)
  | (.unwound p, _, w) => (.error (.unwound p), w)

/-- Runs what a step holds; answers its outputs. -/
def runRunnable (step : String) (r : Runnable) (state : RunState) (w : World σ) :
    Except (Halt RunError) (Dict String) × World σ :=
  match r with
  | .command c => runCommand t inputs step c state w
  | .func f => runFunc t inputs step f state w

/-- Runs one step; on success the new state records its outputs. -/
def runStep (s : Step) (state : RunState) (w : World σ) :
    Except (Halt RunError) RunState × World σ :=
  match runRunnable t inputs s.name s.runnable state (w.tell (.began s.name)) with
  | (.ok outputs, w) => (.ok (state.record s.name outputs), w)
  | (.error e, w) => (.error e, w)

/-- Runs steps in order up to the first that fails. -/
def runSteps : List Step → RunState → World σ → Except (Halt RunError) RunState × World σ
  | [], state, w => (.ok state, w)
  | s :: ss, state, w =>
    match runStep t inputs s state w with
    | (.ok state, w) => runSteps ss state w
    | (.error e, w) => (.error e, w)

/-- Attempts every step, keeping the outputs of those that succeed and the first error. A panic that
goes on ends the attempts. -/
def attemptSteps : List Step → RunState → World σ → Except Panic (Option RunError) × World σ
  | [], _, w => (.ok none, w)
  | s :: ss, state, w =>
    match runStep t inputs s state w with
    | (.ok state, w) => attemptSteps ss state w
    | (.error (.failed e), w) =>
      let (later, w) := attemptSteps ss state w
      (later.map fun _ => some e, w)
    | (.error (.unwound p), w) => (.error p, w)

/-- Runs the main steps of a task. -/
def runTask (task : Task) (w : World σ) : Except (Halt RunError) RunState × World σ :=
  runSteps t inputs task.steps .empty w

/-- The result of attempts: the first error is kept until all of them were made. -/
def cleanupResult : Except Panic (Option RunError) → Except (Halt RunError) Unit
  | .ok none => .ok ()
  | .ok (some e) => .error (.failed e)
  | .error p => .error (.unwound p)

/-- Attempts the cleanup steps of a task, last declared first, from a state that stays as it is. -/
def runCleanup (task : Task) (state : RunState) (w : World σ) :
    Except (Halt RunError) Unit × World σ :=
  let (attempts, w) := attemptSteps t inputs task.cleanup.reverse state w
  (cleanupResult attempts, w)

end
end Pipeline
