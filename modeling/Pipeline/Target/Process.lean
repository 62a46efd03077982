import Pipeline.Diagnosis
import Pipeline.Machine.Spawn
import Pipeline.Target.Basic

/-!
# Running programs

A program is started and runs to its end while both of its pipes are drained. A pipe that could not
be read is an error, the one of standard output first; an unsuccessful exit is an error that carries
the exit code and everything the program wrote, in order of arrival; otherwise two readers are left.
`processes` is the target that starts every command as it stands.
-/

namespace Pipeline

/-- What a program that ended comes to: its two outputs, or the error of its exit. -/
def conclude (program : String) (f : Finished) : Except TargetError (Bytes × Bytes) :=
  let d := drain f.pieces
  match f.stdoutFault, f.stderrFault with
  | some e, _ => .error (.io program e)
  | none, some e => .error (.io program e)
  | none, none =>
    if f.exit.isSuccess then .ok (d.stdout, d.stderr)
    else .error (.exit ⟨program, f.exit.code?, Utf8.decode d.combined⟩)

/-- Starts a program and waits for its end. -/
def Starter.run (start : Starter) (s : Spawn) (fs : FileSystem) :
    Except TargetError (Bytes × Bytes) × FileSystem :=
  match start s fs with
  | (.error e, fs) => (.error (.spawn s.shown e), fs)
  | (.ok f, fs) => (conclude s.shown f, fs)

/-- A run of a program as the answer to a command; `invokedBy` names who asked for it. -/
def Starter.answer (start : Starter) (s : Spawn) (invokedBy : String) (fs : FileSystem) :
    Execution × FileSystem :=
  match start.run s fs with
  | (.ok (out, err), fs) => (.streams (.ofBytes out) (.ofBytes err), fs)
  | (.error e, fs) => (.error (diagnose invokedBy e), fs)

/-- The state of a target that starts programs. -/
structure Host where
  files : FileSystem
  outputs : Outputs
  /-- The programs that were to be started, in order. -/
  spawned : List Spawn

namespace Host

/-- A host on which nothing was started yet. -/
def ofFiles (files : FileSystem) : Host := ⟨files, .empty, []⟩

/-- Notes what the sinks took. -/
def absorb (out err : Bytes) (h : Host) : Host := { h with outputs := h.outputs.add out err }

/-- Answers a command by a program. -/
def answer (start : Starter) (s : Spawn) (invokedBy : String) (h : Host) : Execution × Host :=
  let (answer, files) := start.answer s invokedBy h.files
  (answer, { h with files, spawned := h.spawned ++ [s] })

end Host

/-- How the programs of a process target are started. -/
structure ProcessOptions where
  /-- The environment that every program inherits. -/
  inherited : Dict String
  /-- Variables set for every program, the last of a name winning. -/
  env : List (String × String)
  workingDir : Option String

/-- What starts a command. -/
def ProcessOptions.spawn (o : ProcessOptions) (path : String) (args : List String) : Spawn where
  program := path
  args := args
  env := o.env.foldl (fun d e => d.insert e.1 e.2) o.inherited
  searchChosen := o.env.any fun e => e.1 == searchVariable
  workingDir := o.workingDir

/-- The target that starts every command as a program. -/
def processes (start : Starter) (o : ProcessOptions) : Target Host where
  execute c args := Host.answer start (o.spawn c.path args) c.path
  sink _ _ := .buffer
  absorb := Host.absorb

end Pipeline
