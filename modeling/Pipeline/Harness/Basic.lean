import Pipeline.Harness.Stub
import Pipeline.Harness.Wrapper
import Pipeline.Target.Process

/-!
# The harness

A harness lets a task run only what a test expects. It keeps a directory with one wrapper for each
program that a stub stands for. A stubbed command is executed by starting its wrapper, an allowed
one by starting the real program, and both see no other programs than the wrappers. Every other
command is refused, with advice on how to expect it.
-/

namespace Pipeline

/-- What a test expects, what it allows, and where the wrappers are. -/
structure Harness where
  launch : Launch
  stubs : List Stub
  allowByDefault : Bool
  /-- Base names of programs that may run for real. -/
  allowed : List String
  /-- The test that wrappers run again, if only one is to run. -/
  testName : Option String
  printer : ExpectationPrinter
  /-- The directory for wrappers: given beforehand, or the one of the last installation. -/
  binDir : Option String
  /-- A directory that the harness made for itself. -/
  scratch : Option String

namespace Harness

/-- The directory that holds the wrappers. -/
def binDir? (h : Harness) : Option String := h.scratch <|> h.binDir

/-- Finds the first stub that cannot have a wrapper: its path is empty, or a stub before it, with
its binary and path in `seen`, needs a wrapper of the same name for another path. -/
def firstFault (index : Nat) (seen : Dict String) : List Stub → Option HarnessError
  | [] => none
  | s :: ss =>
    if s.path = "" then some (.emptyStubPath index s.command.display)
    else
      match seen.get? s.binary with
      | some path =>
        if path = s.path then firstFault (index + 1) seen ss
        else some (.conflictingStubs s.binary path s.path)
      | none => firstFault (index + 1) (seen.insert s.binary s.path) ss

/-- The wrappers of all stubs in turn, each with its name. -/
def wrappers (h : Harness) (bash : String) : List (String × String) :=
  h.stubs.map fun s => (s.binary, Wrapper.script bash s.path h.launch.selfExe h.testName)

/-- Writes wrappers in turn, up to the first that cannot be written. -/
def writeWrappers (here : Place) (dir : String) :
    List (String × String) → FileSystem → Except IoError Unit × FileSystem
  | [], fs => (.ok (), fs)
  | (name, script) :: rest, fs =>
    match fs.writeExecutable here (Path.join dir name) (Utf8.encode script) with
    | .error e => (.error e, fs)
    | .ok fs => writeWrappers here dir rest fs

/-- Writes the wrappers of all stubs into a directory, if they can all have one. -/
def fillDirectory (h : Harness) (here : Place) (dir : String) (fs : FileSystem) :
    Except HarnessError Unit × FileSystem :=
  match firstFault 0 .empty h.stubs with
  | some e => (.error e, fs)
  | none =>
    if h.stubs = [] then (.ok (), fs)
    else
      match h.launch.lookupProgram fs here "bash" with
      | none => (.error .bashNotFound, fs)
      | some bash =>
        match writeWrappers here dir (h.wrappers bash) fs with
        | (.ok (), fs) => (.ok (), fs)
        | (.error e, fs) => (.error (.io e), fs)

/-- Where wrappers go, and the harness that knows it: the directory given to it, or a scratch
directory of its own. -/
def chooseDir (h : Harness) (scratch : String) : String × Harness :=
  match h.binDir with
  | some dir => (dir, h)
  | none => (scratch, { h with scratch := some scratch })

/-- Removes the scratch directory of before, if the new directory `dir` takes its place. A scratch
directory is made apart from all others, so the new one is still there afterwards. -/
def discard (h : Harness) (here : Place) (dir : String) (fs : FileSystem) : FileSystem :=
  match h.binDir, h.scratch with
  | none, some old =>
    let left := fs.removeTree here old
    if old ≠ dir ∧ left.isDirectory here dir then left else fs
  | _, _ => fs

/-- Makes the directory for wrappers. -/
def makeBinDir (h : Harness) (here : Place) (scratch : String) (fs : FileSystem) :
    Except IoError (String × Harness) × FileSystem :=
  match fs.makeTree here (h.chooseDir scratch).1 with
  | (.error e, fs) => (.error e, fs)
  | (.ok (), fs) => (.ok (h.chooseDir scratch), h.discard here (h.chooseDir scratch).1 fs)

/-- Installs the wrappers. `scratch` names a fresh directory, used if none was given. -/
def install (h : Harness) (here : Place) (scratch : String) (fs : FileSystem) :
    Except HarnessError Unit × Harness × FileSystem :=
  match h.makeBinDir here scratch fs with
  | (.error e, fs) => (.error (.io e), h, fs)
  | (.ok (dir, h), fs) =>
    match h.fillDirectory here dir fs with
    | (.error e, fs) => (.error e, h, fs)
    | (.ok (), fs) => (.ok (), { h with binDir := some dir }, fs)

/-- The first stub that stands for an invocation. -/
def findExpected (h : Harness) (path : String) (args : List String) : Option Stub :=
  Stub.find? h.stubs path args

/-- Stands in for the program at `path`; answers the exit code. -/
def serve (h : Harness) (path : String) (args : List String) (c : StubContext) :
    Int × StubContext :=
  Stub.serve h.stubs path args c

/-- What starting a harness comes to. -/
inductive Started where
  /-- The process stood in for a program, and ends with the exit code. -/
  | served (code : Int) (c : StubContext)
  /-- The wrappers were installed, or could not be. -/
  | installed (result : Except HarnessError Unit) (h : Harness) (fs : FileSystem)

/-- Starts the harness. A process that a wrapper has started stands in for a program; every other
one installs the wrappers. -/
def start (h : Harness) (here : Place) (scratch : String) (fs : FileSystem) : Started :=
  match h.launch.mode with
  | .standIn path args =>
    let (code, c) := h.serve path args .fresh
    .served code c
  | .setup =>
    let (result, h, fs) := h.install here scratch fs
    .installed result h fs

/-- Whether a command may run for real: every one may, or its base name is allowed. -/
def isAllowed (h : Harness) (c : Command) : Bool :=
  h.allowByDefault || h.allowed.contains c.program

/-- What the harness does about a command. -/
inductive Decision where
  /-- Starts a program; `invokedBy` names it in diagnoses. -/
  | start (s : Spawn) (invokedBy : String)
  | refuse (e : TargetError)

/-- An environment of nothing but a search list. -/
def searchOnly (dir : String) : Dict String := Dict.empty.insert searchVariable dir

/-- What the harness does about a command. A stub that stands for it comes before any permission,
and what is neither expected nor allowed is refused. -/
def decide (h : Harness) (fs : FileSystem) (here : Place) (c : Command) (args : List String) :
    Decision :=
  match h.findExpected c.path args with
  | some stub =>
    match h.binDir? with
    | none => .refuse (.harness .notStarted)
    | some dir =>
      let wrapper := Path.join dir stub.binary
      .start
        { program := wrapper
          args := args
          env := (searchOnly dir).insert Launch.invocationVariable c.path
          searchChosen := true
          workingDir := none }
        wrapper
  | none =>
    if h.isAllowed c then
      match h.launch.lookupProgram fs here c.path with
      | none => .refuse (.executableNotFound c.path)
      | some program =>
        .start
          { program := program
            args := args
            env := searchOnly (h.binDir?.getD "")
            searchChosen := true
            workingDir := none }
          c.path
    else .refuse (.unexpectedCommand (spaced (c.path :: args)) (h.printer c.path args))

/-- The target that executes commands through a harness. -/
def target (h : Harness) (start : Starter) (here : Place) : Target Host where
  execute c args host :=
    match h.decide host.files here c args with
    | .refuse e => (.error e, host)
    | .start s invokedBy => host.answer start s invokedBy
  sink _ _ := .buffer
  absorb := Host.absorb

end Harness
end Pipeline
