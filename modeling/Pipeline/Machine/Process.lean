import Pipeline.Machine.Spawn
import Pipeline.Machine.Tools
import Pipeline.Shell.Invocation

/-!
# Processes

Everything that can run, and the starter made of it. A process is a tool over its descriptors: a
shell, the tool that changes an environment, a guest, or one of the plain tools. The guest is a
program from outside the machine; what it writes on its standard output goes to the third descriptor
if that is open, so that a script may keep its own standard output quiet.

`runWithin` ties commands, scripts and programs together; the depth to which they may nest is
bounded, and a process that goes deeper is ended like one that runs out of stack.
-/

namespace Pipeline
open Shell (Raw Sh Runner Job Stop Scene ShellState)
open Shell.Sh

/-- A program from outside: what it writes, and how it exits. -/
abbrev Guest := List String → Dict String → Pieces × Int

namespace Process

/-- Splits the settings off the front of arguments. -/
def takeSettings (env : List (Raw × Raw)) : List Raw → List (Raw × Raw) × List Raw
  | [] => (env, [])
  | arg :: rest =>
    match Shell.Builtin.splitAssignment arg with
    | (name, some value) => takeSettings (env.filter (·.1 ≠ name) ++ [(name, value)]) rest
    | _ => (env, arg :: rest)

/-- Reads the options of the tool that changes an environment. -/
def envOptions (env : List (Raw × Raw)) : List Raw → Except Raw (List (Raw × Raw) × List Raw)
  | ['-'] :: rest => envOptions [] rest
  | ['-', 'i'] :: rest => envOptions [] rest
  | ['-', 'u'] :: name :: rest => envOptions (env.filter (·.1 ≠ name)) rest
  | ['-', '-'] :: rest => .ok (env, rest)
  | ('-' :: 'u' :: c :: cs) :: rest => envOptions (env.filter (·.1 ≠ c :: cs)) rest
  | ('-' :: c :: _) :: _ => .error [c]
  | rest => .ok (env, rest)

section
variable (guest : Guest) (run : Runner)

/-- Runs a program in a changed environment, or shows the environment. -/
def runEnv (args : List Raw) (env : List (Raw × Raw)) : Sh Nat := do
  let say (text : Raw) : Sh Unit := do
    let _ ← write 2 text
  match envOptions env args with
  | .error c => do
    say ("env: invalid option -- ".toList ++ Tool.inQuotes c ++
      "\nTry 'env --help' for more information.\n".toList)
    return 125
  | .ok (env, rest) =>
    match takeSettings env rest with
    | (env, []) => do
      let _ ← write 1 (env.flatMap fun e => e.1 ++ '=' :: e.2 ++ ['\n'])
      return 0
    | (env, name :: args) => do
      let s ← shell
      let fs ← files
      let list := (env.lookup "PATH".toList).getD "/bin:/usr/bin".toList
      let dirs := Path.searchList (Raw.toText list)
      let refuse (e : IoError) : Sh Nat := do
        say ("env: ".toList ++ Tool.inQuotes name ++ [':', ' '] ++ e.reason.toList ++ ['\n'])
        return if e = .noEntry then 127 else 126
      match Image.search fs s.here dirs (Raw.toText name) with
      | .error e => refuse e
      | .ok path =>
        match Image.load fs s.here path (name :: args) with
        | .ok image => run (.program image env)
        | .error e =>
          if e = .execFormat then
            run (.program ⟨"sh", "/bin/sh".toList :: Raw.ofText path :: args⟩ env)
          else refuse e

def runGuest (args : List Raw) (env : List (Raw × Raw)) : Sh Nat := do
  let s ← shell
  let vars := env.foldl (fun d e => d.insert (Raw.toText e.1) (Raw.toText e.2)) Dict.empty
  let (pieces, code) := guest (args.map Raw.toText) vars
  let quiet := (s.descriptors.lookup 3).isSome
  pieces.forM fun (stream, bytes) => do
    let fd := match stream with
      | .stdout => if quiet then 3 else 1
      | .stderr => 2
    let _ ← write fd (Raw.ofBytes bytes)
  return (code.emod 256).toNat

def runTool (name : String) (args : List Raw) (env : List (Raw × Raw)) : Sh Nat := do
  let s ← shell
  let m ← machine
  let input := s.descriptors.lookup 0
  let stdin := (input.map m.pending).getD []
  match Tool.run? name ⟨args, env, s.here, m.files, stdin⟩ with
  | none => return 127
  | some r => do
    setFiles r.files
    if let some channel := input then modifyMachine fun m => ((), m.leave channel r.unread)
    r.written.reverse.forM fun (stream, text) => do
      let _ ← write (match stream with | .stdout => 1 | .stderr => 2) text
    return r.code

/-- Runs a program over the process it is started from. -/
def runImage (image : Image) (env : List (Raw × Raw)) : Sh Nat :=
  let args := image.argv.drop 1
  match image.tool with
  | "bash" => Shell.runShell run .bash image.argv env
  | "sh" => Shell.runShell run .dash image.argv env
  | "dash" => Shell.runShell run .dash image.argv env
  | "env" => runEnv run args env
  | "guest" => runGuest guest args env
  | name => runTool name args env

/-- Runs anything, down to a depth. -/
def runWithin : Nat → Runner
  | 0 => fun _ => throw .spent
  | depth + 1 => fun job =>
    match job with
    | .command c => Shell.runCommand (runWithin depth) c
    | .script label line text => Shell.runScript (runWithin depth) label line text
    | .program image env => runImage guest (runWithin depth) image env

end

/-- How deeply commands may nest. -/
def depthLimit : Nat := 2000

/-- The signal that ends a process which nests too deeply. -/
def stackSignal : Nat := 11

/-- The process that a program is started in: it reads nothing, and writes to two pipes. -/
def origin (here : Place) : ShellState :=
  { dialect := .dash, origin := .argument, name := [], speaker := [], subject := none, args := [],
    vars := [], passed := [], functions := [],
    descriptors := [(0, .null), (1, .pipe 1), (2, .pipe 2)], here, status := 0, line := 0,
    options := {}, guarded := false, nested := false, last := false, loops := 0, calls := 0,
    sourced := 0, hidden := [], traps := [], pid := 4000, background := none, backgroundStatus := 0,
    substituted := none }

/-- The pieces that went to the two pipes, in order. -/
def piecesOf (log : List (Nat × Raw)) : Pieces :=
  log.reverse.filterMap fun (pipe, text) =>
    if pipe = 1 then some (.stdout, Raw.toBytes text)
    else if pipe = 2 then some (.stderr, Raw.toBytes text)
    else none

/-- Runs a loaded program from its start to its end. -/
def runToEnd (guest : Guest) (here : Place) (image : Image) (env : List (Raw × Raw))
    (fs : FileSystem) : Finished × FileSystem :=
  let start : Scene := ⟨origin here, MachineState.ofFiles fs 3⟩
  let ended (exit : Exit) (w : Scene) : Finished × FileSystem :=
    (⟨piecesOf w.machine.log, exit, none, none⟩, w.machine.files)
  match (runWithin guest depthLimit (.program image env)).run start with
  | .ok code w => ended (.code code) w
  | .error (.exit code) w => ended (.code code) w
  | .error (.killed _ signal) w => ended (.signal signal) w
  | .error _ w => ended (.signal stackSignal) w

end Process

/-- Where programs are sought if no search list is set. -/
def defaultSearchList : List String := ["/bin", "/usr/bin"]

/-- The directories in which a spawn looks for its program. -/
def Spawn.searchDirs (s : Spawn) : List String :=
  match s.env.get? searchVariable with
  | some list => Path.searchList list
  | none => defaultSearchList

/-- The machine as a starter. The working directory is entered before the program is sought. A
program that is called by its bare name along a search list of its own may be a script without an
interpreter. -/
def Machine.starter (guest : Guest) (here : Place) : Starter := fun s fs =>
  let refuse (e : IoError) : Except IoError Finished × FileSystem := (.error e, fs)
  if s.isUnspeakable then refuse (.invalidInput "nul byte found in provided data")
  else
    let entered : Except IoError Place :=
      match s.workingDir with
      | none => .ok here
      | some dir =>
        match fs.find here dir, fs.locate here dir with
        | .ok (.dir _), .ok place => .ok place
        | .ok _, _ => .error .notDirectory
        | .error e, _ => .error e
    match entered with
    | .error e => refuse e
    | .ok here =>
      let env := s.env.toList.map fun e => (Raw.ofText e.1, Raw.ofText e.2)
      let name := Raw.ofText s.program
      let args := s.args.map Raw.ofText
      match Image.search fs here s.searchDirs s.program with
      | .error e => refuse e
      | .ok path =>
        let go (image : Image) : Except IoError Finished × FileSystem :=
          let (f, fs) := Process.runToEnd guest here image env fs
          (.ok f, fs)
        match Image.load fs here path (name :: args) with
        | .ok image => go image
        | .error e =>
          if e = .execFormat ∧ s.searchChosen ∧ !Path.hasSlash s.program then
            go ⟨"sh", "/bin/sh".toList :: Raw.ofText path :: args⟩
          else refuse e

end Pipeline
