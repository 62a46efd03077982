import Pipeline.Cli.Grammar
import Pipeline.Cli.Session
import Pipeline.Demo
import Pipeline.Machine.Process

/-!
# The program

Answers one command line for the sample pipeline. Commands run on a machine of its own that has the
plain tools and no others; of the files outside, the inputs file is read into that machine before
the session and the compiled script is written out of it after.
-/

namespace Pipeline.Program

/-- The variable that holds the log level if no option gives it. -/
def logVariable : String := "STEPFORGE_LOG"

/-- The directory in which the session works. -/
def here : Place := ["tmp"]

/-- The exit codes of a failed session, of a command line that is turned down and of a panic. -/
def failureCode : UInt32 := 1
def usageCode : UInt32 := 2
def panicCode : UInt32 := 101

/-- The place of a file of the session, which must lie in a directory that is there. -/
def place? (fs : FileSystem) (path : String) : Option Place := (fs.locate here path).toOption

/-- The variables that a session may ask for. -/
def vars (task : Task) : List String :=
  [searchVariable, "HOME", "LC_ALL"] ++ task.inputs.keys.map Text.upper

/-- The inputs file and the output file that a request names. -/
def inputFile : Cli.Request → Option String
  | .run o _ _ => o.file
  | .compile o _ => o.file
  | .runStep o _ => o.file
  | .steps => none

def outputFile : Cli.Request → Option String
  | .compile _ output => output
  | _ => none

/-- A machine on which the directory of a file is there, and the file if it has content. -/
def bringIn (fs : FileSystem) (path : String) (content : Option Bytes) : FileSystem :=
  match place? fs path with
  | none => fs
  | some place =>
    let fs := (fs.makeDirectories [] (FileSystem.absolute place.dropLast)).toOption.getD fs
    match content with
    | some bytes => fs.put place (.file bytes FileSystem.fileMode)
    | none => fs

/-- The program runs no guests. -/
def noGuest : Guest := fun _ _ => ([], 1)

def readEnvironment (names : List String) : IO (Dict String) :=
  names.foldlM (fun env name => do
    match (← IO.getEnv name) with
    | some value => return env.insert name value
    | none => return env) Dict.empty

/-- Reads the inputs file into the machine. -/
def readInputs (fs : FileSystem) : Option String → IO FileSystem
  | none => return fs
  | some path => do
    try
      let bytes ← IO.FS.readBinFile path
      return bringIn fs path (some bytes.toList)
    catch _ => return fs

/-- Writes the compiled script out of the machine. -/
def releaseOutput (fs : FileSystem) : Option String → IO Unit
  | none => return
  | some path => do
    match fs.read here path with
    | .error _ => return
    | .ok bytes =>
      IO.FS.writeBinFile path ⟨bytes.toArray⟩
      IO.setAccessRights path ⟨⟨true, true, true⟩, ⟨true, false, true⟩, ⟨true, false, true⟩⟩

/-- Answers a command line that was read. -/
def answer (program : String) (task : Task) (request : Cli.Request) : IO UInt32 := do
  let env ← readEnvironment (vars task)
  let fs ← readInputs (Tool.install .empty) (inputFile request)
  let fs := match outputFile request with
    | some path => bringIn fs path none
    | none => fs
  let session : Cli.Session := ⟨program, env, here⟩
  let ended := session.answer (Machine.starter noGuest here) task fs request
  let out ← IO.getStdout
  let err ← IO.getStderr
  out.write ⟨ended.stdout.toArray⟩
  err.write ⟨ended.stderr.toArray⟩
  match ended.failure with
  | some (.failed f) =>
    err.putStrLn (": ".intercalate f.chain)
    return failureCode
  | some (.unwound p) =>
    err.putStrLn p.message
    return panicCode
  | none =>
    releaseOutput ended.files (outputFile request)
    return 0

end Pipeline.Program

open Pipeline Pipeline.Program in
/-- Reads the command line and exits as the session ended. -/
def main (args : List String) : IO UInt32 := do
  let program := toString (← IO.appPath)
  match Cli.CommandLine.read (← IO.getEnv logVariable) args with
  | .error e =>
    (← IO.getStderr).putStrLn e.kind
    return usageCode
  | .ok c =>
    match Demo.task with
    | .error e =>
      (← IO.getStderr).putStrLn (": ".intercalate (Cli.defineFailure e).chain)
      return failureCode
    | .ok task => answer program task c.request
