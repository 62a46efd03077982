import Pipeline.Machine.Spawn
import Pipeline.Text.Split

/-!
# How a process was launched

The arguments, the environment and the program of a process. A variable of the environment tells
whether the process was started by a wrapper, and then for which program it stands in.
-/

namespace Pipeline

/-- The arguments of a process, the program's own name first, and what it was started with. -/
structure Launch where
  args : List String
  env : Dict String
  /-- The program of the process itself. -/
  selfExe : String
deriving DecidableEq

namespace Launch

/-- The variable that holds the path of the program a process stands in for. -/
def invocationVariable : String := "STEPFORGE_INVOCATION"

/-- Separates the arguments of the process from those of the program it stands in for. -/
def separator : String := "--"

/-- What a process was started for. -/
inductive Mode where
  /-- To stand in for the program at `path`. -/
  | standIn (path : String) (args : List String)
  | setup
deriving DecidableEq, Repr

/-- The path of the program stood in for. An empty variable counts as none. -/
def invocation (l : Launch) : Option String :=
  (l.env.get? invocationVariable).filter fun path => path ≠ ""

/-- What follows the first separator, or everything if there is none. -/
def afterSeparator (args : List String) : List String :=
  match args.dropWhile fun a => a ≠ separator with
  | [] => args
  | _ :: rest => rest

/-- The arguments meant for the program stood in for. -/
def forwardedArgs (l : Launch) : List String := afterSeparator (l.args.drop 1)

/-- A process stands in for a program exactly if its environment names one. -/
def mode (l : Launch) : Mode :=
  match l.invocation with
  | some path => .standIn path l.forwardedArgs
  | none => .setup

/-- Finds a program as a shell does: a path as it stands, a bare name in the search list. -/
def lookupProgram (l : Launch) (fs : FileSystem) (dir : Place) (program : String) :
    Option String :=
  if Path.hasSlash program then
    if fs.isExecutable dir program then some program else none
  else
    match l.env.get? searchVariable with
    | none => none
    | some dirs =>
      ((Path.searchList dirs).map fun d => Path.join d program).find? fun candidate =>
        fs.isExecutable dir candidate

end Launch
end Pipeline
