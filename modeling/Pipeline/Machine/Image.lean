import Pipeline.Machine.FileSystem
import Pipeline.Path
import Pipeline.Shell.Syntax

/-!
# Loading programs

What a path turns out to start. A tool starts as it is. An executable file that begins with a hash
mark and an exclamation mark names its interpreter, which is loaded in its place with the path as an
argument; any other file is in no format that can be executed.
-/

namespace Pipeline
open Shell (Raw)

/-- A program ready to run: a tool, and its arguments with the name it was called by in front. -/
structure Image where
  tool : String
  argv : List Raw
deriving DecidableEq, Repr

namespace Image

/-- How many interpreters may interpret each other, and how far into a file one is named. -/
def interpreterDepth : Nat := 5
def interpreterReach : Nat := 256

/-- The interpreter that a file names, and the one argument that may follow it. -/
def interpreter? (content : Raw) : Option (Raw × Option Raw) :=
  match content.take interpreterReach with
  | '#' :: '!' :: rest =>
    let isGap (c : Char) : Bool := c = ' ' || c = '\t'
    let line := ((rest.takeWhile (· ≠ '\n')).dropWhile isGap).reverse.dropWhile isGap |>.reverse
    let name := line.takeWhile fun c => !isGap c
    let arg := (line.drop name.length).dropWhile isGap
    if name.isEmpty then none else some (name, if arg.isEmpty then none else some arg)
  | _ => none

/-- Loads the program that a path leads to. -/
def loadWithin (fs : FileSystem) (here : Place) : Nat → String → List Raw → Except IoError Image
  | 0, _, _ => .error .tooManyLinks
  | fuel + 1, path, argv =>
    match fs.find here path with
    | .error e => .error e
    | .ok (.dir _) => .error .accessDenied
    | .ok .nullDevice => .error .accessDenied
    | .ok (.tool name) => .ok ⟨name, argv⟩
    | .ok (.file content mode) =>
      if !FileSystem.allowsExecution mode then .error .accessDenied
      else
        match interpreter? (Raw.ofBytes content) with
        | none => .error .execFormat
        | some (name, arg) =>
          loadWithin fs here fuel (Raw.toText name)
            (name :: arg.toList ++ Raw.ofText path :: argv.drop 1)

def load (fs : FileSystem) (here : Place) (path : String) (argv : List Raw) :
    Except IoError Image :=
  loadWithin fs here interpreterDepth path argv

/-- Finds the path of a program along directories: the first that loads, or that would if it were in
a format that can be executed. One that may not be executed is passed over but not forgotten. -/
def searchFrom (fs : FileSystem) (here : Place) (name : String) (denied : Bool) :
    List String → Except IoError String
  | [] => .error (if denied then .accessDenied else .noEntry)
  | dir :: dirs =>
    let path := Path.join dir name
    match load fs here path [] with
    | .ok _ => .ok path
    | .error e =>
      if e = .execFormat then .ok path
      else if e = .accessDenied then searchFrom fs here name true dirs
      else if e = .noEntry ∨ e = .notDirectory then searchFrom fs here name denied dirs
      else .error e

/-- The path of a program that is called by a name: the name itself if it has a slash. -/
def search (fs : FileSystem) (here : Place) (dirs : List String) (name : String) :
    Except IoError String :=
  if name = "" then .error .noEntry
  else if Path.hasSlash name then .ok name
  else searchFrom fs here name false dirs

end Image
end Pipeline
