import Pipeline.Text.Split

/-!
# Paths

A path is text with slashes between its parts. An empty part or a single dot names nothing of its
own, and two dots name the directory above.
-/

namespace Pipeline.Path
open Text

/-- Whether a path starts at the root. -/
def isAbsolute (path : String) : Bool := path.toList.head? == some '/'

/-- Whether a name is a path, and so is not sought in the search list. -/
def hasSlash (path : String) : Bool := path.toList.contains '/'

/-- The parts of a path that name a file or go up. -/
def parts (path : String) : List String := (pieces '/' path).filter fun p => p ≠ "" ∧ p ≠ "."

/-- The name of the file a path leads to: its last part, unless that goes up. -/
def fileName? (path : String) : Option String :=
  match (parts path).getLast? with
  | some ".." => none
  | name => name

/-- The path of some parts below `path`'s root: the top if `path` is absolute. -/
def ofParts (path : String) (parts : List String) : String :=
  (if isAbsolute path then "/" else "") ++ "/".intercalate parts

/-- A path without the parts that name nothing. -/
def plain (path : String) : String := ofParts path (parts path)

/-- The paths of the directories that a path leads through, the nearest to its end first. -/
def above (path : String) : List String :=
  (List.range ((parts path).length - 1)).reverse.map fun n =>
    ofParts path ((parts path).take (n + 1))

/-- `path` as seen from the directory `dir`. -/
def join (dir path : String) : String :=
  if isAbsolute path then path
  else if dir = "" then path
  else if dir.toList.getLast? = some '/' then dir ++ path
  else dir ++ "/" ++ path

/-- The directories of a search list, which colons separate. -/
def searchList (dirs : String) : List String := pieces ':' dirs

/-- Whether a path says that it leads to a directory: it ends in a slash, a dot or two dots. -/
def endsAsDirectory (path : String) : Bool :=
  match (pieces '/' path).getLast? with
  | some last => last = "" || last = "." || last = ".."
  | none => true

end Pipeline.Path
