import Pipeline.Dict
import Pipeline.Fault
import Pipeline.Path
import Pipeline.Text.Utf8

/-!
# File systems

A file system is a dictionary from places to what is there. A place is the list of names that leads
to it from the root, free of dots, and is filed under the absolute path of those names. Every path
is first walked to its place: each name on the way must be a directory. Reading, writing and making
directories then act on the place, so what was last written at a place is what is read there.

There are no links, and permission bits are kept but bind nobody: all is done by the superuser.
-/

namespace Pipeline

/-- What can stand at a place. -/
inductive Node where
  | file (content : Bytes) (mode : Nat)
  | dir (mode : Nat)
  /-- A program that is part of the machine, known by its name. -/
  | tool (name : String)
  /-- The device that reads as empty and takes every write. -/
  | nullDevice
deriving DecidableEq

structure FileSystem where
  nodes : Dict Node

/-- The names that lead to a place from the root. -/
abbrev Place := List String

namespace FileSystem

/-- The permission bits of a new file and of a new directory. -/
def fileMode : Nat := 0o644

/-- The mode of a new directory. -/
def dirMode : Nat := 0o755

def executableMode : Nat := 0o755

/-- The longest name and the longest path, in bytes. -/
def nameLimit : Nat := 255
def pathLimit : Nat := 4095

def empty : FileSystem := ⟨.empty⟩

/-- The absolute path of a place. -/
def absolute (place : Place) : String := "/" ++ "/".intercalate place

/-- What stands at a place; the root is always there. -/
def at? (fs : FileSystem) (place : Place) : Option Node :=
  match place with
  | [] => some (.dir dirMode)
  | place => fs.nodes.get? (absolute place)

/-- Puts something at a place. -/
def put (fs : FileSystem) (place : Place) (node : Node) : FileSystem :=
  ⟨fs.nodes.insert (absolute place) node⟩

def clear (fs : FileSystem) (place : Place) : FileSystem := ⟨fs.nodes.erase (absolute place)⟩

/-- Whether an absolute path is that of a place or of something under it. -/
def leadsInto (place : Place) (path : String) : Bool :=
  path = absolute place || (absolute place ++ "/").toList.isPrefixOf path.toList

/-- Clears a place with all that lies under it. -/
def clearAll (fs : FileSystem) (place : Place) : FileSystem :=
  ⟨fs.nodes.filterKeys fun path => !leadsInto place path⟩

theorem at?_put_self (fs : FileSystem) {place : Place} (node : Node) (h : place ≠ []) :
    (fs.put place node).at? place = some node := by
  cases place with
  | nil => exact absurd rfl h
  | cons p ps => exact Dict.get?_insert_self ..

/-- Follows the parts of a path from a place. The place that the last part leads to may be empty. -/
def walk (fs : FileSystem) (here : Place) : List String → Except IoError Place
  | [] => .ok here
  | part :: parts =>
    match fs.at? here with
    | none => .error .noEntry
    | some (.dir _) =>
      if part = ".." then fs.walk here.dropLast parts
      else if part.utf8ByteSize > nameLimit then .error .nameTooLong
      else fs.walk (here ++ [part]) parts
    | some _ => .error .notDirectory

/-- Follows a path from a working directory. -/
def locate (fs : FileSystem) (dir : Place) (path : String) : Except IoError Place :=
  if path.toList.contains '\x00' then
    .error (.invalidInput "file name contained an unexpected NUL byte")
  else if path = "" then .error .noEntry
  else if path.utf8ByteSize > pathLimit then .error .nameTooLong
  else fs.walk (if Path.isAbsolute path then [] else dir) (Path.parts path)

/-- Whether a path ends in a slash or a dot. -/
def asksForDirectory (path : String) : Bool :=
  Path.endsAsDirectory path && (Path.parts path).getLast? != some ".."

/-- What a path leads to, if anything is there. -/
def find (fs : FileSystem) (dir : Place) (path : String) : Except IoError Node :=
  match fs.locate dir path with
  | .error e => .error e
  | .ok place =>
    match fs.at? place with
    | none => .error .noEntry
    | some (.dir mode) => .ok (.dir mode)
    | some node => if asksForDirectory path then .error .notDirectory else .ok node

/-- Whether a path leads to a directory. -/
def isDirectory (fs : FileSystem) (dir : Place) (path : String) : Bool :=
  match fs.find dir path with
  | .ok (.dir _) => true
  | _ => false

/-- Whether a mode lets anybody execute. -/
def allowsExecution (mode : Nat) : Bool := mode &&& 0o111 != 0

/-- Whether a path leads to a program: a file that somebody may execute. -/
def isExecutable (fs : FileSystem) (dir : Place) (path : String) : Bool :=
  match fs.find dir path with
  | .ok (.file _ mode) => allowsExecution mode
  | .ok (.tool _) => true
  | _ => false

/-- The content of a file. -/
def read (fs : FileSystem) (dir : Place) (path : String) : Except IoError Bytes :=
  match fs.find dir path with
  | .error e => .error e
  | .ok (.file content _) => .ok content
  | .ok (.dir _) => .error .isDirectory
  | .ok (.tool _) => .ok []
  | .ok .nullDevice => .ok []

/-- The place that a path names for writing. -/
def writable (fs : FileSystem) (dir : Place) (path : String) : Except IoError Place :=
  match fs.locate dir path with
  | .error e => .error e
  | .ok place =>
    if path.toList.getLast? = some '/' then .error .isDirectory
    else
      match fs.at? place with
      | some (.dir _) => .error .isDirectory
      | some _ => if asksForDirectory path then .error .notDirectory else .ok place
      | none => if asksForDirectory path then .error .noEntry else
        match fs.at? place.dropLast with
        | some (.dir _) => .ok place
        | some _ => .error .notDirectory
        | none => .error .noEntry

/-- Puts content at a place. A file that was there keeps its mode. -/
def fill (fs : FileSystem) (place : Place) (content : Bytes) : FileSystem :=
  match fs.at? place with
  | some .nullDevice => fs
  | some (.file _ mode) => fs.put place (.file content mode)
  | some (.tool _) => fs.put place (.file content executableMode)
  | _ => fs.put place (.file content fileMode)

/-- Writes a file anew. -/
def write (fs : FileSystem) (dir : Place) (path : String) (content : Bytes) :
    Except IoError FileSystem :=
  match fs.writable dir path with
  | .error e => .error e
  | .ok place => .ok (fs.fill place content)

/-- Changes the permission bits. -/
def setMode (fs : FileSystem) (dir : Place) (path : String) (mode : Nat) :
    Except IoError FileSystem :=
  match fs.locate dir path with
  | .error e => .error e
  | .ok place =>
    match fs.at? place with
    | none => .error .noEntry
    | some (.file content _) => .ok (fs.put place (.file content mode))
    | some (.dir _) => .ok (fs.put place (.dir mode))
    | some _ => .ok fs

/-- Writes a file that anybody may execute. -/
def writeExecutable (fs : FileSystem) (dir : Place) (path : String) (content : Bytes) :
    Except IoError FileSystem :=
  match fs.write dir path content with
  | .error e => .error e
  | .ok fs => fs.setMode dir path executableMode

def makeDirectory (fs : FileSystem) (dir : Place) (path : String) : Except IoError FileSystem :=
  match fs.locate dir path with
  | .error e => .error e
  | .ok place =>
    match fs.at? place with
    | some _ => .error .alreadyExists
    | none =>
      let dotted := Path.endsAsDirectory path && path.toList.getLast? != some '/'
      match dotted, fs.at? place.dropLast with
      | false, some (.dir _) => .ok (fs.put place (.dir dirMode))
      | false, some _ => .error .notDirectory
      | _, _ => .error .noEntry

/-- Makes a directory. One that is there already will do. -/
def ensureDirectory (fs : FileSystem) (dir : Place) (path : String) :
    Except IoError FileSystem :=
  match fs.makeDirectory dir path with
  | .ok fs => .ok fs
  | .error e => if fs.isDirectory dir path then .ok fs else .error e

/-- Makes the first of some paths a directory, and before it the later ones if it cannot be made for
want of them. Those that were made stay when a nearer one cannot be made. -/
def makeAll (dir : Place) : List String → FileSystem → Except IoError Unit × FileSystem
  | [], fs => (.ok (), fs)
  | path :: above, fs =>
    match fs.ensureDirectory dir path with
    | .ok fs => (.ok (), fs)
    | .error e =>
      if e.isNotFound then
        match makeAll dir above fs with
        | (.error e, fs) => (.error e, fs)
        | (.ok (), fs) =>
          match fs.ensureDirectory dir path with
          | .ok fs => (.ok (), fs)
          | .error e => (.error e, fs)
      else (.error e, fs)

/-- Makes a directory and those above it that are missing. The empty path asks for none. -/
def makeTree (fs : FileSystem) (dir : Place) (path : String) : Except IoError Unit × FileSystem :=
  if path = "" then (.ok (), fs) else makeAll dir (path :: Path.above path) fs

/-- Makes a directory and those above it, if all can be made. -/
def makeDirectories (fs : FileSystem) (dir : Place) (path : String) : Except IoError FileSystem :=
  match fs.makeTree dir path with
  | (.ok (), fs) => .ok fs
  | (.error e, _) => .error e

/-- Removes a directory with all that is in it. Where there is none nothing is done. -/
def removeTree (fs : FileSystem) (dir : Place) (path : String) : FileSystem :=
  match fs.locate dir path with
  | .error _ => fs
  | .ok place =>
    match fs.at? place with
    | some (.dir _) => fs.clearAll place
    | _ => fs

/-- The names in a directory, in ascending order, with what stands there. -/
def list (fs : FileSystem) (place : Place) : List (String × Node) :=
  let front := (if place = [] then "/" else absolute place ++ "/").toList
  fs.nodes.toList.filterMap fun e =>
    let key := e.1.toList
    let rest := key.drop front.length
    if front.isPrefixOf key && !rest.isEmpty && !rest.contains '/' then some (.ofList rest, e.2)
    else none

end FileSystem
end Pipeline
