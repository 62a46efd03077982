import Pipeline.Cli.Request
import Pipeline.Json.Codec
import Pipeline.Machine.FileSystem
import Pipeline.Task.Basic
import Pipeline.Text.UpperCase

/-!
# Collecting inputs

Each declared input takes its value from the last flag for its key, else from the inputs file, else
from the variable of the environment that has the upper-case form of the key for a name. What is
found nowhere stays unbound, or becomes the parameter of that name if a script is to be compiled.
Values for keys that are not declared are passed over.
-/

namespace Pipeline.Cli
open Text

/-- The inputs collected, and the variables that were asked for, in order. -/
structure Collected where
  inputs : Inputs
  asked : List String
deriving DecidableEq

/-- The value of the last flag for a key. -/
def lastFlag (flags : List (String × String)) (key : String) : Option String :=
  flags.reverse.lookup key

/-- The shell parameter that stands for an input found nowhere. -/
def inputPlaceholder (key : String) : String := "$\x7b" ++ upper key ++ "\x7d"

section
variable (flags : List (String × String)) (file : Dict String) (env : String → Option String)
  (placeholders : Bool)

def collectOne (c : Collected) (key : String) : Collected :=
  match lastFlag flags key <|> file.get? key with
  | some value => { c with inputs := c.inputs.insert key value }
  | none =>
    let c := { c with asked := c.asked ++ [upper key] }
    match env (upper key) with
    | some value => { c with inputs := c.inputs.insert key value }
    | none =>
      if placeholders then { c with inputs := c.inputs.insert key (inputPlaceholder key) } else c

/-- Collects inputs in the order of their declaration. -/
def collect (keys : List String) : Collected :=
  keys.foldl (collectOne flags file env placeholders) ⟨.empty, []⟩

end

/-- Stands for what is wrong with a JSON text, of which no account is given. -/
def jsonFault : String := "<json>"

/-- What a file of no text is said to be. -/
def notText : IoError := .other "stream did not contain valid UTF-8"

/-- Whether bytes spell text. -/
def isText (bytes : Bytes) : Bool := Utf8.encode (Utf8.decode bytes) == bytes

def readText (fs : FileSystem) (here : Place) (path : String) : Except IoError String :=
  match fs.read here path with
  | .error e => .error e
  | .ok bytes => if isText bytes then .ok (Utf8.decode bytes) else .error notText

def readInputsFile (fs : FileSystem) (here : Place) (path : String) :
    Except Failure (Dict String) :=
  match readText fs here path with
  | .error e => .error ⟨"Failed to read inputs file " ++ path, [e.message]⟩
  | .ok text =>
    match Dict.parse text with
    | some d => .ok d
    | none => .error ⟨"Inputs file " ++ path ++ " must be a JSON object of strings", [jsonFault]⟩

/-- Collects the declared inputs of a task. -/
def collectInputs (task : Task) (o : InputOptions) (fs : FileSystem) (here : Place)
    (env : String → Option String) (placeholders : Bool) : Except Failure Collected :=
  match o.file with
  | none => .ok (collect o.flags .empty env placeholders task.inputs.keys)
  | some path =>
    (readInputsFile fs here path).map fun file =>
      collect o.flags file env placeholders task.inputs.keys

end Pipeline.Cli
