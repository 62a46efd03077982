import Pipeline.Registry
import Pipeline.Task.Body
import Pipeline.Text.UpperCase

/-!
# Steps

A step has a name and either a command or a function. A command promises its two output streams, a
function the keys it declares; later steps may refer to them.
-/

namespace Pipeline
open Text

/-- The key of a command's standard output, the only one that a run records. -/
def stdoutKey : String := "stdout"

/-- The key that a command promises for its standard error. -/
def stderrKey : String := "stderr"

/-- A named function with the outputs it declares. -/
structure Func where
  name : String
  outputs : List String
  body : Body

namespace Func

/-- The name of an output in the style of an environment variable. -/
def variableName (name key : String) : String := upper name ++ "_" ++ upper key

/-- What stands for an output in a shell script. -/
def placeholder (name key : String) : String := "$\x7b" ++ variableName name key ++ "\x7d"

end Func

/-- What a step runs. -/
inductive Runnable where
  | command (c : Command)
  | func (f : Func)

/-- The keys that a step with this to run promises. -/
def Runnable.outputKeys : Runnable → List String
  | .command _ => [stdoutKey, stderrKey]
  | .func f => f.outputs

/-- A named step of a task. -/
structure Step where
  name : String
  runnable : Runnable

namespace Step

/-- The outputs that the step declares. -/
def outputs (s : Step) : Registry := (Registry.forStep s.name).defineAll s.runnable.outputKeys

/-- A reference to a declared output. -/
def get (s : Step) (key : String) : Except DefineError Ref := s.outputs.get key

end Step
end Pipeline
