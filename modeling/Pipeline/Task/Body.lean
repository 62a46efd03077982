import Pipeline.Run.Resolve
import Pipeline.Stream.Reader
import Pipeline.Target.Error

/-!
# Function bodies

The body of a function step is a finite interaction with the run: it may ask for its step's name,
resolve references, execute commands through the target, set outputs, look at the outputs set so far
and leave notes, and it ends well, in a failure or in a panic. What it does next may depend on every
answer.

A body is called and gives a future, which is then awaited. What it does while it is called stands
before `future`, and what it leaves to the future behind it. Only the future is guarded against
panics.
-/

namespace Pipeline

/-- A failure is a message and the messages behind it, outermost first. -/
structure Failure where
  message : String
  causes : List String
deriving DecidableEq, Repr

namespace Failure

/-- All messages, outermost first. -/
def chain (f : Failure) : List String := f.message :: f.causes

def line (f : Failure) : String := ": ".intercalate f.chain

/-- Puts a message in front. -/
def within (f : Failure) (context : String) : Failure := ⟨context, f.chain⟩

end Failure

/-- What a body meets when it executes a command. -/
inductive ContextError where
  | resolve (e : ResolveError)
  | target (e : TargetError)
  | io (e : IoError)
deriving DecidableEq, Repr

namespace ContextError

def message : ContextError → String
  | .resolve e => e.message
  | .target e => e.message
  | .io e => "IO error: " ++ e.message

def causes : ContextError → List String
  | .resolve _ => []
  | .target e => e.causes
  | .io e => [e.message]

def failure (e : ContextError) : Failure := ⟨e.message, e.causes⟩

end ContextError

/-- An error of resolution as a failure; nothing is behind it. -/
def ResolveError.failure (e : ResolveError) : Failure := ⟨e.message, []⟩

/-- What a function does, as a tree of questions to the run. -/
inductive Body where
  | done
  | fail (f : Failure)
  | panic (payload : Panic)
  /-- The call is over, and the rest is done when its future is awaited. -/
  | future (next : Body)
  | stepName (next : String → Body)
  | outputs (next : Dict String → Body)
  | set (key value : String) (next : Body)
  | resolve (r : Ref) (next : Except ResolveError String → Body)
  | exec (c : Command) (next : Except ContextError Captured → Body)
  | note (text : String) (next : Body)

namespace Body

/-- Asks for an input of the task. -/
def input (key : String) (next : Except ResolveError String → Body) : Body :=
  .resolve (.input key) next

/-- Goes on with the value of a reference, and fails with the error if there is none. -/
def resolving (r : Ref) (next : String → Body) : Body :=
  .resolve r fun
    | .ok value => next value
    | .error e => .fail e.failure

/-- Goes on with the output of a command, and fails with the error if there is none. -/
def executing (c : Command) (next : Captured → Body) : Body :=
  .exec c fun
    | .ok captured => next captured
    | .error e => .fail e.failure

end Body
end Pipeline
