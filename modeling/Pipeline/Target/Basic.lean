import Pipeline.Command
import Pipeline.Stream.Copy
import Pipeline.Target.Error

/-!
# Targets

A target is the system that a task acts on. It executes a command whose arguments are resolved, and
it offers the sinks that the output of each command is copied to. A target is a state and functions
on it, so that it may remember what it was asked and what its sinks took, and answer accordingly.
Its answers may be errors or panics, and a panic may come before there is a future to guard.
-/

namespace Pipeline

/-- The answer of a target to one command. -/
inductive Execution where
  | streams (stdout stderr : Reader)
  | error (e : TargetError)
  /-- The future of the answer panicked. -/
  | panic (payload : Panic)
  /-- The call panicked before it gave a future. -/
  | unwound (payload : Panic)
deriving DecidableEq, Repr

/-- A system that executes commands, in states of the type `σ`. -/
structure Target (σ : Type) where
  execute : Command → List String → σ → Execution × σ
  /-- A fresh sink for one command. -/
  sink : Stream → σ → Sink
  /-- Notes what the sinks of a command took. -/
  absorb : Bytes → Bytes → σ → σ

/-- One command a target was asked to execute. -/
structure Invocation where
  path : String
  args : List String
deriving DecidableEq, Repr

def Invocation.line (i : Invocation) : String := spaced (i.path :: i.args)

/-- What the sinks of a target have taken, over all commands. -/
structure Outputs where
  stdout : Bytes
  stderr : Bytes
deriving DecidableEq, Repr

namespace Outputs

def empty : Outputs := ⟨[], []⟩

/-- Puts more output behind what there is. -/
def add (o : Outputs) (out err : Bytes) : Outputs := ⟨o.stdout ++ out, o.stderr ++ err⟩

/-- The output of one stream. -/
def get (o : Outputs) : Stream → Bytes
  | .stdout => o.stdout
  | .stderr => o.stderr

end Outputs

/-- A record of invocations and of what the sinks took. -/
structure Record where
  invocations : List Invocation
  outputs : Outputs
deriving DecidableEq, Repr

namespace Record

def empty : Record := ⟨[], .empty⟩

/-- Notes an invocation. -/
def invoke (r : Record) (path : String) (args : List String) : Record :=
  { r with invocations := r.invocations ++ [⟨path, args⟩] }

/-- Notes what the sinks took. -/
def absorb (out err : Bytes) (r : Record) : Record := { r with outputs := r.outputs.add out err }

end Record
end Pipeline
