/-!
# References

A reference stands for a value that exists only once a task runs: an input of the task, or an output
of one of its steps.
-/

namespace Pipeline

/-- The key of a value, and who produces it. -/
structure Ref where
  /-- The step that produces the value, or none for an input. -/
  step : Option String
  key : String
deriving DecidableEq, Repr

namespace Ref

/-- A reference to an input of the task. -/
def input (key : String) : Ref := ⟨none, key⟩

/-- A reference to an output of a step. -/
def output (step key : String) : Ref := ⟨some step, key⟩

/-- Whether no step produces the value. -/
def isInput (r : Ref) : Bool := r.step.isNone

/-- A reference in messages and listings. -/
def display (r : Ref) : String := r.step.getD "inputs" ++ "." ++ r.key

end Ref
end Pipeline
