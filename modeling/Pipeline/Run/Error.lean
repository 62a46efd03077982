import Pipeline.Stream.Copy
import Pipeline.Task.Body

/-!
# Failures of a run

A run stops at one step and for one reason.
-/

namespace Pipeline
open Text

/-- Why a run stopped. -/
inductive RunError where
  | resolve (e : ResolveError)
  | execution (step : String) (e : TargetError)
  | stream (step : String) (e : StreamError)
  | func (step : String) (f : Failure)
  | panicked (step message : String)
deriving DecidableEq, Repr

namespace RunError

/-- The step that the run stopped at. -/
def step : RunError → String
  | .resolve e => e.step
  | .execution step _ => step
  | .stream step _ => step
  | .func step _ => step
  | .panicked step _ => step

/-- The text of an error, with the step in front. -/
def message : RunError → String
  | .resolve e => e.message
  | .execution step e => "step " ++ quoted step ++ ": " ++ e.message
  | .stream step e => "step " ++ quoted step ++ ": " ++ e.message
  | .func step f => "step " ++ quoted step ++ ": " ++ f.line
  | .panicked step message => "step " ++ quoted step ++ ": unhandled error: " ++ message

/-- The texts of the errors behind an error, outermost first. -/
def causes : RunError → List String
  | .resolve _ => []
  | .execution _ e => e.message :: e.causes
  | .stream _ e => e.message :: e.causes
  | .func _ f => f.chain
  | .panicked .. => []

/-- An error as a failure: its text and what is behind it. -/
def failure (e : RunError) : Failure := ⟨e.message, e.causes⟩

end RunError
end Pipeline
