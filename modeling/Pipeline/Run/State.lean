import Pipeline.Dict

/-!
# Run states

A run state holds the outputs of the steps that have completed, by the name of the step and the key
of the output.
-/

namespace Pipeline

/-- Values supplied for the inputs of a task. -/
abbrev Inputs := Dict String

/-- The outputs recorded so far, by step and key. -/
abbrev RunState := Dict (Dict String)

namespace RunState

/-- The outputs of a step, if it has completed. -/
def outputs? (s : RunState) (step : String) : Option (Dict String) := s.get? step

def output? (s : RunState) (step key : String) : Option String :=
  (s.outputs? step).bind fun d => d.get? key

/-- Whether a step has completed. -/
def hasRun (s : RunState) (step : String) : Bool := s.contains step

/-- Records the outputs of a step, in place of those it had. -/
def record (s : RunState) (step : String) (outputs : Dict String) : RunState :=
  s.insert step outputs

theorem outputs?_record (s : RunState) (step name : String) (outputs : Dict String) :
    (s.record step outputs).outputs? name =
      if name = step then some outputs else s.outputs? name :=
  Dict.get?_insert ..

theorem outputs?_record_self (s : RunState) (step : String) (outputs : Dict String) :
    (s.record step outputs).outputs? step = some outputs :=
  Dict.get?_insert_self ..

/-- Recording a step leaves the entries of the others as they are. -/
theorem outputs?_record_of_ne (s : RunState) {step name : String} (outputs : Dict String)
    (h : name ≠ step) : (s.record step outputs).outputs? name = s.outputs? name :=
  Dict.get?_insert_of_ne _ _ h

end RunState
end Pipeline
