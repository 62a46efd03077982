import Pipeline.Command
import Pipeline.Run.State
import Pipeline.Text.Quoted

/-!
# Resolution

A reference is resolved on behalf of a step: an input by the values supplied, an output by what the
run state records. Running and compiling share these rules.
-/

namespace Pipeline
open Text

/-- Why a reference has no value. -/
inductive ResolveError where
  | missingInput (step key : String)
  /-- The producer has recorded nothing yet. -/
  | producerNotRun (step producer key : String)
  /-- The producer has completed without that output. -/
  | missingOutput (step producer key : String)
deriving DecidableEq, Repr

namespace ResolveError

/-- The step on whose behalf the reference was resolved. -/
def step : ResolveError → String
  | .missingInput step _ => step
  | .producerNotRun step .. => step
  | .missingOutput step .. => step

/-- The text of an error, with the step in front. -/
def message : ResolveError → String
  | .missingInput step key =>
    "step " ++ quoted step ++ ": no input provided for key " ++ quoted key
  | .producerNotRun step producer key =>
    "step " ++ quoted step ++ ": depends on " ++ quoted key ++ " of " ++ quoted producer ++
      " but " ++ quoted producer ++ " is not yet executed"
  | .missingOutput step producer key =>
    "step " ++ quoted step ++ ": step " ++ quoted producer ++ " does not have output named " ++
      quoted key

end ResolveError

/-- The value of a reference on behalf of a step. -/
def resolve (step : String) (inputs : Inputs) (state : RunState) (r : Ref) :
    Except ResolveError String :=
  match r.step with
  | none =>
    match inputs.get? r.key with
    | some value => .ok value
    | none => .error (.missingInput step r.key)
  | some producer =>
    match state.outputs? producer with
    | none => .error (.producerNotRun step producer r.key)
    | some outputs =>
      match outputs.get? r.key with
      | some value => .ok value
      | none => .error (.missingOutput step producer r.key)

/-- The text of an argument on behalf of a step. -/
def resolveArg (step : String) (inputs : Inputs) (state : RunState) :
    Arg → Except ResolveError String
  | .literal text => .ok text
  | .ref r => resolve step inputs state r

/-- The arguments of a command, or the error of the first that cannot be resolved. -/
def resolveArgs (step : String) (inputs : Inputs) (state : RunState) :
    List Arg → Except ResolveError (List String)
  | [] => .ok []
  | a :: as =>
    match resolveArg step inputs state a with
    | .error e => .error e
    | .ok value =>
      match resolveArgs step inputs state as with
      | .error e => .error e
      | .ok values => .ok (value :: values)

end Pipeline
