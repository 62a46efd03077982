import Pipeline.Task.Basic

/-!
# Listing a task

The main steps and the cleanup steps in two numbered lists; an empty list is left out.
-/

namespace Pipeline.Cli

/-- What a step runs. -/
def describeRunnable : Runnable → String
  | .command c => c.display
  | .func f => "func " ++ f.name ++ " -> [" ++ ", ".intercalate f.outputs ++ "]"

/-- Steps on numbered lines. -/
def describeList (number : Nat) : List Step → String
  | [] => ""
  | s :: ss =>
    "  " ++ toString number ++ ". " ++ s.name ++ ": " ++ describeRunnable s.runnable ++ "\n" ++
      describeList (number + 1) ss

/-- A list under its title. -/
def describeSection (title : String) (steps : List Step) : String :=
  if steps.isEmpty then "" else title ++ ":\n" ++ describeList 1 steps

/-- Lists a task: its steps and its cleanup steps under their titles, an empty list not at all. -/
def describe (t : Task) : String :=
  describeSection "steps" t.steps ++ describeSection "cleanup" t.cleanup

end Pipeline.Cli
