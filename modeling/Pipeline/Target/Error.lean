import Pipeline.Fault
import Pipeline.Text.Quoted
import Pipeline.Text.Utf8

/-!
# Errors of targets

What can go wrong when a command is executed. Each error has a message and the texts of the errors
behind it, outermost first. The message of an unsuccessful exit spreads over tagged lines, so that
it can be picked out of a log line by line.
-/

namespace Pipeline
open Text

/-- Tags the lines of a message that report an exit code or a combined output. -/
def logTag : String := "StepforgeInvocation"

/-- A command that ran and exited unsuccessfully. -/
structure ExitError where
  program : String
  /-- The exit code, or none if a signal ended the program. -/
  code : Option Int
  /-- Both output streams in the order of arrival. -/
  combinedOutput : String
deriving DecidableEq, Repr

/-- Three parts, each on a line of its own: who, the exit code, and the output to its end. -/
def ExitError.message (e : ExitError) : String :=
  e.program ++ " exited unsuccessfully\n" ++
  logTag ++ " exit code: " ++ toString (e.code.getD (-1)) ++ "\n" ++
  logTag ++ " combined output: " ++ e.combinedOutput

/-- What can go wrong when a harness is set up or asked for a stub. -/
inductive HarnessError where
  /-- The stub at that index has a command without a path. -/
  | emptyStubPath (index : Nat) (command : String)
  /-- Two stubs stand for different programs of one base name. -/
  | conflictingStubs (binary first second : String)
  | bashNotFound
  | notStarted
  | io (error : IoError)
deriving DecidableEq, Repr

namespace HarnessError

def message : HarnessError → String
  | .emptyStubPath index command =>
    "bug: empty command path in stub at " ++ toString index ++ ": " ++ command
  | .conflictingStubs binary first second =>
    "stubs for " ++ quoted first ++ " and " ++ quoted second ++ " both need a wrapper named " ++
      quoted binary
  | .bashNotFound => "bash not found in PATH; it is required to run harness wrappers"
  | .notStarted =>
    "harness has not been started; call Harness::start before executing stubbed commands"
  | .io error => "IO error: " ++ error.message

def causes : HarnessError → List String
  | .io error => [error.message]
  | _ => []

end HarnessError

/-- Why a command was not executed to a good end. -/
inductive TargetError where
  | spawn (program : String) (error : IoError)
  | exit (error : ExitError)
  | io (program : String) (error : IoError)
  /-- Neither a stub nor permission covers the command; `expectation` says how to add a stub. -/
  | unexpectedCommand (rendered expectation : String)
  /-- A shell could not find a program that it was to run. -/
  | binaryNotFound (binary invokedBy : String)
  /-- The program itself could not be found. -/
  | executableNotFound (path : String)
  | harness (error : HarnessError)
deriving DecidableEq, Repr

namespace TargetError

def notFoundAdvice (name : String) : String :=
  " is not found in $PATH - this might be an unexpected execution or typo. " ++
  "Either add an expectation for " ++ quoted name ++ " to the test harness, or fix the typo in " ++
  quoted name

def message : TargetError → String
  | .spawn program error => "failed to start " ++ program ++ ": " ++ error.message
  | .exit error => error.message
  | .io program error => "failed to read output of " ++ program ++ ": " ++ error.message
  | .unexpectedCommand rendered expectation =>
    "command " ++ rendered ++ " is not expected for execution. Add the below as expectation:\n" ++
      expectation ++ "\n"
  | .binaryNotFound binary invokedBy =>
    quoted binary ++ " executed by " ++ quoted invokedBy ++ notFoundAdvice binary
  | .executableNotFound path => "executable file " ++ quoted path ++ notFoundAdvice path
  | .harness error => "harness error: " ++ error.message

def causes : TargetError → List String
  | .spawn _ error => [error.message]
  | .io _ error => [error.message]
  | .harness error => error.message :: error.causes
  | _ => []

end TargetError
end Pipeline
