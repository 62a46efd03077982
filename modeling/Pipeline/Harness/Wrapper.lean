import Pipeline.Harness.Launch
import Pipeline.Shell.Quote

/-!
# Wrappers

A wrapper is a shell script that stands where a program would. It keeps the caller's standard output
at a third descriptor, silences the first, and becomes the process that serves the stub, to which it
announces the path it stands for and hands its arguments. All texts in it are quoted.
-/

namespace Pipeline.Wrapper
open Shell (quote)

/-- The part of the command line that makes a test runner run one test only. -/
def testFilter : Option String → String
  | some name => quote name ++ " --exact "
  | none => ""

/-- The last line of a wrapper. -/
def callLine (stubPath selfExe : String) (testName : Option String) : String :=
  Launch.invocationVariable ++ "=" ++ quote stubPath ++ " exec " ++ quote selfExe ++ " " ++
    testFilter testName ++ Launch.separator ++ " \"$@\""

/-- The wrapper that stands for `stubPath`, to be run by `bash`. -/
def script (bash stubPath selfExe : String) (testName : Option String) : String :=
  "#!" ++ bash ++ " -e\nexec 3>&1 1>/dev/null\n" ++ callLine stubPath selfExe testName ++ "\n"

end Pipeline.Wrapper
