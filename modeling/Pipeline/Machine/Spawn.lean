import Pipeline.Dict
import Pipeline.Machine.FileSystem
import Pipeline.Stream.Drain

/-!
# Starting programs

A `Spawn` says what to start: a program, its arguments, its whole environment and where it works. A
`Starter` is a system that can start programs. It refuses, or it runs the program to its end and
delivers the pieces of its output and how it ended; either way files may have changed.
-/

namespace Pipeline

/-- What is to be started, and how. -/
structure Spawn where
  program : String
  args : List String
  env : Dict String
  /-- Whether the search list in `env` was chosen for the program and not inherited. -/
  searchChosen : Bool
  /-- The directory to work in, if it is not the one of the starting program. -/
  workingDir : Option String
deriving DecidableEq

/-- The variable that holds the search list. -/
def searchVariable : String := "PATH"

/-- How a program ended. -/
inductive Exit where
  | code (value : Nat)
  | signal (number : Nat)
deriving DecidableEq, Repr

namespace Exit

/-- Only the code zero is a success. -/
def isSuccess (e : Exit) : Bool := e == .code 0

/-- The exit code, which a program ended by a signal does not have. -/
def code? : Exit → Option Int
  | .code value => some value
  | .signal _ => none

end Exit

/-- A program that ran to its end. -/
structure Finished where
  pieces : Pieces
  exit : Exit
  /-- What broke the reading of a pipe off, if anything did. -/
  stdoutFault : Option IoError := none
  stderrFault : Option IoError := none
deriving DecidableEq, Repr

/-- A system that can start programs. -/
abbrev Starter := Spawn → FileSystem → Except IoError Finished × FileSystem

/-- Stands for the name of a program that cannot be passed on. -/
def unspeakable : String := "<string-with-nul>"

namespace Spawn

/-- Whether a text holds the character that ends every text given to a program. -/
def hasNul (text : String) : Bool := text.toList.contains '\x00'

/-- The program as messages show it. -/
def shown (s : Spawn) : String := if hasNul s.program then unspeakable else s.program

/-- Whether some text of the spawn holds a character that no program can be given. -/
def isUnspeakable (s : Spawn) : Bool :=
  hasNul s.program || s.args.any hasNul || (s.workingDir.map hasNul).getD false ||
    s.env.toList.any fun e => hasNul e.1 || hasNul e.2

end Spawn
end Pipeline
