import Pipeline.Path
import Pipeline.Ref

/-!
# Commands

A command is a program and its arguments, each a literal text or a reference that is resolved when
the command runs or is compiled.
-/

namespace Pipeline

/-- An argument of a command. -/
inductive Arg where
  | literal (text : String)
  | ref (r : Ref)
deriving DecidableEq, Repr

/-- An argument in messages and listings, with references between braces. -/
def Arg.display : Arg → String
  | .literal text => text
  | .ref r => "\x7b" ++ r.display ++ "\x7d"

/-- A program, by its path or name, and its arguments in order. -/
structure Command where
  path : String
  args : List Arg
deriving DecidableEq, Repr

/-- Words with single spaces between them. -/
def spaced (words : List String) : String := " ".intercalate words

namespace Command

/-- The base name of a program; a path that names no file stands for itself. -/
def programName (path : String) : String := (Path.fileName? path).getD path

/-- The base name of the command's program. -/
def program (c : Command) : String := programName c.path

/-- The arguments as they stand, references unresolved. -/
def renderedArgs (c : Command) : List String := c.args.map Arg.display

/-- A command in messages and listings: its words with single spaces between them. -/
def display (c : Command) : String := spaced (c.path :: c.renderedArgs)

end Command
end Pipeline
