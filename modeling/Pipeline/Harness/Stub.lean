import Pipeline.Command
import Pipeline.Stream.Drain
import Pipeline.Stream.Writer
import Pipeline.Text.Quoted

/-!
# Stubs

A stub is a command that is expected and what happens in its place: a handler, which writes to the
two output streams, chooses an exit code and may fail. A stub stands for an invocation only if the
path is the same text and the arguments are the same list.
-/

namespace Pipeline
open Text

/-- One thing a handler does. -/
inductive Deed where
  | out (bytes : Bytes)
  | err (bytes : Bytes)
  | exit (code : Int)
  /-- Fails with a message. -/
  | fail (message : String)
deriving DecidableEq, Repr

/-- A command that is expected, and what happens in its place. -/
structure Stub where
  command : Command
  handler : List Deed
deriving DecidableEq, Repr

/-- What a handler acts on. -/
structure StubContext where
  /-- What was written, in order. -/
  pieces : Pieces
  /-- How many more bytes fit standard output, if there is a bound. -/
  room : Option Nat
  /-- The exit code chosen last. -/
  exitCode : Option Int
deriving DecidableEq, Repr

namespace StubContext

/-- Nothing is written, and standard output has no bound. -/
def fresh : StubContext := ⟨[], none, none⟩

/-- A context whose standard output has room for so many bytes. -/
def bounded (room : Nat) : StubContext := ⟨[], some room, none⟩

/-- Writes to standard error, which has room for everything. -/
def err (c : StubContext) (bytes : Bytes) : StubContext :=
  { c with pieces := c.pieces ++ [(.stderr, bytes)] }

/-- Writes to standard output. What does not fit is cut off and the write fails. -/
def out (c : StubContext) (bytes : Bytes) : Option IoError × StubContext :=
  let (failure, w) := (Writer.mk [] c.room).put bytes
  (failure, { c with pieces := c.pieces ++ [(.stdout, w.written)], room := w.room })

/-- Everything written to a stream. -/
def written (c : StubContext) (stream : Stream) : Bytes := c.pieces.on stream

end StubContext

namespace Stub

/-- A stub that writes a text and exits successfully. -/
def withOutput (command : Command) (output : String) : Stub :=
  ⟨command, [.out (Utf8.encode output)]⟩

/-- The base name of the program stood in for. -/
def binary (s : Stub) : String := s.command.program

/-- The path that an invocation must have, to the letter. -/
def path (s : Stub) : String := s.command.path

/-- Whether the stub stands for an invocation. -/
def standsFor (s : Stub) (path : String) (args : List String) : Bool :=
  s.command.path == path && s.command.renderedArgs == args

/-- Does the deeds of a handler in turn, up to the first that fails. -/
def perform : List Deed → StubContext → Option IoError × StubContext
  | [], c => (none, c)
  | .out bytes :: deeds, c =>
    match c.out bytes with
    | (some e, c) => (some e, c)
    | (none, c) => perform deeds c
  | .err bytes :: deeds, c => perform deeds (c.err bytes)
  | .exit code :: deeds, c => perform deeds { c with exitCode := some code }
  | .fail message :: _, c => (some (.other message), c)

/-- Texts between brackets, each quoted. -/
def quotedList (texts : List String) : String := "[" ++ ", ".intercalate (texts.map quoted) ++ "]"

/-- What a process writes that was started for an invocation no stub stands for. -/
def unknownText (path : String) (args : List String) (known : List String) : String :=
  "Path " ++ path ++ " args " ++ quotedList args ++ " is not expected; known stubs: " ++
    quotedList known ++ "\n"

/-- What a process writes whose handler failed. -/
def failureText (path : String) (e : IoError) : String :=
  "stub for " ++ path ++ " failed: " ++ e.message ++ "\n"

/-- The first of the stubs that stands for an invocation. -/
def find? (stubs : List Stub) (path : String) (args : List String) : Option Stub :=
  stubs.find? fun s => s.standsFor path args

/-- Stands in for the program at `path`; answers the exit code. -/
def serve (stubs : List Stub) (path : String) (args : List String) (c : StubContext) :
    Int × StubContext :=
  match find? stubs path args with
  | none => (1, c.err (Utf8.encode (unknownText path args (stubs.map (·.command.display)))))
  | some s =>
    match perform s.handler c with
    | (none, c) => (c.exitCode.getD 0, c)
    | (some e, c) => (1, c.err (Utf8.encode (failureText path e)))

end Stub

/-- Renders an unexpected invocation as an expectation to add. -/
abbrev ExpectationPrinter := String → List String → String

/-- An invocation as a list of quoted texts. -/
def quotedInvocation (path : String) (args : List String) : String :=
  ", ".intercalate ((path :: args).map quoted)

/-- Renders an invocation as the definition of a stub that says it succeeded. -/
def stubDefinition : ExpectationPrinter := fun path args =>
  "ExecutionStub::new(cmd!(" ++ quotedInvocation path args ++
    "), |ctx| \x7b\n    writeln!(ctx.stdout, \"" ++ Command.programName path ++
    " succeeded.\")\n\x7d)"

end Pipeline
