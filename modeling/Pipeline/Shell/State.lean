import Pipeline.Machine.World
import Pipeline.Path
import Pipeline.Shell.Syntax

/-!
# The state of a shell

What a shell keeps between its commands, beside the world that it shares with other programs. A
command changes both and comes to a status, or it stops what is around it: a loop, a function, the
rest of a line or the whole shell. A stop says how far it reaches; whoever is meant catches it.
-/

namespace Pipeline.Shell

/-- The value of a variable, and how it is marked. -/
structure Variable where
  /-- A variable may be marked without having a value. -/
  value : Option Raw
  exported : Bool
  readOnly : Bool
deriving DecidableEq, Repr

/-- Puts a variable in place of the one of its name, or in front if there is none. -/
def setVariable (name : String) (v : Variable) (vars : List (String × Variable)) :
    List (String × Variable) :=
  if vars.any fun e => e.1 = name then vars.map fun e => if e.1 = name then (name, v) else e
  else (name, v) :: vars

/-- What `set` switches. -/
structure Options where
  exportAll : Bool := false
  stopOnFailure : Bool := false
  noGlob : Bool := false
  unsetIsError : Bool := false
  pipeFailure : Bool := false
  trace : Bool := false
  readOnlyParse : Bool := false
deriving DecidableEq, Repr

/-- Where the commands of a shell come from. -/
inductive ScriptOrigin where
  | argument
  | file
  | standardInput
deriving DecidableEq, Repr

/-- What a shell keeps between its commands. -/
structure ShellState where
  dialect : Dialect
  origin : ScriptOrigin
  /-- The parameter zero. -/
  name : Raw
  /-- Whom complaints name, and what about. -/
  speaker : Raw
  subject : Option Raw
  args : List Raw
  vars : List (String × Variable)
  /-- What was inherited under names that no variable can have. -/
  passed : List (Raw × Raw)
  /-- Each function with the name that its complaints show. -/
  functions : List (String × Raw × Command)
  descriptors : Descriptors
  here : Place
  status : Nat
  line : Nat
  options : Options
  /-- Whether a failure here is looked at by a command around. -/
  guarded : Bool
  /-- Whether this is a shell inside another one. -/
  nested : Bool
  /-- Whether the shell has nothing to do after the command at hand. -/
  last : Bool
  /-- The number of loops around, of functions, and of files that are read. -/
  loops : Nat
  calls : Nat
  sourced : Nat
  /-- What the variables of each function hid, innermost function first. -/
  hidden : List (List (String × Option Variable))
  traps : List (String × Raw)
  pid : Nat
  background : Option Nat
  backgroundStatus : Nat
  /-- The status of the last substitution since a command began. -/
  substituted : Option Nat

namespace ShellState

/-- Sets a variable, whatever it was. -/
def put (s : ShellState) (name : String) (v : Variable) : ShellState :=
  { s with vars := setVariable name v s.vars }

/-- Takes a variable away. -/
def forget (s : ShellState) (name : String) : ShellState :=
  { s with vars := s.vars.filter fun e => e.1 ≠ name }

end ShellState

/-- What ends more than one command. -/
inductive Stop where
  | exit (code : Nat)
  /-- A process was ended by a signal. -/
  | killed (pid signal : Nat)
  /-- Leaves so many loops, or goes on with the next round of the last of them. -/
  | leave (loops : Nat)
  | again (loops : Nat)
  /-- Leaves a function or a file. -/
  | back (code : Nat)
  /-- Gives the rest of the line up. -/
  | abandon (code : Nat)
  /-- Nothing came to an end in time. -/
  | spent
deriving DecidableEq, Repr

/-- A shell and the world around it. -/
structure Scene where
  shell : ShellState
  machine : MachineState

/-- An action of a shell: it changes the scene and answers, or it stops. -/
abbrev Sh := EStateM Stop Scene

namespace Sh

def shell : Sh ShellState := return (← get).shell

def setShell (s : ShellState) : Sh Unit := modify fun w => { w with shell := s }

def modifyShell (f : ShellState → ShellState) : Sh Unit :=
  modify fun w => { w with shell := f w.shell }

def machine : Sh MachineState := return (← get).machine

def files : Sh FileSystem := return (← get).machine.files

def setFiles (files : FileSystem) : Sh Unit :=
  modify fun w => { w with machine := { w.machine with files } }

/-- Changes the machine and answers with something of it. -/
def modifyMachine {α : Type} (f : MachineState → α × MachineState) : Sh α :=
  modifyGet fun w => let (a, m) := f w.machine; (a, { w with machine := m })

/-- Writes to a descriptor; false if that leads nowhere. -/
def write (fd : Nat) (text : Raw) : Sh Bool := do
  match (← shell).descriptors.lookup fd with
  | none => return false
  | some channel => modifyMachine (·.write channel text)

/-- The text in front of every complaint. -/
def mark : Sh Raw := do
  let s ← shell
  let line := (toString s.line).toList
  match s.dialect with
  | .bash => return s.speaker ++ ": line ".toList ++ line ++ [':', ' ']
  | .dash =>
    let subject := match s.subject with
      | some text => text ++ [':', ' ']
      | none => []
    return s.speaker ++ [':', ' '] ++ line ++ [':', ' '] ++ subject

/-- Complains on standard error. -/
def complain (text : Raw) : Sh Unit := do
  let _ ← write 2 ((← mark) ++ text ++ ['\n'])

/-- Complains about what a command says. -/
def complainOf (command : Raw) (text : Raw) : Sh Unit := do
  match (← shell).dialect with
  | .bash => complain (command ++ [':', ' '] ++ text)
  | .dash => do
    let s ← shell
    setShell { s with subject := some command }
    complain text
    setShell s

/-- Runs something with a changed shell, and puts the shell back as it was however it ends. -/
def within {α : Type} (enter : ShellState → ShellState)
    (restore : ShellState → ShellState → ShellState) (act : Sh α) : Sh α := do
  let before ← shell
  setShell (enter before)
  try
    let a ← act
    modifyShell (restore before)
    return a
  catch e =>
    modifyShell (restore before)
    throw e

/-! ### Variables -/

/-- The value of a variable, if it has one. -/
def lookup (name : String) : Sh (Option Raw) := do
  return ((← shell).vars.lookup name).bind (·.value)

/-- Complains about a variable that is read-only; that ends a line, or the shell. -/
def refuse (name : String) : Sh Unit := do
  let text : Raw := name.toList
  match (← shell).dialect with
  | .bash => complain (text ++ ": readonly variable".toList)
  | .dash => do
    complain (text ++ ": is read only".toList)
    throw (.exit 2)

/-- Sets a variable; false if it is read-only. -/
def assign? (name : String) (value : Raw) : Sh Bool := do
  let s ← shell
  match s.vars.lookup name with
  | some v =>
    if v.readOnly then return false
    else do
      setShell (s.put name { v with value := some value })
      return true
  | none => do
    setShell (s.put name ⟨some value, s.options.exportAll, false⟩)
    return true

/-- Sets a variable, or gives the line up. -/
def assign (name : String) (value : Raw) : Sh Unit := do
  if !(← assign? name value) then
    refuse name
    throw (.abandon 1)

end Sh
end Pipeline.Shell
