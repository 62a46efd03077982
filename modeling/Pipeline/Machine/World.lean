import Pipeline.Machine.FileSystem
import Pipeline.Shell.Syntax

/-!
# The world of running programs

What programs that run side by side share: the files, what was written to pipes, and what is still
to be read from where. Each descriptor of a program leads to a channel. A pipe is a number;
everything ever written is kept in one log, in order, so that what went through a pipe, or through
two of them, can be picked out of it.
-/

namespace Pipeline

/-- Where a descriptor leads. -/
inductive Channel where
  /-- Reads as empty and takes everything. -/
  | null
  /-- The end of a pipe that is written to. -/
  | pipe (id : Nat)
  /-- Text that is read piece by piece, by whoever comes first. -/
  | source (id : Nat)
  /-- A file that is written at its end. -/
  | file (place : Place)
deriving DecidableEq, Repr

abbrev Descriptors := List (Nat × Channel)

namespace Descriptors

/-- Leads a descriptor to a channel, wherever it led before. -/
def set (d : Descriptors) (fd : Nat) (c : Channel) : Descriptors :=
  (fd, c) :: d.filter fun e => e.1 ≠ fd

/-- Leads a descriptor nowhere. -/
def close (d : Descriptors) (fd : Nat) : Descriptors := d.filter fun e => e.1 ≠ fd

end Descriptors

/-- The files, the pipes and the sources. -/
structure MachineState where
  files : FileSystem
  /-- Everything written to pipes, latest first. -/
  log : List (Nat × Shell.Raw)
  /-- What is left of each source. -/
  unread : List (Nat × Shell.Raw)
  /-- A number that stands for nothing yet. -/
  fresh : Nat

namespace MachineState

/-- A machine with files and nothing written yet. -/
def ofFiles (files : FileSystem) (fresh : Nat) : MachineState := ⟨files, [], [], fresh⟩

def newPipe (m : MachineState) : Nat × MachineState := (m.fresh, { m with fresh := m.fresh + 1 })

def newSource (m : MachineState) (text : Shell.Raw) : Nat × MachineState :=
  (m.fresh, { m with unread := (m.fresh, text) :: m.unread, fresh := m.fresh + 1 })

/-- Writes to a channel; false if it cannot be written to. -/
def write (m : MachineState) (c : Channel) (text : Shell.Raw) : Bool × MachineState :=
  match c with
  | .null => (true, m)
  | .pipe id => (true, if text.isEmpty then m else { m with log := (id, text) :: m.log })
  | .source _ => (false, m)
  | .file place =>
    match m.files.at? place with
    | some (.file content _) =>
      (true, { m with files := m.files.fill place (content ++ Shell.Raw.toBytes text) })
    | _ => (true, { m with files := m.files.fill place (Shell.Raw.toBytes text) })

/-- What is left to read of a channel. -/
def pending (m : MachineState) (c : Channel) : Shell.Raw :=
  match c with
  | .source id => (m.unread.lookup id).getD []
  | _ => []

/-- Says what is left of a channel after reading. -/
def leave (m : MachineState) (c : Channel) (rest : Shell.Raw) : MachineState :=
  match c with
  | .source id => { m with unread := (id, rest) :: m.unread.filter fun e => e.1 ≠ id }
  | _ => m

/-- Takes out of the log what went through a pipe. -/
def drainPipe (m : MachineState) (id : Nat) : Shell.Raw × MachineState :=
  let taken := (m.log.filter fun e => e.1 = id).map (·.2)
  (taken.reverse.flatten, { m with log := m.log.filter fun e => e.1 ≠ id })

end MachineState
end Pipeline
