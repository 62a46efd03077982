import Pipeline.Shell.Syntax

/-!
# Signals

The numbers and names of signals, and what a process does that has no trap for one.
-/

namespace Pipeline.Shell.Signal

/-- The signals by number. -/
def table : List (Nat × String) := [
  (1, "HUP"), (2, "INT"), (3, "QUIT"), (4, "ILL"), (5, "TRAP"), (6, "ABRT"), (7, "BUS"), (8, "FPE"),
  (9, "KILL"), (10, "USR1"), (11, "SEGV"), (12, "USR2"), (13, "PIPE"), (14, "ALRM"), (15, "TERM"),
  (16, "STKFLT"), (17, "CHLD"), (18, "CONT"), (19, "STOP"), (20, "TSTP"), (21, "TTIN"),
  (22, "TTOU"), (23, "URG"), (24, "XCPU"), (25, "XFSZ"), (26, "VTALRM"), (27, "PROF"),
  (28, "WINCH"), (29, "POLL"), (30, "PWR"), (31, "SYS")]

/-- The name of the trap that runs when a shell ends. -/
def atExit : String := "EXIT"

/-- The name of a signal, without its first three letters. -/
def name? (number : Nat) : Option String := table.lookup number

/-- The number of a signal that has a name. -/
def number? (name : String) : Option Nat := (table.find? fun e => e.2 = name).map (·.1)

/-- The name of a signal that is given by name, with `SIG` in front or not, or by number. -/
def named (text : Raw) : Option String :=
  if text = ['0'] then some atExit
  else if !text.isEmpty ∧ text.all Char.isDigit then
    name? (text.foldl (fun n d => n * 10 + (d.toNat - 48)) 0)
  else
    let upper := text.map Char.toUpper
    let bare := String.ofList (if ['S', 'I', 'G'].isPrefixOf upper then upper.drop 3 else upper)
    if bare = atExit ∨ (number? bare).isSome then some bare else none

/-- Signals that do nothing to a process without a trap. -/
def harmless : List Nat := [0, 17, 18, 23, 28]

/-- Signals that no process can catch. -/
def uncatchable : List Nat := [9, 19]

/-- The status of a shell command whose process was ended by a signal. -/
def status (number : Nat) : Nat := 128 + number

end Pipeline.Shell.Signal
