import Pipeline.Shell.Numeral
import Pipeline.Shell.State

/-!
# Environments

What a shell hands on to the programs that it starts: the variables it exports, slot by slot of the
table that it keeps them in. The larger shell hands on first what was set for the command alone and
what belongs to the function around it, and it counts how deeply shells nest; a program that takes
its place is one level less deep.
-/

namespace Pipeline.Shell
open Sh

/-- The slots of the table of variables of each shell, and of a small one in the larger shell. -/
def tableSize : Dialect → Nat
  | .bash => 1024
  | .dash => 39

def smallTableSize : Nat := 4

/-- The mark by which a shell finds the slot of a name. -/
def slotMark (dialect : Dialect) (name : Raw) : Nat :=
  match dialect with
  | .bash => name.foldl (fun n c => (n * 16777619 % 4294967296) ^^^ c.toNat) 2166136261
  | .dash => name.foldl (fun n c => n + c.toNat) ((name.headD ' ').toNat * 16)

/-- Variables in the order of their slots. -/
def inSlots (dialect : Dialect) (size : Nat) (vars : List (Raw × Raw)) : List (Raw × Raw) :=
  vars.mergeSort fun a b => slotMark dialect a.1 % size ≤ slotMark dialect b.1 % size

/-- The variable that counts how deeply shells nest. -/
def levelVariable : String := "SHLVL"

/-- The number at the front of a text. -/
def leadingNumber (text : Raw) : Nat := digitsValue (text.takeWhile Char.isDigit)

/-- A shell that a program takes the place of. -/
def givenUp (s : ShellState) : ShellState :=
  match s.dialect with
  | .dash => s
  | .bash =>
    let level := ((s.vars.lookup levelVariable).bind (·.value)).getD []
    s.put levelVariable ⟨some (decimal (leadingNumber level - 1)), true, false⟩

/-- The variables that a shell exports, the latest first. -/
def exported (s : ShellState) : List (Raw × Raw) :=
  s.vars.filterMap fun (name, v) =>
    if v.exported then v.value.map fun value => (name.toList, value) else none

/-- Takes the variables of each group of names out in turn; the groups, and what is left. -/
def takeGroups (vars : List (Raw × Raw)) :
    List (List String) → List (List (Raw × Raw)) × List (Raw × Raw)
  | [] => ([], vars)
  | names :: rest =>
    let (group, others) := vars.partition fun e => names.contains (.ofList e.1)
    let (groups, others) := takeGroups others rest
    (group :: groups, others)

/-- The environment of a program; `settings` are the names set for it alone. -/
def environmentOf (s : ShellState) (settings : List String) : List (Raw × Raw) :=
  match s.dialect with
  | .dash => inSlots .dash (tableSize .dash) (exported s).reverse
  | .bash =>
    let scopes := s.hidden.map fun scope => scope.map (·.1)
    let (groups, others) := takeGroups (exported s) (settings :: scopes)
    groups.flatMap (inSlots .bash smallTableSize) ++ inSlots .bash (tableSize .bash) others
      ++ s.passed

/-- Puts a variable into an environment, in its place if it is there. -/
def setIn (env : List (Raw × Raw)) (name value : Raw) : List (Raw × Raw) :=
  if env.any fun e => e.1 = name then env.map fun e => if e.1 = name then (name, value) else e
  else env ++ [(name, value)]

/-- The variable that tells a program of the larger shell where it was found. -/
def pathVariable : Raw := ['_']

end Pipeline.Shell
