import Pipeline.Shell.Builtin

/-!
# Tests between double brackets

The words are expanded when the test gets to them and are not split. A text is compared with a
pattern, numbers are arithmetic expressions, and what cannot change the outcome is not looked at.
-/

namespace Pipeline.Shell.Test
open Sh

/-- A word that is an operator, written plainly. -/
def operator (w : Word) : Raw :=
  match w with
  | [.plain text] => text
  | _ => []

/-- The operators that stand between two words. -/
def binaryOperators : List Raw :=
  ["==", "=", "!=", "=~", "<", ">", "-eq", "-ne", "-lt", "-le", "-gt", "-ge", "-nt", "-ot",
    "-ef"].map String.toList

section
variable (sub : Substitution)

/-- Decides a comparison of two words. -/
def compare (left : Word) (op : Raw) (right : Word) : Sh Bool := do
  let a ← expandText sub left
  let numbers (holds : Int → Int → Bool) : Sh Bool := do
    let m ← arithmetic a
    let n ← arithmetic (← expandText sub right)
    return holds m n
  match String.ofList op with
  | "==" | "=" => return Pattern.accepts (Pattern.of (← expandPattern sub right)) a
  | "!=" => return !Pattern.accepts (Pattern.of (← expandPattern sub right)) a
  | "=~" => do
    let pattern := (← expandPattern sub right).map fun m => (⟨m.char, true⟩ : Mark)
    let any : Mark := ⟨'*', false⟩
    return Pattern.accepts (Pattern.of (any :: pattern ++ [any])) a
  | "-eq" => numbers (· == ·)
  | "-ne" => numbers (· != ·)
  | "-lt" => numbers fun m n => m < n
  | "-le" => numbers fun m n => m ≤ n
  | "-gt" => numbers fun m n => m > n
  | "-ge" => numbers fun m n => m ≥ n
  | _ => do
    match binaryTest (← Builtin.surroundings) op a (← expandText sub right) with
    | .holds b => return b
    | .fault _ => return false

/-- Decides a test of one word. -/
def unary (op : Raw) (w : Word) : Sh Bool := do
  match unaryTest (← Builtin.surroundings) op (← expandText sub w) with
  | .holds b => return b
  | .fault _ => return false

/-- Decides a word that stands alone. -/
def isFilled (w : Word) : Sh Bool := return !(← expandText sub w).isEmpty

/-- What a test comes to if it matters. -/
def when (live : Bool) (act : Sh Bool) : Sh Bool := if live then act else return false

mutual

/-- Decides tests joined by disjunction; the words after them are left. -/
def disjunction : Nat → Bool → List Word → Sh (Bool × List Word)
  | 0, _, ws => return (false, ws)
  | fuel + 1, live, ws => do
    let (a, rest) ← conjunction fuel live ws
    match rest with
    | w :: rest =>
      if operator w = ['|', '|'] then do
        let (b, rest) ← disjunction fuel (live && !a) rest
        return (a || b, rest)
      else return (a, w :: rest)
    | [] => return (a, [])

def conjunction : Nat → Bool → List Word → Sh (Bool × List Word)
  | 0, _, ws => return (false, ws)
  | fuel + 1, live, ws => do
    let (a, rest) ← term fuel live ws
    match rest with
    | w :: rest =>
      if operator w = ['&', '&'] then do
        let (b, rest) ← conjunction fuel (live && a) rest
        return (a && b, rest)
      else return (a, w :: rest)
    | [] => return (a, [])

def term : Nat → Bool → List Word → Sh (Bool × List Word)
  | 0, _, ws => return (false, ws)
  | fuel + 1, live, ws => do
    match ws with
    | [] => return (false, [])
    | w :: rest =>
      if operator w = ['!'] then do
        let (a, rest) ← term fuel live rest
        return (!a, rest)
      else if operator w = ['('] then do
        let (a, rest) ← disjunction fuel live rest
        return (a, rest.drop 1)
      else
        match rest with
        | op :: right :: rest =>
          if binaryOperators.contains (operator op) then
            return (← when live (compare sub w (operator op) right), rest)
          else if unaryTests.contains (operator w) then
            return (← when live (unary sub (operator w) op), right :: rest)
          else return (← when live (isFilled sub w), op :: right :: rest)
        | [arg] =>
          if unaryTests.contains (operator w) then
            return (← when live (unary sub (operator w) arg), [])
          else return (← when live (isFilled sub w), [arg])
        | [] => return (← when live (isFilled sub w), [])

end

def decideTest (ws : List Word) : Sh Bool := do
  let (b, _) ← disjunction sub (4 * ws.length + 8) true ws
  return b

end
end Pipeline.Shell.Test
