import Pipeline.Shell.Words

/-!
# Arithmetic of the shell

Integers of 64 bits with the operators of C. A name stands for the value of a variable, which is
zero if it is empty or unset; assignments change variables.
-/

namespace Pipeline.Shell.Arithmetic

inductive Fault where
  | divisionByZero
  | operandExpected
  | trailing
  /-- A constant with a digit that its base does not have. -/
  | badConstant
  | tooDeep
deriving DecidableEq, Repr

/-- A fault, and how many tokens were left from the one to blame on. -/
structure Blame where
  fault : Fault
  left : Nat
deriving DecidableEq, Repr

inductive Token where
  | number (value : Int)
  | name (text : String)
  | op (text : String)
deriving DecidableEq, Repr

/-- The value modulo 2 ^ 64, between -2 ^ 63 and 2 ^ 63. -/
def wrap (n : Int) : Int := n.bmod wordValues

def operators : List String :=
  ["<<=", ">>=", "**", "++", "--", "+=", "-=", "*=", "/=", "%=", "&=", "^=", "|=", "<<", ">>",
    "<=", ">=", "==", "!=", "&&", "||", "<", ">", "=", "+", "-", "*", "/", "%", "&", "^", "|", "!",
    "~", "?", ":", "(", ")", ","]

/-- The number that digits spell in a base. -/
def inBase (base : Nat) (ds : Raw) : Option Int :=
  ds.foldlM (fun n d =>
    if d.isAlphanum ∧ digitValue d < base then some (n * base + digitValue d) else none) (0 : Int)

def constant (ds : Raw) : Option Int :=
  match ds with
  | '0' :: 'x' :: ds => inBase 16 ds
  | '0' :: 'X' :: ds => inBase 16 ds
  | '0' :: ds => inBase 8 ds
  | ds =>
    match ds.takeWhile (· ≠ '#'), ds.dropWhile (· ≠ '#') with
    | base, '#' :: ds => do inBase (← inBase 10 base).toNat ds
    | ds, _ => inBase 10 ds

/-- The tokens of an expression, each with the text that begins with it. -/
def tokens (known : List String) (fuel : Nat) (cs : Raw) :
    Except (Fault × Raw) (List (Token × Raw)) :=
  match fuel with
  | 0 => .error (.tooDeep, cs)
  | fuel + 1 =>
    match cs with
    | [] => .ok []
    | c :: rest =>
      if isBlank c ∨ c = '\n' then tokens known fuel rest
      else if c.isDigit then
        let ds := cs.takeWhile fun c => c.isAlphanum || c = '#'
        match constant ds with
        | some n => (tokens known fuel (cs.drop ds.length)).map ((.number n, cs) :: ·)
        | none => .error (.badConstant, ds)
      else if isNameStart c then
        let name := cs.takeWhile isNameChar
        (tokens known fuel (cs.drop name.length)).map ((.name (.ofList name), cs) :: ·)
      else
        match known.find? fun o => o.toList.isPrefixOf cs with
        | some o => (tokens known fuel (cs.drop o.length)).map ((.op o, cs) :: ·)
        | none => .error (.operandExpected, cs)

/-- What is left to read, and the variables as set so far. -/
structure State where
  rest : List Token
  vars : String → Option Raw
  changed : List (String × Int)

/-- An evaluation reads tokens, may set variables and may fail. -/
abbrev Eval := StateT State (Except Blame)

/-- Blames the token that comes next. -/
def fail {α : Type} (fault : Fault) : Eval α := do throw ⟨fault, (← get).rest.length⟩

/-- The value of the text of a variable. -/
def ofText (cs : Raw) : Int :=
  let cs := cs.filter fun c => !isBlank c
  match cs with
  | '-' :: ds => -((constant ds).getD 0)
  | '+' :: ds => (constant ds).getD 0
  | ds => (constant ds).getD 0

def lookup (name : String) : Eval Int := do
  let s ← get
  match s.changed.lookup name with
  | some n => return n
  | none => return ((s.vars name).map ofText).getD 0

def assign (name : String) (value : Int) : Eval Int := do
  modify fun s => { s with changed := (name, value) :: s.changed }
  return value

def peek : Eval (Option Token) := return (← get).rest.head?
def advance : Eval Unit := modify fun s => { s with rest := s.rest.drop 1 }

/-- How tightly a binary operator binds. -/
def strength : String → Option Nat
  | "**" => some 12
  | "*" | "/" | "%" => some 11
  | "+" | "-" => some 10
  | "<<" | ">>" => some 9
  | "<" | ">" | "<=" | ">=" => some 8
  | "==" | "!=" => some 7
  | "&" => some 6
  | "^" => some 5
  | "|" => some 4
  | "&&" => some 3
  | "||" => some 2
  | _ => none

/-- Truth is one. -/
def ofBool (b : Bool) : Int := if b then 1 else 0

/-- A number as the bits of a 64-bit word. -/
def bits (n : Int) : Nat := (n.emod wordValues).toNat

/-- The value of an operator on two numbers; `left` tokens were left before the second. -/
def apply (op : String) (a b : Int) (left : Nat) : Eval Int :=
  match op with
  | "**" => return wrap (Int.pow a b.toNat)
  | "*" => return wrap (a * b)
  | "/" => if b = 0 then throw ⟨.divisionByZero, left⟩ else return wrap (a.tdiv b)
  | "%" => if b = 0 then throw ⟨.divisionByZero, left⟩ else return a.tmod b
  | "+" => return wrap (a + b)
  | "-" => return wrap (a - b)
  | "<<" => return wrap (a * Nat.pow 2 (b.emod wordBits).toNat)
  | ">>" => return a.fdiv (Nat.pow 2 (b.emod wordBits).toNat)
  | "<" => return ofBool (a < b)
  | ">" => return ofBool (a > b)
  | "<=" => return ofBool (a ≤ b)
  | ">=" => return ofBool (a ≥ b)
  | "==" => return ofBool (a = b)
  | "!=" => return ofBool (a ≠ b)
  | "&" => return wrap (bits a &&& bits b : Nat)
  | "^" => return wrap (bits a ^^^ bits b : Nat)
  | "|" => return wrap (bits a ||| bits b : Nat)
  | "&&" => return ofBool (a ≠ 0 ∧ b ≠ 0)
  | "||" => return ofBool (a ≠ 0 ∨ b ≠ 0)
  | _ => fail .operandExpected

/-- The operator inside one that also assigns. -/
def compound : String → Option String
  | "+=" => some "+"
  | "-=" => some "-"
  | "*=" => some "*"
  | "/=" => some "/"
  | "%=" => some "%"
  | "<<=" => some "<<"
  | ">>=" => some ">>"
  | "&=" => some "&"
  | "^=" => some "^"
  | "|=" => some "|"
  | _ => none

mutual

/-- Expressions separated by commas. -/
def comma : Nat → Eval Int
  | 0 => fail .tooDeep
  | fuel + 1 => do
    let v ← assignment fuel
    match (← peek) with
    | some (.op ",") => do advance; comma fuel
    | _ => return v

/-- An assignment, or a choice. -/
def assignment : Nat → Eval Int
  | 0 => fail .tooDeep
  | fuel + 1 => do
    match (← get).rest with
    | .name x :: .op "=" :: _ => do
      advance
      advance
      assign x (← assignment fuel)
    | .name x :: .op o :: _ =>
      match compound o with
      | some o => do
        advance
        advance
        let left := (← get).rest.length
        let v ← assignment fuel
        assign x (← apply o (← lookup x) v left)
      | none => choice fuel
    | _ => choice fuel

def choice : Nat → Eval Int
  | 0 => fail .tooDeep
  | fuel + 1 => do
    let c ← binary 2 fuel
    match (← peek) with
    | some (.op "?") => do
      advance
      let before ← get
      let a ← assignment fuel
      match (← peek) with
      | some (.op ":") => do
        advance
        let middle ← get
        if c ≠ 0 then do
          set { middle with changed := (← get).changed }
          let _ ← (do
            let b ← assignment fuel
            modify fun s => { s with changed := middle.changed }
            return b)
          return a
        else do
          set { middle with changed := before.changed }
          assignment fuel
      | _ => fail .operandExpected
    | _ => return c

/-- Operators that bind at least as tightly as `least`. -/
def binary (least : Nat) : Nat → Eval Int
  | 0 => fail .tooDeep
  | fuel + 1 => do
    let a ← unary fuel
    binaryRest least fuel a

def binaryRest (least : Nat) : Nat → Int → Eval Int
  | 0, _ => fail .tooDeep
  | fuel + 1, a => do
    match (← peek) with
    | some (.op o) =>
      match strength o with
      | some n =>
        if n < least then return a
        else do
          advance
          let before ← get
          let b ← binary (if o = "**" then n else n + 1) fuel
          if (o = "&&" ∧ a = 0) ∨ (o = "||" ∧ a ≠ 0) then
            modify fun s => { s with changed := before.changed }
          binaryRest least fuel (← apply o a b before.rest.length)
      | none => return a
    | _ => return a

def unary : Nat → Eval Int
  | 0 => fail .tooDeep
  | fuel + 1 => do
    match (← get).rest with
    | .op "++" :: .name x :: _ => do advance; advance; assign x (wrap ((← lookup x) + 1))
    | .op "--" :: .name x :: _ => do advance; advance; assign x (wrap ((← lookup x) - 1))
    | .op "+" :: _ => do advance; unary fuel
    | .op "-" :: _ => do advance; return wrap (-(← unary fuel))
    | .op "!" :: _ => do advance; return ofBool ((← unary fuel) = 0)
    | .op "~" :: _ => do advance; return -(← unary fuel) - 1
    | .op "(" :: _ => do
      advance
      let v ← comma fuel
      match (← peek) with
      | some (.op ")") => do advance; return v
      | _ => fail .operandExpected
    | .number n :: _ => do advance; return wrap n
    | .name x :: .op "++" :: _ => do
      advance
      advance
      let v ← lookup x
      let _ ← assign x (wrap (v + 1))
      return v
    | .name x :: .op "--" :: _ => do
      advance
      advance
      let v ← lookup x
      let _ ← assign x (wrap (v - 1))
      return v
    | .name x :: _ => do advance; lookup x
    | _ => fail .operandExpected

end

/-- The value of an expression, and the variables that it set, latest first; or a fault with the
text that begins where it is. -/
def evaluate (dialect : Dialect) (vars : String → Option Raw) (cs : Raw) :
    Except (Fault × Raw) (Int × List (String × Int)) := do
  let known := match dialect with
    | .bash => operators
    | .dash => operators.filter fun o => o ≠ "**" ∧ o ≠ "++" ∧ o ≠ "--"
  let ts ← tokens known (cs.length + 1) cs
  let blamed (left : Nat) : Raw := ((ts[ts.length - max left 1]?).map (·.2)).getD []
  if ts.isEmpty then return (0, [])
  match (comma (8 * ts.length + 16)).run ⟨ts.map (·.1), vars, []⟩ with
  | .error b => throw (b.fault, blamed b.left)
  | .ok (v, s) =>
    if s.rest.isEmpty then return (v, s.changed) else throw (.trailing, blamed s.rest.length)

end Pipeline.Shell.Arithmetic
