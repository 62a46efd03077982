import Pipeline.Shell.Syntax

/-!
# Patterns

A pattern matches whole texts: a star any text, a question mark any character, brackets one of a
set. Characters that were quoted stand for themselves.
-/

namespace Pipeline.Shell

/-- A character that knows whether it was quoted. -/
structure Mark where
  char : Char
  quoted : Bool
deriving DecidableEq, Repr

/-- Text whose characters know whether they were quoted. -/
abbrev Marked := List Mark

def Marked.text (m : Marked) : Raw := m.map (·.char)

/-- One part of a pattern. -/
inductive PatternItem where
  | any
  | one
  /-- One character out of ranges, or out of none of them. -/
  | oneOf (negated : Bool) (ranges : List (Char × Char))
  | char (c : Char)
deriving DecidableEq, Repr

/-- A pattern, part by part. -/
abbrev Pattern := List PatternItem

namespace Pattern

/-- The characters of a named class. -/
def classRanges : String → List (Char × Char)
  | "alpha" => [('a', 'z'), ('A', 'Z')]
  | "digit" => [('0', '9')]
  | "alnum" => [('a', 'z'), ('A', 'Z'), ('0', '9')]
  | "upper" => [('A', 'Z')]
  | "lower" => [('a', 'z')]
  | "space" => [('\t', '\r'), (' ', ' ')]
  | "blank" => [('\t', '\t'), (' ', ' ')]
  | "punct" => [('!', '/'), (':', '@'), ('[', '\x60'), ('\x7b', '~')]
  | "xdigit" => [('0', '9'), ('a', 'f'), ('A', 'F')]
  | "cntrl" => [('\x00', '\x1f'), ('\x7f', '\x7f')]
  | "graph" => [('!', '~')]
  | "print" => [(' ', '~')]
  | _ => []

/-- Reads the ranges of a set up to its bracket; the rest follows. -/
def readSet (fuel : Nat) (first : Bool) (done : List (Char × Char)) (cs : Marked) :
    Option (List (Char × Char) × Marked) :=
  match fuel with
  | 0 => none
  | fuel + 1 =>
    match cs with
    | [] => none
    | c :: cs =>
      if c.char = ']' ∧ ¬ c.quoted ∧ ¬ first then some (done, cs)
      else if c.char = '[' ∧ (cs.head?.map (·.char)) = some ':' then
        let name := (cs.drop 1).takeWhile fun m => m.char ≠ ':'
        let rest := (cs.drop (1 + name.length))
        match rest with
        | ⟨':', _⟩ :: ⟨']', _⟩ :: rest =>
          readSet fuel false (classRanges (.ofList (Marked.text name)) ++ done) rest
        | _ => readSet fuel false ((c.char, c.char) :: done) cs
      else
        match cs with
        | ⟨'-', false⟩ :: ⟨d, q⟩ :: rest =>
          if d = ']' ∧ ¬ q then readSet fuel false ((c.char, c.char) :: done) cs
          else readSet fuel false ((c.char, d) :: done) rest
        | _ => readSet fuel false ((c.char, c.char) :: done) cs

/-- The pattern that marked text spells. -/
def ofMarked (fuel : Nat) (cs : Marked) : Pattern :=
  match fuel with
  | 0 => []
  | fuel + 1 =>
    match cs with
    | [] => []
    | ⟨c, true⟩ :: cs => .char c :: ofMarked fuel cs
    | ⟨'*', false⟩ :: cs => .any :: ofMarked fuel cs
    | ⟨'?', false⟩ :: cs => .one :: ofMarked fuel cs
    | ⟨'[', false⟩ :: cs =>
      let (negated, inner) := match cs with
        | ⟨'!', false⟩ :: cs => (true, cs)
        | ⟨'^', false⟩ :: cs => (true, cs)
        | cs => (false, cs)
      match readSet (inner.length + 1) true [] inner with
      | some (ranges, rest) => .oneOf negated ranges :: ofMarked fuel rest
      | none => .char '[' :: ofMarked fuel cs
    | ⟨'\\', false⟩ :: ⟨c, _⟩ :: cs => .char c :: ofMarked fuel cs
    | ⟨c, false⟩ :: cs => .char c :: ofMarked fuel cs

/-- The pattern that a text writes; quoted characters stand for themselves. -/
def of (cs : Marked) : Pattern := ofMarked (cs.length + 1) cs

/-- Whether a part stands for a single character. -/
def PatternItem.accepts : PatternItem → Char → Bool
  | .any, _ => true
  | .one, _ => true
  | .oneOf negated ranges, c => (ranges.any fun r => r.1 ≤ c && c ≤ r.2) != negated
  | .char d, c => c = d

/-- Whether the pattern matches the whole text. -/
def accepts : Pattern → Raw → Bool
  | [], cs => cs.isEmpty
  | .any :: ps, [] => accepts ps []
  | .any :: ps, c :: cs => accepts ps (c :: cs) || accepts (.any :: ps) cs
  | _ :: _, [] => false
  | p :: ps, c :: cs => PatternItem.accepts p c && accepts ps cs
termination_by ps cs => (ps.length, cs.length)

/-- Whether a pattern is more than plain text. -/
def isWild (cs : Marked) : Bool :=
  cs.any fun m => !m.quoted && (m.char = '*' || m.char = '?' || m.char = '[')

/-- The lengths of the beginnings of a text that the pattern matches, in ascending order. -/
def prefixLengths (p : Pattern) (cs : Raw) : List Nat :=
  (List.range (cs.length + 1)).filter fun n => accepts p (cs.take n)

/-- The lengths of what stands before the endings that the pattern matches, in ascending order. -/
def suffixStarts (p : Pattern) (cs : Raw) : List Nat :=
  (List.range (cs.length + 1)).filter fun n => accepts p (cs.drop n)

/-- Cuts the shortest or longest match off the front, if there is one. -/
def cutFront (longest : Bool) (p : Pattern) (cs : Raw) : Raw :=
  let ns := prefixLengths p cs
  match if longest then ns.getLast? else ns.head? with
  | some n => cs.drop n
  | none => cs

/-- Cuts the shortest or longest match off the back, if there is one. -/
def cutBack (longest : Bool) (p : Pattern) (cs : Raw) : Raw :=
  let ns := suffixStarts p cs
  match if longest then ns.head? else ns.getLast? with
  | some n => cs.take n
  | none => cs

/-- Puts a text in place of the longest match at the first place that has one, or at each. -/
def replace (all : Bool) (p : Pattern) (by_ : Raw) (fuel : Nat) (cs : Raw) : Raw :=
  match fuel with
  | 0 => cs
  | fuel + 1 =>
    match cs with
    | [] => []
    | c :: rest =>
      match ((prefixLengths p cs).filter (· ≠ 0)).getLast? with
      | some n => by_ ++ (if all then replace all p by_ fuel (cs.drop n) else cs.drop n)
      | none => c :: replace all p by_ fuel rest

end Pattern
end Pipeline.Shell
