/-!
# Regular expressions

An expression is matched against a text at a place in it, and what it takes leads to another place.
It may do so in several ways. They are listed in order of preference, as a matcher comes upon them
that goes back where it cannot go on: of two alternatives the left one first, and of a repetition
the longest first. The search takes the first place of the text at which an expression matches at
all, and there its first way. Lines end at line feeds only.
-/

namespace Pipeline.Text

inductive Regex where
  /-- These characters, one after the other. -/
  | text (cs : List Char)
  /-- A character of a class. -/
  | one (accepts : Char → Bool)
  /-- Characters of a class, the more the better. -/
  | many (accepts : Char → Bool)
  | lineStart
  | lineEnd
  | seq (a b : Regex)
  /-- Either of two, better the first. -/
  | either (a b : Regex)
  /-- Remembers under a number what the expression took. -/
  | group (number : Nat) (a : Regex)

/-- What a group took: all that stands from its start on, but for what stands behind it. -/
structure Capture where
  number : Nat
  start : List Char
  behind : List Char
deriving DecidableEq, Repr

def Capture.text (c : Capture) : List Char := c.start.take (c.start.length - c.behind.length)

/-- A place in a text. -/
structure Spot where
  /-- The character before it. -/
  last : Option Char
  rest : List Char
  /-- What groups took on the way, latest first. -/
  captures : List Capture
deriving DecidableEq, Repr

/-- The last character of a text that goes on with `cs`. -/
def lastOf (last : Option Char) (cs : List Char) : Option Char := cs.getLast?.or last

namespace Spot

/-- The place behind characters that stand here. -/
def past (s : Spot) (cs : List Char) : Spot :=
  { s with last := lastOf s.last cs, rest := s.rest.drop cs.length }

def startsLine (s : Spot) : Bool := s.last == none || s.last == some '\n'

def endsLine (s : Spot) : Bool := s.rest.head? == none || s.rest.head? == some '\n'

/-- Remembers what was taken since an earlier place. -/
def capture (s : Spot) (number : Nat) (start : Spot) : Spot :=
  { s with captures := ⟨number, start.rest, s.rest⟩ :: s.captures }

/-- What a group took last. -/
def group? (s : Spot) (number : Nat) : Option (List Char) :=
  (s.captures.find? (·.number = number)).map Capture.text

end Spot

namespace Regex

/-- An expression or nothing, better the expression. -/
def optional (a : Regex) : Regex := .either a (.text [])

/-- Characters of a class, at least one and the more the better. -/
def atLeastOne (accepts : Char → Bool) : Regex := .seq (.one accepts) (.many accepts)

/-- Expressions one after the other. -/
def inTurn : List Regex → Regex
  | [] => .text []
  | a :: as => .seq a (inTurn as)

/-- The places behind characters of a class, the last one first. -/
def placesThrough (accepts : Char → Bool) (captures : List Capture) :
    List Spot → Option Char → List Char → List Spot
  | found, last, [] => ⟨last, [], captures⟩ :: found
  | found, last, c :: cs =>
    let found := ⟨last, c :: cs, captures⟩ :: found
    if accepts c then placesThrough accepts captures found (some c) cs else found

/-- The places that an expression leads to, in order of preference. -/
def places : Regex → Spot → List Spot
  | .text cs, s => if cs.isPrefixOf s.rest then [s.past cs] else []
  | .one accepts, s =>
    match s.rest with
    | [] => []
    | c :: _ => if accepts c then [s.past [c]] else []
  | .many accepts, s => placesThrough accepts s.captures [] s.last s.rest
  | .lineStart, s => if s.startsLine then [s] else []
  | .lineEnd, s => if s.endsLine then [s] else []
  | .seq a b, s => (a.places s).flatMap b.places
  | .either a b, s => a.places s ++ b.places s
  | .group number a, s => (a.places s).map fun s' => s'.capture number s

/-- Searches on at a place behind `last`. -/
def findFrom (r : Regex) (last : Option Char) (cs : List Char) : Option Spot :=
  match r.places ⟨last, cs, []⟩ with
  | s :: _ => some s
  | [] =>
    match cs with
    | [] => none
    | c :: cs => findFrom r (some c) cs

/-- The end of the first match in a text. -/
def find? (r : Regex) (text : List Char) : Option Spot := findFrom r none text

end Regex
end Pipeline.Text
