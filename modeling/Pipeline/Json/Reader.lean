import Pipeline.Json.Value
import Pipeline.Text.Quoted

/-!
# Reading JSON

A strict reader: no trailing commas, no comments, no control characters inside strings, no leading
zeros, and nothing but blanks after the value. Every step of the reader consumes a character, so the
length of the text bounds its depth.
-/

namespace Pipeline.Json
open Text (hexValue)

def isBlank (c : Char) : Bool := c = ' ' || c = '\n' || c = '\t' || c = '\r'

def skipBlanks (cs : List Char) : List Char := cs.dropWhile isBlank

/-- A piece of a string: a character, or a code unit spelt by four hexadecimal digits. -/
inductive Piece where
  | char (c : Char)
  | unit (n : Nat)
deriving DecidableEq, Repr

/-- The character that a letter after a backslash stands for. -/
def shortEscape : Char → Option Char
  | '"' => some '"'
  | '\\' => some '\\'
  | '/' => some '/'
  | 'b' => some '\x08'
  | 'f' => some '\x0c'
  | 'n' => some '\n'
  | 'r' => some '\r'
  | 't' => some '\t'
  | _ => none

def unitValue (a b c d : Char) : Option Nat := do
  return ((← hexValue a) * 16 + (← hexValue b)) * 256 + (← hexValue c) * 16 + (← hexValue d)

/-- The pieces up to the closing quote and what follows it; the pieces so far come latest first. -/
def readPieces (done : List Piece) : List Char → Option (List Piece × List Char)
  | [] => none
  | '"' :: cs => some (done.reverse, cs)
  | '\\' :: 'u' :: a :: b :: c :: d :: cs =>
    match unitValue a b c d with
    | some n => readPieces (.unit n :: done) cs
    | none => none
  | '\\' :: e :: cs =>
    match shortEscape e with
    | some c => readPieces (.char c :: done) cs
    | none => none
  | c :: cs => if c < ' ' then none else readPieces (.char c :: done) cs

/-- The characters of the pieces; none if half a surrogate pair stands alone. -/
def joinPieces : List Piece → Option (List Char)
  | [] => some []
  | .char c :: ps => (joinPieces ps).map (c :: ·)
  | .unit h :: .unit l :: ps =>
    if 0xD800 ≤ h ∧ h < 0xDC00 then
      if 0xDC00 ≤ l ∧ l < 0xE000 then
        (joinPieces ps).map (Char.ofNat (0x10000 + (h - 0xD800) * 0x400 + (l - 0xDC00)) :: ·)
      else none
    else if 0xDC00 ≤ h ∧ h < 0xE000 then none
    else (joinPieces (.unit l :: ps)).map (Char.ofNat h :: ·)
  | .unit n :: ps =>
    if 0xD800 ≤ n ∧ n < 0xE000 then none else (joinPieces ps).map (Char.ofNat n :: ·)

/-- A string after its opening quote. -/
def readString (cs : List Char) : Option (Option String × List Char) :=
  (readPieces [] cs).map fun p => ((joinPieces p.1).map .ofList, p.2)

/-- Digits, at least one. -/
def readDigits (cs : List Char) : Option (List Char × List Char) :=
  match cs.takeWhile Char.isDigit with
  | [] => none
  | ds => some (ds, cs.dropWhile Char.isDigit)

/-- The fraction of a number, which may be absent. -/
def readFraction : List Char → Option (List Char × List Char)
  | '.' :: cs => (readDigits cs).map fun p => ('.' :: p.1, p.2)
  | cs => some ([], cs)

/-- The exponent of a number, which may be absent. -/
def readExponent : List Char → Option (List Char × List Char)
  | e :: cs =>
    if e = 'e' ∨ e = 'E' then
      match cs with
      | '+' :: ds => (readDigits ds).map fun p => (e :: '+' :: p.1, p.2)
      | '-' :: ds => (readDigits ds).map fun p => (e :: '-' :: p.1, p.2)
      | ds => (readDigits ds).map fun p => (e :: p.1, p.2)
    else some ([], e :: cs)
  | [] => some ([], [])

/-- A number without its sign. -/
def readUnsigned (cs : List Char) : Option (List Char × List Char) := do
  let (whole, cs) ← readDigits cs
  if whole.length > 1 ∧ whole.head? = some '0' then none
  let (fraction, cs) ← readFraction cs
  let (exponent, cs) ← readExponent cs
  return (whole ++ fraction ++ exponent, cs)

def readNumber : List Char → Option (Json × List Char)
  | '-' :: cs => (readUnsigned cs).map fun p => (.number (.ofList ('-' :: p.1)), p.2)
  | cs => (readUnsigned cs).map fun p => (.number (.ofList p.1), p.2)

mutual

def readValue : Nat → List Char → Option (Json × List Char)
  | 0, _ => none
  | depth + 1, cs =>
    match skipBlanks cs with
    | 'n' :: 'u' :: 'l' :: 'l' :: cs => some (.null, cs)
    | 't' :: 'r' :: 'u' :: 'e' :: cs => some (.bool true, cs)
    | 'f' :: 'a' :: 'l' :: 's' :: 'e' :: cs => some (.bool false, cs)
    | '"' :: cs => (readString cs).map fun p => (.string p.1, p.2)
    | '[' :: cs =>
      match skipBlanks cs with
      | ']' :: cs => some (.array [], cs)
      | cs => (readItems depth [] cs).map fun p => (.array p.1, p.2)
    | '\x7b' :: cs =>
      match skipBlanks cs with
      | '\x7d' :: cs => some (.object [], cs)
      | cs => (readMembers depth [] cs).map fun p => (.object p.1, p.2)
    | cs => readNumber cs

/-- The items of an array up to its end. -/
def readItems : Nat → List Json → List Char → Option (List Json × List Char)
  | 0, _, _ => none
  | depth + 1, done, cs =>
    match readValue depth cs with
    | none => none
    | some (item, cs) =>
      match skipBlanks cs with
      | ',' :: cs => readItems depth (item :: done) cs
      | ']' :: cs => some ((item :: done).reverse, cs)
      | _ => none

/-- The members of an object up to its end. -/
def readMembers : Nat → List (Option String × Json) → List Char →
    Option (List (Option String × Json) × List Char)
  | 0, _, _ => none
  | depth + 1, done, cs =>
    match skipBlanks cs with
    | '"' :: cs =>
      match readString cs with
      | none => none
      | some (name, cs) =>
        match skipBlanks cs with
        | ':' :: cs =>
          match readValue depth cs with
          | none => none
          | some (value, cs) =>
            match skipBlanks cs with
            | ',' :: cs => readMembers depth ((name, value) :: done) cs
            | '\x7d' :: cs => some (((name, value) :: done).reverse, cs)
            | _ => none
        | _ => none
    | _ => none

end

/-- The value of a whole text. -/
def parse (text : String) : Option Json :=
  let cs := text.toList
  match readValue (2 * cs.length + 2) cs with
  | some (value, rest) => if (skipBlanks rest).isEmpty then some value else none
  | none => none

end Pipeline.Json
