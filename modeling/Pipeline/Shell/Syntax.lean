import Pipeline.Text.Utf8

/-!
# The language of the shell

Words and commands as a shell reads them. A word is a list of pieces, each of which knows whether it
stood in quotes; expansion treats the two differently. Shells here run in the plain locale, where a
character is a byte, so their text is `Raw`: a list of characters below 256.
-/

namespace Pipeline.Shell

/-- Text of the plain locale, a character for each byte. -/
abbrev Raw := List Char

namespace Raw

/-- A character for each byte. -/
def ofBytes (bytes : Bytes) : Raw := bytes.map fun b => Char.ofNat b.toNat

def toBytes (raw : Raw) : Bytes := raw.map fun c => UInt8.ofNat c.toNat

def ofText (text : String) : Raw := ofBytes (Utf8.encode text)

/-- The text that bytes encode, with a mark in place of what encodes none. -/
def toText (raw : Raw) : String := Utf8.decode (toBytes raw)

end Raw

/-- A text of ASCII characters, as it stands. -/
def raw (text : String) : Raw := text.toList

/-- The two shells, which differ in their messages and in what they know beyond the standard. -/
inductive Dialect where
  | bash
  | dash
deriving DecidableEq, Repr

/-- What is done with the value of a parameter. -/
inductive Operator where
  | plain
  | length
  /-- Another word if the parameter is unset or, with a colon, empty. -/
  | default (colon : Bool)
  | assign (colon : Bool)
  | complain (colon : Bool)
  /-- Another word unless the parameter is unset or, with a colon, empty. -/
  | instead (colon : Bool)
  /-- Cuts a pattern off the front or the back. -/
  | cutFront (longest : Bool)
  | cutBack (longest : Bool)
  /-- Characters from an offset on, up to a length if there is one. -/
  | slice (bounded : Bool)
  /-- Puts a text in place of the first match of a pattern, or of all. -/
  | replace (all : Bool)
  | upper (all : Bool)
  | lower (all : Bool)
  /-- No operator that is known. -/
  | bad (source : Raw)
deriving DecidableEq, Repr

/-- A part of a word. -/
inductive Piece where
  | plain (text : Raw)
  /-- Text in quotes, which may be empty. -/
  | quoted (text : Raw)
  | param (quoted : Bool) (name : String) (op : Operator) (word more : List Piece)
  /-- The output of a script. -/
  | output (quoted : Bool) (script : Raw)
  /-- The value of an arithmetic expression. -/
  | number (quoted : Bool) (word : List Piece)

/-- A word, part by part. -/
abbrev Word := List Piece

/-- What a redirection does with its target. -/
inductive RedirectKind where
  | input
  | output
  | append
  | inputOutput
  | dupInput
  | dupOutput
  /-- Standard output and standard error together. -/
  | both
  | bothAppend
  /-- The word itself is what will be read. -/
  | text
deriving DecidableEq, Repr

/-- A redirection of a descriptor; without a number it is the usual one of its kind. -/
structure Redirect where
  fd : Option Nat
  kind : RedirectKind
  target : Word

/-- A variable to set; `append` adds to the value it has. -/
structure Assignment where
  name : String
  append : Bool
  value : Word

/-- How an arm of a choice goes on. -/
inductive ArmEnd where
  | stop
  | fallThrough
  | testNext
deriving DecidableEq, Repr

/-- A command, simple or made of others. -/
inductive Command where
  | simple (line : Nat) (assignments : List Assignment) (words : List Word)
      (redirects : List Redirect)
  | pipeline (negated : Bool) (stages : List Command)
  /-- The right one only if the left one succeeds. -/
  | both (left right : Command)
  /-- The right one only if the left one fails. -/
  | either (left right : Command)
  | sequence (commands : List Command)
  | background (command : Command)
  | group (command : Command)
  | subshell (command : Command)
  | branch (condition body otherwise : Command)
  | loop (untilTrue : Bool) (condition body : Command)
  /-- A loop over words, or over the arguments of the shell. -/
  | each (line : Nat) (name : String) (words : Option (List Word)) (body : Command)
  | choose (line : Nat) (subject : Word) (arms : List (List Word × Command × ArmEnd))
  | define (name : String) (body : Command)
  /-- A test between double brackets. -/
  | test (line : Nat) (words : List Word)
  /-- An arithmetic expression between double parentheses. -/
  | arithmetic (line : Nat) (word : Word)
  /-- A loop with an expression before it, one before each round, and one after each. -/
  | count (line : Nat) (first condition step : Word) (body : Command)
  | redirected (line : Nat) (command : Command) (redirects : List Redirect)

end Pipeline.Shell
