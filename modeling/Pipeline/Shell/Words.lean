import Pipeline.Shell.Numeral

/-!
# Reading words

A word ends at a blank or at a character that means something to the shell, unless that is quoted. A
backslash quotes the character after it, single quotes everything up to the next one, and double
quotes all but parameters, substitutions and a few characters after a backslash. The script of a
substitution is kept as it stands and read when it is run.
-/

namespace Pipeline.Shell

/-- Why a script cannot be read. -/
inductive SyntaxError where
  /-- A token that does not fit, and the one that would if only one does. -/
  | unexpected (token : Raw) (wanted : Option String)
  | endOfFile (wanted : Option String)
  /-- The quote or bracket that was never closed. -/
  | unclosed (mark : Char)
  /-- An arithmetic expression that was never closed. -/
  | unclosedExpression
  | badLoopVariable
  | tooDeep
deriving DecidableEq, Repr

/-- What is left of a script, and the line it begins on. -/
structure Source where
  rest : Raw
  line : Nat
deriving DecidableEq, Repr

/-- A reading of source text; a syntax error stops it with the line it is on. -/
abbrev Reader (α : Type) := StateT Source (Except (SyntaxError × Nat)) α

namespace Reader

/-- Stops with a syntax error on the line at hand. -/
def fail {α : Type} (e : SyntaxError) : Reader α := do throw (e, (← get).line)

/-- What is still to be read. -/
def rest : Reader Raw := return (← get).rest

/-- Passes over text that was looked at. -/
def skip (count : Nat) : Reader Unit :=
  modify fun s => ⟨s.rest.drop count, s.line + (s.rest.take count).count '\n'⟩

/-- Takes the next character. -/
def next? : Reader (Option Char) := do
  match (← get).rest with
  | [] => return none
  | c :: _ => skip 1; return some c

end Reader

/-- The characters between words on one line. -/
def isBlank (c : Char) : Bool := c = ' ' || c = '\t'

/-- A character that ends a word. -/
def isMeta (c : Char) : Bool := isBlank c || "\n|&;()<>".toList.contains c

def isNameStart (c : Char) : Bool := c.isAlpha || c = '_'

def isNameChar (c : Char) : Bool := c.isAlphanum || c = '_'

/-- A parameter of one character that is no name. -/
def isSpecial (c : Char) : Bool := "@*#?-$!".toList.contains c || c.isDigit

def isName (cs : Raw) : Bool :=
  match cs with
  | c :: cs => isNameStart c && cs.all isNameChar
  | [] => false

/-- Where a word is read, which decides what ends it and what its quotes mean. -/
inductive Site where
  | word
  /-- Between double quotes. -/
  | double
  /-- After an operator between braces, up to the brace or to an `ending` before it. -/
  | brace (quoted : Bool) (ending : Option Char)
  /-- Up to two closing parentheses. -/
  | arithmetic
  /-- The same, or up to a separator before them. -/
  | expression (separator : Char)
  /-- The text of a here document. -/
  | document
deriving DecidableEq, Repr

/-- Whether text stands in quotes there. -/
def Site.isQuoted : Site → Bool
  | .word => false
  | .brace quoted _ => quoted
  | _ => true

/-- The character that may end the text before its proper end. -/
def Site.ending? : Site → Option Char
  | .brace _ ending => ending
  | .expression separator => some separator
  | _ => none

/-- Adds text to a word; pieces come latest first. -/
def addText (quoted : Bool) (text : Raw) (done : Word) : Word :=
  match quoted, done with
  | true, .quoted t :: ps => .quoted (t ++ text) :: ps
  | false, .plain t :: ps => .plain (t ++ text) :: ps
  | true, ps => .quoted text :: ps
  | false, ps => .plain text :: ps

/-- What encloses a place inside a substitution. -/
inductive Fence where
  | paren
  | brace
  | single
  | double
  | back
deriving DecidableEq, Repr

/-- The length of a text up to the character that closes its first fence. -/
def closing (count : Nat) (fences : List Fence) : Raw → Option Nat
  | [] => none
  | '\\' :: c :: cs =>
    match fences with
    | .single :: _ => closing (count + 1) fences (c :: cs)
    | _ => closing (count + 2) fences cs
  | '$' :: '(' :: cs =>
    match fences with
    | .single :: _ => closing (count + 2) fences cs
    | _ => closing (count + 2) (.paren :: fences) cs
  | '$' :: '\x7b' :: cs =>
    match fences with
    | .single :: _ => closing (count + 2) fences cs
    | _ => closing (count + 2) (.brace :: fences) cs
  | c :: cs =>
    let go (fences : List Fence) : Option Nat :=
      if fences.isEmpty then some count else closing (count + 1) fences cs
    match fences, c with
    | .single :: out, '\'' => go out
    | .single :: _, _ => go fences
    | .double :: out, '"' => go out
    | .back :: out, '\x60' => go out
    | _, '\x60' => go (.back :: fences)
    | .double :: _, _ => go fences
    | _, '\'' => go (.single :: fences)
    | _, '"' => go (.double :: fences)
    | .paren :: _, '(' => go (.paren :: fences)
    | .paren :: out, ')' => go out
    | .brace :: out, '\x7d' => go out
    | _, _ => go fences

/-- The text up to the closing mark of a fence, which is passed over. -/
def fenced (fence : Fence) (mark : Char) : Reader Raw := do
  let cs ← Reader.rest
  match closing 0 [fence] cs with
  | none => do
    -- A script that was never closed is missed at the end, a quote where it began.
    if fence = .paren then Reader.skip cs.length
    Reader.fail (.unclosed mark)
  | some n =>
    Reader.skip (n + 1)
    return cs.take n

/-- Takes away the backslashes that protect a script between backquotes. -/
def unprotect : Raw → Raw
  | '\\' :: c :: cs =>
    if c = '\\' ∨ c = '$' ∨ c = '\x60' then c :: unprotect cs else '\\' :: unprotect (c :: cs)
  | c :: cs => c :: unprotect cs
  | [] => []

/-- The number of values of a machine word, and the number of bits in one. -/
def wordValues : Nat := 18446744073709551616
def wordBits : Nat := 64

def byteChar (n : Nat) : Char := Char.ofNat (n % 256)

/-- The characters, no more than `most`, that a test holds of from the front. -/
def takeAtMost (most : Nat) (p : Char → Bool) (cs : Raw) : Raw := (cs.take most).takeWhile p

/-- The character that a letter after a backslash stands for. -/
def letterEscape : Char → Option Char
  | 'a' => some '\x07'
  | 'b' => some '\x08'
  | 'f' => some '\x0c'
  | 'n' => some '\n'
  | 'r' => some '\r'
  | 't' => some '\t'
  | 'v' => some '\x0b'
  | _ => none

def codeText (n : Nat) : Raw :=
  if n < 128 then [Char.ofNat n] else Raw.ofText (String.singleton (Char.ofNat n))

/-- Reads one escape of a dollar-quoted text after its backslash: the text, and its length. -/
def dollarEscape : Raw → Raw × Nat
  | [] => (['\\'], 0)
  | 'e' :: _ => (['\x1b'], 1)
  | 'E' :: _ => (['\x1b'], 1)
  | 'x' :: cs =>
    match takeAtMost 2 isHexDigit cs with
    | [] => (['\\', 'x'], 1)
    | ds => ([byteChar (hexValue ds)], 1 + ds.length)
  | 'u' :: cs =>
    match takeAtMost 4 isHexDigit cs with
    | [] => (['\\', 'u'], 1)
    | ds => (codeText (hexValue ds), 1 + ds.length)
  | 'U' :: cs =>
    match takeAtMost 8 isHexDigit cs with
    | [] => (['\\', 'U'], 1)
    | ds => (codeText (hexValue ds), 1 + ds.length)
  | 'c' :: c :: _ => ([byteChar (c.toUpper.toNat % 32)], 2)
  | c :: cs =>
    if c = '\\' ∨ c = '\'' ∨ c = '"' ∨ c = '?' then ([c], 1)
    else
      match letterEscape c with
      | some e => ([e], 1)
      | none =>
        match takeAtMost 3 (fun d => '0' ≤ d && d ≤ '7') (c :: cs) with
        | [] => (['\\', c], 1)
        | ds => ([byteChar (octalValue ds)], ds.length)

/-- Reads a dollar-quoted text up to its end: the text, and how much was read. -/
def dollarQuoted (fuel count : Nat) (done : Raw) (cs : Raw) : Option (Raw × Nat) :=
  match fuel with
  | 0 => none
  | fuel + 1 =>
    match cs with
    | [] => none
    | '\'' :: _ => some (done.reverse, count + 1)
    | '\\' :: cs =>
      let (text, n) := dollarEscape cs
      dollarQuoted fuel (count + 1 + n) (text.reverse ++ done) (cs.drop n)
    | c :: cs => dollarQuoted fuel (count + 1) (c :: done) cs

/-- The operator after a name between braces, and how many words it takes. -/
def readOperator (dialect : Dialect) : Raw → Option (Operator × Nat × Nat)
  | '\x7d' :: _ => some (.plain, 0, 0)
  | ':' :: '-' :: _ => some (.default true, 2, 1)
  | ':' :: '=' :: _ => some (.assign true, 2, 1)
  | ':' :: '?' :: _ => some (.complain true, 2, 1)
  | ':' :: '+' :: _ => some (.instead true, 2, 1)
  | '-' :: _ => some (.default false, 1, 1)
  | '=' :: _ => some (.assign false, 1, 1)
  | '?' :: _ => some (.complain false, 1, 1)
  | '+' :: _ => some (.instead false, 1, 1)
  | '#' :: '#' :: _ => some (.cutFront true, 2, 1)
  | '#' :: _ => some (.cutFront false, 1, 1)
  | '%' :: '%' :: _ => some (.cutBack true, 2, 1)
  | '%' :: _ => some (.cutBack false, 1, 1)
  | c :: cs =>
    if dialect = .dash then none
    else
      match c, cs with
      | ':', _ => some (.slice false, 1, 2)
      | '/', '/' :: _ => some (.replace true, 2, 2)
      | '/', _ => some (.replace false, 1, 2)
      | '^', '^' :: _ => some (.upper true, 2, 1)
      | '^', _ => some (.upper false, 1, 1)
      | ',', ',' :: _ => some (.lower true, 2, 1)
      | ',', _ => some (.lower false, 1, 1)
      | _, _ => none
  | [] => none

/-- The name of a parameter at the front of a text, and its length. -/
def paramName (cs : Raw) : Option (String × Nat) :=
  match cs with
  | c :: _ =>
    if isNameStart c then
      let name := cs.takeWhile isNameChar
      some (.ofList name, name.length)
    else if isSpecial c then some (.singleton c, 1)
    else none
  | [] => none

/-- The same between braces, where all the digits of a number belong to it. -/
def bracedName (cs : Raw) : Option (String × Nat) :=
  match cs.takeWhile Char.isDigit with
  | [] => paramName cs
  | ds => some (.ofList ds, ds.length)

mutual

/-- Reads the pieces of a word up to its end, which is left where it is. -/
def readPieces (dialect : Dialect) (site : Site) : Nat → Word → Reader Word
  | 0, _ => Reader.fail .tooDeep
  | fuel + 1, done => do
    let quoted := site.isQuoted
    let goOn (done : Word) : Reader Word := readPieces dialect site fuel done
    let literal (n : Nat) (text : Raw) : Reader Word := do
      Reader.skip n
      goOn (addText quoted text done)
    match (← Reader.rest), site with
    | [], _ => return done.reverse
    | c :: cs, .word =>
      if isMeta c then return done.reverse
      else if c = '\\' then readBackslash dialect site fuel cs done
      else readMarked dialect site fuel c cs done
    | '"' :: _, .double => return done.reverse
    | '\x7d' :: _, .brace _ _ => return done.reverse
    | ')' :: ')' :: _, .arithmetic => return done.reverse
    | ')' :: ')' :: _, .expression _ => return done.reverse
    | '(' :: cs, .arithmetic =>
      -- A parenthesis and all it holds, so that its end is not taken for that of the expression.
      match closing 0 [.paren] cs with
      | none => Reader.fail (.unclosed ')')
      | some n =>
        Reader.skip 1
        let inner ← readInner dialect fuel (cs.take n)
        Reader.skip (n + 1)
        goOn (addText true [')'] (inner.reverse ++ addText true ['('] done))
    | '\\' :: cs, _ =>
      if quoted then
        match cs with
        | '\n' :: _ => do Reader.skip 2; goOn done
        | c :: _ =>
          if c = '$' ∨ c = '\x60' ∨ c = '\\' ∨ (c = '"' ∧ site ≠ .document) ∨
              (c = '\x7d' ∧ site matches .brace ..) then
            literal 2 [c]
          else literal 1 ['\\']
        | [] => literal 1 ['\\']
      else readBackslash dialect site fuel cs done
    | '"' :: _, .document => literal 1 ['"']
    | c :: cs, _ =>
      if some c = site.ending? then return done.reverse else readMarked dialect site fuel c cs done

/-- Reads the pieces of a text by itself, as the inside of an arithmetic parenthesis. -/
def readInner (dialect : Dialect) : Nat → Raw → Reader Word
  | 0, _ => Reader.fail .tooDeep
  | fuel + 1, text => do
    let s ← get
    set (⟨text ++ [')', ')'], s.line⟩ : Source)
    let inner ← readPieces dialect .arithmetic fuel []
    set s
    return inner

/-- Reads on after a backslash outside quotes. -/
def readBackslash (dialect : Dialect) (site : Site) : Nat → Raw → Word → Reader Word
  | 0, _, _ => Reader.fail .tooDeep
  | fuel + 1, cs, done => do
    match cs with
    | [] => do Reader.skip 1; readPieces dialect site fuel (addText true ['\\'] done)
    | '\n' :: _ => do Reader.skip 2; readPieces dialect site fuel done
    | c :: _ => do Reader.skip 2; readPieces dialect site fuel (addText true [c] done)

/-- Reads on at a character that may be a quote or begin an expansion. -/
def readMarked (dialect : Dialect) (site : Site) : Nat → Char → Raw → Word → Reader Word
  | 0, _, _, _ => Reader.fail .tooDeep
  | fuel + 1, c, cs, done => do
    let quoted := site.isQuoted
    match c with
    | '\'' =>
      if quoted then do
        Reader.skip 1
        readPieces dialect site fuel (addText true ['\''] done)
      else do
        Reader.skip 1
        let text ← fenced .single '\''
        readPieces dialect site fuel (addText true text done)
    | '"' => do
      let line := (← get).line
      Reader.skip 1
      let inner ← readPieces dialect .double fuel []
      match (← Reader.next?) with
      | some _ =>
        let inner := if inner.isEmpty then [.quoted []] else inner
        readPieces dialect site fuel (inner.reverse ++ done)
      | none => throw (.unclosed '"', line)
    | '\x60' => do
      Reader.skip 1
      let script ← fenced .back '\x60'
      readPieces dialect site fuel (.output quoted (unprotect script) :: done)
    | '$' => readDollar dialect site fuel cs done
    | c => do
      Reader.skip 1
      readPieces dialect site fuel (addText quoted [c] done)

def readDollar (dialect : Dialect) (site : Site) : Nat → Raw → Word → Reader Word
  | 0, _, _ => Reader.fail .tooDeep
  | fuel + 1, cs, done => do
    let quoted := site.isQuoted
    match cs with
    | '(' :: '(' :: _ => do
      let before ← get
      Reader.skip 3
      let inner ← readPieces dialect .arithmetic fuel []
      match (← Reader.rest) with
      | ')' :: ')' :: _ => do
        Reader.skip 2
        readPieces dialect site fuel (.number quoted inner :: done)
      | [] => throw (.unclosedExpression, before.line)
      | _ => do
        set before
        Reader.skip 2
        let script ← fenced .paren ')'
        readPieces dialect site fuel (.output quoted script :: done)
    | '(' :: _ => do
      Reader.skip 2
      let script ← fenced .paren ')'
      readPieces dialect site fuel (.output quoted script :: done)
    | '\x7b' :: cs => do
      Reader.skip 2
      let p ← readBraced dialect quoted fuel cs
      readPieces dialect site fuel (p :: done)
    | '\'' :: cs =>
      if quoted ∨ dialect = .dash then do
        Reader.skip 1
        readPieces dialect site fuel (addText quoted ['$'] done)
      else
        match dollarQuoted (cs.length + 1) 0 [] cs with
        | some (text, n) => do
          Reader.skip (n + 2)
          readPieces dialect site fuel (addText true text done)
        | none => Reader.fail (.unclosed '\'')
    | cs =>
      match paramName cs with
      | some (name, n) => do
        Reader.skip (n + 1)
        readPieces dialect site fuel (.param quoted name .plain [] [] :: done)
      | none => do
        Reader.skip 1
        readPieces dialect site fuel (addText quoted ['$'] done)

/-- Reads a parameter between braces, after the opening one. -/
def readBraced (dialect : Dialect) (quoted : Bool) : Nat → Raw → Reader Piece
  | 0, _ => Reader.fail .tooDeep
  | fuel + 1, cs => do
    let bad : Reader Piece := do
      let text ← fenced .brace '\x7d'
      return .param quoted "" (.bad text) [] []
    let isLength := match cs with
      | '#' :: '\x7d' :: _ => false
      | '#' :: c :: _ => isNameChar c || c = '@' || c = '*' || c = '?' || c = '$'
      | _ => false
    if isLength then
      match bracedName (cs.drop 1) with
      | some (name, n) =>
        match cs.drop (n + 1) with
        | '\x7d' :: _ => do
          Reader.skip (n + 2)
          return .param quoted name .length [] []
        | _ => bad
      | none => bad
    else
      match bracedName cs with
      | none => bad
      | some (name, n) =>
        match readOperator dialect (cs.drop n) with
        | none => bad
        | some (op, skipped, words) => do
          Reader.skip (n + skipped)
          let ending := match op with
            | .slice _ => some ':'
            | .replace _ => some '/'
            | _ => none
          let word ←
            if words = 0 then pure [] else readPieces dialect (.brace quoted ending) fuel []
          match (← Reader.next?), op with
          | some '\x7d', op => return .param quoted name op word []
          | some _, op => do
            let more ← readPieces dialect (.brace quoted none) fuel []
            match (← Reader.next?) with
            | some _ =>
              return .param quoted name (if op matches .slice _ then .slice true else op) word more
            | none => Reader.fail (.unclosed '\x7d')
          | none, _ => Reader.fail (.unclosed '\x7d')

end

def readWord (dialect : Dialect) : Reader Word := do
  let n := (← Reader.rest).length
  readPieces dialect .word (4 * n + 8) []

/-- Reads a text that is expanded like one between double quotes. -/
def readDocument (dialect : Dialect) (text : Raw) : Reader Word := do
  let s ← get
  set (⟨text, s.line⟩ : Source)
  let w ← readPieces dialect .document (4 * text.length + 8) []
  set s
  return w

end Pipeline.Shell
