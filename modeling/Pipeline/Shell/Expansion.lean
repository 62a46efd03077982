import Pipeline.Shell.Arithmetic
import Pipeline.Shell.Fields
import Pipeline.Shell.Format
import Pipeline.Shell.State

/-!
# Expansion

Words become arguments in the order of the standard: braces, tildes, parameters, substitutions and
arithmetic, then splitting, then patterns for names of files. The output of a substitution is
supplied from outside, since only the evaluator can run a script.
-/

namespace Pipeline.Shell
open Sh

/-- Runs the text of a script in a shell of its own and answers with its output. -/
abbrev Substitution := Raw → Sh Raw

inductive Value where
  | unset
  | one (text : Raw)
  /-- All arguments, which quotes join to one if asked to. -/
  | many (texts : List Raw) (joined : Bool)
deriving DecidableEq, Repr

namespace Value

/-- Whether an operator has to find another word; with a colon an empty value is no better. -/
def isMissing (colon : Bool) : Value → Bool
  | .unset => true
  | .one text => colon && text.isEmpty
  | .many texts _ => texts.isEmpty || (colon && texts.all List.isEmpty)

def map (f : Raw → Raw) : Value → Value
  | .unset => .one (f [])
  | .one text => .one (f text)
  | .many texts joined => .many (texts.map f) joined

def items (quoted : Bool) (separators : Raw) : Value → List Item
  | .unset => if quoted then [.hold] else []
  | .one text => if quoted then Item.quotedText text else Item.plainText true text
  | .many texts joined =>
    if quoted then
      if joined then Item.quotedText (List.intercalate (separators.take 1) texts)
      else List.intercalate [.border] (texts.map Item.quotedText)
    else List.intercalate [.border] (texts.map (Item.plainText true))

end Value

def optionLetters (s : ShellState) : Raw :=
  let o := s.options
  let letter (on : Bool) (c : Char) : Raw := if on then [c] else []
  match s.dialect with
  | .bash =>
    letter o.exportAll 'a' ++ letter o.stopOnFailure 'e' ++ letter o.noGlob 'f' ++ ['h'] ++
      letter o.unsetIsError 'u' ++ letter o.trace 'x' ++ ['B'] ++
      letter (s.origin == .argument) 'c' ++ letter (s.origin == .standardInput) 's'
  | .dash =>
    letter o.stopOnFailure 'e' ++ letter o.noGlob 'f' ++ letter (s.origin == .standardInput) 's' ++
      letter o.trace 'x' ++ letter o.exportAll 'a' ++ letter o.unsetIsError 'u'

def separators : Sh Raw := return (← lookup "IFS").getD [' ', '\t', '\n']

def parameter (name : String) : Sh Value := do
  let s ← shell
  match name with
  | "@" => return .many s.args false
  | "*" => return .many s.args true
  | "#" => return .one (decimal s.args.length)
  | "?" => return .one (decimal s.status)
  | "$" => return .one (decimal s.pid)
  | "!" => return (s.background.map fun n => Value.one (decimal n)).getD .unset
  | "-" => return .one (optionLetters s)
  | "0" => return .one s.name
  | name =>
    if name = "LINENO" ∧ s.dialect = .bash then return .one (decimal s.line)
    else if name.toList.all Char.isDigit then
      return match s.args[digitsValue name.toList - 1]? with
        | some a => .one a
        | none => .unset
    else return match (← lookup name) with
      | some value => .one value
      | none => .unset

/-- Ends the shell for a parameter that has no value. -/
def dieOf {α : Type} (text : Raw) : Sh α := do
  complain text
  let s ← shell
  match s.dialect with
  | .bash => throw (.exit (if s.origin = .argument ∧ ¬ s.nested then 127 else 1))
  | .dash => throw (.exit 2)

def unbound {α : Type} (name : String) : Sh α := do
  match (← shell).dialect with
  | .bash =>
    let shown := if name.toList.all Char.isDigit then '$' :: name.toList else name.toList
    dieOf (shown ++ ": unbound variable".toList)
  | .dash => dieOf (name.toList ++ ": parameter not set".toList)

/-- Gives the line up for a fault in a word. -/
def badWord {α : Type} (text : Raw) : Sh α := do
  complain text
  match (← shell).dialect with
  | .bash => throw (.abandon 1)
  | .dash => throw (.exit 2)

def badSubstitution {α : Type} (source : Raw) : Sh α := do
  match (← shell).dialect with
  | .bash => badWord (['$', '\x7b'] ++ source ++ "\x7d: bad substitution".toList)
  | .dash => badWord "Bad substitution".toList

namespace Arithmetic

/-- What is said of a fault. -/
def complaint (dialect : Dialect) (text : Raw) (fault : Fault) (token : Raw) : Raw :=
  match dialect with
  | .bash =>
    let what := match fault with
      | .divisionByZero => "division by 0"
      | .operandExpected => "syntax error: operand expected"
      | .trailing => "syntax error in expression"
      | .badConstant => "value too great for base"
      | .tooDeep => "expression recursion level exceeded"
    text.dropWhile isBlank ++ ": ".toList ++ what.toList ++ " (error token is \"".toList ++ token ++
      "\")".toList
  | .dash =>
    let what := match fault with
      | .divisionByZero => "division by zero"
      | .operandExpected => "expecting primary"
      | _ => "expecting EOF"
    "arithmetic expression: ".toList ++ what.toList ++ ": \"".toList ++ text ++ ['"']

end Arithmetic

/-- The value of an arithmetic expression, whose assignments are carried out. -/
def arithmetic? (text : Raw) : Sh (Except Raw Int) := do
  let s ← shell
  match Arithmetic.evaluate s.dialect (fun name => (s.vars.lookup name).bind (·.value)) text with
  | .error (fault, token) => return .error (Arithmetic.complaint s.dialect text fault token)
  | .ok (value, changed) => do
    changed.reverse.forM fun (name, n) => assign name (toString n).toList
    return .ok value

def arithmetic (text : Raw) : Sh Int := do
  match (← arithmetic? text) with
  | .ok value => return value
  | .error text => badWord text

/-- The part of a list from an offset on, up to a length; an offset below zero counts from the end,
and so does a length. -/
def slice {α : Type} (xs : List α) (offset : Int) (length : Option Int) : Option (List α) :=
  let start := if offset < 0 then (xs.length : Int) + offset else offset
  if start < 0 ∨ start > xs.length then some []
  else
    let rest := xs.drop start.toNat
    match length with
    | none => some rest
    | some n =>
      if n ≥ 0 then some (rest.take n.toNat)
      else
        let stop := (xs.length : Int) + n
        if stop < start then none else some (rest.take (stop - start).toNat)

/-- Puts a text in place of a pattern, which may be bound to the front or to the back. -/
def substitute (all : Bool) (pattern : Marked) (filling : Raw) (text : Raw) : Raw :=
  match all, pattern with
  | false, ⟨'#', false⟩ :: pattern =>
    let cut := Pattern.cutFront true (Pattern.of pattern) text
    let front := text.take (text.length - cut.length)
    if Pattern.accepts (Pattern.of pattern) front then filling ++ cut else text
  | false, ⟨'%', false⟩ :: pattern =>
    let cut := Pattern.cutBack true (Pattern.of pattern) text
    if Pattern.accepts (Pattern.of pattern) (text.drop cut.length) then cut ++ filling else text
  | _, [] => text
  | all, pattern => Pattern.replace all (Pattern.of pattern) filling (text.length + 1) text

/-- Changes the case of the first letter or of all. -/
def changeCase (change : Char → Char) (all : Bool) : Raw → Raw
  | [] => []
  | c :: cs => change c :: (if all then cs.map change else cs)

/-- The directory that a tilde with a name stands for. -/
def tildeHome (name : Raw) : Sh (Option Raw) := do
  match name with
  | [] =>
    match (← lookup "HOME"), (← shell).dialect with
    | some home, _ => return some home
    | none, .bash => return some "/root".toList
    | none, .dash => return none
  | ['+'] => lookup "PWD"
  | ['-'] => lookup "OLDPWD"
  | ['r', 'o', 'o', 't'] => return some "/root".toList
  | _ => return none

/-- Expands the tilde at the front of a word. -/
def expandTilde (w : Word) : Sh Word := do
  match w with
  | .plain ('~' :: text) :: rest =>
    let name := text.takeWhile (· ≠ '/')
    if name.length = text.length ∧ !rest.isEmpty then return w
    else
      match (← tildeHome name) with
      | some home =>
        let tail := text.drop name.length
        return .quoted home :: (if tail.isEmpty then rest else .plain tail :: rest)
      | none => return w
  | w => return w

section
variable (sub : Substitution)

mutual

/-- The items of a piece. Plain text may be split if it came out of an expansion. -/
def expandPiece (loose : Bool) : Piece → Sh (List Item)
  | .plain text => return Item.plainText loose text
  | .quoted text => return Item.quotedText text
  | .output quoted script => do
    let text ← sub script
    return if quoted then Item.quotedText text else Item.plainText true text
  | .number quoted word => do
    let n ← arithmetic (Item.text (← expandPieces false word))
    let text := (toString n).toList
    return if quoted then Item.quotedText text else Item.plainText true text
  | .param quoted name op word more => do
    let seps ← separators
    let v ← parameter name
    let s ← shell
    if v = .unset ∧ s.options.unsetIsError then
      match op with
      | .default _ | .assign _ | .complain _ | .instead _ | .bad _ => pure ()
      | _ => unbound name
    let shown (v : Value) : Sh (List Item) := return v.items quoted seps
    let another : Sh (List Item) := do
      let items ← expandPieces (!quoted) word
      return if quoted then .hold :: items else items
    let pattern : Sh Marked := return Item.marks (← expandPieces false word)
    match op with
    | .plain => shown v
    | .length =>
      match v with
      | .many texts _ => shown (.one (decimal texts.length))
      | .one text => shown (.one (decimal text.length))
      | .unset => shown (.one ['0'])
    | .default colon => if v.isMissing colon then another else shown v
    | .instead colon =>
      if v.isMissing colon then shown (if quoted then .one [] else .unset) else another
    | .assign colon =>
      if v.isMissing colon then do
        let text := Item.text (← expandPieces false word)
        assign name text
        shown (.one text)
      else shown v
    | .complain colon =>
      if v.isMissing colon then do
        let text := Item.text (← expandPieces false word)
        let reason := if !word.isEmpty then text
          else
            match colon, s.dialect with
            | false, _ => "parameter not set".toList
            | true, .bash => "parameter null or not set".toList
            | true, .dash => "parameter not set or null".toList
        dieOf (name.toList ++ [':', ' '] ++ reason)
      else shown v
    | .cutFront longest => do
      let p := Pattern.of (← pattern)
      shown (v.map (Pattern.cutFront longest p))
    | .cutBack longest => do
      let p := Pattern.of (← pattern)
      shown (v.map (Pattern.cutBack longest p))
    | .slice bounded => do
      let offset ← arithmetic (Item.text (← expandPieces false word))
      let lengthText := Item.text (← expandPieces false more)
      let length ← if bounded then some <$> arithmetic lengthText else pure none
      let tooShort {α : Type} : Sh α := badWord (lengthText ++ ": substring expression < 0".toList)
      match v with
      | .many texts joined =>
        match slice (s.name :: texts) offset length with
        | some texts => shown (.many texts joined)
        | none => tooShort
      | .one text =>
        match slice text offset length with
        | some text => shown (.one text)
        | none => tooShort
      | .unset => shown v
    | .replace all => do
      let p ← pattern
      let filling := Item.text (← expandPieces false more)
      shown (v.map (substitute all p filling))
    | .upper all => shown (v.map (changeCase Char.toUpper all))
    | .lower all => shown (v.map (changeCase Char.toLower all))
    | .bad source =>
      match s.dialect, source with
      | .bash, '!' :: name =>
        if isName name then
          match (← parameter (.ofList name)) with
          | .one target => shown (← parameter (.ofList target))
          | _ => badWord (name ++ ": invalid indirect expansion".toList)
        else badSubstitution source
      | _, _ => badSubstitution source

def expandPieces (loose : Bool) : List Piece → Sh (List Item)
  | [] => return []
  | p :: ps => do
    let front ← expandPiece loose p
    return front ++ (← expandPieces loose ps)

end

/-- The text of a word that is not split. -/
def expandText (w : Word) : Sh Raw := do
  return Item.text (← expandPieces sub false (← expandTilde w))

/-- A word as a pattern, in which quoted characters stand for themselves. -/
def expandPattern (w : Word) : Sh Marked := do
  return Item.marks (← expandPieces sub false (← expandTilde w))

/-- The arguments that a word becomes. -/
def expandWord (w : Word) : Sh (List Raw) := do
  let s ← shell
  let words := if s.dialect = .bash then expandBraces w else [w]
  let mut done : List (List Raw) := []
  for w in words do
    let items ← expandPieces sub false (← expandTilde w)
    let fs := fields (← separators) items
    let fs ←
      if s.options.noGlob then pure (fs.map Marked.text)
      else do
        let files ← files
        pure (fs.flatMap (glob s.dialect files s.here))
    done := fs :: done
  return done.reverse.flatten

/-- The arguments that words become. -/
def expandWords (ws : List Word) : Sh (List Raw) := return (← ws.mapM (expandWord sub)).flatten

/-- A target of a redirection, which is one word. -/
def expandTarget (w : Word) : Sh Raw := do
  match (← expandWord sub w) with
  | [text] => return text
  | _ => expandText sub w

end
end Pipeline.Shell
