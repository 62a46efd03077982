import Pipeline.Shell.Words

/-!
# Reading commands

A script is read one complete line at a time, so that the commands of a line run before the next is
looked at. A word in the place of a command is a keyword if it is written plainly. The text of a
here document is cut out of the script as soon as the redirection that asks for it is met.
-/

namespace Pipeline.Shell

/-- The parts of the language that end a list of commands. -/
def closers : List String :=
  ["then", "else", "elif", "fi", "do", "done", "esac", "\x7d"]

/-- Words that begin a command of their own. -/
def openers : List String := ["if", "while", "until", "for", "case", "\x7b", "!"]

def bashOpeners : List String := ["[[", "function", "select", "time"]

def isKeyword (dialect : Dialect) (s : String) : Bool :=
  closers.contains s || openers.contains s || (dialect == .bash && bashOpeners.contains s)

/-- Operators of the language, longer ones before the ones they begin with. -/
def operators : List String :=
  [";;&", ";;", ";&", "&&", "||", "|&", "&>>", "<<<", "<<-", "<<", "<&", "<>", ">>", ">&", ">|",
    "&>", ";", "&", "|", "<", ">", "(", ")"]

namespace Reader

/-- Passes over blanks, continued lines and comments. -/
def skipBlanks : Reader Unit := do
  let rec count : Raw → Nat
    | '\\' :: '\n' :: cs => 2 + count cs
    | c :: cs =>
      if isBlank c then 1 + count cs
      else if c = '#' then 1 + (cs.takeWhile (· ≠ '\n')).length
      else 0
    | [] => 0
  skip (count (← rest))

/-- Passes over blanks, comments and ends of lines. -/
def skipLines : Nat → Reader Unit
  | 0 => return
  | fuel + 1 => do
    skipBlanks
    match (← rest) with
    | '\n' :: _ => skip 1; skipLines fuel
    | _ => return

/-- The operator at the front, if one stands there. -/
def operator? : Reader (Option String) := do
  let cs ← rest
  return operators.find? fun o => o.toList.isPrefixOf cs

def lookingAt (text : String) : Reader Bool := return text.toList.isPrefixOf (← rest)

/-- The word that stands at the front, if it is written plainly; nothing is passed over. -/
def plainWord : Reader String := do
  let cs ← rest
  return .ofList (cs.takeWhile fun c => !isMeta c)

/-- What a complaint names as the token at the front. -/
def token : Reader Raw := do
  match (← rest) with
  | [] => return []
  | '\n' :: _ => return "newline".toList
  | cs =>
    match (← operator?) with
    | some o => return o.toList
    | none => return cs.takeWhile fun c => !isMeta c

/-- Complains about what stands at the front, and says what was wanted there. -/
def complainWanting {α : Type} (wanted : Option String) : Reader α := do
  match (← rest) with
  | [] => fail (.endOfFile wanted)
  | _ => fail (.unexpected (← token) wanted)

def complain {α : Type} : Reader α := complainWanting none

/-- Passes over an operator or a keyword that has to come here. -/
def expect (text : String) : Reader Unit := do
  if (← lookingAt text) then skip text.length else complainWanting (some text)

end Reader

/-- The piece of a word that is a plain text. -/
def plainText : Word → Option Raw
  | [.plain text] => some text
  | [] => some []
  | _ => none

/-- Splits an assignment off the front of a word. -/
def assignment? : Word → Option Assignment
  | .plain text :: rest =>
    match text.dropWhile isNameChar with
    | '=' :: value =>
      let name := text.takeWhile isNameChar
      if isName name then
        some ⟨.ofList name, false, if value.isEmpty then rest else .plain value :: rest⟩
      else none
    | '+' :: '=' :: value =>
      let name := text.takeWhile isNameChar
      if isName name then
        some ⟨.ofList name, true, if value.isEmpty then rest else .plain value :: rest⟩
      else none
    | _ => none
  | _ => none

/-- The text of a word with its quotes taken away, as the end of a here document is written. -/
def unquoteWord (w : Word) : Raw :=
  w.flatMap fun
    | .plain text => text
    | .quoted text => text
    | _ => []

def isQuotedWord (w : Word) : Bool :=
  w.any fun
    | .quoted _ => true
    | _ => false

/-- Splits a here document from the lines after it. -/
def splitDocument (fuel : Nat) (ending : Raw) (stripTabs : Bool) (done cs : Raw) : Raw × Raw :=
  match fuel with
  | 0 => (done, cs)
  | fuel + 1 =>
    if cs.isEmpty then (done, [])
    else
      let line := cs.takeWhile (· ≠ '\n')
      let after := cs.drop (line.length + 1)
      let line := if stripTabs then line.dropWhile (· = '\t') else line
      if line = ending then (done, after)
      else splitDocument fuel ending stripTabs (done ++ line ++ ['\n']) after

/-- Cuts the here document that follows the current line out of the script. -/
def cutDocument (dialect : Dialect) (stripTabs : Bool) : Reader Word := do
  Reader.skipBlanks
  let ending ← readWord dialect
  let cs ← Reader.rest
  let line := cs.takeWhile (· ≠ '\n')
  let below := cs.drop (line.length + 1)
  let (text, after) := splitDocument (below.length + 1) (unquoteWord ending) stripTabs [] below
  modify fun s => { s with rest := line ++ '\n' :: after }
  if isQuotedWord ending then return [.quoted text] else readDocument dialect text

/-- The kind of redirection that an operator asks for. -/
def redirectKind : String → Option RedirectKind
  | "<" => some .input
  | ">" => some .output
  | ">|" => some .output
  | ">>" => some .append
  | "<>" => some .inputOutput
  | "<&" => some .dupInput
  | ">&" => some .dupOutput
  | "&>" => some .both
  | "&>>" => some .bothAppend
  | _ => none

/-- Reads a redirection if one comes here. -/
def readRedirect (dialect : Dialect) : Reader (Option Redirect) := do
  let before ← get
  let digits := before.rest.takeWhile Char.isDigit
  let fd := if digits.isEmpty then none else some (digitsValue digits)
  Reader.skip digits.length
  match (← Reader.operator?) with
  | none => set before; return none
  | some op =>
    if op = "<<" ∨ op = "<<-" then do
      Reader.skip op.length
      return some ⟨fd, .text, ← cutDocument dialect (op = "<<-")⟩
    else if op = "<<<" ∧ dialect = .bash then do
      Reader.skip 3
      Reader.skipBlanks
      let w ← readWord dialect
      return some ⟨fd, .text, w ++ [.quoted ['\n']]⟩
    else
      match redirectKind op with
      | none => set before; return none
      | some kind =>
        if (kind = .both ∨ kind = .bothAppend) ∧ (dialect = .dash ∨ fd.isSome) then do
          set before
          return none
        else do
          Reader.skip op.length
          Reader.skipBlanks
          match (← Reader.rest) with
          | [] => Reader.complain
          | c :: _ =>
            if isMeta c then Reader.complain
            else return some ⟨fd, kind, ← readWord dialect⟩

/-- Reads the redirections that come here. -/
def readRedirects (dialect : Dialect) : Nat → List Redirect → Reader (List Redirect)
  | 0, _ => Reader.fail .tooDeep
  | fuel + 1, done => do
    Reader.skipBlanks
    match (← readRedirect dialect) with
    | some r => readRedirects dialect fuel (r :: done)
    | none => return done.reverse

def readWords (dialect : Dialect) : Nat → List Word → Reader (List Word)
  | 0, _ => Reader.fail .tooDeep
  | fuel + 1, done => do
    Reader.skipBlanks
    match (← Reader.rest) with
    | [] => return done.reverse
    | c :: _ =>
      if isMeta c then return done.reverse
      else readWords dialect fuel ((← readWord dialect) :: done)

/-- Reads the words of a test between double brackets, operators among them. -/
def readTest (dialect : Dialect) : Nat → List Word → Reader (List Word)
  | 0, _ => Reader.fail .tooDeep
  | fuel + 1, done => do
    Reader.skipLines fuel
    match (← Reader.rest) with
    | [] => Reader.complain
    | c :: _ =>
      if isMeta c then
        match (← Reader.operator?) with
        | some op => do
          Reader.skip op.length
          readTest dialect fuel ([.plain op.toList] :: done)
        | none => Reader.complain
      else do
        let w ← readWord dialect
        if plainText w = some ['\x5d', '\x5d'] then return done.reverse
        else readTest dialect fuel (w :: done)

/-- Reads the rest of a simple command. -/
def readSimple (dialect : Dialect) (line : Nat) :
    Nat → List Assignment → List Word → List Redirect → Reader Command
  | 0, _, _, _ => Reader.fail .tooDeep
  | fuel + 1, assignments, words, redirects => do
    Reader.skipBlanks
    match (← readRedirect dialect) with
    | some r => readSimple dialect line fuel assignments words (r :: redirects)
    | none =>
      let finish : Reader Command := do
        if assignments.isEmpty ∧ words.isEmpty ∧ redirects.isEmpty then Reader.complain
        else return .simple line assignments.reverse words.reverse redirects.reverse
      match (← Reader.rest) with
      | [] => finish
      | c :: _ =>
        if isMeta c then finish
        else do
          let w ← readWord dialect
          match words, assignment? w with
          | [], some a =>
            if a.append ∧ dialect = .dash then
              readSimple dialect line fuel assignments (w :: words) redirects
            else readSimple dialect line fuel (a :: assignments) words redirects
          | _, _ => readSimple dialect line fuel assignments (w :: words) redirects

/-- Whether a command that holds others begins here. -/
def startsCompound : Reader Bool := do
  if (← Reader.lookingAt "(") then return true
  return ["\x7b", "if", "while", "until", "for", "case", "[["].contains (← Reader.plainWord)

mutual

/-- Reads commands up to a keyword or an operator that ends them. -/
def readList (dialect : Dialect) (lines : Bool) : Nat → List Command → Reader (List Command)
  | 0, _ => Reader.fail .tooDeep
  | fuel + 1, done => do
    if lines then Reader.skipLines (fuel + 1) else Reader.skipBlanks
    let word ← Reader.plainWord
    match (← Reader.rest) with
    | [] => return done.reverse
    | '\n' :: _ => return done.reverse
    | c :: _ =>
      if c = ')' ∨ (lines ∧ closers.contains word) then return done.reverse
      else if (← Reader.lookingAt ";;") ∨ (← Reader.lookingAt ";&") then return done.reverse
      else do
        let command ← readAndOr dialect fuel
        Reader.skipBlanks
        match (← Reader.rest) with
        | ';' :: ';' :: _ => return (command :: done).reverse
        | ';' :: '&' :: _ => return (command :: done).reverse
        | ';' :: _ => Reader.skip 1; readList dialect lines fuel (command :: done)
        | '&' :: _ => Reader.skip 1; readList dialect lines fuel (.background command :: done)
        | '\n' :: _ =>
          if lines then readList dialect lines fuel (command :: done)
          else return (command :: done).reverse
        | _ => return (command :: done).reverse

/-- Reads pipelines that depend on each other's success. -/
def readAndOr (dialect : Dialect) : Nat → Reader Command
  | 0 => Reader.fail .tooDeep
  | fuel + 1 => do
    let first ← readPipeline dialect fuel
    readAndOrRest dialect fuel first

def readAndOrRest (dialect : Dialect) : Nat → Command → Reader Command
  | 0, _ => Reader.fail .tooDeep
  | fuel + 1, left => do
    Reader.skipBlanks
    if (← Reader.lookingAt "&&") then do
      Reader.skip 2
      Reader.skipLines fuel
      let right ← readPipeline dialect fuel
      readAndOrRest dialect fuel (.both left right)
    else if (← Reader.lookingAt "||") then do
      Reader.skip 2
      Reader.skipLines fuel
      let right ← readPipeline dialect fuel
      readAndOrRest dialect fuel (.either left right)
    else return left

/-- Reads commands that are connected by pipes. -/
def readPipeline (dialect : Dialect) : Nat → Reader Command
  | 0 => Reader.fail .tooDeep
  | fuel + 1 => do
    Reader.skipBlanks
    if (← Reader.plainWord) = "!" then do
      Reader.skip 1
      Reader.skipBlanks
      if dialect = .dash ∧ (← Reader.plainWord) = "!" then Reader.complain
      match (← readPipeline dialect fuel) with
      | .pipeline negated stages => return .pipeline (!negated) stages
      | c => return .pipeline true [c]
    else do
      let first ← readCommand dialect fuel
      match (← readStages dialect fuel [first]) with
      | [c] => return c
      | cs => return .pipeline false cs

def readStages (dialect : Dialect) : Nat → List Command → Reader (List Command)
  | 0, _ => Reader.fail .tooDeep
  | fuel + 1, done => do
    Reader.skipBlanks
    if (← Reader.lookingAt "||") then return done.reverse
    else if (← Reader.lookingAt "|&") ∧ dialect = .bash then do
      Reader.skip 2
      Reader.skipLines fuel
      let next ← readCommand dialect fuel
      let last := match done with
        | c :: cs => .redirected 0 c [⟨some 2, .dupOutput, [.plain ['1']]⟩] :: cs
        | [] => []
      readStages dialect fuel (next :: last)
    else if (← Reader.lookingAt "|") then do
      Reader.skip 1
      Reader.skipLines fuel
      let next ← readCommand dialect fuel
      readStages dialect fuel (next :: done)
    else return done.reverse

/-- Reads commands up to a keyword or a bracket; there must be one at least. -/
def readBody (dialect : Dialect) (closer : String) : Nat → Reader Command
  | 0 => Reader.fail .tooDeep
  | fuel + 1 => do
    match (← readList dialect true fuel []) with
    | [] =>
      if (← Reader.rest).isEmpty then Reader.complainWanting (some closer) else Reader.complain
    | [c] => return c
    | cs => return .sequence cs

def readCommand (dialect : Dialect) : Nat → Reader Command
  | 0 => Reader.fail .tooDeep
  | fuel + 1 => do
    Reader.skipBlanks
    let line := (← get).line
    let word ← Reader.plainWord
    let compound (c : Command) : Reader Command := do
      match (← readRedirects dialect (fuel + 1) []) with
      | [] => return c
      | rs => return .redirected line c rs
    match (← Reader.rest) with
    | '(' :: '(' :: _ =>
      if dialect = .bash then do
        let before ← get
        Reader.skip 2
        let w ← readPieces dialect .arithmetic (4 * before.rest.length + 8) []
        match (← Reader.rest) with
        | ')' :: ')' :: _ => do Reader.skip 2; compound (.arithmetic line w)
        | _ => do set before; compound (← readSubshell dialect fuel)
      else do compound (← readSubshell dialect fuel)
    | '(' :: _ => do compound (← readSubshell dialect fuel)
    | _ =>
      match word with
      | "\x7b" => do
        Reader.skip 1
        let body ← readBody dialect "\x7d" fuel
        Reader.expect "\x7d"
        compound (.group body)
      | "if" => do Reader.skip 2; compound (← readBranch dialect fuel)
      | "while" => do Reader.skip 5; compound (← readLoop dialect false fuel)
      | "until" => do Reader.skip 5; compound (← readLoop dialect true fuel)
      | "for" => do
        Reader.skip 3
        Reader.skipBlanks
        if dialect = .bash ∧ (← Reader.lookingAt "((") then compound (← readCount dialect line fuel)
        else compound (← readEach dialect line fuel)
      | "case" => do Reader.skip 4; compound (← readChoice dialect line fuel)
      | "[[" =>
        if dialect = .bash then do
          Reader.skip 2
          let words ← readTest dialect (fuel + 1) []
          compound (.test line words)
        else readSimple dialect line (fuel + 1) [] [] []
      | "function" =>
        if dialect = .bash then do
          Reader.skip 8
          Reader.skipBlanks
          let name ← Reader.plainWord
          Reader.skip name.length
          Reader.skipBlanks
          if (← Reader.lookingAt "(") then do
            Reader.skip 1
            Reader.skipBlanks
            Reader.expect ")"
          Reader.skipLines fuel
          return .define name (← readCommand dialect fuel)
        else readSimple dialect line (fuel + 1) [] [] []
      | word =>
        if closers.contains word then Reader.complain
        else do
          let before ← get
          Reader.skip word.length
          Reader.skipBlanks
          if isName word.toList ∧ (← Reader.lookingAt "(") then do
            Reader.skip 1
            Reader.skipBlanks
            Reader.expect ")"
            Reader.skipLines fuel
            if dialect = .bash ∧ !(← startsCompound) then Reader.complain
            return .define word (← readCommand dialect fuel)
          else do
            set before
            readSimple dialect line (4 * before.rest.length + 8) [] [] []

def readSubshell (dialect : Dialect) : Nat → Reader Command
  | 0 => Reader.fail .tooDeep
  | fuel + 1 => do
    Reader.skip 1
    let body ← readBody dialect ")" fuel
    Reader.expect ")"
    return .subshell body

/-- Reads a choice by success, after its keyword. -/
def readBranch (dialect : Dialect) : Nat → Reader Command
  | 0 => Reader.fail .tooDeep
  | fuel + 1 => do
    let condition ← readBody dialect "then" fuel
    Reader.expect "then"
    let body ← readBody dialect "fi" fuel
    match (← Reader.plainWord) with
    | "elif" => do
      Reader.skip 4
      return .branch condition body (← readBranch dialect fuel)
    | "else" => do
      Reader.skip 4
      let otherwise ← readBody dialect "fi" fuel
      Reader.expect "fi"
      return .branch condition body otherwise
    | _ => do
      Reader.expect "fi"
      return .branch condition body (.sequence [])

/-- Reads the commands of a loop. -/
def readDo (dialect : Dialect) : Nat → Reader Command
  | 0 => Reader.fail .tooDeep
  | fuel + 1 => do
    Reader.skipLines fuel
    Reader.expect "do"
    let body ← readBody dialect "done" fuel
    Reader.expect "done"
    return body

def readLoop (dialect : Dialect) (untilTrue : Bool) : Nat → Reader Command
  | 0 => Reader.fail .tooDeep
  | fuel + 1 => do
    let condition ← readBody dialect "do" fuel
    return .loop untilTrue condition (← readDo dialect fuel)

def readEach (dialect : Dialect) (line : Nat) : Nat → Reader Command
  | 0 => Reader.fail .tooDeep
  | fuel + 1 => do
    Reader.skipBlanks
    let name ← Reader.plainWord
    if dialect = .dash ∧ !isName name.toList then Reader.fail .badLoopVariable
    if name = "" then Reader.complain
    Reader.skip name.length
    Reader.skipLines fuel
    let words ←
      if (← Reader.plainWord) = "in" then do
        Reader.skip 2
        let words ← readWords dialect (4 * (← Reader.rest).length + 8) []
        pure (some words)
      else pure none
    Reader.skipBlanks
    if (← Reader.lookingAt ";") then Reader.skip 1
    return .each line name words (← readDo dialect fuel)

/-- Reads a loop that three expressions govern. -/
def readCount (dialect : Dialect) (line : Nat) : Nat → Reader Command
  | 0 => Reader.fail .tooDeep
  | fuel + 1 => do
    Reader.skip 2
    let parts ← readParts dialect fuel
    Reader.expect "))"
    Reader.skipBlanks
    if (← Reader.lookingAt ";") then Reader.skip 1
    let body ← readDo dialect fuel
    match parts with
    | [first, condition, step] => return .count line first condition step body
    | _ => Reader.complain

/-- Reads expressions between semicolons. -/
def readParts (dialect : Dialect) : Nat → Reader (List Word)
  | 0 => Reader.fail .tooDeep
  | fuel + 1 => do
    let w ← readPieces dialect (.expression ';') (4 * (← Reader.rest).length + 8) []
    if (← Reader.lookingAt ";") then do
      Reader.skip 1
      return w :: (← readParts dialect fuel)
    else return [w]

def readChoice (dialect : Dialect) (line : Nat) : Nat → Reader Command
  | 0 => Reader.fail .tooDeep
  | fuel + 1 => do
    Reader.skipBlanks
    let subject ← readWord dialect
    Reader.skipLines fuel
    Reader.expect "in"
    return .choose line subject (← readArms dialect fuel [])

def readArms (dialect : Dialect) :
    Nat → List (List Word × Command × ArmEnd) → Reader (List (List Word × Command × ArmEnd))
  | 0, _ => Reader.fail .tooDeep
  | fuel + 1, done => do
    Reader.skipLines fuel
    if (← Reader.plainWord) = "esac" then do
      Reader.skip 4
      return done.reverse
    else do
      if (← Reader.lookingAt "(") then Reader.skip 1
      let patterns ← readPatterns dialect fuel []
      Reader.expect ")"
      let body ← readList dialect true fuel []
      let body : Command := .sequence body
      if (← Reader.lookingAt ";;&") then do
        Reader.skip 3
        readArms dialect fuel ((patterns, body, .testNext) :: done)
      else if (← Reader.lookingAt ";;") then do
        Reader.skip 2
        readArms dialect fuel ((patterns, body, .stop) :: done)
      else if (← Reader.lookingAt ";&") ∧ dialect = .bash then do
        Reader.skip 2
        readArms dialect fuel ((patterns, body, .fallThrough) :: done)
      else do
        Reader.skipLines fuel
        if (← Reader.rest).isEmpty then Reader.complainWanting (some ";;")
        Reader.expect "esac"
        return ((patterns, body, .stop) :: done).reverse

def readPatterns (dialect : Dialect) : Nat → List Word → Reader (List Word)
  | 0, _ => Reader.fail .tooDeep
  | fuel + 1, done => do
    Reader.skipBlanks
    let w ← readWord dialect
    if w.isEmpty then Reader.complain
    Reader.skipBlanks
    if (← Reader.lookingAt "|") then do
      Reader.skip 1
      readPatterns dialect fuel (w :: done)
    else return (w :: done).reverse

end

/-- Reads the next complete line of a script: its commands, or none at the end. -/
def readLine (dialect : Dialect) : Reader (Option Command) := do
  let fuel := 8 * (← Reader.rest).length + 16
  Reader.skipLines fuel
  match (← Reader.rest) with
  | [] => return none
  | _ => do
    let commands ← readList dialect false fuel []
    Reader.skipBlanks
    match (← Reader.rest), commands with
    | '\n' :: _, c :: cs => Reader.skip 1; return some (.sequence (c :: cs))
    | [], c :: cs => return some (.sequence (c :: cs))
    | _, _ => Reader.complain

end Pipeline.Shell
