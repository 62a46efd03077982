import Pipeline.Machine.Image
import Pipeline.Shell.Environment
import Pipeline.Shell.Parser
import Pipeline.Shell.Test

/-!
# Running commands

What each command does. The parts of a command, the scripts of its substitutions and the programs
that it starts are run by a runner that is given; `Machine.Process` ties the knot. Commands that run
side by side in truth run one after the other here: a stage of a pipeline runs to its end, and what
it wrote is what the next one reads.

A failure ends a shell that is set so, unless a command around looks at the outcome.
-/

namespace Pipeline.Shell
open Sh

/-- What a runner can be asked to run. -/
inductive Job where
  | command (c : Command)
  /-- Text that is read and run. Its first line has a number, and complaints about its grammar name
  what it is. -/
  | script (label : Raw) (line : Nat) (text : Raw)
  /-- A program, in place of the process it is started from. -/
  | program (image : Image) (env : List (Raw × Raw))

abbrev Runner := Job → Sh Nat

/-- The most rounds of a loop. -/
def roundLimit : Nat := 1000000

section
variable (run : Runner)

/-- Notes a status, and ends a shell that must not go on after a failure. -/
def settle (status : Nat) : Sh Nat := do
  modifyShell fun s => { s with status }
  let s ← shell
  if status ≠ 0 ∧ s.options.stopOnFailure ∧ ¬ s.guarded then throw (.exit status)
  return status

/-- Runs something whose failure is looked at. -/
def guarded (act : Sh Nat) : Sh Nat :=
  within (fun s => { s with guarded := true })
    (fun before s => { s with guarded := before.guarded }) act

/-- Runs a shell to its end: what stops it there, and what it wanted done at the end. -/
def untilEnd (act : Sh Nat) : Sh Nat := do
  let code ←
    try act
    catch
      | .exit code => pure code
      | .back code => pure code
      | .abandon code => pure code
      | .leave _ => pure 0
      | .again _ => pure 0
      | e => throw e
  match (← shell).traps.lookup Signal.atExit with
  | none => return code
  | some action => do
    modifyShell fun s => { s with
      status := code, last := false, traps := s.traps.filter fun e => e.1 ≠ Signal.atExit }
    try
      let _ ← run (.script [] 1 action)
      return code
    catch
      | .exit code => return code
      | e => throw e

/-- Runs something in a shell of its own. -/
def inSubshell (enter : ShellState → ShellState) (act : Sh Nat) : Sh Nat := do
  let before ← shell
  setShell (enter { before with
    nested := true, traps := before.traps.filter fun e => e.2.isEmpty })
  try
    let code ← untilEnd run act
    setShell before
    return code
  catch e =>
    setShell before
    throw e

/-- Runs something in a process of its own, whose end by a signal is a status. -/
def forked (act : Sh Nat) : Sh Nat := do
  let before ← shell
  let (number, m) := (← machine).newPipe
  modify fun w => { w with machine := m }
  let pid := before.pid + number
  setShell { before with pid }
  try
    let code ← act
    setShell before
    return code
  catch e =>
    setShell before
    match e with
    | .killed victim signal => if victim = pid then return Signal.status signal else throw e
    | e => throw e

/-- The file that a script does nothing but read. -/
def onlyReads (dialect : Dialect) (script : Raw) : Option Word :=
  match dialect, (readLine .bash).run ⟨script, 1⟩ with
  | .bash, .ok (some (.sequence [.simple _ [] [] [⟨none, .input, file⟩]]), ⟨[], _⟩) => some file
  | _, _ => none

/-- The output of a script, without the ends of lines at its end. -/
def substitution : Substitution := fun script => do
  let s ← shell
  let pipe ← modifyMachine (·.newPipe)
  let enter (s : ShellState) : ShellState := { s with
    last := true, descriptors := s.descriptors.set 1 (.pipe pipe),
    options := { s.options with stopOnFailure := s.options.stopOnFailure && s.dialect == .dash } }
  let status ← inSubshell run enter (run (.script [] s.line script))
  let text ← modifyMachine (·.drainPipe pipe)
  modifyShell fun s => { s with substituted := some status }
  return ((text.filter (· ≠ '\x00')).reverse.dropWhile (· = '\n')).reverse

/-- The output of a script, or the content of the file that it names and nothing else. -/
def substitute? : Substitution := fun script => do
  let s ← shell
  match onlyReads s.dialect script with
  | none => substitution run script
  | some file => do
    let path ← expandText (substitution run) file
    match (← files).read s.here (Raw.toText path) with
    | .ok content =>
      modifyShell fun s => { s with substituted := some 0 }
      return (((Raw.ofBytes content).filter (· ≠ '\x00')).reverse.dropWhile (· = '\n')).reverse
    | .error e => do
      complain (openComplaint s.dialect false path e)
      modifyShell fun s => { s with substituted := some 1 }
      return []

/-! ### Scripts -/

/-- What is said of a mark that is opened and never closed. -/
def unmatched (mark : Char) : Raw :=
  "unexpected EOF while looking for matching ".toList ++ Builtin.ticked [mark] ++ ['\n']

/-- Complains that text cannot be read. -/
def complainSyntax (label : Raw) (first : Nat) (text : Raw) (e : SyntaxError) (line : Nat) :
    Sh Unit := do
  let s ← shell
  let say (text : Raw) : Sh Unit := do
    let _ ← write 2 text
  match s.dialect with
  | .bash => do
    let front := s.speaker ++ [':', ' '] ++ label ++ "line ".toList ++ decimal line ++ [':', ' ']
    match e with
    | .unexpected token _ => do
      let source := (((Raw.toText text).splitOn "\n").getD (line - first) "").toList
      say (front ++ "syntax error near unexpected token ".toList ++ Builtin.ticked token ++ ['\n'])
      say (front ++ Builtin.ticked (Raw.ofText (.ofList source)) ++ ['\n'])
    | .endOfFile _ => say (front ++ "syntax error: unexpected end of file\n".toList)
    | .unclosed mark => say (front ++ unmatched mark)
    | .unclosedExpression => say (front ++ unmatched ')')
    | .badLoopVariable => say (front ++ "syntax error\n".toList)
    | .tooDeep => say (front ++ "syntax error\n".toList)
  | .dash => do
    let line := match e with
      | .unclosed _ => first + text.count '\n'
      | .unclosedExpression => first + text.count '\n'
      | _ => line
    modifyShell fun s => { s with line }
    let wanting (wanted : Option String) : Raw :=
      match wanted with
      | some text => " (expecting \"".toList ++ text.toList ++ "\")".toList
      | none => []
    let shown (token : Raw) : Raw :=
      if token = "newline".toList then token
      else if token.all ['<', '>', '&'].contains ∧ token ≠ ['&'] ∧ token ≠ ['&', '&'] then
        "redirection".toList
      else if isMeta (token.headD ' ') ∨ isKeyword .dash (.ofList token) then '"' :: token ++ ['"']
      else "word".toList
    let what : Raw := match e with
      | .unexpected token wanted => shown token ++ " unexpected".toList ++ wanting wanted
      | .endOfFile wanted => "end of file unexpected".toList ++ wanting wanted
      | .unclosed mark =>
        match mark with
        | '\'' | '"' => "Unterminated quoted string".toList
        | '\x60' => "EOF in backquote substitution".toList
        | '\x7d' => "Missing '\x7d'".toList
        | _ => "end of file unexpected (expecting \")\")".toList
      | .unclosedExpression => "Missing '))'".toList
      | .badLoopVariable => "Bad for loop variable".toList
      | .tooDeep => "Bad command".toList
    complain ("Syntax error: ".toList ++ what)

/-- Reads and runs the lines of a script, and comes to the status of the last; `last` says that
nothing comes after the script. -/
def runLines (label : Raw) (first : Nat) (text : Raw) (last : Bool) : Nat → Nat → Source → Sh Nat
  | 0, _, _ => throw .spent
  | fuel + 1, status, source => do
    let s ← shell
    match (readLine s.dialect).run source with
    | .error (e, line) => do
      complainSyntax label first text e line
      if s.dialect = .dash then throw (.exit 2)
      modifyShell fun s => { s with status := 2 }
      return 2
    | .ok (none, _) => return status
    | .ok (some c, source) => do
      let status ←
        if s.options.readOnlyParse then pure status
        else
          modifyShell fun s => { s with last := last && source.rest.all (· = '\n') }
          try run (.command c)
          catch
            | .abandon code =>
              if (← shell).nested then throw (.exit code)
              else do
                modifyShell fun s => { s with status := code }
                pure code
            | e => throw e
      runLines label first text last fuel status source

/-- Runs a script. The larger shell reads an end of line at the end even if none is there. -/
def runScript (label : Raw) (line : Nat) (text : Raw) : Sh Nat := do
  let s ← shell
  let text := if s.dialect = .bash ∧ text.getLast? ≠ some '\n' then text ++ ['\n'] else text
  runLines run label line text s.last (text.length + 1) 0 ⟨text, line⟩

/-! ### Programs -/

/-- Looks a program up along the search list: the first that may be executed, else the first that is
there, else none. A name with a slash stands for itself, and so does every name if there is no list.
-/
def findProgram (name : Raw) : Sh (Option Raw) := do
  let s ← shell
  if name.contains '/' then return some name
  if name.isEmpty then return none
  match (← lookup "PATH") with
  | none => return if s.dialect = .bash then some name else none
  | some [] => return if s.dialect = .bash then some name else none
  | some list => do
    let fs ← files
    let paths := (Path.searchList (Raw.toText list)).map fun dir =>
      Path.join (if dir = "" then "." else dir) (Raw.toText name)
    let isFile (path : String) : Bool :=
      match fs.find s.here path with
      | .ok (.dir _) => false
      | .ok _ => true
      | .error _ => false
    match paths.find? fun p => fs.isExecutable s.here p with
    | some p => return some (Raw.ofText p)
    | none => return (paths.find? isFile).map Raw.ofText

/-- What a shell says of a program that would not start, and the status that this comes to. -/
def startComplaint (dialect : Dialect) (isThere isDirectory : Bool) (name : Raw) (e : IoError) :
    Raw × Nat :=
  match dialect with
  | .bash =>
    if e = .noEntry ∧ isThere then (name ++ ": cannot execute: required file not found".toList, 127)
    else if e = .noEntry then (name ++ ": No such file or directory".toList, 127)
    else if isDirectory then (name ++ ": Is a directory".toList, 126)
    else (name ++ [':', ' '] ++ e.reason.toList, 126)
  | .dash =>
    if e = .noEntry ∨ e = .notDirectory then (name ++ ": not found".toList, 127)
    else (name ++ [':', ' '] ++ e.reason.toList, 126)

/-- The name by which a shell is run for a script that names no interpreter. -/
def ownTool : Dialect → String
  | .bash => "bash"
  | .dash => "dash"

/-- Loads a program; a file in no format is a script for the shell itself. -/
def loadProgram (path : Raw) (name : Raw) (args : List Raw) : Sh (Except IoError Image) := do
  let s ← shell
  match Image.load (← files) s.here (Raw.toText path) (name :: args) with
  | .error e =>
    if e = .execFormat then return .ok ⟨ownTool s.dialect, s.name :: path :: args⟩
    else return .error e
  | .ok image => return .ok image

/-- Whether a path leads to anything, and whether to a directory. -/
def pathKind (path : Raw) : Sh (Bool × Bool) := do
  let s ← shell
  let fs ← files
  let text := Raw.toText path
  return ((fs.find s.here text).toOption.isSome, fs.isDirectory s.here text)

/-- A name as a complaint shows it. -/
def shownName (name : Raw) : Raw := if name.any isUnprintable then dollarQuote name else name

/-- Runs a program with arguments; `settings` are the names set for it alone, and `last` says that
it may take the place of the shell. -/
def runProgram (settings : List String) (last : Bool) (name : Raw) (args : List Raw) : Sh Nat := do
  let s ← shell
  match (← findProgram name) with
  | none => do
    match s.dialect with
    | .bash => complain (shownName name ++ ": command not found".toList)
    | .dash =>
      let reason := if name.isEmpty then ": Permission denied" else ": not found"
      complain (name ++ reason.toList)
    return 127
  | some path => do
    match (← loadProgram path name args) with
    | .ok image => do
      let mayGo : Bool := last ∧ s.traps.all fun e => e.2.isEmpty
      let env := environmentOf (if mayGo then givenUp s else s) settings
      let env := if s.dialect = .bash then setIn env pathVariable path else env
      forked (run (.program image env))
    | .error e => do
      let (isThere, isDirectory) ← pathKind path
      let shown := if s.dialect = .bash then path else name
      let (text, code) := startComplaint s.dialect isThere isDirectory shown e
      complain text
      return if s.dialect = .dash ∧ ¬ name.contains '/' then 127 else code

/-- An absolute path for a path, without a dot in front. -/
def fromHere (here : Place) (path : Raw) : Raw :=
  match path with
  | '/' :: _ => path
  | '.' :: '/' :: rest => Raw.ofText (FileSystem.absolute here) ++ '/' :: rest
  | _ => Raw.ofText (FileSystem.absolute here) ++ '/' :: path

/-- Puts a program in the place of the shell. -/
def replaceShell (settings : List String) (called : Option Raw) (name : Raw) (args : List Raw) :
    Sh Nat := do
  let s ← shell
  let notFound : Sh Nat := do
    complain ("exec: ".toList ++ name ++ ": not found".toList)
    throw (.exit 127)
  match (← findProgram name) with
  | none => notFound
  | some path => do
    match (← loadProgram (if s.dialect = .bash then fromHere s.here path else path) name args) with
    | .ok image => do
      let image := match called with
        | some text => { image with argv := text :: image.argv.drop 1 }
        | none => image
      throw (.exit (← run (.program image (environmentOf (givenUp s) settings))))
    | .error e => do
      let (isThere, isDirectory) ← pathKind path
      match s.dialect with
      | .dash => do
        let (text, code) := startComplaint .dash isThere isDirectory name e
        complain ("exec: ".toList ++ text)
        throw (.exit code)
      | .bash => do
        let shown := fromHere s.here path
        let (text, code) := startComplaint .bash isThere isDirectory shown e
        complain text
        if code = 126 then
          complain ("exec: ".toList ++ shown ++ ": cannot execute: ".toList ++
            text.drop (shown.length + 2))
        throw (.exit code)

/-! ### Simple commands -/

/-- Sets variables for one command and puts back what they hid. -/
def withSettings (settings : List (String × Raw)) (act : Sh Nat) : Sh Nat := do
  if settings.isEmpty then act
  else
    let before ← shell
    let old := settings.map fun e => (e.1, before.vars.lookup e.1)
    settings.forM fun (name, value) => do
      match before.vars.lookup name with
      | some v =>
        if v.readOnly then refuse name
        else modifyShell fun s => s.put name { v with value := some value, exported := true }
      | none => modifyShell fun s => s.put name ⟨some value, true, false⟩
    let restore (s : ShellState) : ShellState :=
      old.foldl (fun s (name, v) =>
        match v with
        | some v => s.put name v
        | none => s.forget name) s
    within id (fun _ => restore) act

/-- Runs something with redirections, which are undone after it. -/
def withRedirects (redirects : List Redirect) (special : Bool) (act : Sh Nat) : Sh Nat := do
  if redirects.isEmpty then act
  else
    within id (fun before s => { s with descriptors := before.descriptors }) do
      if (← redirectAll (substitute? run) redirects) then act
      else
        match (← shell).dialect with
        | .bash => return 1
        | .dash => if special then throw (.exit 2) else return 2

/-- Puts back the variables that a function hid. -/
def uncover (before after : ShellState) : ShellState :=
  let scope := after.hidden.headD []
  let s := scope.foldl (fun s (name, v) =>
    match v with
    | some v => s.put name v
    | none => s.forget name) after
  { s with
    args := before.args, hidden := before.hidden, calls := before.calls, loops := before.loops,
    speaker := before.speaker }

def callFunction (shown : Raw) (body : Command) (args : List Raw) : Sh Nat :=
  within
    (fun s => { s with
      args, calls := s.calls + 1, hidden := [] :: s.hidden, loops := 0,
      speaker := if s.dialect = .bash then shown else s.speaker })
    uncover do
      try run (.command body)
      catch
        | .back code => pure code
        | e => throw e

/-- The file that is meant by a name: itself, or along the search list. -/
def findScript (name : Raw) : Sh (Option Raw) := do
  if name.contains '/' then return some name
  let s ← shell
  let fs ← files
  let dirs := Path.searchList (Raw.toText ((← lookup "PATH").getD []))
  let paths := dirs.map fun dir => Path.join (if dir = "" then "." else dir) (Raw.toText name)
  match paths.find? fun p => (fs.find s.here p).toOption.isSome ∧ !fs.isDirectory s.here p with
  | some p => return some (Raw.ofText p)
  | none => return if s.dialect = .bash then some name else none

/-- Reads and runs a file in the shell itself. -/
def sourceFile (command : String) (args : List Raw) : Sh Nat := do
  let s ← shell
  match args with
  | [] =>
    match s.dialect with
    | .bash => do
      complainOf command.toList "filename argument required".toList
      Builtin.usage command "filename [arguments]"
    | .dash => return 0
  | name :: more => do
    let more := if s.dialect = .bash then more else []
    match (← findScript name) with
    | none => Builtin.fail command 2 (name ++ ": not found".toList)
    | some path => do
      match (← files).find s.here (Raw.toText path), s.dialect with
      | .error e, .bash => do
        complain (path ++ [':', ' '] ++ e.reason.toList)
        return 1
      | .error e, .dash => Builtin.fail command 2 (openComplaint .dash false path e)
      | .ok (.dir _), .bash => Builtin.fail command 1 (path ++ ": is a directory".toList)
      | .ok node, dialect => do
        let text := match node with
          | .file content _ => Raw.ofBytes content
          | _ => []
        within
          (fun s => { s with
            sourced := s.sourced + 1, args := if more.isEmpty then s.args else more,
            speaker := if dialect = .bash then path else s.speaker,
            subject := if dialect = .bash then s.subject else some path })
          (fun before s => { s with
            sourced := before.sourced, args := if more.isEmpty then s.args else before.args,
            speaker := before.speaker, subject := before.subject, line := before.line }) do
            try runScript run [] 1 text
            catch
              | .back code => pure code
              | e => throw e

/-- Runs its arguments as a script. -/
def evaluate (args : List Raw) : Sh Nat := do
  let s ← shell
  let text := spacedRaw args
  match s.dialect with
  | .bash => runScript run "eval: ".toList s.line text
  | .dash =>
    within (fun s => { s with subject := some "eval".toList })
      (fun before s => { s with subject := before.subject })
      (runScript run [] 1 text)

/-- Commands of the shell that run other commands. -/
def runningBuiltins : List String := ["eval", ".", "exec", "command", "type", "kill"]

/-- Whether a name is one of a command of the shell itself. -/
def isBuiltin (dialect : Dialect) (name : String) : Bool :=
  (Builtin.find? dialect name).isSome || runningBuiltins.contains name ||
    (dialect == .bash && (name = "source" || name = "builtin"))

/-- What a name means to the shell: how it is said in words, and what is written for it. -/
def meaning (name : Raw) : Sh (Option (Raw × Raw)) := do
  let s ← shell
  let text := String.ofList name
  if isKeyword s.dialect text then return some (" is a shell keyword".toList, name)
  else if (s.functions.lookup text).isSome then
    let said := if s.dialect = .bash then " is a function" else " is a shell function"
    return some (said.toList, name)
  else if isBuiltin s.dialect text then
    let special : Bool := s.dialect = .dash ∧ specialBuiltins.contains text
    let said := if special then " is a special shell builtin" else " is a shell builtin"
    return some (said.toList, name)
  else
    let fs ← files
    match (← findProgram name) with
    | some path =>
      if fs.isExecutable s.here (Raw.toText path) then return some (" is ".toList ++ path, path)
      else return none
    | none => return none

def sayMeanings (command : String) (words : Bool) (names : List Raw) : Sh Nat := do
  let s ← shell
  let one (name : Raw) : Sh Nat := do
    match (← meaning name) with
    | some (said, written) =>
      Builtin.out command ((if words then name ++ said else written) ++ ['\n'])
    | none => do
      if words then
        match s.dialect with
        | .bash => complainOf command.toList (name ++ ": not found".toList)
        | .dash => do
          let _ ← write 1 (name ++ ": not found\n".toList)
      return if s.dialect = .bash then 1 else 127
  let codes ← names.mapM one
  match s.dialect with
  | .bash => return if !words ∧ codes.contains 0 then 0 else codes.foldl max 0
  | .dash => return codes.foldl max 0

/-- Undoes nothing: the redirections of a command that has no words or only replaces the shell. -/
def redirectForGood (redirects : List Redirect) : Sh Nat := do
  if (← redirectAll (substitute? run) redirects) then return 0
  else
    match (← shell).dialect with
    | .bash => return 1
    | .dash => throw (.exit 2)

/-- Carries out a command that is not a function; `last` says that nothing comes after it. -/
def runNamed (last : Bool) (settings : List (String × Raw)) (redirects : List Redirect) :
    Nat → List Raw → Sh Nat
  | 0, _ => throw .spent
  | _, [] => return 0
  | fuel + 1, name :: args => do
    let s ← shell
    let text := String.ofList name
    let special : Bool := s.dialect = .dash ∧ specialBuiltins.contains text
    let builtin (act : Sh Nat) : Sh Nat :=
      withRedirects run redirects special do
        if special then
          settings.forM fun (name, value) => assign name value
          act
        else withSettings settings act
    match text with
    | "exec" => do
      let (called, args) := match s.dialect, args with
        | .bash, ['-', 'a'] :: called :: args => (some called, args)
        | _, ['-', '-'] :: args => (none, args)
        | _, args => (none, args)
      match args with
      | [] => redirectForGood run redirects
      | name :: args =>
        withRedirects run redirects special
          (withSettings settings (replaceShell run (settings.map (·.1)) called name args))
    | "eval" => builtin (evaluate run args)
    | "." => builtin (sourceFile run "." args)
    | "type" => builtin (sayMeanings "type" true args)
    | "kill" =>
      builtin (Builtin.kill (fun action => do let _ ← runScript run [] s.line action) args)
    | "command" =>
      match args with
      | ['-', 'v'] :: names =>
        builtin (sayMeanings "command" false (if s.dialect = .dash then names.take 1 else names))
      | ['-', 'V'] :: names => builtin (sayMeanings "command" true names)
      | ['-', 'p'] :: args => runNamed last settings redirects fuel args
      | ['-', '-'] :: args => runNamed last settings redirects fuel args
      | args => runNamed last settings redirects fuel args
    | text =>
      let plain : Sh Nat :=
        match Builtin.find? s.dialect text with
        | some b => builtin (b args)
        | none =>
          let last := last && redirects.isEmpty
          withRedirects run redirects false
            (withSettings settings (runProgram run (settings.map (·.1)) last name args))
      if s.dialect = .bash then
        match text with
        | "source" => builtin (sourceFile run "source" args)
        | "builtin" =>
          match args with
          | [] => return 0
          | inner :: _ =>
            if isBuiltin .bash (.ofList inner) then runNamed last settings redirects fuel args
            else builtin (Builtin.fail "builtin" 1 (inner ++ ": not a shell builtin".toList))
        | _ => plain
      else plain

/-- The arguments of a simple command. Commands that take assignments do not split them. -/
def expandArguments (words : List Word) : Sh (List Raw) := do
  let sub := substitute? run
  match words with
  | [] => return []
  | first :: rest => do
    let takes := match plainText first with
      | some text => assignmentBuiltins.contains (.ofList text)
      | none => false
    if !takes then expandWords sub words
    else do
      let front ← expandWord sub first
      let more ← rest.mapM fun w =>
        match assignment? w with
        | some a => do
          let value ← expandText sub a.value
          return [a.name.toList ++ '=' :: value]
        | none => expandWord sub w
      return front ++ more.flatten

/-- The value that an assignment gives. -/
def assignedValue (a : Assignment) : Sh (String × Raw) := do
  let value ← expandText (substitute? run) a.value
  if a.append then return (a.name, ((← lookup a.name).getD []) ++ value) else return (a.name, value)

def tracedWord (dialect : Dialect) (w : Raw) : Raw :=
  if dialect = .dash then w
  else if w.isEmpty then ['\'', '\'']
  else if w.any isUnprintable then dollarQuote w
  else if w.any needsBackslash then
    '\'' :: w.flatMap (fun c => if c = '\'' then "'\\''".toList else [c]) ++ ['\'']
  else w

/-- Shows what is about to be done, if that is wanted. -/
def trace (words : List Raw) : Sh Unit := do
  if (← shell).options.trace then
    let _ ← write 2 ("+ ".toList ++ spacedRaw words ++ ['\n'])

/-- Runs a simple command; `last` says that nothing comes after it. -/
def runSimple (last : Bool) (line : Nat) (assignments : List Assignment) (words : List Word)
    (redirects : List Redirect) : Sh Nat := do
  modifyShell fun s => { s with line, substituted := none }
  let args ← expandArguments run words
  match args with
  | [] => do
    let status ← withRedirects run redirects false (return 0)
    if status ≠ 0 then return status
    assignments.forM fun a => do
      let (name, value) ← assignedValue run a
      trace [name.toList ++ '=' :: tracedWord (← shell).dialect value]
      assign name value
    return (← shell).substituted.getD 0
  | name :: args => do
    let settings ← assignments.mapM (assignedValue run)
    let dialect := (← shell).dialect
    trace (settings.map (fun e => e.1.toList ++ '=' :: tracedWord dialect e.2) ++
      (name :: args).map (tracedWord dialect))
    match (← shell).functions.lookup (.ofList name) with
    | some (shown, body) =>
      withRedirects run redirects false (withSettings settings (callFunction run shown body args))
    | none => runNamed run last settings redirects (args.length + 2) (name :: args)

/-! ### Compound commands -/

/-- Runs stages one after the other, each reading what the one before it wrote. -/
def runStages (input : Option Channel) : List Command → Sh (List Nat)
  | [] => return []
  | [c] => do
    let enter (s : ShellState) : ShellState :=
      match input with
      | some channel => { s with descriptors := s.descriptors.set 0 channel }
      | none => s
    return [← inSubshell run enter (run (.command c))]
  | c :: rest => do
    let pipe ← modifyMachine (·.newPipe)
    let enter (s : ShellState) : ShellState :=
      let d := match input with
        | some channel => s.descriptors.set 0 channel
        | none => s.descriptors
      { s with descriptors := d.set 1 (.pipe pipe) }
    let status ← inSubshell run enter (run (.command c))
    let text ← modifyMachine (·.drainPipe pipe)
    let source ← modifyMachine (·.newSource text)
    return status :: (← runStages (some (.source source)) rest)

/-- The status of a pipeline: that of its last stage, or of the last that failed if that counts. -/
def pipelineStatus (failureCounts : Bool) (statuses : List Nat) : Nat :=
  let last := statuses.getLast?.getD 0
  if failureCounts then (statuses.reverse.find? (· ≠ 0)).getD 0 else last

/-- Runs one round of a loop and comes to its status; none if the loop is left. -/
def runRound (body : Sh Nat) : Sh (Option Nat) := do
  try return some (← body)
  catch
    | .leave n => if n > 1 then throw (.leave (n - 1)) else return none
    | .again n => if n > 1 then throw (.again (n - 1)) else return some 0
    | e => throw e

/-- Runs rounds up to one that is the last; each gets the status so far. -/
def runRounds (round : Nat → Sh (Bool × Nat)) : Nat → Nat → Sh Nat
  | 0, _ => throw .spent
  | fuel + 1, status => do
    let (goes, status) ← round status
    if goes then runRounds round fuel status else return status

/-- Runs something that counts as a loop around what is in it. -/
def inLoop (act : Sh Nat) : Sh Nat :=
  within (fun s => { s with loops := s.loops + 1 })
    (fun before s => { s with loops := before.loops }) act

def runLoop (untilTrue : Bool) (condition body : Command) : Sh Nat :=
  let round (status : Nat) : Sh (Bool × Nat) := do
    match (← runRound (guarded (run (.command condition)))) with
    | none => return (false, 0)
    | some code =>
      if (code == 0) == untilTrue then return (false, status)
      else
        match (← runRound (run (.command body))) with
        | none => return (false, 0)
        | some status => return (true, status)
  runRounds round roundLimit 0

/-- The value of an expression between double parentheses, unless it has a fault. -/
def calculate (word : Word) : Sh (Option Int) := do
  let text := Item.text (← expandPieces (substitute? run) false word)
  match (← arithmetic? text) with
  | .ok n => return some n
  | .error text => do
    complain ("((: ".toList ++ text)
    return none

def runCount (first condition step : Word) (body : Command) : Sh Nat := do
  let isBlankText (w : Word) : Bool := (plainText w).elim false fun t => t.all isBlank
  let round (status : Nat) : Sh (Bool × Nat) := do
    let goes ← if isBlankText condition then pure (some 1) else calculate run condition
    match goes with
    | none => return (false, 1)
    | some n =>
      if n = 0 then return (false, status)
      else
        match (← runRound (run (.command body))) with
        | none => return (false, 0)
        | some status =>
          match (← calculate run step) with
          | none => return (false, 1)
          | some _ => return (true, status)
  match (← calculate run first) with
  | none => return 1
  | some _ => runRounds round roundLimit 0

def runEach (name : String) (body : Command) : Nat → List Raw → Sh Nat
  | status, [] => return status
  | _, value :: rest => do
    if (← assign? name value) then
      match (← runRound (run (.command body))) with
      | none => return 0
      | some status => runEach name body status rest
    else do
      refuse name
      return 1

/-- Runs the arms of a choice from the first that matches on. -/
def runArms (subject : Raw) (falling : Bool) (status : Nat) :
    List (List Word × Command × ArmEnd) → Sh Nat
  | [] => return status
  | (patterns, body, ending) :: rest => do
    let matches_ ←
      if falling then pure true
      else patterns.anyM fun w => do
        return Pattern.accepts (Pattern.of (← expandPattern (substitute? run) w)) subject
    if !matches_ then runArms subject false status rest
    else do
      let status ← run (.command body)
      match ending with
      | .stop => return status
      | .fallThrough => runArms subject true status rest
      | .testNext => runArms subject false status rest

/-- Runs a command. Nothing comes after the end of a list if nothing comes after the list. -/
def runCommand (command : Command) : Sh Nat := do
  let last := (← shell).last
  modifyShell fun s => { s with last := false }
  let finish (c : Command) : Sh Nat := do
    modifyShell fun s => { s with last }
    run (.command c)
  match command with
  | .simple line assignments words redirects => do
    settle (← runSimple run last line assignments words redirects)
  | .pipeline negated stages => do
    let go : Sh Nat :=
      match stages with
      | [c] => if negated then run (.command c) else finish c
      | cs => do
        let statuses ← runStages run none cs
        let s ← shell
        return pipelineStatus s.options.pipeFailure statuses
    if negated then do
      let status ← guarded go
      let status := if status = 0 then 1 else 0
      modifyShell fun s => { s with status }
      return status
    else settle (← go)
  | .both left right => do
    let status ← guarded (run (.command left))
    if status = 0 then finish right else return status
  | .either left right => do
    let status ← guarded (run (.command left))
    if status = 0 then return 0 else finish right
  | .sequence commands => do
    commands.dropLast.forM fun c => do let _ ← run (.command c)
    match commands.getLast? with
    | some c => finish c
    | none => return 0
  | .background command => do
    let (pid, m) := (← machine).newPipe
    modify fun w => { w with machine := m }
    let pid := (← shell).pid + pid
    let enter (s : ShellState) : ShellState :=
      { s with last := true, descriptors := s.descriptors.set 0 .null }
    let code ← inSubshell run enter (run (.command command))
    modifyShell fun s => { s with background := some pid, backgroundStatus := code, status := 0 }
    return 0
  | .group command => run (.command command)
  | .subshell command => do
    settle (← inSubshell run (fun s => { s with last := true }) (run (.command command)))
  | .branch condition body otherwise => do
    let status ← guarded (run (.command condition))
    let chosen := if status = 0 then body else otherwise
    match chosen with
    | .sequence [] => do
      modifyShell fun s => { s with status := 0 }
      return 0
    | chosen => run (.command chosen)
  | .loop untilTrue condition body => do
    let status ← inLoop (runLoop run untilTrue condition body)
    modifyShell fun s => { s with status }
    return status
  | .each line name words body => do
    modifyShell fun s => { s with line }
    if !isName name.toList then
      complain (Builtin.ticked name.toList ++ ": not a valid identifier".toList)
      settle 1
    else do
      let values ← match words with
        | some words => expandWords (substitute? run) words
        | none => do
          let s ← shell
          pure s.args
      let status ← inLoop (runEach run name body 0 values)
      modifyShell fun s => { s with status }
      return status
  | .choose line subject arms => do
    modifyShell fun s => { s with line }
    let text ← expandText (substitute? run) subject
    let status ← runArms run text false 0 arms
    modifyShell fun s => { s with status }
    return status
  | .define name body => do
    let s ← shell
    let shown := if s.origin = .argument ∧ s.sourced = 0 then "environment".toList else s.speaker
    setShell { s with
      functions := (name, shown, body) :: s.functions.filter fun e => e.1 ≠ name, status := 0 }
    return 0
  | .test line words => do
    modifyShell fun s => { s with line }
    settle (if (← Test.decideTest (substitute? run) words) then 0 else 1)
  | .arithmetic line word => do
    modifyShell fun s => { s with line }
    match (← calculate run word) with
    | some n => settle (if n = 0 then 1 else 0)
    | none => settle 1
  | .count line first condition step body => do
    modifyShell fun s => { s with line }
    let status ← inLoop (runCount run first condition step body)
    modifyShell fun s => { s with status }
    return status
  | .redirected line command redirects => do
    if line ≠ 0 then modifyShell fun s => { s with line }
    settle (← withRedirects run redirects false (run (.command command)))

end
end Pipeline.Shell
