import Pipeline.Shell.Condition
import Pipeline.Shell.Redirection
import Pipeline.Shell.Signal

/-!
# Commands of the shell itself

The commands that a shell carries out without starting a program and without reading a script. Each
gets its arguments and comes to a status. A wrong call is complained about; the small shell gives up
altogether when one of the special commands is called wrongly.
-/

namespace Pipeline.Shell
open Sh

/-- A command that the shell does by itself; answers the status. -/
abbrev Builtin := List Raw → Sh Nat

/-- Commands whose faults end the small shell, and whose assignments last there. -/
def specialBuiltins : List String :=
  ["break", ":", ".", "continue", "eval", "exec", "exit", "export", "readonly", "return", "set",
    "shift", "times", "trap", "unset"]

/-- Commands that take assignments as arguments. -/
def assignmentBuiltins : List String := ["export", "readonly", "local", "declare", "typeset"]

namespace Builtin

/-- Writes what a command has to say. -/
def out (command : String) (text : Raw) : Sh Nat := do
  if text.isEmpty ∨ (← write 1 text) then return 0
  else do
    match (← shell).dialect with
    | .bash => complain (raw command ++ raw ": write error: Bad file descriptor")
    | .dash => complainOf (raw command) (raw command ++ raw ": I/O error")
    return 1

/-- Complains and comes to a status. -/
def fail (command : String) (status : Nat) (text : Raw) : Sh Nat := do
  complainOf (raw command) text
  if (← shell).dialect = .dash ∧ specialBuiltins.contains command then throw (.exit 2)
  return status

/-- Writes the line that says how a command is used. -/
def usage (command : String) (text : String) : Sh Nat := do
  let _ ← write 2 (raw command ++ raw ": usage: " ++ raw command ++ ' ' :: raw text ++ ['\n'])
  return 2

def isBash : Sh Bool := return (← shell).dialect = .bash

/-- A text as complaints quote it. -/
def ticked (text : Raw) : Raw := '\x60' :: text ++ ['\'']

/-- An integer without anything around it. -/
def integer? (text : Raw) : Option Int :=
  match text with
  | '-' :: ds => if ds.isEmpty ∨ !ds.all Char.isDigit then none else some (-(digitsValue ds : Int))
  | '+' :: ds => if ds.isEmpty ∨ !ds.all Char.isDigit then none else some (digitsValue ds)
  | ds => if ds.isEmpty ∨ !ds.all Char.isDigit then none else some (digitsValue ds)

/-- What is said of an argument that should be a number. -/
def notNumeric (command : String) (text : Raw) : Sh Nat := do
  if (← isBash) then fail command 1 (text ++ raw ": numeric argument required")
  else do
    complainOf (raw command) (raw "Illegal number: " ++ text)
    throw (.exit 2)

/-- An exit code given as an argument; without one, the status of the last command. -/
def codeArgument (command : String) (args : List Raw) : Sh Nat := do
  match args with
  | [] => return (← shell).status
  | a :: _ =>
    match integer? a with
    | some n =>
      if n < 0 ∧ !(← isBash) then refuseCode a else return (n.emod 256).toNat
    | none => refuseCode a
where
  refuseCode (a : Raw) : Sh Nat := do
    if (← isBash) then
      complainOf (raw command) (a ++ raw ": numeric argument required")
      return 2
    else do
      complainOf (raw command) (raw "Illegal number: " ++ a)
      throw (.exit 2)

/-- Writes its arguments with blanks between them. -/
def echo : Builtin := fun args => do out "echo" (echoText (← shell).dialect args)

/-- Writes its arguments by a format. -/
def printf : Builtin := fun args => do
  let s ← shell
  let args := match args with
    | ['-', '-'] :: rest => rest
    | args => args
  let (target, args) := match s.dialect, args with
    | .bash, ['-', 'v'] :: name :: rest => (some name, rest)
    | _, args => (none, args)
  match args with
  | [] =>
    match s.dialect with
    | .bash => usage "printf" "[-v var] format [arguments]"
    | .dash => fail "printf" 2 (raw "usage: printf format [arg ...]")
  | format :: args => do
    let (text, complaints, failed) := Shell.printf s.dialect format args
    complaints.forM (complainOf (raw "printf"))
    let misdirected := complaints.any (raw ": invalid directive").isSuffixOf
    let status := if !failed then 0 else if s.dialect = .dash ∧ misdirected then 2 else 1
    match target with
    | some name => do
      assign (.ofList name) text
      return status
    | none => return max (← out "printf" text) status

/-- What a condition looks at from inside a shell. -/
def surroundings : Sh Surroundings := do
  let s ← shell
  return ⟨s.dialect, ← files, s.here, fun name => ((s.vars.lookup name).bind (·.value)).isSome⟩

/-- Checks a condition. -/
def test (command : String) : Builtin := fun args => do
  match decideWords (← surroundings) args with
  | .holds b => return if b then 0 else 1
  | .fault text => fail command 2 text

/-- Checks a condition that a closing bracket must end. -/
def bracket : Builtin := fun args => do
  match args.getLast? with
  | some [']'] => test "[" args.dropLast
  | _ => fail "[" 2 (raw (if (← isBash) then "missing \x60]'" else "missing ]"))

/-- Writes the working directory. -/
def pwd : Builtin := fun _ => do
  out "pwd" (Raw.ofText (FileSystem.absolute (← shell).here) ++ ['\n'])

/-- Sets a variable of the shell's own that programs get to see. -/
def setExported (name : String) (value : Raw) : Sh Unit :=
  modifyShell fun s => s.put name ⟨some value, true, false⟩

def changeTo (path : Raw) (announce : Bool) : Sh Nat := do
  let s ← shell
  let fs ← files
  let refuse (e : IoError) : Sh Nat :=
    match s.dialect with
    | .bash => fail "cd" 1 (path ++ [':', ' '] ++ raw e.reason)
    | .dash => fail "cd" 2 (raw "can't cd to " ++ path)
  if path.isEmpty then return 0
  match fs.find s.here (Raw.toText path), fs.locate s.here (Raw.toText path) with
  | .ok (.dir _), .ok place => do
    let old := (← lookup "PWD").getD (Raw.ofText (FileSystem.absolute s.here))
    modifyShell fun s => { s with here := place }
    setExported "OLDPWD" old
    setExported "PWD" (Raw.ofText (FileSystem.absolute place))
    if announce then out "cd" (Raw.ofText (FileSystem.absolute place) ++ ['\n']) else return 0
  | .ok _, _ => refuse .notDirectory
  | .error e, _ => refuse e

/-- Changes the working directory. -/
def cd : Builtin := fun args => do
  let bash ← isBash
  let args := args.dropWhile fun a => a = ['-', 'L'] ∨ a = ['-', 'P'] ∨ a = ['-', '-']
  match args with
  | [] =>
    match (← lookup "HOME") with
    | some home => changeTo home false
    | none => if bash then fail "cd" 1 (raw "HOME not set") else return 0
  | [['-']] =>
    match (← lookup "OLDPWD") with
    | some old => changeTo old true
    | none =>
      if bash then fail "cd" 1 (raw "OLDPWD not set") else pwd []
  | a :: rest =>
    if bash ∧ !rest.isEmpty then fail "cd" 1 (raw "too many arguments") else changeTo a false

/-- Ends the shell. -/
def exit : Builtin := fun args => do
  if (← isBash) ∧ args.length > 1 ∧ ((args.head?.bind integer?).isSome) then
    complainOf (raw "exit") (raw "too many arguments")
    throw (.exit 1)
  throw (.exit (← codeArgument "exit" args))

/-- Leaves a function or a file that is read. -/
def back : Builtin := fun args => do
  let s ← shell
  let code ← codeArgument "return" args
  if s.calls > 0 ∨ s.sourced > 0 then throw (.back code)
  else
    match s.dialect with
    | .bash => fail "return" 2 (raw "can only \x60return' from a function or sourced script")
    | .dash => throw (.exit code)

/-- Leaves loops, or goes on with the next round of one. -/
def leave (command : String) (stop : Nat → Stop) : Builtin := fun args => do
  let s ← shell
  let count ← match args with
    | [] => pure 1
    | a :: _ =>
      match integer? a with
      | some n => pure n.toNat
      | none => do
        let _ ← notNumeric command a
        throw (.exit 128)
  if s.loops = 0 then
    if s.dialect = .bash then
      complainOf (raw command) (raw "only meaningful in a \x60for', \x60while', or \x60until' loop")
    return 0
  else if count = 0 then fail command 1 (raw "0: loop count out of range")
  else throw (stop (min count s.loops))

/-- Drops arguments of the shell from the front. -/
def shift : Builtin := fun args => do
  let s ← shell
  match args with
  | [] => shiftBy s 1
  | a :: _ =>
    match integer? a with
    | some n => shiftBy s n.toNat
    | none => notNumeric "shift" a
where
  shiftBy (s : ShellState) (n : Nat) : Sh Nat := do
    if n > s.args.length then
      if s.dialect = .bash then return 1 else fail "shift" 2 (raw "can't shift that many")
    else do
      setShell { s with args := s.args.drop n }
      return 0

/-! ### Options -/

/-- Switches an option that is named by a letter; none if there is no such option. -/
def switchLetter (on : Bool) (c : Char) (o : Options) : Option Options :=
  match c with
  | 'a' => some { o with exportAll := on }
  | 'e' => some { o with stopOnFailure := on }
  | 'f' => some { o with noGlob := on }
  | 'n' => some { o with readOnlyParse := on }
  | 'u' => some { o with unsetIsError := on }
  | 'x' => some { o with trace := on }
  | c => if "bhkmptvBCEHPT".toList.contains c then some o else none

def switchName (on : Bool) (name : Raw) (o : Options) : Option Options :=
  match String.ofList name with
  | "allexport" => some { o with exportAll := on }
  | "errexit" => some { o with stopOnFailure := on }
  | "noglob" => some { o with noGlob := on }
  | "noexec" => some { o with readOnlyParse := on }
  | "nounset" => some { o with unsetIsError := on }
  | "pipefail" => some { o with pipeFailure := on }
  | "xtrace" => some { o with trace := on }
  | "braceexpand" | "emacs" | "errtrace" | "functrace" | "hashall" | "histexpand" | "history"
  | "ignoreeof" | "interactive-comments" | "keyword" | "monitor" | "noclobber" | "nolog" | "notify"
  | "onecmd" | "physical" | "posix" | "privileged" | "verbose" | "vi" => some o
  | _ => none

/-- Switches options by letters; the letter `o` takes a name from the arguments. -/
def switchLetters (dialect : Dialect) (on : Bool) :
    Raw → List Raw → Options → Except (Raw × Bool) (Options × List Raw)
  | [], args, o => .ok (o, args)
  | 'o' :: cs, name :: args, o =>
    let known := if dialect = .dash ∧ name = raw "pipefail" then none else switchName on name o
    match known with
    | some o => switchLetters dialect on cs args o
    | none => .error (name, true)
  | 'o' :: cs, [], o => switchLetters dialect on cs [] o
  | c :: cs, args, o =>
    match switchLetter on c o with
    | some o => switchLetters dialect on cs args o
    | none => .error ([c], false)

/-- Reads options off the front of arguments; the rest become the arguments of the shell if any are
left, or if two dashes say so. -/
def setOptions (dialect : Dialect) (fuel : Nat) (o : Options) (args : List Raw) :
    Except (Raw × Bool) (Options × Option (List Raw)) :=
  match fuel, args with
  | 0, _ => .ok (o, none)
  | _, [] => .ok (o, none)
  | _, ['-', '-'] :: rest => .ok (o, some rest)
  | _, ['-'] :: rest => .ok (o, if rest.isEmpty then none else some rest)
  | fuel + 1, (sign :: c :: cs) :: rest =>
    if sign = '-' ∨ sign = '+' then
      match switchLetters dialect (sign = '-') (c :: cs) rest o with
      | .ok (o, rest) => setOptions dialect fuel o rest
      | .error e => .error e
    else .ok (o, some ((sign :: c :: cs) :: rest))
  | _, rest => .ok (o, some rest)

/-- Sets options and arguments, or lists the variables. -/
def set : Builtin := fun args => do
  let s ← shell
  match setOptions s.dialect (args.length + 1) s.options args with
  | .ok (options, rest) => do
    setShell { s with options, args := rest.getD s.args }
    return 0
  | .error (what, isName) =>
    match s.dialect with
    | .bash =>
      if isName then fail "set" 2 (what ++ raw ": invalid option name")
      else do
        let _ ← fail "set" 2 ('-' :: what ++ raw ": invalid option")
        usage "set" "[-abefhkmnptuvxBCEHPT] [-o option-name] [--] [-] [arg ...]"
    | .dash => fail "set" 2 (raw "Illegal option -" ++ (if isName then raw "o " else []) ++ what)

/-! ### Variables -/

/-- Splits an argument at its first equals sign. -/
def splitAssignment (arg : Raw) : Raw × Option Raw :=
  match arg.dropWhile (· ≠ '=') with
  | '=' :: value => (arg.takeWhile (· ≠ '='), some value)
  | _ => (arg, none)

/-- A variable with the marks that flags give it, besides those it has. -/
def markedBy (flags : List Char) (v : Variable) : Variable :=
  { v with
    exported := v.exported || flags.contains 'x'
    readOnly := v.readOnly || flags.contains 'r' }

/-- Sets and marks the variables that arguments name. -/
def declareAll (command : String) (change : Variable → Variable) : List Raw → Sh Nat
  | [] => return 0
  | arg :: rest => do
    let (name, value) := splitAssignment arg
    let text := String.ofList name
    let s ← shell
    let here ←
      if !isName name then
        match s.dialect with
        | .bash => fail command 1 (ticked arg ++ raw ": not a valid identifier")
        | .dash => fail command 2 (name ++ raw ": bad variable name")
      else do
        let old := (s.vars.lookup text).getD ⟨none, false, false⟩
        if old.readOnly ∧ value.isSome then
          modifyShell fun s => { s with subject := some (raw command) }
          refuse text
          pure 1
        else do
          setShell (s.put text (change { old with value := value.or old.value }))
          pure 0
    return max here (← declareAll command change rest)

/-- A variable as a command that declares it. -/
def declaration (dialect : Dialect) (front : Raw) (name : String) (v : Variable) : Raw :=
  let value := match v.value, dialect with
    | none, _ => []
    | some text, .bash =>
      let escape (c : Char) : Raw := if "\"\\$\x60".toList.contains c then ['\\', c] else [c]
      raw "=\"" ++ text.flatMap escape ++ ['"']
    | some text, .dash => raw "='" ++ text ++ ['\'']
  front ++ ' ' :: raw name ++ value ++ ['\n']

def listVariables (bashFront dashFront : String) (pick : Variable → Bool) : Sh Nat := do
  let s ← shell
  let vs := (s.vars.filter fun e => pick e.2).mergeSort fun a b => !(b.1 < a.1)
  let front := if s.dialect = .bash then raw bashFront else raw dashFront
  out "export" (vs.flatMap fun e => declaration s.dialect front e.1 e.2)

def takeFlags : List Raw → Raw × List Raw
  | ['-', '-'] :: rest => ([], rest)
  | ('-' :: c :: cs) :: rest =>
    let (flags, rest) := takeFlags rest
    (c :: cs ++ flags, rest)
  | rest => ([], rest)

/-- Marks variables for the programs that will be started. -/
def exportNames : Builtin := fun args => do
  let (flags, names) := takeFlags args
  if names.isEmpty then listVariables "declare -x" "export" (·.exported)
  else declareAll "export" (fun v => { v with exported := !flags.contains 'n' }) names

/-- Marks variables so that they keep their values. -/
def readOnlyNames : Builtin := fun args => do
  let (_, names) := takeFlags args
  if names.isEmpty then listVariables "declare -r" "readonly" (·.readOnly)
  else declareAll "readonly" (fun v => { v with readOnly := true }) names

/-- Hides variables for the rest of a function. -/
def hideAll (names : List Raw) : Sh Unit :=
  modifyShell fun s =>
    match s.hidden with
    | [] => s
    | scope :: outer =>
      let names := (names.map fun a => String.ofList (splitAssignment a).1).filter fun n =>
        isName n.toList && !(scope.any fun e => e.1 = n)
      let s := { s with hidden := (names.map (fun n => (n, s.vars.lookup n)) ++ scope) :: outer }
      if s.dialect = .bash then names.foldl ShellState.forget s else s

/-- Gives variables a value for the time of a function. -/
def localNames : Builtin := fun args => do
  let s ← shell
  if s.calls = 0 then
    if s.dialect = .bash then fail "local" 1 (raw "can only be used in a function")
    else do
      complainOf (raw "local") (raw "not in a function")
      throw (.exit 2)
  else do
    let (flags, names) := takeFlags args
    hideAll names
    declareAll "local" (markedBy flags) names

def declare (command : String) : Builtin := fun args => do
  let (flags, names) := takeFlags args
  if (← shell).calls > 0 ∧ !flags.contains 'g' then hideAll names
  declareAll command (markedBy flags) names

/-- Takes variables or functions away. -/
def unset : Builtin := fun args => do
  let (flags, names) := takeFlags args
  let one (name : Raw) : Sh Nat := do
    let s ← shell
    let text := String.ofList name
    let dropFunction : Sh Unit :=
      modifyShell fun s => { s with functions := s.functions.filter fun e => e.1 ≠ text }
    if flags.contains 'f' then
      dropFunction
      return 0
    match s.vars.lookup text with
    | some v =>
      if v.readOnly then
        match s.dialect with
        | .bash => fail "unset" 1 (name ++ raw ": cannot unset: readonly variable")
        | .dash => fail "unset" 2 (name ++ raw ": is read only")
      else do
        modifyShell (·.forget text)
        return 0
    | none => do
      if s.dialect = .bash then
        if !flags.contains 'v' then dropFunction
        return 0
      else if isName name then return 0
      else fail "unset" 2 (name ++ raw ": bad variable name")
  let statuses ← names.mapM one
  return statuses.foldl max 0

/-! ### Reading -/

/-- How a line is read. -/
structure LineOptions where
  plainBackslash : Bool := false
  delimiter : Char := '\n'
  most : Option Nat := none

/-- Reads a line: its characters with marks for those a backslash quoted, how much was taken, and
whether the line had an end. -/
def takeLine (o : LineOptions) (fuel : Nat) (done : Marked) (taken : Nat) (cs : Raw) :
    Marked × Nat × Bool :=
  match fuel with
  | 0 => (done.reverse, taken, false)
  | fuel + 1 =>
    if o.most = some done.length then (done.reverse, taken, true)
    else
      match cs with
      | [] => (done.reverse, taken, false)
      | '\\' :: rest =>
        if o.plainBackslash then takeLine o fuel (⟨'\\', false⟩ :: done) (taken + 1) rest
        else
          match rest with
          | '\n' :: rest => takeLine o fuel done (taken + 2) rest
          | c :: rest => takeLine o fuel (⟨c, true⟩ :: done) (taken + 2) rest
          | [] => takeLine o fuel done (taken + 1) []
      | c :: rest =>
        if c = o.delimiter then (done.reverse, taken + 1, true)
        else takeLine o fuel (⟨c, false⟩ :: done) (taken + 1) rest

/-- Splits a line among so many variables, the last of which takes what is left. -/
def splitAmong (separators : Raw) (count : Nat) (cs : Marked) : List Raw :=
  let isSep (m : Mark) : Bool := !m.quoted && separators.contains m.char
  let isGap (m : Mark) : Bool := isSep m && (m.char = ' ' || m.char = '\t' || m.char = '\n')
  let cs := cs.dropWhile isGap
  match count with
  | 0 => []
  | 1 => [Marked.text (cs.reverse.dropWhile isGap).reverse]
  | n + 2 =>
    let first := cs.takeWhile fun m => !isSep m
    let rest := (cs.drop first.length).dropWhile isGap
    let rest := match rest with
      | m :: more => if isSep m then more else m :: more
      | [] => []
    Marked.text first :: splitAmong separators (n + 1) rest

/-- Reads the options of `read`: flags, how to read, and the descriptor. -/
def readOptions (fuel : Nat) (o : LineOptions) (fd : Nat) (args : List Raw) :
    LineOptions × Nat × List Raw :=
  match fuel, args with
  | 0, args => (o, fd, args)
  | _, ['-', '-'] :: rest => (o, fd, rest)
  | fuel + 1, ('-' :: c :: cs) :: rest =>
    let again : List Raw := if cs.isEmpty then rest else ('-' :: cs) :: rest
    let (value, after) := if cs.isEmpty then (rest.headD [], rest.drop 1) else (cs, rest)
    match c with
    | 'r' => readOptions fuel { o with plainBackslash := true } fd again
    | 'd' => readOptions fuel { o with delimiter := value.headD '\x00' } fd after
    | 'n' | 'N' => readOptions fuel { o with most := some (digitsValue value) } fd after
    | 'u' => readOptions fuel o (digitsValue value) after
    | 'p' | 't' | 'i' | 'a' => readOptions fuel o fd after
    | _ => readOptions fuel o fd again
  | _, args => (o, fd, args)

/-- Reads a line into variables. -/
def read : Builtin := fun args => do
  let s ← shell
  let (o, fd, names) := readOptions (args.length * 4 + 4) {} 0 args
  match names.find? fun n => !isName n with
  | some n =>
    match s.dialect with
    | .bash => fail "read" 1 (ticked n ++ raw ": not a valid identifier")
    | .dash => fail "read" 2 (n ++ raw ": bad variable name")
  | none =>
    if s.dialect = .dash ∧ names.isEmpty then fail "read" 2 (raw "arg count")
    else
      match s.descriptors.lookup fd with
      | none => fail "read" 1 (raw "read error: " ++ decimal fd ++ raw ": Bad file descriptor")
      | some channel => do
        let text := (← machine).pending channel
        let (line, taken, whole) := takeLine o (text.length + 1) [] 0 text
        modifyMachine fun m => ((), m.leave channel (text.drop taken))
        let seps ← separators
        let values := if names.isEmpty then [("REPLY", line.text)]
          else (names.map String.ofList).zip (splitAmong seps names.length line)
        let mut status := if whole then 0 else 1
        for (name, value) in values do
          if !(← assign? name value) then
            refuse name
            status := 1
        return status

/-! ### Signals -/

def killUsage : Sh Nat := do
  if (← isBash) then
    usage "kill" "[-s sigspec | -n signum | -sigspec] pid | jobspec ... or kill -l [sigspec]"
  else
    fail "kill" 2
      (raw "Usage: kill [-s sigspec | -signum | -sigspec] [pid | job]... or\nkill -l [exitstatus]")

/-- Sends a signal to a process, which is the shell itself or not there. -/
def send (run : Raw → Sh Unit) (signal : Nat) (target : Raw) : Sh Nat := do
  let s ← shell
  match integer? target with
  | none =>
    if s.dialect = .bash then fail "kill" 1 (target ++ raw ": arguments must be process or job IDs")
    else fail "kill" 2 (raw "Illegal number: " ++ target)
  | some pid =>
    if pid = s.pid ∨ pid = 0 then
      match (Signal.name? signal).bind fun n => s.traps.lookup n with
      | some action =>
        if Signal.uncatchable.contains signal then throw (.killed s.pid signal)
        else if action.isEmpty then return 0
        else do
          run action
          return 0
      | none =>
        if Signal.harmless.contains signal then return 0 else throw (.killed s.pid signal)
    else if s.background = some pid.toNat then return 0
    else if s.dialect = .bash then
      fail "kill" 1 ('(' :: decimal pid.toNat ++ raw ") - No such process")
    else fail "kill" 1 (raw "No such process\n")

/-- Sends a signal to processes. -/
def kill (run : Raw → Sh Unit) : Builtin := fun args => do
  let bash ← isBash
  let sendAll (signal : Nat) (targets : List Raw) : Sh Nat := do
    if targets.isEmpty then killUsage
    else
      let statuses ← targets.mapM (send run signal)
      return statuses.foldl max 0
  let bySpec (spec : Raw) (targets : List Raw) : Sh Nat := do
    if spec = ['0'] then sendAll 0 targets
    else
      match (Signal.named spec).bind Signal.number? with
      | some n => sendAll n targets
      | none =>
        if bash then fail "kill" 1 (spec ++ raw ": invalid signal specification")
        else fail "kill" 2 (raw "Illegal option -" ++ spec.take 1)
  match args with
  | ['-', 'l'] :: [] => out "kill" (Signal.table.flatMap fun e => raw e.2 ++ ['\n'])
  | ['-', 'l'] :: specs => do
    match specs.find? fun spec => !bash && !spec.all Char.isDigit with
    | some spec => return ← fail "kill" 2 (raw "Illegal number: " ++ spec)
    | none => pure ()
    let shown := specs.filterMap fun spec =>
      if spec.all Char.isDigit then (Signal.name? (digitsValue spec % 128)).map raw
      else ((Signal.named spec).bind Signal.number?).map decimal
    out "kill" (shown.flatMap (· ++ ['\n']))
  | ['-', 's'] :: spec :: targets => bySpec spec targets
  | ['-', 'n'] :: spec :: targets => bySpec spec targets
  | ['-', '-'] :: targets => sendAll 15 targets
  | ('-' :: spec) :: targets => bySpec spec targets
  | targets => sendAll 15 targets

/-- Says what to run at a signal or at the end. -/
def trap : Builtin := fun args => do
  let s ← shell
  let args := match args with
    | ['-', '-'] :: rest => rest
    | ['-', 'p'] :: _ => []
    | args => args
  let specs (action : Option Raw) (names : List Raw) : Sh Nat := do
    let one (spec : Raw) : Sh Nat := do
      match Signal.named spec with
      | none =>
        if s.dialect = .bash then fail "trap" 1 (spec ++ raw ": invalid signal specification")
        else do
          let _ ← write 2 (raw "trap: " ++ spec ++ raw ": bad trap\n")
          return 1
      | some name => do
        modifyShell fun s =>
          let others := s.traps.filter fun e => e.1 ≠ name
          { s with traps := match action with
            | some text => others ++ [(name, text)]
            | none => others }
        return 0
    let statuses ← names.mapM one
    return statuses.foldl max 0
  match args with
  | [] =>
    out "trap" (s.traps.flatMap fun (name, action) =>
      let shown := if name = Signal.atExit ∨ s.dialect = .dash then name else "SIG" ++ name
      let quoted := action.flatMap fun c => if c = '\'' then raw "'\\''" else [c]
      raw "trap -- '" ++ quoted ++ raw "' " ++ raw shown ++ ['\n'])
  | [spec] => specs none [spec]
  | action :: names =>
    if action = ['-'] ∨ ((Signal.named action).isSome ∧ action.all Char.isDigit) then
      specs none (if action = ['-'] then names else action :: names)
    else specs (some action) names

/-! ### The rest -/

/-- Evaluates its arguments as arithmetic; fails if the last is zero. -/
def letThem : Builtin := fun args => do
  match args with
  | [] => fail "let" 1 (raw "expression expected")
  | args => do
    let mut last : Int := 0
    for a in args do
      match (← arithmetic? a) with
      | .ok n => last := n
      | .error text => return ← fail "let" 1 text
    return if last = 0 then 1 else 0

/-- Writes the mask of modes, which stays what it is. -/
def umask : Builtin := fun args => do
  if args.isEmpty then out "umask" (raw "0022\n") else return 0

/-- Waits for a process in the background. -/
def wait : Builtin := fun args => do
  let s ← shell
  let one (a : Raw) : Sh Nat := do
    if (integer? a).map Int.toNat = s.background ∧ s.background.isSome then
      return s.backgroundStatus
    else if s.dialect = .bash then
      fail "wait" 127 (raw "pid " ++ a ++ raw " is not a child of this shell")
    else return 127
  match args with
  | [] => return 0
  | args => return (← args.mapM one).getLast?.getD 0

/-- The commands that need nothing but the shell. -/
def find? (dialect : Dialect) (name : String) : Option Builtin :=
  let quiet : Builtin := fun _ => return 0
  match name with
  | ":" | "true" => some quiet
  | "false" => some fun _ => return 1
  | "echo" => some echo
  | "printf" => some printf
  | "test" => some (test "test")
  | "[" => some bracket
  | "pwd" => some pwd
  | "cd" => some cd
  | "exit" => some exit
  | "return" => some back
  | "break" => some (leave "break" .leave)
  | "continue" => some (leave "continue" .again)
  | "shift" => some shift
  | "set" => some set
  | "export" => some exportNames
  | "readonly" => some readOnlyNames
  | "local" => some localNames
  | "unset" => some unset
  | "read" => some read
  | "trap" => some trap
  | "umask" => some umask
  | "wait" => some wait
  | "times" | "hash" | "jobs" | "alias" | "ulimit" => some quiet
  | name =>
    if dialect = .dash then none
    else
      match name with
      | "declare" => some (declare "declare")
      | "typeset" => some (declare "typeset")
      | "let" => some letThem
      | "shopt" | "enable" | "history" => some quiet
      | _ => none

end Builtin
end Pipeline.Shell
