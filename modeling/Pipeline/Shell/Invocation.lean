import Pipeline.Shell.Run

/-!
# Starting a shell

A shell is given a script as an argument, in a file, or on its standard input. It takes the
variables of its environment over and adds a few of its own.
-/

namespace Pipeline.Shell
open Sh

/-- What the arguments of a shell ask for. -/
structure Invocation where
  options : Options
  /-- Whether the first operand is the script. -/
  command : Bool
  fromInput : Bool
  operands : List Raw

/-- Why the arguments of a shell are refused. -/
inductive InvocationFault where
  | badOption (sign : Char) (letter : Char)
  | badName (name : Raw)
deriving DecidableEq, Repr

/-- Long options that change nothing here. -/
def ignoredLongOptions : List String :=
  ["--norc", "--noprofile", "--posix", "--login", "--restricted", "--noediting"]

namespace Invocation

def readLetters (dialect : Dialect) (sign : Char) :
    Raw → List Raw → Invocation → Except InvocationFault (Invocation × List Raw)
  | [], rest, i => .ok (i, rest)
  | 'c' :: cs, rest, i => readLetters dialect sign cs rest { i with command := true }
  | 's' :: cs, rest, i => readLetters dialect sign cs rest { i with fromInput := true }
  | 'l' :: cs, rest, i => readLetters dialect sign cs rest i
  | 'i' :: cs, rest, i => readLetters dialect sign cs rest i
  | 'o' :: cs, name :: rest, i =>
    match Builtin.switchName (sign = '-') name i.options with
    | some options => readLetters dialect sign cs rest { i with options }
    | none => .error (.badName name)
  | c :: cs, rest, i =>
    match Builtin.switchLetter (sign = '-') c i.options with
    | some options => readLetters dialect sign cs rest { i with options }
    | none => .error (.badOption sign c)

/-- Reads the options off the front of the arguments. -/
def readArgs (dialect : Dialect) : Nat → List Raw → Invocation → Except InvocationFault Invocation
  | 0, rest, i => .ok { i with operands := rest }
  | fuel + 1, args, i =>
    match args with
    | ['-', '-'] :: rest => .ok { i with operands := rest }
    | ['-'] :: rest => .ok { i with operands := rest }
    | (sign :: c :: cs) :: rest =>
      if sign = '-' ∨ sign = '+' then
        if dialect = .bash ∧ ignoredLongOptions.contains (.ofList (sign :: c :: cs)) then
          readArgs dialect fuel rest i
        else
          match readLetters dialect sign (c :: cs) rest i with
          | .ok (i, rest) => readArgs dialect fuel rest i
          | .error e => .error e
      else .ok { i with operands := (sign :: c :: cs) :: rest }
    | rest => .ok { i with operands := rest }

def read (dialect : Dialect) (args : List Raw) : Except InvocationFault Invocation :=
  readArgs dialect (args.length + 1) args ⟨{}, false, false, []⟩

end Invocation

/-- The search list of a shell that inherits none. -/
def defaultSearch : Raw :=
  "/usr/local/sbin:/usr/local/bin:/usr/sbin:/usr/bin:/sbin:/bin".toList

/-- The variables of a new shell. -/
def startingVariables (dialect : Dialect) (here : Place) (env : List (Raw × Raw)) :
    List (String × Variable) :=
  let inherited := (env.filter fun e => isName e.1).map fun e =>
    (String.ofList e.1, (⟨some e.2, true, false⟩ : Variable))
  let own (name : String) (text : Raw) (exported : Bool) :=
    setVariable name ⟨some text, exported, false⟩
  let orElse (name : String) (text : Raw) (vs : List (String × Variable)) :
      List (String × Variable) :=
    if (vs.lookup name).isSome then vs else own name text false vs
  -- The search list has its slot before anything is inherited.
  let (path, others) := inherited.partition fun e => e.1 = "PATH"
  let vs := (path ++ others).reverse
  let vs := own "IFS" [' ', '\t', '\n'] false vs
  let vs := own "PWD" (Raw.ofText (FileSystem.absolute here)) true vs
  let vs := own "PPID" ['1'] false (own "OPTIND" ['1'] false (orElse "PS4" ['+', ' '] vs))
  match dialect with
  | .dash => vs
  | .bash =>
    let level := leadingNumber (((vs.lookup levelVariable).bind (·.value)).getD []) + 1
    let vs := own levelVariable (decimal level) true vs
    let vs := orElse "PATH" defaultSearch vs
    let vs := own "UID" ['0'] false (own "EUID" ['0'] false vs)
    if (vs.lookup "OLDPWD").isSome then vs else setVariable "OLDPWD" ⟨none, true, false⟩ vs

/-- A new shell in the place of a process. -/
def startingState (dialect : Dialect) (process : ShellState) (env : List (Raw × Raw))
    (origin : ScriptOrigin) (options : Options) (name : Raw) (args : List Raw) : ShellState where
  dialect := dialect
  origin := origin
  name := name
  speaker := name
  subject := none
  args := args
  vars := startingVariables dialect process.here env
  passed := if dialect = .bash then env.filter fun e => !isName e.1 else []
  functions := []
  descriptors := process.descriptors
  here := process.here
  status := 0
  line := 0
  options := options
  guarded := false
  nested := false
  last := origin == .argument
  loops := 0
  calls := 0
  sourced := 0
  hidden := []
  traps := []
  pid := process.pid
  background := none
  backgroundStatus := 0
  substituted := none

/-- What is said of a wrong option. -/
def refuseOption (dialect : Dialect) (name : Raw) (e : InvocationFault) : Raw :=
  match dialect, e with
  | .bash, .badOption sign letter =>
    name ++ [':', ' ', sign, letter] ++ ": invalid option\n".toList
  | .bash, .badName text => name ++ [':', ' '] ++ text ++ ": invalid option name\n".toList
  | .dash, .badOption sign letter => name ++ ": 0: Illegal option ".toList ++ [sign, letter, '\n']
  | .dash, .badName text => name ++ ": 0: Illegal option -o ".toList ++ text ++ ['\n']

section
variable (run : Runner)

/-- Runs a shell over a process, to the status of its last command. -/
def runShell (dialect : Dialect) (argv : List Raw) (env : List (Raw × Raw)) : Sh Nat := do
  let process ← shell
  let name := argv.headD []
  let say (text : Raw) : Sh Unit := do
    let _ ← write 2 text
  let go (origin : ScriptOrigin) (options : Options) (name : Raw) (args : List Raw)
      (label text : Raw) : Sh Nat := do
    setShell (startingState dialect process env origin options name args)
    untilEnd run (run (.script label 1 text))
  let bash : Bool := dialect = .bash
  match Invocation.read dialect (argv.drop 1) with
  | .error e => do
    say (refuseOption dialect name e)
    return 2
  | .ok i =>
    if i.command then
      match i.operands with
      | [] => do
        let wanting :=
          if bash then ": -c: option requires an argument\n" else ": 0: -c requires an argument\n"
        say (name ++ wanting.toList)
        return 2
      | text :: more =>
        let label := if bash then "-c: ".toList else []
        go .argument i.options (more.headD name) (more.drop 1) label text
    else
      match i.fromInput, i.operands with
      | false, path :: args => do
        let fs ← files
        let text := Raw.toText path
        let path ←
          if bash ∧ ¬ path.contains '/' ∧ (fs.find process.here text).toOption.isNone then do
            let list := (env.lookup "PATH".toList).getD []
            match Image.search fs process.here (Path.searchList (Raw.toText list)) text with
            | .ok found => pure (Raw.ofText found)
            | .error _ => pure path
          else pure path
        match fs.find process.here (Raw.toText path) with
        | .error e => do
          if bash then
            say (name ++ [':', ' '] ++ path ++ [':', ' '] ++ e.reason.toList ++ ['\n'])
            return 127
          else
            say (name ++ ": 0: ".toList ++ openComplaint .dash false path e ++ ['\n'])
            return 2
        | .ok (.dir _) =>
          if bash then do
            say (path ++ [':', ' '] ++ path ++ ": Is a directory\n".toList)
            return 126
          else return 0
        | .ok node =>
          let content := match node with
            | .file content _ => Raw.ofBytes content
            | _ => []
          go .file i.options path args [] content
      | _, args => do
        let channel := (process.descriptors.lookup 0).getD .null
        let text := (← machine).pending channel
        modifyMachine fun m => ((), m.leave channel [])
        go .standardInput i.options name args [] text

end
end Pipeline.Shell
