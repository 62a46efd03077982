import Pipeline.Cli.Request

/-!
# Reading command lines

Arguments are read from left to right. A long option is written `--name`, `--name=value` or
`--name value`; short ones may stand together after one dash, and the first that takes a value takes
the rest of the word, or the next word. The word after an option that waits for its value is that
value unless it looks like an option itself. After a lone `--` no word is an option.

A value that stands in a word of its own is looked at only when the next option, a positional
argument or the end of the line settles it. That decides which of two errors is reported.
-/

namespace Pipeline.Cli

/-- The things that a command line can set. -/
inductive Setting where
  | logLevel
  | input
  | inputsFile
  | output
  | json
  | noCleanup
  | name
deriving DecidableEq, Repr

/-- What an option does. -/
inductive OptionRule where
  | value (s : Setting)
  | flag (s : Setting)
  | help
  | version
deriving DecidableEq, Repr

/-- What may be given at one level of the command line. -/
structure Level where
  long : String → Option OptionRule
  short : Char → Option OptionRule
  /-- The positional argument, if there is one. -/
  positional : Option Setting
  subcommands : List String
  /-- What a word is that has no place. -/
  stray : UsageError

/-- What was read so far: the settings made, and the one whose value is not settled. -/
structure Reading where
  settings : List (Setting × String)
  pending : Option (Setting × Option String)
deriving DecidableEq, Repr

namespace Reading

/-- Nothing is read yet. -/
def start : Reading := ⟨[], none⟩

/-- Whether something was given to a setting. -/
def has (r : Reading) (s : Setting) : Bool := r.settings.any fun e => e.1 = s

/-- The values given to a setting, in order. -/
def values (r : Reading) (s : Setting) : List String :=
  r.settings.filterMap fun e => if e.1 = s then some e.2 else none

/-- The value given to a setting last. -/
def value? (r : Reading) (s : Setting) : Option String := (r.values s).getLast?

/-- What is wrong with a value. -/
def fault : Setting → String → Option UsageError
  | .input, value => if (keyValue value).isNone then some .valueMalformed else none
  | .inputsFile, value => if value = "" then some .valueMissing else none
  | .output, value => if value = "" then some .valueMissing else none
  | _, _ => none

/-- Makes a setting. Only inputs may be given more than once. -/
def make (r : Reading) (s : Setting) (value : String) : Except UsageError Reading :=
  if s ≠ .input ∧ r.has s then .error .argumentRepeated
  else
    match fault s value with
    | some e => .error e
    | none => .ok { r with settings := r.settings ++ [(s, value)] }

/-- Makes the pending setting. -/
def settle (r : Reading) : Except UsageError Reading :=
  match r.pending with
  | none => .ok r
  | some (_, none) => .error .valueMissing
  | some (s, some value) => make { r with pending := none } s value

/-- Makes a setting after the pending one. -/
def settleAndMake (r : Reading) (s : Setting) (value : String) : Except UsageError Reading :=
  r.settle >>= fun r => r.make s value

/-- Leaves a setting pending, after the one that was. -/
def await (r : Reading) (s : Setting) : Except UsageError Reading :=
  r.settle.map fun r => { r with pending := some (s, none) }

/-- The setting that waits for a value. -/
def waiting (r : Reading) : Option Setting :=
  match r.pending with
  | some (s, none) => some s
  | _ => none

/-- Answers an option that takes no value. -/
def applyFlag (r : Reading) : OptionRule → Except UsageError Reading
  | .value s => r.await s
  | .flag s => r.settleAndMake s "true"
  | .help => r.settle >>= fun _ => .error .helpAsked
  | .version => r.settle >>= fun _ => .error .versionAsked

/-- Answers a long option. -/
def applyLong (r : Reading) (rule : OptionRule) : Option String → Except UsageError Reading
  | none => r.applyFlag rule
  | some value =>
    match rule with
    | .value s => r.settleAndMake s value
    | _ => .error .valueUnneeded

/-- Answers the letters after a single dash. -/
def applyShort (level : Level) : Reading → List Char → Except UsageError Reading
  | r, [] => .ok r
  | r, c :: cs =>
    match level.short c with
    | none => .error .argumentUnknown
    | some (.value s) =>
      match cs with
      | [] => r.await s
      | '=' :: cs => r.settleAndMake s (.ofList cs)
      | cs => r.settleAndMake s (.ofList cs)
    | some rule => r.applyFlag rule >>= fun r => applyShort level r cs

end Reading

/-- The kinds of words on a command line. -/
inductive Word where
  | separator
  | long (name : String) (value : Option String)
  | short (letters : List Char)
  | plain
deriving DecidableEq, Repr

/-- The kind of a word. A lone dash and an empty word are no options. -/
def Word.of (text : String) : Word :=
  match text.toList with
  | ['-', '-'] => .separator
  | '-' :: '-' :: cs =>
    match Text.splitOnce '=' cs with
    | some (name, value) => .long (.ofList name) (some (.ofList value))
    | none => .long (.ofList cs) none
  | '-' :: c :: cs => .short (c :: cs)
  | _ => .plain

namespace Level

/-- Reads a word that is no option. -/
def readPositional (level : Level) (word : String) (r : Reading) : Except UsageError Reading :=
  match level.positional with
  | some s => if r.has s then .error level.stray else r.settleAndMake s word
  | none => .error level.stray

/-- Reads the words after a lone `--`. -/
def readTrailing (level : Level) : List String → Reading → Except UsageError Reading
  | [], r => .ok r
  | word :: words, r =>
    match level.readPositional word r with
    | .ok r => readTrailing level words r
    | .error e => .error (if level.subcommands.contains word then .argumentUnknown else e)

/-- Reads one level up to its end, or to a subcommand, which is returned with the words after it. -/
def read (level : Level) :
    List String → Reading → Except UsageError (Reading × Option (String × List String))
  | [], r => .ok (r, none)
  | word :: words, r =>
    if r.waiting.isNone ∧ word ∈ level.subcommands then .ok (r, some (word, words))
    else
      match Word.of word with
      | .separator => (level.readTrailing words r).map fun r => (r, none)
      | .long name value =>
        match level.long name with
        | none => .error .argumentUnknown
        | some rule => r.applyLong rule value >>= fun r => read level words r
      | .short letters => Reading.applyShort level r letters >>= fun r => read level words r
      | .plain =>
        match r.waiting with
        | some s => read level words { r with pending := some (s, some word) }
        | none => level.readPositional word r >>= fun r => read level words r

end Level
end Pipeline.Cli
