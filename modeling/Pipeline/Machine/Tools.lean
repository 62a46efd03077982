import Pipeline.Machine.FileSystem
import Pipeline.Shell.Condition
import Pipeline.Stream.Reader

/-!
# The tools of the machine

Small programs that every machine has. A tool gets its arguments, its environment and all of its
standard input at once; it answers with what it writes, in order, its exit code, the files as it
leaves them, and what it has not read.
-/

namespace Pipeline
open Shell (Raw raw)

/-- What a tool is called with. -/
structure ToolInput where
  args : List Raw
  env : List (Raw × Raw)
  here : Place
  files : FileSystem
  stdin : Raw

/-- What a tool leaves. -/
structure ToolResult where
  /-- What was written, latest first. -/
  written : List (Stream × Raw)
  code : Nat
  files : FileSystem
  unread : Raw

namespace ToolResult

/-- Nothing written, and nothing read. -/
def start (i : ToolInput) : ToolResult := ⟨[], 0, i.files, i.stdin⟩

def out (r : ToolResult) (text : Raw) : ToolResult :=
  { r with written := (.stdout, text) :: r.written }

/-- Complains on a line of its own and fails in the end. -/
def complain (r : ToolResult) (text : Raw) : ToolResult :=
  { r with written := (.stderr, text ++ ['\n']) :: r.written, code := max r.code 1 }

end ToolResult

namespace Tool

/-- A text between single quotes, as complaints show it. -/
def inQuotes (cs : Raw) : Raw := '\'' :: cs ++ ['\'']

/-- Writes a text and succeeds. -/
def done (i : ToolInput) (text : Raw) : ToolResult := (ToolResult.start i).out text

/-- Complains and fails. -/
def failure (i : ToolInput) (text : Raw) : ToolResult := (ToolResult.start i).complain text

/-- What a tool says when it is called wrongly. -/
def misuse (i : ToolInput) (name what : Raw) : ToolResult :=
  failure i
    (name ++ raw ": " ++ what ++ raw "\nTry '" ++ name ++ raw " --help' for more information.")

def missingOperand (i : ToolInput) (name : Raw) : ToolResult :=
  misuse i name (raw "missing operand")

def reason (e : IoError) : Raw := raw e.reason

def textOf (content : Bytes) : Raw := Raw.ofBytes content

/-- The content of a file, or all of standard input for a dash. -/
def readFile (i : ToolInput) (path : Raw) : Except Raw Raw :=
  if path = ['-'] then .ok i.stdin
  else
    match i.files.read i.here (Raw.toText path) with
    | .ok content => .ok (textOf content)
    | .error e => .error (reason e)

/-- Options of single letters in front, and the operands. -/
def letters (known : String) : List Raw → List Char × List Raw
  | ['-', '-'] :: as => ([], as)
  | ('-' :: c :: cs) :: as =>
    if (c :: cs).all fun c => known.toList.contains c then
      let (more, rest) := letters known as
      (c :: cs ++ more, rest)
    else ([], ('-' :: c :: cs) :: as)
  | as => ([], as)

/-- The lines of a text; the last may lack its end. -/
def linesOf (fuel : Nat) (cs : Raw) : List Raw :=
  match fuel with
  | 0 => []
  | fuel + 1 =>
    if cs.isEmpty then []
    else
      let line := cs.takeWhile (· ≠ '\n')
      line :: linesOf fuel (cs.drop (line.length + 1))

def lines (cs : Raw) : List Raw := linesOf (cs.length + 1) cs

def unlines (ls : List Raw) : Raw := ls.flatMap fun l => l ++ ['\n']

def cat (i : ToolInput) : ToolResult :=
  let paths := if i.args.isEmpty then [['-']] else i.args
  paths.foldl (fun r path =>
    match readFile i path with
    | .ok text => { r.out text with unread := if path = ['-'] then [] else r.unread }
    | .error e => r.complain (raw "cat: " ++ path ++ raw ": " ++ e)) (ToolResult.start i)

/-- The number that an option like `-n 3`, `-3` or `-c 3` gives, whether it counts characters, and
the operands. -/
def countOption : List Raw → Raw × Bool × List Raw
  | ['-', 'n'] :: n :: as => (n, false, as)
  | ['-', 'c'] :: n :: as => (n, true, as)
  | ('-' :: 'n' :: n) :: as => (n, false, as)
  | ('-' :: 'c' :: n) :: as => (n, true, as)
  | ('-' :: d :: ds) :: as =>
    if d.isDigit then (d :: ds, false, as) else (['1', '0'], false, ('-' :: d :: ds) :: as)
  | as => (['1', '0'], false, as)

/-- Part of each file, picked from its lines or characters by the number asked for. -/
def headOrTail (i : ToolInput) (name : Raw) (pick pickChars : Raw → Raw → Raw) : ToolResult :=
  let (n, chars, paths) := countOption i.args
  let pick := if chars then pickChars else pick
  let paths := if paths.isEmpty then [['-']] else paths
  paths.foldl (fun r path =>
    match readFile i path with
    | .ok text => { r.out (pick n text) with unread := if path = ['-'] then [] else r.unread }
    | .error e =>
      r.complain (name ++ raw ": cannot open " ++ inQuotes path ++ raw " for reading: " ++ e))
    (ToolResult.start i)

/-- The length of so many lines at the front of a text. -/
def linesLength : Nat → Raw → Nat
  | 0, _ => 0
  | _, [] => 0
  | n + 1, '\n' :: cs => 1 + linesLength n cs
  | n + 1, _ :: cs => 1 + linesLength (n + 1) cs

def lineCount (cs : Raw) : Nat :=
  cs.count '\n' + (if cs.isEmpty ∨ cs.getLast? = some '\n' then 0 else 1)

def pickHead (n text : Raw) : Raw := text.take (linesLength (Shell.digitsValue n) text)

def pickTail (n text : Raw) : Raw :=
  match n with
  | '+' :: n => text.drop (linesLength (Shell.digitsValue n - 1) text)
  | n => text.drop (linesLength (lineCount text - Shell.digitsValue n) text)

def pickHeadChars (n text : Raw) : Raw := text.take (Shell.digitsValue n)

def pickTailChars (n text : Raw) : Raw := text.drop (text.length - Shell.digitsValue n)

def wordCount (cs : Raw) : Nat :=
  let space (c : Char) : Bool := c = ' ' || ('\t' ≤ c && c ≤ '\r')
  let step (s : Nat × Bool) (c : Char) : Nat × Bool :=
    if space c then (s.1, false) else (if s.2 then s.1 else s.1 + 1, true)
  (cs.foldl step (0, false)).1

/-- Numbers with blanks between them, each filled up to a width. -/
def columns (width : Nat) (ns : List Nat) : Raw :=
  Shell.spacedRaw (ns.map fun n =>
    let ds := Shell.decimal n
    List.replicate (width - ds.length) ' ' ++ ds)

def wc (i : ToolInput) : ToolResult :=
  let (options, paths) := letters "lwcm" i.args
  let wants (c : Char) : Bool := options.isEmpty || options.contains c
  let counts (text : Raw) : List Nat :=
    (if wants 'l' then [text.count '\n'] else []) ++ (if wants 'w' then [wordCount text] else []) ++
      (if wants 'c' || options.contains 'm' then [text.length] else [])
  match paths with
  | [] =>
    let ns := counts i.stdin
    { done i (columns (if ns.length = 1 then 1 else 7) ns ++ ['\n']) with unread := [] }
  | paths =>
    let sizes := paths.map fun p => ((readFile i p).toOption.getD []).length
    let width :=
      if paths.length = 1 ∧ (counts []).length = 1 then 1
      else (Shell.decimal (sizes.foldl (· + ·) 0)).length
    let r := paths.foldl (fun r path =>
      match readFile i path with
      | .ok text => r.out (columns width (counts text) ++ ' ' :: path ++ ['\n'])
      | .error e => r.complain (raw "wc: " ++ path ++ raw ": " ++ e)) (ToolResult.start i)
    if paths.length = 1 then r
    else
      let each := paths.map fun p => counts ((readFile i p).toOption.getD [])
      let totals := each.foldl (fun a b => a.zipWith (· + ·) b) ((counts []).map fun _ => 0)
      r.out (columns width totals ++ raw " total\n")

/-- The integers from one to another by a step, each as a text. -/
def seqLines (fuel : Nat) (first step last : Int) : List Raw :=
  match fuel with
  | 0 => []
  | fuel + 1 =>
    if (step > 0 ∧ first > last) ∨ (step < 0 ∧ first < last) ∨ step = 0 then []
    else raw (toString first) :: seqLines fuel (first + step) step last

def seq (i : ToolInput) : ToolResult :=
  match i.args.find? fun a => (Shell.testNumber a).isNone with
  | some a => misuse i (raw "seq") (raw "invalid floating point argument: " ++ inQuotes a)
  | none =>
    let run (a b c : Int) : ToolResult := done i (unlines (seqLines ((c - a).natAbs + 1) a b c))
    match i.args.filterMap Shell.testNumber with
    | [] => missingOperand i (raw "seq")
    | [c] => run 1 1 c
    | [a, c] => run a 1 c
    | [a, b, c] => run a b c
    | _ => misuse i (raw "seq") (raw "extra operand " ++ inQuotes (i.args.getD 3 []))

/-- A path without the slashes at its end. -/
def stripSlashes (cs : Raw) : Raw :=
  match (cs.reverse.dropWhile (· = '/')).reverse with
  | [] => if cs.isEmpty then [] else ['/']
  | cs => cs

def baseName (path : Raw) : Raw :=
  match stripSlashes path with
  | ['/'] => ['/']
  | cs => (cs.reverse.takeWhile (· ≠ '/')).reverse

def dirName (path : Raw) : Raw :=
  let cs := stripSlashes path
  if cs = ['/'] then cs
  else
    match cs.reverse.dropWhile (· ≠ '/') with
    | [] => ['.']
    | back => stripSlashes back.reverse

def basename (i : ToolInput) : ToolResult :=
  match i.args with
  | [] => missingOperand i (raw "basename")
  | [path] => done i (baseName path ++ ['\n'])
  | path :: ending :: _ =>
    let name := baseName path
    let name :=
      if ending ≠ name ∧ ending.isSuffixOf name then name.take (name.length - ending.length)
      else name
    done i (name ++ ['\n'])

def dirname (i : ToolInput) : ToolResult :=
  match i.args with
  | [] => missingOperand i (raw "dirname")
  | paths => done i (unlines (paths.map dirName))

def mkdir (i : ToolInput) : ToolResult :=
  let (options, paths) := letters "pv" i.args
  if paths.isEmpty then missingOperand i (raw "mkdir")
  else
    paths.foldl (fun r path =>
      let text := Raw.toText path
      let (made, files) :=
        if options.contains 'p' ∧ text ≠ "" then r.files.makeTree i.here (Path.plain text)
        else
          match r.files.makeDirectory i.here text with
          | .ok files => (.ok (), files)
          | .error e => (.error e, r.files)
      let r := { r with files }
      match made with
      | .ok () => r
      | .error e =>
        r.complain (raw "mkdir: cannot create directory " ++ inQuotes path ++ raw ": " ++ reason e))
      (ToolResult.start i)

def rm (i : ToolInput) : ToolResult :=
  let (options, paths) := letters "rRfdiv" i.args
  let force := options.contains 'f'
  if paths.isEmpty then
    if force then ToolResult.start i else missingOperand i (raw "rm")
  else
    paths.foldl (fun r path =>
      let refuse (e : Raw) : ToolResult :=
        r.complain (raw "rm: cannot remove " ++ inQuotes path ++ raw ": " ++ e)
      match r.files.find i.here (Raw.toText path), r.files.locate i.here (Raw.toText path) with
      | .ok (.dir _), .ok place =>
        if options.contains 'r' ∨ options.contains 'R' then
          { r with files := r.files.clearAll place }
        else refuse (raw "Is a directory")
      | .ok _, .ok place => { r with files := r.files.clear place }
      | .error e, _ => if force ∧ e.isNotFound then r else refuse (reason e)
      | _, .error e => refuse (reason e)) (ToolResult.start i)

def rmdir (i : ToolInput) : ToolResult :=
  if i.args.isEmpty then missingOperand i (raw "rmdir")
  else
    i.args.foldl (fun r path =>
      let refuse (e : Raw) : ToolResult :=
        r.complain (raw "rmdir: failed to remove " ++ inQuotes path ++ raw ": " ++ e)
      match r.files.find i.here (Raw.toText path), r.files.locate i.here (Raw.toText path) with
      | .ok (.dir _), .ok place =>
        if (r.files.list place).isEmpty then { r with files := r.files.clear place }
        else refuse (raw "Directory not empty")
      | .ok _, _ => refuse (raw "Not a directory")
      | .error e, _ => refuse (reason e)) (ToolResult.start i)

def touch (i : ToolInput) : ToolResult :=
  let (_, paths) := letters "acm" i.args
  if paths.isEmpty then misuse i (raw "touch") (raw "missing file operand")
  else
    paths.foldl (fun r path =>
      let text := Raw.toText path
      match r.files.find i.here text with
      | .ok _ => r
      | .error _ =>
        match r.files.write i.here text [] with
        | .ok files => { r with files }
        | .error e =>
          r.complain (raw "touch: cannot touch " ++ inQuotes path ++ raw ": " ++ reason e))
      (ToolResult.start i)

/-- Octal digits as permission bits. -/
def chmod (i : ToolInput) : ToolResult :=
  match i.args with
  | [] => missingOperand i (raw "chmod")
  | [mode] => misuse i (raw "chmod") (raw "missing operand after " ++ inQuotes mode)
  | mode :: paths =>
    paths.foldl (fun r path =>
      let text := Raw.toText path
      let old := match r.files.find i.here text with
        | .ok (.file _ m) => m
        | _ => FileSystem.executableMode
      let new :=
        if mode.all Shell.isOctalDigit then Shell.octalValue mode
        else if mode = raw "+x" ∨ mode = raw "a+x" then old ||| 0o111
        else if mode = raw "-x" then old &&& 0o666
        else if mode = raw "u+x" then old ||| 0o100
        else old
      match r.files.setMode i.here text new with
      | .ok files => { r with files }
      | .error e =>
        r.complain (raw "chmod: cannot access " ++ inQuotes path ++ raw ": " ++ reason e))
      (ToolResult.start i)

/-- Copies the first operand to the second, or into it. -/
def copyTo (i : ToolInput) (name : Raw) (move : Bool) : ToolResult :=
  match (letters "rRfpv" i.args).2 with
  | [] => misuse i name (raw "missing file operand")
  | [a] => misuse i name (raw "missing destination file operand after " ++ inQuotes a)
  | a :: b :: _ =>
    match i.files.find i.here (Raw.toText a), i.files.locate i.here (Raw.toText a) with
    | .ok (.file content mode), .ok from_ =>
      let target := Raw.toText b
      let target := if i.files.isDirectory i.here target
        then Path.join target (Raw.toText (baseName a)) else target
      match i.files.write i.here target content with
      | .error e =>
        failure i
          (name ++ raw ": cannot create regular file " ++ inQuotes b ++ raw ": " ++ reason e)
      | .ok files =>
        let files := (files.setMode i.here target mode).toOption.getD files
        { ToolResult.start i with files := if move then files.clear from_ else files }
    | .ok (.dir _), _ =>
      failure i (name ++ raw ": -r not specified; omitting directory " ++ inQuotes a)
    | .ok _, _ => ToolResult.start i
    | .error e, _ => failure i (name ++ raw ": cannot stat " ++ inQuotes a ++ raw ": " ++ reason e)

def ls (i : ToolInput) : ToolResult :=
  let (options, paths) := letters "1aAdlh" i.args
  let all := options.contains 'a'
  let names (place : Place) : List Raw :=
    (if all then [['.'], ['.', '.']] else []) ++
      (((i.files.list place).map fun e => Raw.ofText e.1).filter fun n =>
        all || options.contains 'A' || n.head? ≠ some '.')
  let paths := if paths.isEmpty then [['.']] else paths
  let found := paths.map fun p =>
    (p, i.files.find i.here (Raw.toText p), i.files.locate i.here (Raw.toText p))
  let isDir : Except IoError Node → Bool
    | .ok (.dir _) => !options.contains 'd'
    | _ => false
  let r := found.foldl (fun r (p, node, _) =>
    match node with
    | .error e =>
      { r.complain (raw "ls: cannot access " ++ inQuotes p ++ raw ": " ++ reason e) with code := 2 }
    | .ok _ => r) (ToolResult.start i)
  let files := (found.filter fun (_, node, _) => node.toOption.isSome && !isDir node).map (·.1)
  let r := if files.isEmpty then r else r.out (unlines files)
  let dirs := found.filter fun (_, node, _) => isDir node
  (dirs.foldl (fun (acc : ToolResult × Bool) (p, _, place) =>
    let (r, first) := acc
    let title := if paths.length > 1 then (if first then [] else ['\n']) ++ p ++ [':', '\n'] else []
    (r.out (title ++ unlines (names (place.toOption.getD []))), false)) (r, files.isEmpty)).1

/-- The characters that a set for `tr` lists. -/
def trSet (fuel : Nat) (cs : Raw) : Raw :=
  match fuel with
  | 0 => []
  | fuel + 1 =>
    match cs with
    | [] => []
    | '\\' :: cs =>
      let (text, n, _) := Shell.readEscape ⟨true, true, false, false, false, false⟩ cs
      text ++ trSet fuel (cs.drop n)
    | '[' :: ':' :: rest =>
      let name := rest.takeWhile (· ≠ ':')
      let ranges := Shell.Pattern.classRanges (.ofList name)
      ranges.flatMap (fun r => (List.range (r.2.toNat + 1 - r.1.toNat)).map fun k =>
        Char.ofNat (r.1.toNat + k)) ++ trSet fuel (rest.drop (name.length + 2))
    | a :: '-' :: b :: cs =>
      (List.range (b.toNat + 1 - a.toNat)).map (fun k => Char.ofNat (a.toNat + k)) ++ trSet fuel cs
    | c :: cs => c :: trSet fuel cs

def squeeze (set : Raw) : Raw → Raw
  | a :: b :: cs =>
    let rest := squeeze set (b :: cs)
    if a = b ∧ set.contains a then rest else a :: rest
  | cs => cs

def tr (i : ToolInput) : ToolResult :=
  let (options, sets) := letters "dsc" i.args
  let set (k : Nat) : Raw := let s := sets.getD k []; trSet (s.length + 1) s
  let text := i.stdin
  let isIn (c : Char) : Bool := (set 0).contains c != options.contains 'c'
  match sets with
  | [] => missingOperand i (raw "tr")
  | _ =>
    let text :=
      if options.contains 'd' then text.filter fun c => !isIn c
      else if sets.length < 2 then text
      else
        let images := set 1
        text.map fun c =>
          if isIn c then
            let k := if options.contains 'c' then images.length else (set 0).idxOf c
            (images[k]?).getD (images.getLast?.getD c)
          else c
    let text := if options.contains 's' then squeeze (set (sets.length - 1)) text else text
    { done i text with unread := [] }

def sortLines (i : ToolInput) : ToolResult :=
  let (options, paths) := letters "rnu" i.args
  let paths := if paths.isEmpty then [['-']] else paths
  match paths.findSome? fun p => match readFile i p with
    | .error e => some (p, e)
    | .ok _ => none with
  | some (p, e) => { failure i (raw "sort: cannot read: " ++ p ++ raw ": " ++ e) with code := 2 }
  | none =>
    let ls := paths.flatMap fun p => lines ((readFile i p).toOption.getD [])
    let before (a b : Raw) : Bool :=
      if options.contains 'n' then
        let m := (Shell.readNumber a).1
        let n := (Shell.readNumber b).1
        if m = n then !(decide (b < a)) else m < n
      else !(decide (b < a))
    let ls := ls.mergeSort before
    let ls := if options.contains 'u' then ls.eraseReps else ls
    { done i (unlines (if options.contains 'r' then ls.reverse else ls)) with unread := [] }

def uniq (i : ToolInput) : ToolResult :=
  let (options, paths) := letters "c" i.args
  let path := paths.headD ['-']
  match readFile i path with
  | .error e => failure i (raw "uniq: " ++ path ++ raw ": " ++ e)
  | .ok text =>
    let groups := (lines text).foldr (fun l gs =>
      match gs with
      | (m, n) :: gs => if m = l then (l, n + 1) :: gs else (l, 1) :: (m, n) :: gs
      | [] => [(l, 1)]) ([] : List (Raw × Nat))
    let shown (g : Raw × Nat) : Raw :=
      if options.contains 'c' then columns 7 [g.2] ++ ' ' :: g.1 else g.1
    { done i (unlines (groups.map shown)) with unread := [] }

def tee (i : ToolInput) : ToolResult :=
  let (options, paths) := letters "ai" i.args
  paths.foldl (fun r path =>
    let text := Raw.toText path
    let old := if options.contains 'a' then (r.files.read i.here text).toOption.getD [] else []
    match r.files.write i.here text (old ++ Raw.toBytes i.stdin) with
    | .ok files => { r with files }
    | .error e => r.complain (raw "tee: " ++ path ++ raw ": " ++ reason e))
    { done i i.stdin with unread := [] }

def printenv (i : ToolInput) : ToolResult :=
  match i.args with
  | [] => done i (unlines (i.env.map fun e => e.1 ++ '=' :: e.2))
  | names =>
    names.foldl (fun r n =>
      match i.env.lookup n with
      | some v => r.out (v ++ ['\n'])
      | none => { r with code := 1 }) (ToolResult.start i)

def sleep (i : ToolInput) : ToolResult :=
  let isTime (cs : Raw) : Bool :=
    let cs := match cs.getLast? with
      | some c => if "smhd".toList.contains c then cs.dropLast else cs
      | none => cs
    !cs.isEmpty && cs.all fun c => c.isDigit || c = '.'
  if i.args.isEmpty then missingOperand i (raw "sleep")
  else
    match i.args.find? fun a => !isTime a with
    | some a => misuse i (raw "sleep") (raw "invalid time interval " ++ inQuotes a)
    | none => ToolResult.start i

/-- What the tool says of arguments that the shells word differently. -/
def printfComplaint (text : Raw) : Raw :=
  let ending := raw ": invalid number"
  if ending.isSuffixOf text then
    inQuotes (text.take (text.length - ending.length)) ++ raw ": expected a numeric value"
  else text

def printf (i : ToolInput) : ToolResult :=
  match i.args with
  | [] => missingOperand i (raw "printf")
  | format :: args =>
    let (text, complaints, failed) := Shell.printf .bash format args
    let r := complaints.foldl (fun r c => r.complain (raw "printf: " ++ printfComplaint c))
      (ToolResult.start i)
    { r.out text with code := if failed then 1 else 0 }

def condition (i : ToolInput) (name : Raw) (words : List Raw) : ToolResult :=
  match Shell.decideWords ⟨.bash, i.files, i.here, fun _ => false⟩ words with
  | .holds b => { ToolResult.start i with code := if b then 0 else 1 }
  | .fault text => { failure i (name ++ raw ": " ++ text) with code := 2 }

def bracket (i : ToolInput) : ToolResult :=
  match i.args.getLast? with
  | some [']'] => condition i ['['] i.args.dropLast
  | _ => { failure i (raw "[: missing ']'") with code := 2 }

def realpath (i : ToolInput) : ToolResult :=
  i.args.foldl (fun r path =>
    match i.files.locate i.here (Raw.toText path) with
    | .ok place => r.out (Raw.ofText (FileSystem.absolute place) ++ ['\n'])
    | .error e => r.complain (raw "realpath: " ++ path ++ raw ": " ++ reason e))
    (ToolResult.start i)

def which (i : ToolInput) : ToolResult :=
  let dirs := Path.searchList (Raw.toText ((i.env.lookup (raw "PATH")).getD []))
  i.args.foldl (fun r name =>
    let text := Raw.toText name
    let found :=
      if Path.hasSlash text then (if i.files.isExecutable i.here text then some text else none)
      else (dirs.map fun d => Path.join d text).find? fun p => i.files.isExecutable i.here p
    match found with
    | some p => r.out (Raw.ofText p ++ ['\n'])
    | none => { r with code := 1 }) (ToolResult.start i)

/-- The tools that need nothing but what they are given. -/
def run? (name : String) (i : ToolInput) : Option ToolResult :=
  match name with
  | "true" => some (ToolResult.start i)
  | "false" => some { ToolResult.start i with code := 1 }
  | "echo" => some (done i (Shell.echoText .bash i.args))
  | "printf" => some (printf i)
  | "cat" => some (cat i)
  | "head" => some (headOrTail i (raw "head") pickHead pickHeadChars)
  | "tail" => some (headOrTail i (raw "tail") pickTail pickTailChars)
  | "wc" => some (wc i)
  | "seq" => some (seq i)
  | "basename" => some (basename i)
  | "dirname" => some (dirname i)
  | "mkdir" => some (mkdir i)
  | "rmdir" => some (rmdir i)
  | "rm" => some (rm i)
  | "touch" => some (touch i)
  | "chmod" => some (chmod i)
  | "cp" => some (copyTo i (raw "cp") false)
  | "mv" => some (copyTo i (raw "mv") true)
  | "ls" => some (ls i)
  | "tr" => some (tr i)
  | "sort" => some (sortLines i)
  | "uniq" => some (uniq i)
  | "tee" => some (tee i)
  | "printenv" => some (printenv i)
  | "pwd" => some (done i (Raw.ofText (FileSystem.absolute i.here) ++ ['\n']))
  | "sleep" => some (sleep i)
  | "test" => some (condition i (raw "test") i.args)
  | "[" => some (bracket i)
  | "realpath" => some (realpath i)
  | "which" => some (which i)
  | "rev" => some { done i (unlines ((lines i.stdin).map List.reverse)) with unread := [] }
  | "tac" => some { done i (unlines (lines i.stdin).reverse) with unread := [] }
  | "id" => some (done i (raw "0\n"))
  | "uname" => some (done i (raw "Linux\n"))
  | _ => none

/-- The names of all tools, those that start other programs among them. -/
def names : List String :=
  ["[", "basename", "bash", "cat", "chmod", "cp", "dash", "dirname", "echo", "env", "false", "head",
    "id", "ls", "mkdir", "mv", "printenv", "printf", "pwd", "realpath", "rev", "rm", "rmdir", "seq",
    "sh", "sleep", "sort", "tac", "tail", "tee", "test", "touch", "tr", "true", "uname", "uniq",
    "wc", "which"]

/-- Puts the tools where the search list finds them. -/
def install (fs : FileSystem) : FileSystem :=
  let fs := [["usr"], ["usr", "bin"], ["bin"], ["dev"], ["etc"], ["opt"], ["tmp"]].foldl
    (fun fs p => fs.put p (.dir FileSystem.dirMode)) fs
  let fs := fs.put ["dev", "null"] .nullDevice
  names.foldl (fun fs n => (fs.put ["usr", "bin", n] (.tool n)).put ["bin", n] (.tool n)) fs

end Tool
end Pipeline
