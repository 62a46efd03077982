import Pipeline.Machine.FileSystem
import Pipeline.Shell.Format
import Pipeline.Shell.Pattern

/-!
# Conditions

What `test` decides: texts, numbers and files, with negation, conjunction, disjunction and
parentheses. The meaning of a short list of words depends on their number alone.
-/

namespace Pipeline.Shell

/-- How a condition came out. -/
inductive Verdict where
  | holds (b : Bool)
  /-- A complaint about the words. -/
  | fault (text : Raw)
deriving DecidableEq, Repr

namespace Verdict

def not : Verdict → Verdict
  | .holds b => .holds !b
  | v => v

/-- The exit code of a verdict. -/
def code : Verdict → Nat
  | .holds true => 0
  | .holds false => 1
  | .fault _ => 2

end Verdict

/-- What conditions look at. -/
structure Surroundings where
  dialect : Dialect
  files : FileSystem
  here : Place
  /-- Whether a variable is set. -/
  isSet : String → Bool

namespace Surroundings

def node (s : Surroundings) (path : Raw) : Option Node :=
  (s.files.find s.here (Raw.toText path)).toOption

/-- A test of what a path leads to. -/
def fileTest (s : Surroundings) (c : Char) (path : Raw) : Bool :=
  match s.node path with
  | none => false
  | some node =>
    match c, node with
    | 'e', _ | 'a', _ => true
    | 'f', .file .. | 'f', .tool _ => true
    | 'd', .dir _ => true
    | 'r', _ | 'w', _ => true
    | 'x', .file _ mode => FileSystem.allowsExecution mode
    | 'x', .nullDevice => false
    | 'x', _ => true
    | 's', .file content _ => !content.isEmpty
    | 's', .nullDevice => false
    | 's', _ => true
    | 'c', .nullDevice => true
    | 'O', _ | 'G', _ => true
    | _, _ => false

end Surroundings

def unaryTests : List Raw :=
  ["-e", "-a", "-f", "-d", "-r", "-w", "-x", "-s", "-c", "-O", "-G", "-b", "-p", "-S", "-h", "-L",
    "-g", "-u", "-k", "-t", "-n", "-z", "-v"].map String.toList

/-- Tests of two words. -/
def binaryTests : List Raw :=
  ["=", "==", "!=", "<", ">", "-eq", "-ne", "-lt", "-le", "-gt", "-ge", "-nt", "-ot", "-ef"].map
    String.toList

def testNumber (cs : Raw) : Option Int :=
  let cs := cs.dropWhile fun c => c = ' ' ∨ c = '\t'
  let cs := (cs.reverse.dropWhile fun c => c = ' ' ∨ c = '\t').reverse
  let (negative, ds) := match cs with
    | '-' :: ds => (true, ds)
    | '+' :: ds => (false, ds)
    | ds => (false, ds)
  if ds.isEmpty ∨ ¬ ds.all Char.isDigit then none
  else
    let n : Int := digitsValue ds
    some (if negative then -n else n)

section
variable (s : Surroundings)

def badInteger (cs : Raw) : Verdict :=
  match s.dialect with
  | .bash => .fault (cs ++ ": integer expression expected".toList)
  | .dash => .fault ("Illegal number: ".toList ++ cs)

def unaryTest (op arg : Raw) : Verdict :=
  match op with
  | ['-', 'n'] => .holds !arg.isEmpty
  | ['-', 'z'] => .holds arg.isEmpty
  | ['-', 't'] => .holds false
  | ['-', 'v'] => .holds (s.isSet (.ofList arg))
  | ['-', c] => .holds (s.fileTest c arg)
  | _ => .holds false

def compareTest (holds : Int → Int → Bool) (a b : Raw) : Verdict :=
  match testNumber a, testNumber b with
  | some m, some n => .holds (holds m n)
  | none, _ => badInteger s a
  | _, none => badInteger s b

def binaryTest (op a b : Raw) : Verdict :=
  match String.ofList op with
  | "=" | "==" => .holds (a = b)
  | "!=" => .holds (a ≠ b)
  | "<" => .holds (decide (a < b))
  | ">" => .holds (decide (b < a))
  | "-eq" => compareTest s (· == ·) a b
  | "-ne" => compareTest s (· != ·) a b
  | "-lt" => compareTest s (fun m n => m < n) a b
  | "-le" => compareTest s (fun m n => m ≤ n) a b
  | "-gt" => compareTest s (fun m n => m > n) a b
  | "-ge" => compareTest s (fun m n => m ≥ n) a b
  | _ => .holds false

def isUnary (op : Raw) : Bool := unaryTests.contains op
def isBinary (op : Raw) : Bool := binaryTests.contains op

/-- What is said of more words than a condition has. -/
def tooMany (ws : List Raw) : Verdict :=
  match s.dialect with
  | .bash => .fault "too many arguments".toList
  | .dash => .fault (ws.headD [] ++ ": unexpected operator".toList)

/-- What is said of a word that should be an operator. -/
def notUnary (op : Raw) : Verdict :=
  match s.dialect with
  | .bash => .fault (op ++ ": unary operator expected".toList)
  | .dash => .fault (op ++ ": unexpected operator".toList)

def notBinary (first op : Raw) : Verdict :=
  match s.dialect with
  | .bash => .fault (op ++ ": binary operator expected".toList)
  | .dash => .fault (first ++ ": unexpected operator".toList)

mutual

/-- Words joined by disjunction. -/
def orTest : Nat → List Raw → Verdict × List Raw
  | 0, ws => (tooMany s ws, ws)
  | fuel + 1, ws =>
    match andTest fuel ws with
    | (.holds a, ['-', 'o'] :: ws) =>
      match orTest fuel ws with
      | (.holds b, ws) => (.holds (a || b), ws)
      | r => r
    | r => r

def andTest : Nat → List Raw → Verdict × List Raw
  | 0, ws => (tooMany s ws, ws)
  | fuel + 1, ws =>
    match termTest fuel ws with
    | (.holds a, ['-', 'a'] :: ws) =>
      match andTest fuel ws with
      | (.holds b, ws) => (.holds (a && b), ws)
      | r => r
    | r => r

def termTest : Nat → List Raw → Verdict × List Raw
  | 0, ws => (tooMany s ws, ws)
  | fuel + 1, ws =>
    match ws with
    | [] => (.fault "argument expected".toList, [])
    | ['!'] :: ws =>
      let (v, ws) := termTest fuel ws
      (v.not, ws)
    | a :: op :: b :: rest =>
      if isBinary op then (binaryTest s op a b, rest)
      else if a = ['('] then
        match orTest fuel (op :: b :: rest) with
        | (v, [')'] :: rest) => (v, rest)
        | (.holds _, rest) => (.fault "\x60)' expected".toList, rest)
        | r => r
      else if isUnary a then (unaryTest s a op, b :: rest)
      else (.holds !a.isEmpty, op :: b :: rest)
    | [op, a] =>
      if isUnary op then (unaryTest s op a, []) else (.holds !op.isEmpty, [a])
    | [a] => (.holds !a.isEmpty, [])

end

/-- Decides a list of words by their number. -/
def decideWords : List Raw → Verdict
  | [] => .holds false
  | [a] => .holds !a.isEmpty
  | [op, a] =>
    if op = ['!'] then .holds a.isEmpty
    else if isUnary op then unaryTest s op a
    else notUnary s op
  | [a, op, b] =>
    if isBinary op then binaryTest s op a b
    else if op = ['-', 'a'] then .holds (!a.isEmpty && !b.isEmpty)
    else if op = ['-', 'o'] then .holds (!a.isEmpty || !b.isEmpty)
    else if a = ['!'] then (decideWords [op, b]).not
    else if a = ['('] ∧ b = [')'] then .holds !op.isEmpty
    else notBinary s a op
  | [a, b, c, d] =>
    if a = ['!'] then (decideWords [b, c, d]).not
    else if a = ['('] ∧ d = [')'] then decideWords [b, c]
    else
      match orTest s 64 [a, b, c, d] with
      | (v, []) => v
      | (.holds _, _) => tooMany s [a, b, c, d]
      | (v, _) => v
  | ws =>
    match orTest s (4 * ws.length + 8) ws with
    | (v, []) => v
    | (.holds _, _) => tooMany s ws
    | (v, _) => v
termination_by ws => ws.length

end
end Pipeline.Shell
