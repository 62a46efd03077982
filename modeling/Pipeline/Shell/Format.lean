import Pipeline.Shell.Words

/-!
# Formatted output

What `echo` and `printf` write. A format is used again as long as arguments are left; an argument
that is missing counts as empty, or as zero. A bad number is complained about and written as what
could be read of it.
-/

namespace Pipeline.Shell

/-- Which escapes are known beyond the letters. -/
structure EscapeStyle where
  /-- Up to three octal digits after a zero. -/
  zeroOctal : Bool
  /-- Up to three octal digits. -/
  octal : Bool
  hex : Bool
  /-- Both quotes, and the question mark. -/
  quotes : Bool
  /-- The escape that ends all output. -/
  stop : Bool
  capitalEscape : Bool

def EscapeStyle.echo : Dialect → EscapeStyle
  | .bash => ⟨true, false, true, false, true, true⟩
  | .dash => ⟨true, true, false, false, true, false⟩

def EscapeStyle.format : Dialect → EscapeStyle
  | .bash => ⟨false, true, true, true, false, true⟩
  | .dash => ⟨false, true, false, true, false, false⟩

def EscapeStyle.argument : Dialect → EscapeStyle
  | .bash => ⟨true, true, true, true, true, true⟩
  | .dash => ⟨true, true, false, false, true, false⟩

/-- The text of a code point in the plain locale, which can spell only the first 128. -/
def codeName (capital : Bool) (n : Nat) : Raw :=
  if n < 128 then [Char.ofNat n]
  else
    let ds := (Nat.toDigits 16 n).map Char.toUpper
    let width := if n < 0x10000 then 4 else 8
    ['\\', if n < 0x10000 then 'u' else if capital then 'U' else 'U'] ++
      List.replicate (width - ds.length) '0' ++ ds

/-- Reads one escape after its backslash: its text, its length, and whether output ends. -/
def readEscape (style : EscapeStyle) (cs : Raw) : Raw × Nat × Bool :=
  match cs with
  | [] => (['\\'], 0, false)
  | '\\' :: _ => (['\\'], 1, false)
  | 'c' :: _ => if style.stop then ([], 1, true) else (['\\', 'c'], 1, false)
  | 'e' :: _ => (['\x1b'], 1, false)
  | 'E' :: _ => if style.capitalEscape then (['\x1b'], 1, false) else (['\\', 'E'], 1, false)
  | 'x' :: rest =>
    match if style.hex then takeAtMost 2 isHexDigit rest else [] with
    | [] => (['\\', 'x'], 1, false)
    | ds => ([byteChar (hexValue ds)], 1 + ds.length, false)
  | 'u' :: rest =>
    match if style.hex then takeAtMost 4 isHexDigit rest else [] with
    | [] => (['\\', 'u'], 1, false)
    | ds => (codeName false (hexValue ds), 1 + ds.length, false)
  | 'U' :: rest =>
    match if style.hex then takeAtMost 8 isHexDigit rest else [] with
    | [] => (['\\', 'U'], 1, false)
    | ds => (codeName true (hexValue ds), 1 + ds.length, false)
  | c :: rest =>
    match letterEscape c with
    | some e => ([e], 1, false)
    | none =>
      if style.quotes ∧ (c = '"' ∨ c = '\'' ∨ c = '?') then ([c], 1, false)
      else if style.zeroOctal ∧ c = '0' then
        let ds := takeAtMost 3 isOctalDigit rest
        ([byteChar (octalValue ds)], 1 + ds.length, false)
      else if style.octal ∧ isOctalDigit c then
        let ds := takeAtMost 3 isOctalDigit cs
        ([byteChar (octalValue ds)], ds.length, false)
      else (['\\', c], 1, false)

/-- A text with its escapes read, and whether one of them ended the output. -/
def readEscapes (style : EscapeStyle) (fuel : Nat) (done cs : Raw) : Raw × Bool :=
  match fuel with
  | 0 => (done.reverse, false)
  | fuel + 1 =>
    match cs with
    | [] => (done.reverse, false)
    | '\\' :: cs =>
      match readEscape style cs with
      | (_, _, true) => (done.reverse, true)
      | (text, n, false) => readEscapes style fuel (text.reverse ++ done) (cs.drop n)
    | c :: cs => readEscapes style fuel (c :: done) cs

def unescape (style : EscapeStyle) (cs : Raw) : Raw × Bool :=
  readEscapes style (cs.length + 1) [] cs

/-- Arguments with single blanks between them. -/
def spacedRaw : List Raw → Raw
  | [] => []
  | [a] => a
  | a :: as => a ++ ' ' :: spacedRaw as

/-- The options in front of what `echo` is to write. -/
structure EchoOptions where
  newline : Bool
  escapes : Bool

/-- Takes the options off the front; a word with any other letter is no option. -/
def echoOptions (dialect : Dialect) (o : EchoOptions) : List Raw → EchoOptions × List Raw
  | [] => (o, [])
  | a :: as =>
    match dialect, a with
    | .dash, ['-', 'n'] => ({ o with newline := false }, as)
    | .dash, _ => (o, a :: as)
    | .bash, '-' :: c :: cs =>
      if (c :: cs).all fun c => c = 'n' ∨ c = 'e' ∨ c = 'E' then
        let o := (c :: cs).foldl (fun o c =>
          if c = 'n' then { o with newline := false } else { o with escapes := c = 'e' }) o
        echoOptions dialect o as
      else (o, a :: as)
    | .bash, _ => (o, a :: as)

def echoText (dialect : Dialect) (args : List Raw) : Raw :=
  let (o, words) := echoOptions dialect ⟨true, dialect = .dash⟩ args
  let text := spacedRaw words
  let (text, stopped) := if o.escapes then unescape (.echo dialect) text else (text, false)
  if o.newline ∧ ¬ stopped then text ++ ['\n'] else text

/-! ### Directives -/

/-- A directive of a format. -/
structure Directive where
  minus : Bool := false
  plus : Bool := false
  blank : Bool := false
  zero : Bool := false
  hash : Bool := false
  width : Nat := 0
  precision : Option Nat := none

/-- Fills a text up to the width of a directive. -/
def Directive.pad (d : Directive) (text : Raw) : Raw :=
  let fill := List.replicate (d.width - text.length) ' '
  if d.minus then text ++ fill else fill ++ text

/-- Fills a number up, with zeros between its sign and its digits if asked to. -/
def Directive.padNumber (d : Directive) (sign digits : Raw) : Raw :=
  let digits := match d.precision with
    | some p => List.replicate (p - digits.length) '0' ++ digits
    | none => digits
  if d.zero ∧ ¬ d.minus ∧ d.precision.isNone then
    sign ++ List.replicate (d.width - sign.length - digits.length) '0' ++ digits
  else d.pad (sign ++ digits)

def Directive.sign (d : Directive) (n : Int) : Raw :=
  if n < 0 then ['-'] else if d.plus then ['+'] else if d.blank then [' '] else []

/-- A number given as an argument, and whether all of it could be read. -/
def readNumber (cs : Raw) : Int × Bool :=
  match cs.dropWhile fun c => c = ' ' ∨ c = '\t' ∨ c = '\n' with
  | [] => (0, true)
  | '"' :: c :: _ => (c.toNat, true)
  | '\'' :: c :: _ => (c.toNat, true)
  | cs =>
    let (negative, cs) := match cs with
      | '-' :: cs => (true, cs)
      | '+' :: cs => (false, cs)
      | cs => (false, cs)
    let (base, p, cs) : Nat × (Char → Bool) × Raw := match cs with
      | '0' :: 'x' :: cs => (16, isHexDigit, cs)
      | '0' :: 'X' :: cs => (16, isHexDigit, cs)
      | '0' :: cs => (8, isOctalDigit, '0' :: cs)
      | cs => (10, Char.isDigit, cs)
    let ds := cs.takeWhile p
    let n : Nat := ds.foldl (fun n d => n * base + digitValue d) 0
    (if negative then -(n : Int) else n, !ds.isEmpty && ds.length = cs.length)

/-- A decimal fraction given as an argument, as a number of units of a power of ten. -/
def readFraction (cs : Raw) : Int × Nat :=
  let (negative, cs) := match cs with
    | '-' :: cs => (true, cs)
    | cs => (false, cs)
  let whole := cs.takeWhile Char.isDigit
  let part := match cs.drop whole.length with
    | '.' :: cs => cs.takeWhile Char.isDigit
    | _ => []
  let n := digitsValue (whole ++ part)
  (if negative then -(n : Int) else n, part.length)

/-- A fraction with so many places, a half going to the even neighbour. -/
def fixedPlaces (units scale places : Nat) : Raw :=
  let num := units * Nat.pow 10 places
  let den := Nat.pow 10 scale
  let q := num / den
  let r := num % den
  let q := if 2 * r > den ∨ (2 * r = den ∧ q % 2 = 1) then q + 1 else q
  let ds := decimal q
  let ds := List.replicate (places + 1 - ds.length) '0' ++ ds
  if places = 0 then ds
  else ds.take (ds.length - places) ++ '.' :: ds.drop (ds.length - places)

/-- A character that a shell does not read as itself. -/
def needsBackslash (c : Char) : Bool :=
  " \t\n!\"#$&'()*,;<>?[\\]^\x60\x7b|\x7d".toList.contains c

/-- A byte that is not shown as it stands. -/
def isUnprintable (c : Char) : Bool := c.toNat < 32 || c.toNat ≥ 127

/-- A text between dollar quotes. -/
def dollarQuote (cs : Raw) : Raw :=
  ['$', '\''] ++ cs.flatMap (fun c =>
    match c with
    | '\x07' => ['\\', 'a']
    | '\x08' => ['\\', 'b']
    | '\t' => ['\\', 't']
    | '\n' => ['\\', 'n']
    | '\x0b' => ['\\', 'v']
    | '\x0c' => ['\\', 'f']
    | '\r' => ['\\', 'r']
    | '\x1b' => ['\\', 'E']
    | '\'' => ['\\', '\'']
    | '\\' => ['\\', '\\']
    | c =>
      if isUnprintable c then
        let ds := Nat.toDigits 8 c.toNat
        '\\' :: List.replicate (3 - ds.length) '0' ++ ds
      else [c]) ++ ['\'']

/-- A text as a word that a shell reads as that text. -/
def wordQuote (cs : Raw) : Raw :=
  if cs.isEmpty then ['\'', '\'']
  else if cs.any isUnprintable then dollarQuote cs
  else
    match cs with
    | '~' :: _ => '\\' :: cs.flatMap fun c => if needsBackslash c then ['\\', c] else [c]
    | cs => cs.flatMap fun c => if needsBackslash c then ['\\', c] else [c]

/-- What a format has come to. -/
structure Formatting where
  /-- The output, latest character first. -/
  out : Raw
  args : List Raw
  /-- Complaints, latest first. -/
  complaints : List Raw
  failed : Bool
  /-- Whether a directive has taken an argument, or could have. -/
  used : Bool
  stopped : Bool

namespace Formatting

def put (f : Formatting) (text : Raw) : Formatting := { f with out := text.reverse ++ f.out }

/-- Takes the next argument, if one is left. -/
def take (f : Formatting) : Option Raw × Formatting :=
  match f.args with
  | [] => (none, { f with used := true })
  | a :: as => (some a, { f with args := as, used := true })

def complain (f : Formatting) (text : Raw) : Formatting :=
  { f with complaints := text :: f.complaints, failed := true }

/-- What is said of an argument that is no number. -/
def badNumber (dialect : Dialect) (arg : Raw) : Raw :=
  match dialect with
  | .bash => arg ++ ": invalid number".toList
  | .dash =>
    if (readNumber arg).1 = 0 ∧ !(arg.head?.map Char.isDigit).getD false then
      arg ++ ": expected numeric value".toList
    else arg ++ ": not completely converted".toList

/-- Takes the next argument as a number. -/
def takeNumber (dialect : Dialect) (f : Formatting) : Int × Formatting :=
  match f.take with
  | (none, f) => (0, f)
  | (some a, f) =>
    let (n, whole) := readNumber a
    (n, if whole then f else f.complain (badNumber dialect a))

end Formatting

def readFlags (d : Directive) : Raw → Directive × Raw
  | '-' :: cs => readFlags { d with minus := true } cs
  | '+' :: cs => readFlags { d with plus := true } cs
  | ' ' :: cs => readFlags { d with blank := true } cs
  | '0' :: cs => readFlags { d with zero := true } cs
  | '#' :: cs => readFlags { d with hash := true } cs
  | cs => (d, cs)

/-- Reads a width, which an argument may give. -/
def readWidth (dialect : Dialect) (f : Formatting) (d : Directive) (cs : Raw) :
    Formatting × Directive × Raw :=
  match cs with
  | '*' :: cs =>
    let (n, f) := f.takeNumber dialect
    (f, { d with minus := d.minus || n < 0, width := n.natAbs }, cs)
  | cs =>
    let ds := cs.takeWhile Char.isDigit
    (f, { d with width := digitsValue ds }, cs.drop ds.length)

/-- Reads a precision, which an argument may give. -/
def readPrecision (dialect : Dialect) (f : Formatting) (d : Directive) (cs : Raw) :
    Formatting × Directive × Raw :=
  match cs with
  | '.' :: '*' :: cs =>
    let (n, f) := f.takeNumber dialect
    (f, { d with precision := if n < 0 then none else some n.toNat }, cs)
  | '.' :: cs =>
    let ds := cs.takeWhile Char.isDigit
    (f, { d with precision := some (digitsValue ds) }, cs.drop ds.length)
  | cs => (f, d, cs)

/-- The digits of a number in a base, with capital letters if asked for. -/
def digitsIn (base : Nat) (capital : Bool) (n : Nat) : Raw :=
  let ds := Nat.toDigits base n
  if capital then ds.map Char.toUpper else ds

/-- Carries a directive out. -/
def convert (dialect : Dialect) (f : Formatting) (d : Directive) (c : Char) : Option Formatting :=
  let cut (text : Raw) : Raw := match d.precision with
    | some p => text.take p
    | none => text
  let unsigned (base : Nat) (capital : Bool) (mark : Raw) : Formatting :=
    let (n, f) := f.takeNumber dialect
    let n := (n.emod wordValues).toNat
    f.put (d.padNumber (if d.hash ∧ n ≠ 0 then mark else []) (digitsIn base capital n))
  match c with
  | 's' =>
    let (a, f) := f.take
    some (f.put (d.pad (cut (a.getD []))))
  | 'b' =>
    let (a, f) := f.take
    let (text, stopped) := unescape (.argument dialect) (a.getD [])
    some { f.put (d.pad (cut text)) with stopped }
  | 'q' =>
    if dialect = .dash then none
    else
      let (a, f) := f.take
      some (f.put (d.pad (cut (wordQuote (a.getD [])))))
  | 'c' =>
    let (a, f) := f.take
    some (f.put (d.pad ((a.getD []).take 1)))
  | 'd' | 'i' =>
    let (n, f) := f.takeNumber dialect
    some (f.put (d.padNumber (d.sign n) (decimal n.natAbs)))
  | 'u' => some (unsigned 10 false [])
  | 'o' => some (unsigned 8 false ['0'])
  | 'x' => some (unsigned 16 false ['0', 'x'])
  | 'X' => some (unsigned 16 true ['0', 'X'])
  | 'f' | 'F' =>
    let (a, f) := f.take
    let (n, scale) := readFraction (a.getD [])
    some (f.put ({ d with precision := none }.padNumber (d.sign n)
      (fixedPlaces n.natAbs scale (d.precision.getD 6))))
  | _ => none

/-- What is said of a directive that is none. -/
def badDirective (dialect : Dialect) (spec : Raw) (c : Option Char) : Raw :=
  match dialect, c with
  | .bash, none => '\x60' :: spec ++ "': missing format character".toList
  | .bash, some c => '\x60' :: c :: "': invalid format character".toList
  | .dash, c => spec ++ c.toList ++ ": invalid directive".toList

/-- Goes through a format once. -/
def formatOnce (dialect : Dialect) (fuel : Nat) (f : Formatting) (cs : Raw) : Formatting :=
  match fuel with
  | 0 => f
  | fuel + 1 =>
    match cs with
    | [] => f
    | '\\' :: cs =>
      let (text, n, _) := readEscape (.format dialect) cs
      formatOnce dialect fuel (f.put text) (cs.drop n)
    | '%' :: '%' :: cs => formatOnce dialect fuel (f.put ['%']) cs
    | '%' :: cs =>
      let (d, rest) := readFlags {} cs
      let (f, d, rest) := readWidth dialect f d rest
      let (f, d, rest) := readPrecision dialect f d rest
      let rest := rest.dropWhile fun c => "hlLjzt".toList.contains c
      let spec := '%' :: cs.take (cs.length - rest.length)
      match rest with
      | [] => { f.complain (badDirective dialect spec none) with stopped := true }
      | c :: rest =>
        match convert dialect f d c with
        | some f => if f.stopped then f else formatOnce dialect fuel f rest
        | none => { f.complain (badDirective dialect spec (some c)) with stopped := true }
    | c :: cs => formatOnce dialect fuel (f.put [c]) cs

/-- Goes through a format until no argument is left. -/
def formatAll (dialect : Dialect) (format : Raw) : Nat → Formatting → Formatting
  | 0, f => f
  | fuel + 1, f =>
    let f := formatOnce dialect (format.length + 1) { f with used := false } format
    if f.stopped ∨ f.args.isEmpty ∨ ¬ f.used then f else formatAll dialect format fuel f

/-- What `printf` writes, its complaints in order, and whether it failed. -/
def printf (dialect : Dialect) (format : Raw) (args : List Raw) : Raw × List Raw × Bool :=
  let f := formatAll dialect format (args.length + 1) ⟨[], args, [], false, false, false⟩
  (f.out.reverse, f.complaints.reverse, f.failed)

end Pipeline.Shell
