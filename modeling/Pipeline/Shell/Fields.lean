import Pipeline.Machine.FileSystem
import Pipeline.Shell.Pattern

/-!
# Fields

What expansion makes of a word before it becomes arguments. An item is a character that knows
whether it was quoted and whether it may be split at, a mark that holds a field open though it is
empty, or the border between two arguments. Splitting turns items into fields; a field that holds a
pattern becomes the names of the files that it matches, if there are any.

Braces are expanded first: alternatives between commas, or a range, each making a word of its own.
-/

namespace Pipeline.Shell

inductive Item where
  | char (c : Char) (quoted splits : Bool)
  /-- A quoted text, which makes a field even if it is empty. -/
  | hold
  | border
deriving DecidableEq, Repr

namespace Item

def quotedText (text : Raw) : List Item := .hold :: text.map fun c => .char c true false

def plainText (splits : Bool) (text : Raw) : List Item := text.map fun c => .char c false splits

/-- The characters of items that are not split; a border counts as a blank. -/
def marks (items : List Item) : Marked :=
  items.filterMap fun
    | .char c quoted _ => some ⟨c, quoted⟩
    | .hold => none
    | .border => some ⟨' ', true⟩

def text (items : List Item) : Raw := (marks items).text

end Item

/-- How splitting stands: nothing since the start, since a blank, or since another separator. -/
inductive Gap where
  | start
  | soft
  | hard
deriving DecidableEq, Repr

/-- Splits items into fields. Blanks of the separator set run together and go with one other
separator; any other separator ends a field even if that is empty. -/
def splitItems (separators : Raw) (done : List Marked) (current : Option Marked) (gap : Gap) :
    List Item → List Marked
  | [] =>
    match current with
    | some f => (f.reverse :: done).reverse
    | none => done.reverse
  | .hold :: rest => splitItems separators done (some (current.getD [])) gap rest
  | .border :: rest =>
    match current with
    | some f => splitItems separators (f.reverse :: done) none .start rest
    | none => splitItems separators done none .start rest
  | .char c quoted splits :: rest =>
    if splits ∧ separators.contains c then
      let blank : Bool := c = ' ' ∨ c = '\t' ∨ c = '\n'
      match current, blank, gap with
      | some f, true, _ => splitItems separators (f.reverse :: done) none .soft rest
      | some f, false, _ => splitItems separators (f.reverse :: done) none .hard rest
      | none, true, gap => splitItems separators done none gap rest
      | none, false, .soft => splitItems separators done none .hard rest
      | none, false, _ => splitItems separators ([] :: done) none .hard rest
    else splitItems separators done (some (⟨c, quoted⟩ :: current.getD [])) gap rest

def fields (separators : Raw) (items : List Item) : List Marked :=
  splitItems separators [] none .start items

/-! ### Names of files -/

/-- The parts of marked text between slashes. -/
def slashParts : Marked → List Marked
  | [] => [[]]
  | m :: ms =>
    match slashParts ms with
    | p :: ps => if m.char = '/' then [] :: p :: ps else (m :: p) :: ps
    | [] => [[m]]

/-- Whether a name is one that only a pattern with a leading dot matches. -/
def isHiddenName (name : Raw) : Bool := name.head? = some '.'

/-- The paths that start as given and go on along the parts of a pattern; `dots` are names that
every directory has. -/
def globFrom (dots : List Raw) (fs : FileSystem) (here : Place) (start : Raw) :
    List Marked → List Raw
  | [] => [start]
  | [[]] => if fs.isDirectory here (Raw.toText start) then [start] else []
  | part :: rest =>
    let ending : Raw := if rest.isEmpty then [] else ['/']
    if Pattern.isWild part then
      let pattern := Pattern.of part
      let open_ := isHiddenName part.text
      let dir := if start.isEmpty then "." else Raw.toText start
      match fs.find here dir, fs.locate here dir with
      | .ok (.dir _), .ok place =>
        (dots ++ (fs.list place).map fun e => Raw.ofText e.1).flatMap fun name =>
          if (open_ || !isHiddenName name) && Pattern.accepts pattern name then
            let path := start ++ name
            if rest.isEmpty || fs.isDirectory here (Raw.toText path) then
              globFrom dots fs here (path ++ ending) rest
            else []
          else []
      | _, _ => []
    else
      let path := start ++ part.text
      if !part.isEmpty && (fs.find here (Raw.toText path)).toOption.isNone then []
      else globFrom dots fs here (path ++ ending) rest

/-- The arguments that a field becomes. -/
def glob (dialect : Dialect) (fs : FileSystem) (here : Place) (field : Marked) : List Raw :=
  if Pattern.isWild field then
    let dots : List Raw := if dialect = .dash then [['.'], ['.', '.']] else []
    match globFrom dots fs here [] (slashParts field) with
    | [] => [field.text]
    | paths => paths
  else [field.text]

/-! ### Braces -/

/-- A character of a word that may be a brace, or a piece that is none. -/
inductive Atom where
  | char (c : Char)
  | piece (p : Piece)

def Atom.ofWord (w : Word) : List Atom :=
  w.flatMap fun
    | .plain text => text.map .char
    | p => [.piece p]

def Atom.toWord : List Atom → Word
  | [] => []
  | .piece p :: rest => p :: toWord rest
  | .char c :: rest =>
    match toWord rest with
    | .plain text :: ps => .plain (c :: text) :: ps
    | ps => .plain [c] :: ps

/-- Splits what follows an open brace into its alternatives and what comes after the brace. -/
def braceGroup (depth : Nat) (current : List Atom) (done : List (List Atom)) :
    List Atom → Option (List (List Atom) × List Atom)
  | [] => none
  | .char '\x7b' :: rest => braceGroup (depth + 1) (.char '\x7b' :: current) done rest
  | .char '\x7d' :: rest =>
    match depth with
    | 0 => some ((current.reverse :: done).reverse, rest)
    | d + 1 => braceGroup d (.char '\x7d' :: current) done rest
  | .char ',' :: rest =>
    if depth = 0 then braceGroup 0 [] (current.reverse :: done) rest
    else braceGroup depth (.char ',' :: current) done rest
  | a :: rest => braceGroup depth (a :: current) done rest

/-- The text of atoms that are all characters. -/
def Atom.chars : List Atom → Option Raw
  | [] => some []
  | .char c :: rest => (chars rest).map (c :: ·)
  | .piece _ :: _ => none

/-- Splits a text at each pair of dots. -/
def dotParts (current : Raw) : Raw → List Raw
  | '.' :: '.' :: cs => current.reverse :: dotParts [] cs
  | c :: cs => dotParts (c :: current) cs
  | [] => [current.reverse]

/-- An integer, and the width that its leading zeros ask for. -/
def rangeNumber (cs : Raw) : Option (Int × Nat) :=
  let (negative, ds) := match cs with
    | '-' :: ds => (true, ds)
    | '+' :: ds => (false, ds)
    | ds => (false, ds)
  if ds.isEmpty || !ds.all Char.isDigit then none
  else
    let n : Int := ds.foldl (fun n d => n * 10 + (d.toNat - 48 : Nat)) 0
    some (if negative then -n else n, if ds.length > 1 ∧ ds.head? = some '0' then cs.length else 0)

def zeroFilled (width : Nat) (n : Int) : Raw :=
  let ds := Nat.toDigits 10 n.natAbs
  let sign : Raw := if n < 0 then ['-'] else []
  sign ++ List.replicate (width - ds.length - sign.length) '0' ++ ds

/-- The texts of a range, which runs down if its end is below its start. -/
def rangeTexts (write : Int → Raw) (a b step : Int) : List Raw :=
  let step := if step = 0 then 1 else step.natAbs
  (List.range ((b - a).natAbs / step + 1)).map fun (k : Nat) =>
    write (if a ≤ b then a + k * step else a - k * step)

/-- The texts that the inside of a brace without commas stands for. -/
def braceRange (cs : Raw) : Option (List Raw) :=
  let make (a b : Raw) (step : Int) : Option (List Raw) :=
    match rangeNumber a, rangeNumber b, a, b with
    | some (m, v), some (n, w), _, _ => some (rangeTexts (zeroFilled (max v w)) m n step)
    | none, none, [c], [d] =>
      if c.isAlpha && d.isAlpha then
        some (rangeTexts (fun n => [Char.ofNat n.toNat]) c.toNat d.toNat step)
      else none
    | _, _, _, _ => none
  match dotParts [] cs with
  | [a, b] => make a b 1
  | [a, b, s] =>
    match rangeNumber s with
    | some (n, _) => make a b n
    | none => none
  | _ => none

def braceWords : Nat → List Atom → List (List Atom)
  | 0, as => [as]
  | _ + 1, [] => [[]]
  | fuel + 1, .char '\x7b' :: rest =>
    let combine (alternatives : List (List Atom)) (after : List Atom) : List (List Atom) :=
      let ends := braceWords fuel after
      alternatives.flatMap fun a => ends.map (a ++ ·)
    let literal : List (List Atom) := (braceWords fuel rest).map (.char '\x7b' :: ·)
    match braceGroup 0 [] [] rest with
    | none => literal
    | some ([only], after) =>
      match (Atom.chars only).bind braceRange with
      | some texts => combine (texts.map fun t => t.map .char) after
      | none => literal
    | some (parts, after) => combine (parts.flatMap (braceWords fuel)) after
  | fuel + 1, a :: rest => (braceWords fuel rest).map (a :: ·)

def expandBraces (w : Word) : List Word :=
  let as := Atom.ofWord w
  if as.any fun
    | .char '\x7b' => true
    | _ => false
  then (braceWords (as.length + 1) as).map Atom.toWord
  else [w]

end Pipeline.Shell
