import Pipeline.Text.Hidden

/-!
# Quoted text

Messages show text between double quotes. A quote or a backslash inside is written after a
backslash, so are NUL, tab, line feed and carriage return by their letters, and every other hidden
character is spelt by its code point in lower-case hexadecimal, as in `\u{200b}`. This is a string
literal. `unquote` reads one back from the front of a longer text, by the rules for literals: no
carriage return stands in one as it is, and a code point has one digit at least and six at most.
-/

namespace Pipeline.Text

def hexDigit (n : Nat) : Char :=
  if n < 10 then Char.ofNat (48 + n) else Char.ofNat (87 + n)

/-- The hexadecimal digits of a number below 2 ^ 24, without leading zeros. -/
def hexDigits (n : Nat) : List Nat :=
  [n / 0x100000 % 16, n / 0x10000 % 16, n / 0x1000 % 16, n / 0x100 % 16, n / 0x10 % 16,
    n % 16].dropWhile
    (· == 0)

/-- A code point spelt out between braces. -/
def codePoint (c : Char) : List Char :=
  '\\' :: 'u' :: '\x7b' :: (hexDigits c.toNat).map hexDigit ++ ['\x7d']

/-- How one character stands between the quotes. -/
def escapeChar (c : Char) : List Char :=
  match c with
  | '\x00' => ['\\', '0']
  | '\t' => ['\\', 't']
  | '\n' => ['\\', 'n']
  | '\r' => ['\\', 'r']
  | '"' => ['\\', '"']
  | '\\' => ['\\', '\\']
  | c => if isHidden c then codePoint c else [c]

/-- A text with its special characters escaped. -/
def escape (cs : List Char) : List Char := cs.flatMap escapeChar

/-- A text between double quotes. -/
def quoteChars (cs : List Char) : List Char := '"' :: escape cs ++ ['"']

/-- Text between double quotes. -/
def quoted (text : String) : String := .ofList (quoteChars text.toList)

@[simp] theorem toList_quoted (text : String) :
    (quoted text).toList = quoteChars text.toList := by
  simp [quoted]

def hexValue (c : Char) : Option Nat :=
  if '0' ≤ c ∧ c ≤ '9' then some (c.toNat - 48)
  else if 'a' ≤ c ∧ c ≤ 'f' then some (c.toNat - 87)
  else if 'A' ≤ c ∧ c ≤ 'F' then some (c.toNat - 55)
  else none

/-- The number that hexadecimal digits spell, after `value` has been read. -/
def hexNumber (value : Nat) : List Char → Option Nat
  | [] => some value
  | c :: cs => match hexValue c with
    | some d => hexNumber (value * 16 + d) cs
    | none => none

/-- What the reader of a quoted text has met. -/
inductive Unquoting where
  /-- Between two characters of the text. -/
  | plain
  /-- After a backslash. -/
  | escaped
  /-- After a backslash and `u`. -/
  | opened
  /-- Inside the braces of a code point, with the digits so far, latest first. -/
  | digits (done : List Char)

/-- Reads up to the closing quote; the characters so far are kept latest first. The answer is the
text and what follows the quote, or nothing where the quoted text is ill-formed. -/
def unquoteFrom (done : List Char) : Unquoting → List Char → Option (List Char × List Char)
  | _, [] => none
  | .plain, c :: cs =>
    if c = '"' then some (done.reverse, cs)
    else if c = '\\' then unquoteFrom done .escaped cs
    else if c = '\r' then none
    else unquoteFrom (c :: done) .plain cs
  | .escaped, c :: cs =>
    match c with
    | '0' => unquoteFrom ('\x00' :: done) .plain cs
    | 't' => unquoteFrom ('\t' :: done) .plain cs
    | 'n' => unquoteFrom ('\n' :: done) .plain cs
    | 'r' => unquoteFrom ('\r' :: done) .plain cs
    | '"' => unquoteFrom ('"' :: done) .plain cs
    | '\'' => unquoteFrom ('\'' :: done) .plain cs
    | '\\' => unquoteFrom ('\\' :: done) .plain cs
    | 'u' => unquoteFrom done .opened cs
    | _ => none
  | .opened, c :: cs => if c = '\x7b' then unquoteFrom done (.digits []) cs else none
  | .digits ds, c :: cs =>
    if c = '\x7d' then
      match ds with
      | [] => none
      | _ =>
        match hexNumber 0 ds.reverse with
        | some n => if n.isValidChar then unquoteFrom (Char.ofNat n :: done) .plain cs else none
        | none => none
    else if ds.length < 6 then unquoteFrom done (.digits (c :: ds)) cs
    else none

/-- Reads one quoted text, and gives the rest. -/
def unquote : List Char → Option (List Char × List Char)
  | '"' :: cs => unquoteFrom [] .plain cs
  | _ => none

end Pipeline.Text
