import Pipeline.Text.Quoted

/-!
# Writing JSON

Strings escape the quote, the backslash and the control characters below the space, by a letter
where there is one; everything else stands for itself. Objects are written on one line, or laid out
with two blanks of indentation for each level.
-/

namespace Pipeline.Json
open Text (hexDigit)

def escapeChar (c : Char) : List Char :=
  match c with
  | '"' => ['\\', '"']
  | '\\' => ['\\', '\\']
  | '\x08' => ['\\', 'b']
  | '\x0c' => ['\\', 'f']
  | '\n' => ['\\', 'n']
  | '\r' => ['\\', 'r']
  | '\t' => ['\\', 't']
  | c =>
    if c < ' ' then ['\\', 'u', '0', '0', hexDigit (c.toNat / 16), hexDigit (c.toNat % 16)] else [c]

/-- A text between quotes, with its special characters escaped. -/
def renderString (text : String) : String :=
  .ofList ('"' :: text.toList.flatMap escapeChar ++ ['"'])

/-- An object on one line; the values are JSON already. -/
def renderObject (members : List (String × String)) : String :=
  let written := members.map fun m => renderString m.1 ++ ":" ++ m.2
  "\x7b" ++ ",".intercalate written ++ "\x7d"

/-- An object with one member a line, at a depth of indentation. -/
def layoutObject (depth : Nat) (members : List (String × String)) : String :=
  if members.isEmpty then "\x7b\x7d"
  else
    let blanks := fun n => String.ofList (List.replicate (2 * n) ' ')
    let written := members.map fun m => blanks (depth + 1) ++ renderString m.1 ++ ": " ++ m.2
    "\x7b\n" ++ ",\n".intercalate written ++ "\n" ++ blanks depth ++ "\x7d"

end Pipeline.Json
