/-!
# Quoting for a shell

A text between single quotes is one word of a POSIX shell and stands for itself. A single quote
inside leaves the quotes, stands alone after a backslash, and enters them again.
-/

namespace Pipeline.Shell

/-- How one character stands inside single quotes. -/
def quoteChar (c : Char) : List Char := if c = '\'' then ['\'', '\\', '\'', '\''] else [c]

/-- A text between single quotes; a quote in it leaves them for a moment. -/
def quoteChars (cs : List Char) : List Char := '\'' :: cs.flatMap quoteChar ++ ['\'']

/-- `text` as one word. -/
def quote (text : String) : String := .ofList (quoteChars text.toList)

@[simp] theorem toList_quote (text : String) : (quote text).toList = quoteChars text.toList := by
  simp [quote]

end Pipeline.Shell
