import Pipeline.Target.Error
import Pipeline.Text.Blank
import Pipeline.Text.Regex

/-!
# Diagnosing missing programs

A shell that cannot find a program says so in a line of its own, in one of two forms:

* `NAME: command not found` or `NAME: executable file not found in $PATH`, at the start of a line or
  after a colon and a blank, with `NAME` in quotes or not;
* `sh: 1: NAME: not found` at the start of a line, where the shell may be `sh`, `bash` or `dash`,
  with or without its directory, and the line number may have `line` before it. Without a shell in
  front of it, `not found` is what many programs end their own errors with.

Blanks at the end of a line do not count. `absence` is the expression that an output is searched
for, `missingBinary` names the program of its first match, and `diagnose` turns the error of a
command that left such a line into one that says what to do.
-/

namespace Pipeline
open Text Regex

/-- Whether a character may stand in the name of a program that a shell reports. -/
def isReportChar (c : Char) : Bool := c ≠ '"' && c ≠ ':' && !isBlank c

/-- The name of a program, which the match remembers. -/
def reportedName (number : Nat) : Regex := .group number (atLeastOne isReportChar)

def optionalQuote : Regex := optional (.text ['"'])

/-- The first form of a line. -/
def absenceByPhrase : Regex :=
  inTurn [.either .lineStart (.text ": ".toList), optionalQuote, reportedName 1, optionalQuote,
    .text ": ".toList,
    .either (.text "command not found".toList)
      (.text "executable file not found in $PATH".toList),
    .many isBlank, .lineEnd]

/-- The directory that a shell may be named with. -/
def optionalDirectory : Regex := optional (inTurn [.many (!isBlank ·), .text ['/']])

/-- The second form of a line. -/
def absenceByShell : Regex :=
  inTurn [.lineStart, optionalDirectory, optional (.either (.text "ba".toList) (.text "da".toList)),
    .text "sh: ".toList, optional (.text "line ".toList), atLeastOne isDigit, .text ": ".toList,
    reportedName 2, .text ": not found".toList, .many isBlank, .lineEnd]

/-- What a shell writes about a program that it did not find. -/
def absence : Regex := .either absenceByPhrase absenceByShell

/-- The name that a match remembers, of whichever form. -/
def Text.Spot.reported? (s : Spot) : Option (List Char) := s.group? 1 <|> s.group? 2

/-- The program that the first report in an output names. -/
def missingBinary (output : String) : Option String :=
  ((absence.find? output.toList).bind (·.reported?)).map .ofList

/-- Says what to do about an error that a missing program caused, and keeps any other. -/
def diagnose (invokedBy : String) : TargetError → TargetError
  | .exit e =>
    match missingBinary e.combinedOutput with
    | some binary => .binaryNotFound binary invokedBy
    | none => .exit e
  | .spawn program error =>
    if error.isNotFound then .executableNotFound invokedBy else .spawn program error
  | e => e

end Pipeline
