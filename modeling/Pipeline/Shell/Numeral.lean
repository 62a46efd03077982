import Pipeline.Shell.Syntax

/-!
# Numerals

The number that a row of digits spells, and the decimal digits of a number. Reading the digits of a
number gives the number back (`digitsValue_decimal`).
-/

namespace Pipeline.Shell

/-- The digits below eight. -/
def isOctalDigit (c : Char) : Bool := '0' ≤ c && c ≤ '7'

/-- The digits and the first six letters in either case. -/
def isHexDigit (c : Char) : Bool := c.isDigit || ('a' ≤ c && c ≤ 'f') || ('A' ≤ c && c ≤ 'F')

/-- The value of a digit. After nine, letters of either case go on. -/
def digitValue (c : Char) : Nat :=
  if c.isDigit then c.toNat - 48 else if c.isUpper then c.toNat - 55 else c.toNat - 87

/-- The number that decimal digits spell. -/
def digitsValue (ds : Raw) : Nat := Nat.ofDigitChars 10 ds 0

/-- The number that octal digits write. -/
def octalValue (ds : Raw) : Nat := Nat.ofDigitChars 8 ds 0

/-- The number that hexadecimal digits write, letters in either case. -/
def hexValue (ds : Raw) : Nat := ds.foldl (fun n d => n * 16 + digitValue d) 0

/-- The digits of a number. -/
def decimal (n : Nat) : Raw := Nat.toDigits 10 n

theorem digitsValue_decimal (n : Nat) : digitsValue (decimal n) = n := by
  simp [digitsValue, decimal]

end Pipeline.Shell
