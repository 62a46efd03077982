import Pipeline.Text.UpperTable

/-!
# Upper case

The upper-case form of text over all scripts, character by character. It may be longer than the
text: the sharp s becomes two letters.
-/

namespace Pipeline.Text

/-- The upper-case form of one character. -/
def upperChar (c : Char) : List Char :=
  let n := c.toNat
  if n < 0x80 then [c.toUpper]
  else
    match upperExpansions.lookup n with
    | some ns => ns.map Char.ofNat
    | none =>
      match upperRuns.find? fun r => r.first ≤ n && n ≤ r.last && (n - r.first) % r.step == 0 with
      | some r => [Char.ofNat (n + r.up - r.down)]
      | none => [c]

/-- Every character in upper case, some as several. -/
def upperChars (cs : List Char) : List Char := cs.flatMap upperChar

/-- A text in upper case. -/
def upper (text : String) : String := .ofList (upperChars text.toList)

@[simp] theorem toList_upper (text : String) : (upper text).toList = upperChars text.toList := by
  simp [upper]

end Pipeline.Text
