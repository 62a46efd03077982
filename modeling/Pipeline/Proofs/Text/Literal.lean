import Pipeline.Text.Quoted

/-!
# String literals and format strings

`literal?` reads a string literal of a source text by all the rules for them: escapes by a letter,
by two hexadecimal digits and by a code point, a backslash that continues the line, and a carriage
return only in front of a line feed, as one line end with it. `formatted?` is what a format string
prints that is given no arguments: a brace is written twice in it.

Both read less than was written, unless each character stands for itself (`literalBody?_source`,
`formatted?_written`). So a text between quotes prints itself exactly if all its characters do
(`prints_itself_iff`).
-/

namespace Pipeline.Text

/-! ### Reading literals -/

/-- The escapes by a letter, and what they stand for. -/
def letterEscapes : List (Char × Char) :=
  [('n', '\n'), ('r', '\r'), ('t', '\t'), ('\\', '\\'), ('0', '\x00'), ('\'', '\''), ('"', '"')]

/-- White space that is passed over where a line is continued. -/
def isLayout (c : Char) : Bool := c = ' ' || c = '\t' || c = '\n' || c = '\r'

/-- The character that the digits of an escape spell. Underscores may stand behind the first digit.
-/
def codePoint? (digits : List Char) : Option Char :=
  let spelt := digits.filter (· ≠ '_')
  if digits.head? = some '_' ∨ spelt = [] ∨ 6 < spelt.length then none
  else (hexNumber 0 spelt).bind fun n => if n.isValidChar then some (Char.ofNat n) else none

/-- Reads an escape behind its backslash: the characters it stands for, none where it continues the
line, and the rest. -/
def escaped? : List Char → Option (List Char × List Char)
  | 'x' :: high :: low :: cs =>
    (hexNumber 0 [high, low]).bind fun n => if n < 0x80 then some ([Char.ofNat n], cs) else none
  | 'u' :: '\x7b' :: cs =>
    match cs.dropWhile (· ≠ '\x7d') with
    | [] => none
    | _ :: rest => (codePoint? (cs.takeWhile (· ≠ '\x7d'))).map fun c => ([c], rest)
  | '\n' :: cs => some ([], cs.dropWhile isLayout)
  | '\r' :: '\n' :: cs => some ([], cs.dropWhile isLayout)
  | letter :: cs => (letterEscapes.lookup letter).map fun c => ([c], cs)
  | [] => none

/-- Reads an item of a literal: an escape, a line end, or a character that stands for itself. A
quote is none. -/
def item? : List Char → Option (List Char × List Char)
  | '\\' :: cs => escaped? cs
  | '\r' :: '\n' :: cs => some (['\n'], cs)
  | c :: cs => if c = '"' ∨ c = '\r' then none else some ([c], cs)
  | [] => none

/-- Whether a character stands for itself in a literal. -/
def isVerbatim (c : Char) : Bool := c ≠ '"' && c ≠ '\\' && c ≠ '\r'

/-- What was written for a text: the text itself, or more. -/
def WrittenAs (verbatim : Char → Bool) (source text : List Char) : Prop :=
  source = text ∧ text.all verbatim = true ∨ text.length < source.length

theorem WrittenAs.length_le {verbatim : Char → Bool} {source text : List Char}
    (h : WrittenAs verbatim source text) : text.length ≤ source.length := by
  rcases h with ⟨rfl, -⟩ | h
  · exact Nat.le_refl _
  · exact Nat.le_of_lt h

/-- A text that is not shorter than what was written for it was written as it is. -/
theorem WrittenAs.eq_of_length_le {verbatim : Char → Bool} {source text : List Char}
    (h : WrittenAs verbatim source text) (hle : source.length ≤ text.length) :
    source = text ∧ text.all verbatim = true :=
  h.resolve_right (Nat.not_lt.mpr hle)

theorem WrittenAs.append {verbatim : Char → Bool} {source source' text text' : List Char}
    (h : WrittenAs verbatim source text) (h' : WrittenAs verbatim source' text') :
    WrittenAs verbatim (source ++ source') (text ++ text') := by
  have hle := h.length_le
  have hle' := h'.length_le
  rcases h with ⟨rfl, hall⟩ | hlt
  · rcases h' with ⟨rfl, hall'⟩ | hlt'
    · exact .inl ⟨rfl, by rw [List.all_append, hall, hall', Bool.and_self]⟩
    · exact .inr (by simp only [List.length_append]; omega)
  · exact .inr (by simp only [List.length_append]; omega)

theorem escaped?_source {cs read rest : List Char} (h : escaped? cs = some (read, rest)) :
    ∃ source, cs = source ++ rest ∧ read.length ≤ source.length := by
  unfold escaped? at h
  split at h
  · rename_i high low cs
    obtain ⟨n, -, hn⟩ := Option.bind_eq_some_iff.mp h
    split at hn
    · cases hn
      exact ⟨['x', high, low], rfl, by simp⟩
    · cases hn
  · rename_i cs
    split at h
    · cases h
    · rename_i brace rest' hdrop
      obtain ⟨c, -, hc⟩ := Option.map_eq_some_iff.mp h
      cases hc
      refine ⟨'u' :: '\x7b' :: (cs.takeWhile (· ≠ '\x7d') ++ [brace]), ?_, by simp⟩
      rw [List.cons_append, List.cons_append, List.append_assoc, List.singleton_append, ← hdrop,
        List.takeWhile_append_dropWhile]
  · rename_i cs
    cases h
    refine ⟨'\n' :: cs.takeWhile isLayout, ?_, by simp⟩
    rw [List.cons_append, List.takeWhile_append_dropWhile]
  · rename_i cs
    cases h
    refine ⟨'\r' :: '\n' :: cs.takeWhile isLayout, ?_, by simp⟩
    rw [List.cons_append, List.cons_append, List.takeWhile_append_dropWhile]
  · rename_i letter cs _ _ _ _
    obtain ⟨c, -, hc⟩ := Option.map_eq_some_iff.mp h
    cases hc
    exact ⟨[letter], rfl, by simp⟩
  · cases h

theorem item?_source {cs read rest : List Char} (h : item? cs = some (read, rest)) :
    ∃ source, cs = source ++ rest ∧ source ≠ [] ∧ WrittenAs isVerbatim source read := by
  unfold item? at h
  split at h
  · rename_i cs
    obtain ⟨source, rfl, hlength⟩ := escaped?_source h
    exact ⟨'\\' :: source, rfl, by simp, .inr (Nat.lt_succ_of_le hlength)⟩
  · cases h
    exact ⟨['\r', '\n'], rfl, by simp, .inr (by simp)⟩
  · rename_i c cs hback _
    split at h
    · cases h
    · rename_i hplain
      cases h
      refine ⟨[c], rfl, by simp, .inl ⟨rfl, ?_⟩⟩
      simpa [isVerbatim, show c ≠ '\\' from hback] using hplain
  · cases h

theorem item?_length {cs read rest : List Char} (h : item? cs = some (read, rest)) :
    rest.length < cs.length := by
  obtain ⟨source, rfl, hsome, -⟩ := item?_source h
  have := List.length_pos_iff.mpr hsome
  rw [List.length_append]
  omega

/-- The end of a literal: its closing quote, behind which no text is left to read. -/
def closing? : List Char → Option (List Char × List Char)
  | '"' :: rest => some ([], rest)
  | _ => none

/-- Reads items and then the closing quote; the answer is the text and what follows the quote. -/
def literalBody? (cs : List Char) : Option (List Char × List Char) :=
  match _h : item? cs with
  | some (read, rest) => (literalBody? rest).map fun (text, rest) => (read ++ text, rest)
  | none => closing? cs
termination_by cs.length
decreasing_by exact item?_length ‹_›

/-- Reads a string literal, and gives the rest. -/
def literal? : List Char → Option (List Char × List Char)
  | '"' :: cs => literalBody? cs
  | _ => none

theorem literalBody?_item {cs read rest : List Char} (h : item? cs = some (read, rest)) :
    literalBody? cs = (literalBody? rest).map fun (text, rest) => (read ++ text, rest) := by
  rw [literalBody?]
  split
  · rename_i read' rest' h'
    cases h.symm.trans h'
    rfl
  · rename_i h'
    cases h.symm.trans h'

theorem literalBody?_end {cs : List Char} (h : item? cs = none) :
    literalBody? cs = closing? cs := by
  rw [literalBody?]
  split
  · rename_i read rest h'
    cases h.symm.trans h'
  · rfl

theorem literalBody?_quote (rest : List Char) : literalBody? ('"' :: rest) = some ([], rest) :=
  literalBody?_end rfl

theorem closing?_eq_some {cs text rest : List Char} (h : closing? cs = some (text, rest)) :
    cs = '"' :: rest ∧ text = [] := by
  unfold closing? at h
  split at h
  · cases h
    exact ⟨rfl, rfl⟩
  · cases h

/-- What stands in front of the closing quote is what was written for the text. -/
theorem literalBody?_source {cs text rest : List Char} (h : literalBody? cs = some (text, rest)) :
    ∃ source, cs = source ++ '"' :: rest ∧ WrittenAs isVerbatim source text := by
  induction cs using literalBody?.induct generalizing text with
  | case1 cs read rest' hitem ih =>
      rw [literalBody?_item hitem] at h
      obtain ⟨⟨text', rest''⟩, hbody, heq⟩ := Option.map_eq_some_iff.mp h
      cases heq
      obtain ⟨source, rfl, -, hread⟩ := item?_source hitem
      obtain ⟨source', rfl, htext⟩ := ih hbody
      exact ⟨source ++ source', (List.append_assoc ..).symm, hread.append htext⟩
  | case2 cs hitem =>
      rw [literalBody?_end hitem] at h
      obtain ⟨rfl, rfl⟩ := closing?_eq_some h
      exact ⟨[], rfl, .inl ⟨rfl, rfl⟩⟩

theorem item?_verbatim {c : Char} (h : isVerbatim c = true) (cs : List Char) :
    item? (c :: cs) = some ([c], cs) := by
  simp only [isVerbatim, Bool.and_eq_true, decide_eq_true_eq] at h
  obtain ⟨⟨hquote, hback⟩, hreturn⟩ := h
  unfold item?
  split <;> simp_all

/-- Characters that stand for themselves are read up to the next quote. -/
theorem literalBody?_verbatim {text : List Char} (h : text.all isVerbatim = true)
    (rest : List Char) : literalBody? (text ++ '"' :: rest) = some (text, rest) := by
  induction text with
  | nil => exact literalBody?_quote rest
  | cons c text ih =>
      rw [List.all_cons, Bool.and_eq_true] at h
      rw [List.cons_append, literalBody?_item (item?_verbatim h.1 _), ih h.2]
      rfl

/-! ### Format strings -/

/-- What a format string prints that is given no arguments. A brace that is not doubled asks for
one. -/
def formatted? : List Char → Option (List Char)
  | '\x7b' :: '\x7b' :: cs => (formatted? cs).map ('\x7b' :: ·)
  | '\x7d' :: '\x7d' :: cs => (formatted? cs).map ('\x7d' :: ·)
  | c :: cs => if c = '\x7b' ∨ c = '\x7d' then none else (formatted? cs).map (c :: ·)
  | [] => some []

/-- Whether a character is no brace. -/
def isUnbraced (c : Char) : Bool := c ≠ '\x7b' && c ≠ '\x7d'

theorem formatted?_written {cs out : List Char} (h : formatted? cs = some out) :
    WrittenAs isUnbraced cs out := by
  induction cs using formatted?.induct generalizing out with
  | case1 cs ih =>
      obtain ⟨out', hout, rfl⟩ := Option.map_eq_some_iff.mp h
      exact .inr (Nat.lt_succ_of_le (Nat.succ_le_succ (ih hout).length_le))
  | case2 cs ih =>
      obtain ⟨out', hout, rfl⟩ := Option.map_eq_some_iff.mp h
      exact .inr (Nat.lt_succ_of_le (Nat.succ_le_succ (ih hout).length_le))
  | case3 c cs hopen hclose hbrace =>
      rw [formatted?, if_pos hbrace] at h
      · cases h
      · exact hopen
      · exact hclose
  | case4 c cs hopen hclose hbrace ih =>
      rw [formatted?, if_neg hbrace] at h
      · obtain ⟨out', hout, rfl⟩ := Option.map_eq_some_iff.mp h
        have hc : isUnbraced c = true := by simpa [isUnbraced] using hbrace
        exact WrittenAs.append (.inl ⟨rfl, by rw [List.all_cons, hc]; rfl⟩ : WrittenAs _ [c] [c])
          (ih hout)
      · exact hopen
      · exact hclose
  | case5 =>
      cases h
      exact .inl ⟨rfl, rfl⟩

theorem formatted?_unbraced {cs : List Char} (h : cs.all isUnbraced = true) :
    formatted? cs = some cs := by
  induction cs with
  | nil => rfl
  | cons c cs ih =>
      rw [List.all_cons, Bool.and_eq_true] at h
      have hbrace : ¬(c = '\x7b' ∨ c = '\x7d') := by simpa [isUnbraced] using h.1
      rw [formatted?, if_neg hbrace, ih h.2]
      · rfl
      · exact fun _ hc => absurd (.inl hc) hbrace
      · exact fun _ hc => absurd (.inr hc) hbrace

/-- Whether a character stands for itself in a literal that is a format string. -/
def standsForItself (c : Char) : Bool := isVerbatim c && isUnbraced c

/-- A text that is put between quotes as it is makes a literal that prints the text exactly if each
of its characters stands for itself. -/
theorem prints_itself_iff (out rest : List Char) :
    (∃ text, literal? ('"' :: (out ++ '"' :: rest)) = some (text, rest) ∧
      formatted? text = some out) ↔ out.all standsForItself = true := by
  have hboth : out.all standsForItself = true ↔
      out.all isVerbatim = true ∧ out.all isUnbraced = true := by
    simp only [List.all_eq_true, standsForItself, Bool.and_eq_true, imp_and, forall_and]
  rw [hboth]
  constructor
  · rintro ⟨text, hliteral, hformat⟩
    obtain ⟨source, hsource, htext⟩ := literalBody?_source hliteral
    have hout := formatted?_written hformat
    obtain rfl : out = source := List.append_cancel_right hsource
    -- neither reading makes a text longer, so here none makes it shorter
    obtain ⟨rfl, hverbatim⟩ := htext.eq_of_length_le hout.length_le
    obtain ⟨-, hunbraced⟩ := hout.eq_of_length_le (Nat.le_refl _)
    exact ⟨hverbatim, hunbraced⟩
  · rintro ⟨hverbatim, hunbraced⟩
    exact ⟨out, literalBody?_verbatim hverbatim rest, formatted?_unbraced hunbraced⟩

end Pipeline.Text
