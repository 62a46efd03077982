import Pipeline.Proofs.Shell.DoubleQuotes
import Pipeline.Proofs.Text.Quoted

/-!
# Quoted text as a shell reads it

Quoted text, as messages show it, is no shell text, although both stand between double quotes: a
shell takes a backslash away only in front of a few characters. What it reads of each character is a
text of its own (`heard`), so the whole is read to its closing quote (`readLiteral_escape`). No
character is read as less than one, so the text is read back only if every character is
(`heardText_eq_self_iff`). Where the text is literal, the reader of the shells agrees
(`isWord_quoted`).
-/

namespace Pipeline.Shell
open Text

/-! ### Literal text between double quotes -/

/-- What is between double quotes, and what follows them. -/
structure Literal where
  /-- The text, if it is literal. -/
  text : Option (List Char)
  rest : List Char
deriving DecidableEq, Repr

/-- With more in front, if that is literal. -/
def Literal.behind (l : Literal) (front : Option (List Char)) : Literal :=
  { l with text := front.bind fun front => l.text.map (front ++ ·) }

/-- Reads text behind a double quote up to the next one. A backslash is taken away in front of the
characters that it protects, and with the end of the line; in front of any other it is kept. Behind
no backslash a dollar sign or a backquote is not literal. -/
def readLiteral : List Char → Option Literal
  | [] => none
  | '"' :: cs => some ⟨some [], cs⟩
  | '\\' :: '\n' :: cs => readLiteral cs
  | '\\' :: c :: cs =>
    let front := if c = '$' ∨ c = '\x60' ∨ c = '"' ∨ c = '\\' then [c] else ['\\', c]
    (readLiteral cs).map (·.behind (some front))
  | c :: cs =>
    let front := if c = '$' ∨ c = '\x60' then none else some [c]
    (readLiteral cs).map (·.behind front)

/-- What a character in quoted text is read as. -/
def heard (c : Char) : Option (List Char) :=
  if c = '$' ∨ c = '\x60' then none
  else if c = '"' ∨ c = '\\' then some [c]
  else some (escapeChar c)

/-- What quoted text is read as. -/
def heardText : List Char → Option (List Char)
  | [] => some []
  | c :: cs => (heard c).bind fun front => (heardText cs).map (front ++ ·)

theorem heardText_cons_iff {c : Char} {cs text : List Char} : heardText (c :: cs) = some text ↔
    ∃ front back, heard c = some front ∧ heardText cs = some back ∧ text = front ++ back := by
  rw [heardText, Option.bind_eq_some_iff]
  simp only [Option.map_eq_some_iff]
  constructor
  · rintro ⟨front, hfront, back, hback, rfl⟩
    exact ⟨front, back, hfront, hback, rfl⟩
  · rintro ⟨front, back, hfront, hback, rfl⟩
    exact ⟨front, hfront, back, hback, rfl⟩

/-- Reading the text at the front of any other comes to what is read of it, and goes on. -/
def Hears (front : List Char) (text : Option (List Char)) : Prop :=
  ∀ rest, readLiteral (front ++ rest) = (readLiteral rest).map (·.behind text)

theorem hears_nil : Hears [] (some []) := by
  intro rest
  cases h : readLiteral rest with
  | none => simp [h]
  | some l => simp [h, Literal.behind]

theorem Hears.append {a b : List Char} {s t : Option (List Char)} (ha : Hears a s)
    (hb : Hears b t) : Hears (a ++ b) (s.bind fun front => t.map (front ++ ·)) := by
  intro rest
  rw [List.append_assoc, ha, hb, Option.map_map]
  congr 1
  funext l
  cases s <;> cases t <;> cases ht : l.text <;> simp [Literal.behind, ht]

theorem hears_char {c : Char} (hquote : c ≠ '"') (hback : c ≠ '\\') :
    Hears [c] (if c = '$' ∨ c = '\x60' then none else some [c]) := by
  intro rest
  rw [List.singleton_append, readLiteral]
  · exact hquote
  · exact fun cs h => absurd h hback
  · exact fun x cs h => absurd h hback

theorem hears_plain {cs : List Char} (h : ∀ c ∈ cs, IsPlainInQuotes c) : Hears cs (some cs) := by
  induction cs with
  | nil => exact hears_nil
  | cons c cs ih =>
      obtain ⟨⟨hquote, hback, hgrave, hdollar⟩, hcs⟩ := List.forall_mem_cons.mp h
      have hc := hears_char hquote hback
      rw [if_neg (by simp [hgrave, hdollar])] at hc
      exact hc.append (ih hcs)

theorem hears_kept {c : Char} (h : IsPlainInQuotes c) (hline : c ≠ '\n') :
    Hears ['\\', c] (some ['\\', c]) := by
  obtain ⟨hquote, hback, hgrave, hdollar⟩ := h
  intro rest
  rw [List.cons_append, List.singleton_append, readLiteral]
  · simp [hquote, hback, hgrave, hdollar]
  · exact hline

theorem isPlainInQuotes_digits : ∀ d < 16, IsPlainInQuotes (hexDigit d) := by decide

/-- What is spelt behind the backslash and the letter is plain. -/
theorem isPlainInQuotes_braces (c : Char) :
    ∀ x ∈ '\x7b' :: (hexDigits c.toNat).map hexDigit ++ ['\x7d'], IsPlainInQuotes x := by
  intro x hx
  simp only [List.cons_append, List.mem_cons, List.mem_append, List.not_mem_nil, or_false] at hx
  rcases hx with rfl | hx | rfl
  · decide
  · obtain ⟨d, hd, rfl⟩ := mem_spelling hx
    exact isPlainInQuotes_digits d hd
  · decide

/-- A code point is kept as it is spelt. -/
theorem hears_codePoint (c : Char) : Hears (codePoint c) (some (codePoint c)) := by
  have hletter : Hears ['\\', 'u'] (some ['\\', 'u']) := hears_kept (by decide) (by decide)
  exact hletter.append (hears_plain (isPlainInQuotes_braces c))

theorem heard_kept {c : Char} (hdollar : c ≠ '$') (hgrave : c ≠ '\x60') (hquote : c ≠ '"')
    (hback : c ≠ '\\') : heard c = some (escapeChar c) := by
  simp [heard, hdollar, hgrave, hquote, hback]

/-- A character in quoted text is read without its backslash or not at all, or is kept as it is
written. -/
theorem hears_escapeChar (c : Char) : Hears (escapeChar c) (heard c) := by
  have hform := form_escapeChar c
  generalize htext : escapeChar c = text at hform
  cases hform with
  | short hmem =>
      rcases mem_shortForms.mp hmem with ⟨rfl, rfl⟩ | ⟨rfl, rfl⟩ | ⟨rfl, rfl⟩ | ⟨rfl, rfl⟩ | ⟨rfl, rfl⟩ | ⟨rfl, rfl⟩
      · exact hears_kept (by decide) (by decide)
      · exact hears_kept (by decide) (by decide)
      · exact hears_kept (by decide) (by decide)
      · exact hears_kept (by decide) (by decide)
      · exact fun rest => rfl
      · exact fun rest => rfl
  | spelt _ hhidden =>
      rw [heard_kept (ne_of_isHidden hhidden rfl) (ne_of_isHidden hhidden rfl)
        (ne_of_isHidden hhidden rfl) (ne_of_isHidden hhidden rfl), htext]
      exact hears_codePoint c
  | plain _ hquote hback =>
      have hchar := hears_char hquote hback
      unfold heard
      rw [htext]
      simpa [hquote, hback] using hchar

/-- Quoted text is read to its closing quote and no further. -/
theorem readLiteral_escape (cs rest : List Char) :
    readLiteral (escape cs ++ '"' :: rest) = some ⟨heardText cs, rest⟩ := by
  have hall : Hears (escape cs) (heardText cs) := by
    induction cs with
    | nil => exact hears_nil
    | cons c cs ih => exact (hears_escapeChar c).append ih
  rw [hall]
  simp [readLiteral, Literal.behind]

/-! ### What is read back -/

/-- A character that stands for itself, whether it is written after a backslash or not. -/
def Survives (c : Char) : Prop :=
  c ≠ '$' ∧ c ≠ '\x60' ∧ escapeChar c ∉ ["\\0".toList, "\\t".toList, "\\n".toList, "\\r".toList] ∧
    escapeChar c ≠ codePoint c

instance (c : Char) : Decidable (Survives c) :=
  inferInstanceAs (Decidable (c ≠ '$' ∧ c ≠ '\x60' ∧
    escapeChar c ∉ ["\\0".toList, "\\t".toList, "\\n".toList, "\\r".toList] ∧
    escapeChar c ≠ codePoint c))

/-- Each character is read as itself or as more than one. -/
theorem heard_cases {c : Char} {front : List Char} (h : heard c = some front) :
    front = [c] ∨ 2 ≤ front.length := by
  unfold heard at h
  split at h
  · cases h
  · split at h
    · exact .inl (Option.some.inj h).symm
    · rw [← Option.some.inj h]
      have hform := form_escapeChar c
      generalize escapeChar c = text at hform
      cases hform with
      | short => exact .inr (Nat.le_refl 2)
      | spelt => exact .inr (by simp [codePoint])
      | plain => exact .inl rfl

theorem heard_eq_self_iff {c : Char} : heard c = some [c] ↔ Survives c := by
  have hform := form_escapeChar c
  generalize htext : escapeChar c = text at hform
  unfold Survives heard
  rw [htext]
  cases hform with
  | short hmem =>
      rcases mem_shortForms.mp hmem with ⟨rfl, rfl⟩ | ⟨rfl, rfl⟩ | ⟨rfl, rfl⟩ | ⟨rfl, rfl⟩ | ⟨rfl, rfl⟩ | ⟨rfl, rfl⟩ <;>
        simp [codePoint]
  | spelt _ hhidden =>
      have hquote : c ≠ '"' := ne_of_isHidden hhidden rfl
      have hback : c ≠ '\\' := ne_of_isHidden hhidden rfl
      simp [codePoint, hquote, hback]
  | plain _ hquote hback => simp [codePoint, hquote, hback]

theorem length_heardText {cs text : List Char} (h : heardText cs = some text) :
    cs.length ≤ text.length := by
  induction cs generalizing text with
  | nil => simp
  | cons c cs ih =>
      obtain ⟨front, back, hfront, hback, rfl⟩ := heardText_cons_iff.mp h
      have hle := ih hback
      rcases heard_cases hfront with rfl | hlong
      · simpa using hle
      · simp only [List.length_append, List.length_cons]
        omega

/-- Text is read back exactly if each of its characters is: what is read longer stays longer. -/
theorem heardText_eq_self_iff {cs : List Char} :
    heardText cs = some cs ↔ ∀ c ∈ cs, Survives c := by
  induction cs with
  | nil => simp [heardText]
  | cons c cs ih =>
      rw [List.forall_mem_cons, ← ih, ← heard_eq_self_iff]
      constructor
      · intro h
        obtain ⟨front, back, hfront, hback, hboth⟩ := heardText_cons_iff.mp h
        rcases heard_cases hfront with rfl | hlong
        · rw [List.singleton_append] at hboth
          cases hboth
          exact ⟨hfront, hback⟩
        · -- The rest is read as no less than it is, so the lengths differ.
          have hle := length_heardText hback
          have hlength := congrArg List.length hboth
          simp only [List.length_append, List.length_cons] at hlength
          omega
      · rintro ⟨hc, hcs⟩
        exact heardText_cons_iff.mpr ⟨[c], cs, hc, hcs, rfl⟩

theorem heard_eq_none_iff {c : Char} : heard c = none ↔ c = '$' ∨ c = '\x60' := by
  unfold heard
  split
  · rename_i hspecial
    exact iff_of_true rfl hspecial
  · rename_i hplain
    split <;> exact iff_of_false (by simp) hplain

/-- The word is not literal exactly if there is a character in it that is not. -/
theorem heardText_eq_none_iff {cs : List Char} :
    heardText cs = none ↔ '$' ∈ cs ∨ '\x60' ∈ cs := by
  have hall : heardText cs = none ↔ ∃ c ∈ cs, heard c = none := by
    induction cs with
    | nil => simp [heardText]
    | cons c cs ih =>
        rw [List.exists_mem_cons_iff, ← ih]
        cases hc : heard c <;> simp [heardText, hc]
  simp only [hall, heard_eq_none_iff, and_or_left, exists_or, exists_eq_right]

/-! ### What the shells make of it -/

section
variable {d : Dialect}

theorem ofChar_plainInQuotes {c : Char} (h : IsPlainInQuotes c) :
    Raw.ofChar c ≠ [] ∧ ∀ b ∈ Raw.ofChar c, IsPlainInQuotes b := by
  by_cases hc : c.toNat < 128
  · rw [Raw.ofChar_of_ascii hc]
    exact ⟨by simp, by simpa using h⟩
  · obtain ⟨hne, hbytes⟩ := Raw.ofChar_of_not_ascii (Nat.le_of_not_lt hc)
    refine ⟨hne, fun b hb => ?_⟩
    have hlarge := hbytes b hb
    have hb (x : Char) (hx : x.toNat < 128) : b ≠ x := by
      rintro rfl
      omega
    exact ⟨hb _ (by decide), hb _ (by decide), hb _ (by decide), hb _ (by decide)⟩

/-- The characters of plain text spell themselves. -/
theorem spellsQuoted_flatMap {cs : List Char} (hne : cs ≠ []) (h : ∀ c ∈ cs, IsPlainInQuotes c) :
    SpellsQuoted d (cs.flatMap Raw.ofChar) (addText true (cs.flatMap Raw.ofChar)) := by
  refine spellsQuoted_plain ?_ ?_
  · obtain ⟨c, cs, rfl⟩ := List.exists_cons_of_ne_nil hne
    intro hnil
    obtain ⟨hc, -⟩ := List.append_eq_nil_iff.mp hnil
    exact (ofChar_plainInQuotes (h c List.mem_cons_self)).1 hc
  · intro b hb
    obtain ⟨c, hc, hbc⟩ := List.mem_flatMap.mp hb
    exact (ofChar_plainInQuotes (h c hc)).2 b hbc

theorem spellsQuoted_codePoint (c : Char) :
    SpellsQuoted d ((codePoint c).flatMap Raw.ofChar)
      (addText true ((codePoint c).flatMap Raw.ofChar)) := by
  have hletter : SpellsQuoted d (['\\', 'u'].flatMap Raw.ofChar)
      (addText true (['\\', 'u'].flatMap Raw.ofChar)) :=
    spellsQuoted_kept (by decide) (by decide)
  have hboth := hletter.text (spellsQuoted_flatMap (by simp) (isPlainInQuotes_braces c))
  rw [← List.flatMap_append] at hboth
  exact hboth

theorem spellsQuoted_escapeChar {c : Char} {front : List Char} (h : heard c = some front) :
    SpellsQuoted d ((escapeChar c).flatMap Raw.ofChar)
      (addText true (front.flatMap Raw.ofChar)) := by
  unfold heard at h
  split at h
  · cases h
  · rename_i hplain
    rw [not_or] at hplain
    split at h
    · rename_i hprotected
      cases h
      rcases hprotected with rfl | rfl
      · exact spellsQuoted_protected (.inr (.inr (.inr rfl)))
      · exact spellsQuoted_protected (.inr (.inr (.inl rfl)))
    · rename_i hkept
      rw [not_or] at hkept
      cases h
      have hform := form_escapeChar c
      generalize escapeChar c = text at hform
      cases hform with
      | short hmem =>
          rcases mem_shortForms.mp hmem with ⟨rfl, rfl⟩ | ⟨rfl, rfl⟩ | ⟨rfl, rfl⟩ | ⟨rfl, rfl⟩ | ⟨rfl, -⟩ | ⟨rfl, -⟩
          · exact spellsQuoted_kept (c := '0') (by decide) (by decide)
          · exact spellsQuoted_kept (c := 't') (by decide) (by decide)
          · exact spellsQuoted_kept (c := 'n') (by decide) (by decide)
          · exact spellsQuoted_kept (c := 'r') (by decide) (by decide)
          · exact absurd rfl hkept.1
          · exact absurd rfl hkept.2
      | spelt => exact spellsQuoted_codePoint c
      | plain =>
          have hc : IsPlainInQuotes c := ⟨hkept.1, hkept.2, hplain.2, hplain.1⟩
          exact spellsQuoted_flatMap (by simp) (by simpa using hc)

theorem spellsQuoted_escape {cs text : List Char} (hne : cs ≠ []) (h : heardText cs = some text) :
    SpellsQuoted d ((escape cs).flatMap Raw.ofChar) (addText true (text.flatMap Raw.ofChar)) := by
  induction cs generalizing text with
  | nil => exact absurd rfl hne
  | cons c cs ih =>
      obtain ⟨front, back, hfront, hback, rfl⟩ := heardText_cons_iff.mp h
      have hc := spellsQuoted_escapeChar (d := d) hfront
      by_cases hlast : cs = []
      · subst hlast
        cases hback
        simpa [escape] using hc
      · have hboth := hc.text (ih hlast hback)
        rw [← List.flatMap_append, ← List.flatMap_append] at hboth
        exact hboth

/-- A shell reads quoted text that is literal as the same text. -/
theorem isWord_quoted {name text : String} (h : heardText name.toList = some text.toList) :
    IsWord d (Raw.ofText (quoted name)) [.quoted (Raw.ofText text)] := by
  have hraw : Raw.ofText (quoted name) = '"' :: (escape name.toList).flatMap Raw.ofChar ++ ['"'] := by
    rw [Raw.ofText_eq_flatMap, toList_quoted, Text.quoteChars, List.flatMap_append, List.flatMap_cons]
    rfl
  rw [hraw, Raw.ofText_eq_flatMap]
  by_cases hne : name.toList = []
  · rw [hne] at h ⊢
    have htext : text.toList = [] := (Option.some.inj h).symm
    rw [htext]
    exact spellsQuoted_nil.isWord
  · exact (spellsQuoted_escape hne h).isWord

end

end Pipeline.Shell
