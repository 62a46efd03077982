import Pipeline.Proofs.Shell.Reading

/-!
# Reading between double quotes

Between double quotes a text spells pieces in the same way as outside (`SpellsQuoted`), but more
characters stand for themselves there, and a backslash is kept unless it protects one of the four
that do not. The quotes with what they hold are a word (`SpellsQuoted.isWord`).
-/

namespace Pipeline.Shell
open Reader

/-- Characters that stand for themselves between double quotes. -/
def IsPlainInQuotes (c : Char) : Prop := c ≠ '"' ∧ c ≠ '\\' ∧ c ≠ '\x60' ∧ c ≠ '$'

instance (c : Char) : Decidable (IsPlainInQuotes c) :=
  inferInstanceAs (Decidable (c ≠ '"' ∧ c ≠ '\\' ∧ c ≠ '\x60' ∧ c ≠ '$'))

/-- Characters that a backslash between double quotes protects, but for the end of the line. -/
def IsProtected (c : Char) : Prop := c = '$' ∨ c = '\x60' ∨ c = '\\' ∨ c = '"'

section
variable {d : Dialect} {fuel line : Nat} {done : Word} {rest : Raw}

theorem readQuoted_cons {c : Char} (hquote : c ≠ '"') (hback : c ≠ '\\') :
    readPieces d .double (fuel + 1) done ⟨c :: rest, line⟩ =
      readMarked d .double fuel c rest done ⟨c :: rest, line⟩ := by
  rw [readPieces]
  · simp only [bind_apply, rest_apply, ok_bind]
    simp [hquote, Site.ending?]
  · simp

theorem readQuoted_plain {c : Char} (h : IsPlainInQuotes c) :
    readPieces d .double (fuel + 2) done ⟨c :: rest, line⟩ =
      readPieces d .double fuel (addText true [c] done) ⟨rest, line + [c].count '\n'⟩ := by
  obtain ⟨hquote, hback, hgrave, hdollar⟩ := h
  rw [readQuoted_cons hquote hback]
  by_cases hsingle : c = '\''
  · subst hsingle
    rfl
  · rw [readMarked]
    · simp [bind_apply, ok_bind, skip_apply, Site.isQuoted]
    · exact hsingle
    · exact hquote
    · exact hgrave
    · exact hdollar

theorem readQuoted_protected {c : Char} (h : IsProtected c) :
    readPieces d .double (fuel + 1) done ⟨'\\' :: c :: rest, line⟩ =
      readPieces d .double fuel (addText true [c] done) ⟨rest, line⟩ := by
  rcases h with rfl | rfl | rfl | rfl <;> rfl

/-- A backslash that protects nothing is kept. -/
theorem readQuoted_kept {c : Char} (h : ¬IsProtected c) (hline : c ≠ '\n') :
    readPieces d .double (fuel + 1) done ⟨'\\' :: c :: rest, line⟩ =
      readPieces d .double fuel (addText true ['\\'] done) ⟨c :: rest, line⟩ := by
  simp only [IsProtected, not_or] at h
  obtain ⟨hdollar, hgrave, hback, hquote⟩ := h
  rw [readPieces]
  · simp only [bind_apply, rest_apply, ok_bind, Site.isQuoted]
    simp [hdollar, hgrave, hback, hquote]
    rfl
  · simp

end

/-- Reading the text between double quotes passes over it and adds to the pieces so far. -/
def SpellsQuoted (d : Dialect) (text : Raw) (add : Word → Word) : Prop :=
  ∃ cost ≤ 4 * text.length, ∀ fuel done rest line, 4 ≤ fuel →
    readPieces d .double (fuel + cost) done ⟨text ++ rest, line⟩ =
      readPieces d .double fuel (add done) ⟨rest, line + text.count '\n'⟩

section
variable {d : Dialect}

theorem spellsQuoted_nil : SpellsQuoted d [] id := ⟨0, by simp, fun _ _ _ _ _ => rfl⟩

theorem SpellsQuoted.append {a b : Raw} {f g : Word → Word} (ha : SpellsQuoted d a f)
    (hb : SpellsQuoted d b g) : SpellsQuoted d (a ++ b) (g ∘ f) := by
  obtain ⟨m, hm, hfront⟩ := ha
  obtain ⟨n, hn, hback⟩ := hb
  refine ⟨n + m, by simp; omega, fun fuel done rest line hfuel => ?_⟩
  rw [← Nat.add_assoc, List.append_assoc, hfront _ _ _ _ (by omega), hback _ _ _ _ hfuel,
    List.count_append, Nat.add_assoc]
  rfl

/-- Texts that spell themselves or others do so together. -/
theorem SpellsQuoted.text {a b x y : Raw} (ha : SpellsQuoted d a (addText true x))
    (hb : SpellsQuoted d b (addText true y)) : SpellsQuoted d (a ++ b) (addText true (x ++ y)) := by
  have hadd : addText true y ∘ addText true x = addText true (x ++ y) :=
    funext fun done => addText_addText true x y done
  rw [← hadd]
  exact ha.append hb

theorem spellsQuoted_plainChar {c : Char} (h : IsPlainInQuotes c) :
    SpellsQuoted d [c] (addText true [c]) :=
  ⟨2, by simp, fun _ _ _ _ _ => readQuoted_plain h⟩

theorem spellsQuoted_plain {text : Raw} (hne : text ≠ []) (h : ∀ c ∈ text, IsPlainInQuotes c) :
    SpellsQuoted d text (addText true text) := by
  induction text with
  | nil => exact absurd rfl hne
  | cons c text ih =>
      obtain ⟨hc, htext⟩ := List.forall_mem_cons.mp h
      have hfirst := spellsQuoted_plainChar (d := d) hc
      by_cases hlast : text = []
      · subst hlast
        exact hfirst
      · exact hfirst.text (ih hlast htext)

theorem spellsQuoted_protected {c : Char} (h : IsProtected c) :
    SpellsQuoted d ['\\', c] (addText true [c]) := by
  refine ⟨1, by simp, fun fuel done rest line _ => ?_⟩
  have hlines : ['\\', c].count '\n' = 0 := by
    rcases h with rfl | rfl | rfl | rfl <;> rfl
  rw [hlines]
  exact readQuoted_protected h

theorem spellsQuoted_kept {c : Char} (h : IsPlainInQuotes c) (hline : c ≠ '\n') :
    SpellsQuoted d ['\\', c] (addText true ['\\', c]) := by
  obtain ⟨hquote, hback, hgrave, hdollar⟩ := h
  have hfree : ¬IsProtected c := by
    rintro (h | h | h | h)
    · exact hdollar h
    · exact hgrave h
    · exact hback h
    · exact hquote h
  refine ⟨3, by simp, fun fuel done rest line _ => ?_⟩
  have hlines : ['\\', c].count '\n' = [c].count '\n' := by simp
  rw [List.cons_append, List.cons_append, List.nil_append, readQuoted_kept hfree hline,
    readQuoted_plain ⟨hquote, hback, hgrave, hdollar⟩, addText_addText, hlines]
  rfl

/-- What two quotes hold, when it is read, an empty text if it is nothing. -/
def quotedWord (inner : Word) : Word := if inner.isEmpty then [.quoted []] else inner

/-- Double quotes with what is spelled between them are a word. -/
theorem SpellsQuoted.isWord {text : Raw} {add : Word → Word} (h : SpellsQuoted d text add) :
    IsWord d ('"' :: text ++ ['"']) (quotedWord (add []).reverse) := by
  refine ⟨⟨'"', text ++ ['"'], rfl, by decide, by decide⟩, fun rest line hend => ?_⟩
  obtain ⟨cost, hcost, hread⟩ := h
  -- The reader starts with enough for the text, for the two quotes and for the end.
  obtain ⟨fuel, hfuel⟩ : ∃ fuel, 4 * ('"' :: text ++ ['"'] ++ rest).length + 8 =
      fuel + 5 + cost + 2 :=
    ⟨4 * ('"' :: text ++ ['"'] ++ rest).length + 1 - cost, by simp; omega⟩
  have hinner : readPieces d .double (fuel + 5 + cost) [] ⟨text ++ '"' :: rest, line⟩ =
      .ok ((add []).reverse, ⟨'"' :: rest, line + text.count '\n'⟩) :=
    hread (fuel + 5) [] ('"' :: rest) line (by omega)
  have hsplit : '"' :: text ++ ['"'] ++ rest = '"' :: (text ++ '"' :: rest) := by simp
  have hlines : ('"' :: text ++ ['"']).count '\n' = text.count '\n' := by simp
  have hskip : skip 1 ⟨'"' :: (text ++ '"' :: rest), line⟩ =
      .ok ((), ⟨text ++ '"' :: rest, line⟩) := rfl
  have hnext : next? ⟨'"' :: rest, line + text.count '\n'⟩ =
      .ok (some '"', ⟨rest, line + text.count '\n'⟩) := rfl
  rw [readWord_apply, hfuel, hsplit, hlines, readPieces_marked rfl (by decide), readMarked]
  simp only [bind_apply, get_apply, ok_bind, hskip, hinner, hnext]
  have hone : fuel + 5 + cost = fuel + 4 + cost + 1 := by omega
  rw [hone, readPieces_end hend, List.append_nil, List.reverse_reverse]
  rfl

end

end Pipeline.Shell
