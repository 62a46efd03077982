import Pipeline.Proofs.Shell.Expansion
import Pipeline.Proofs.Shell.Reading

/-!
# Quoted texts as words

A quoted text is one word wherever a word may end behind it, and the word is the text: nothing in it
is expanded. So quoted texts in a row, with blanks between them (`QuotedRow`), are read back as the
texts in their order (`quoted_texts_read`). The reader is in and out of quotes as often as there are
quotes in a text (`spells_quoteChars`); here the texts are put side by side, and what is between
them is passed over however long it is (`skipBlanks_gap`).
-/

namespace Pipeline.Shell
open Reader

/-! ### Blanks in a row -/

theorem isBlank_iff {c : Char} : isBlank c = true ↔ c = ' ' ∨ c = '\t' := by
  simp [isBlank]

theorem count_gap {gap : Raw} (h : ∀ c ∈ gap, isBlank c = true) (rest : Raw) :
    skipBlanks.count (gap ++ rest) = gap.length + skipBlanks.count rest := by
  induction gap with
  | nil => simp
  | cons c gap ih =>
      obtain ⟨hc, hgap⟩ := List.forall_mem_cons.mp h
      have hone : skipBlanks.count (c :: (gap ++ rest)) = 1 + skipBlanks.count (gap ++ rest) := by
        rcases isBlank_iff.mp hc with rfl | rfl <;> rfl
      rw [List.cons_append, hone, ih hgap, List.length_cons]
      omega

theorem no_newline_in_gap {gap : Raw} (h : ∀ c ∈ gap, isBlank c = true) : gap.count '\n' = 0 :=
  List.count_eq_zero.mpr fun hmem => absurd (h _ hmem) (by decide)

/-- Blanks in front of others are passed over with them. -/
theorem skipBlanks_gap {gap : Raw} (h : ∀ c ∈ gap, isBlank c = true) (rest : Raw) (line : Nat) :
    skipBlanks ⟨gap ++ rest, line⟩ = skipBlanks ⟨rest, line⟩ := by
  have hline := no_newline_in_gap h
  rw [skipBlanks_apply, skipBlanks_apply, count_gap h, skip_apply, skip_apply,
    List.drop_append, List.take_append, List.count_append]
  simp [hline, List.take_of_length_le]

/-! ### Quoted texts in a row -/

/-- The end of a line, or of all text. -/
def EndsRow (rest : Raw) : Prop := rest = [] ∨ ∃ more, rest = '\n' :: more

/-- Quoted texts, with blanks between each two and perhaps behind the last. -/
inductive QuotedRow : List String → Raw → Prop
  | none : QuotedRow [] []
  | next (text : String) (gap : Raw) {texts : List String} {row : Raw} :
      (∀ c ∈ gap, isBlank c = true) → (texts ≠ [] → gap ≠ []) → QuotedRow texts row →
      QuotedRow (text :: texts) (Raw.ofText (quote text) ++ (gap ++ row))

/-- What a quoted text is read as. -/
def verbatimWord (text : String) : Word := [.quoted (Raw.ofText text)]

theorem quoteChars_head (text rest : Raw) : ∃ more, quoteChars text ++ rest = '\'' :: more :=
  ⟨_, rfl⟩

/-- A row is at a word, or it is empty. -/
theorem QuotedRow.head {texts : List String} {row : Raw} (h : QuotedRow texts row) :
    texts = [] ∧ row = [] ∨ texts ≠ [] ∧ ∃ more, row = '\'' :: more := by
  cases h with
  | none => exact .inl ⟨rfl, rfl⟩
  | next text =>
      rw [ofText_quote]
      exact .inr ⟨by simp, quoteChars_head _ _⟩

theorem EndsRow.endsWord {rest : Raw} (h : EndsRow rest) : EndsWord rest := by
  obtain rfl | ⟨more, rfl⟩ := h
  · intro c hc
    cases hc
  · exact endsWord_cons rfl

/-- Each text takes a quote at least. -/
theorem QuotedRow.length_le {texts : List String} {row : Raw} (h : QuotedRow texts row) :
    texts.length ≤ row.length := by
  induction h with
  | none => exact Nat.le_refl 0
  | next text gap hgap hsome hrow ih =>
      obtain ⟨more, hmore⟩ := quoteChars_head (Raw.ofText text) []
      rw [List.append_nil] at hmore
      rw [ofText_quote, hmore]
      simp only [List.length_append, List.length_cons]
      omega

/-- Behind a text of a row a word ends: there are blanks, or the row ends. -/
theorem QuotedRow.endsWord {texts : List String} {row gap rest : Raw} (h : QuotedRow texts row)
    (hgap : ∀ c ∈ gap, isBlank c = true) (hsome : texts ≠ [] → gap ≠ []) (hrest : EndsRow rest) :
    EndsWord (gap ++ (row ++ rest)) := by
  cases gap with
  | nil =>
      rcases h.head with ⟨-, rfl⟩ | ⟨hne, -⟩
      · exact hrest.endsWord
      · exact absurd rfl (hsome hne)
  | cons c gap =>
      have hc := hgap c List.mem_cons_self
      refine endsWord_cons ?_
      rw [isMeta, hc, Bool.true_or]

section
variable {d : Dialect} {fuel line : Nat} {done : List Word}

theorem readWord_quote (text : String) {rest : Raw} (h : EndsWord rest) (line : Nat) :
    readWord d ⟨Raw.ofText (quote text) ++ rest, line⟩ =
      .ok (verbatimWord text, ⟨rest, line + (Raw.ofText (quote text)).count '\n'⟩) := by
  rw [ofText_quote]
  exact (spells_quoteChars (Raw.ofText text)).readWord h line

theorem readWords_gap {gap : Raw} (h : ∀ c ∈ gap, isBlank c = true) (rest : Raw) :
    readWords d fuel done ⟨gap ++ rest, line⟩ = readWords d fuel done ⟨rest, line⟩ := by
  cases fuel with
  | zero => rfl
  | succ fuel =>
      unfold readWords
      rw [bind_apply, skipBlanks_gap h, bind_apply]

theorem readWords_end {rest : Raw} (h : EndsRow rest) :
    readWords d (fuel + 1) done ⟨rest, line⟩ = .ok (done.reverse, ⟨rest, line⟩) := by
  obtain rfl | ⟨more, rfl⟩ := h <;> rfl

theorem readWords_quote (text : String) {rest : Raw} (h : EndsWord rest) :
    readWords d (fuel + 1) done ⟨Raw.ofText (quote text) ++ rest, line⟩ =
      readWords d fuel (verbatimWord text :: done)
        ⟨rest, line + (Raw.ofText (quote text)).count '\n'⟩ := by
  have hread := readWord_quote (d := d) text h line
  obtain ⟨more, hhead⟩ : ∃ more, Raw.ofText (quote text) ++ rest = '\'' :: more := by
    rw [ofText_quote]
    exact quoteChars_head _ _
  have hat : AtWord ('\'' :: more) := ⟨'\'', more, rfl, .inl (by decide)⟩
  have hmeta : isMeta '\'' = false := rfl
  rw [hhead] at hread ⊢
  rw [readWords]
  simp only [bind_apply, skipBlanks_atWord hat, ok_bind, rest_apply, hmeta]
  rw [if_neg (by simp), bind_apply, hread]
  rfl

/-- The words of a row are the quoted texts, by induction on the row. -/
theorem QuotedRow.readWords {texts : List String} {row rest : Raw} (h : QuotedRow texts row)
    (hrest : EndsRow rest) (hfuel : texts.length < fuel) :
    readWords d fuel done ⟨row ++ rest, line⟩ =
      .ok (done.reverse ++ texts.map verbatimWord, ⟨rest, line + row.count '\n'⟩) := by
  induction h generalizing fuel done line with
  | none =>
      obtain ⟨fuel, rfl⟩ := Nat.exists_eq_add_of_lt hfuel
      rw [List.nil_append, readWords_end hrest]
      simp
  | next text gap hgap hsome hrow ih =>
      obtain ⟨fuel, rfl⟩ : ∃ n, fuel = n + 1 := ⟨fuel - 1, by omega⟩
      rw [List.length_cons] at hfuel
      have hline := no_newline_in_gap hgap
      rw [List.append_assoc, List.append_assoc,
        readWords_quote text (hrow.endsWord hgap hsome hrest), readWords_gap hgap,
        ih (by omega), List.reverse_cons, List.append_assoc, List.count_append, List.count_append,
        hline, Nat.zero_add, Nat.add_assoc]
      rfl

end

/-- Words that are quoted texts are the texts, and nothing else changes. -/
theorem expandWords_verbatimWords (texts : List String) {sub : Substitution} {w : Scene} :
    expandWords sub (texts.map verbatimWord) w = .ok (texts.map Raw.ofText) w := by
  have hall : List.Forall₂ (fun word arg => expandWord sub word w = .ok arg w)
      (texts.map verbatimWord) (texts.map fun text => [Raw.ofText text]) := by
    rw [List.forall₂_map_left_iff, List.forall₂_map_right_iff, List.forall₂_same]
    exact fun text _ => expandWord_quoted (Raw.ofText text)
  have hflatten : (texts.map fun text => [Raw.ofText text]).flatten = texts.map Raw.ofText := by
    rw [← List.flatMap_def, ← List.map_eq_flatMap]
  rw [expandWords_of_forall₂ hall, hflatten]

/-- Both shells read a quoted text as one word that holds nothing but the text, whatever was read
before it, and up to its last quote where a word may end behind it. The word becomes the text as one
argument, and nothing changes. No two texts are quoted alike, and quoted texts in a row are read as
the texts. -/
theorem quoted_texts_read (d : Dialect) :
    (∀ text, Spells d (Raw.ofText (quote text)) (addText true (Raw.ofText text))) ∧
    (∀ text rest line, EndsWord rest →
      readWord d ⟨Raw.ofText (quote text) ++ rest, line⟩ =
        .ok ([.quoted (Raw.ofText text)],
          ⟨rest, line + (Raw.ofText (quote text)).count '\n'⟩)) ∧
    (∀ text sub w, expandWord sub [.quoted (Raw.ofText text)] w = .ok [Raw.ofText text] w) ∧
    Function.Injective quote ∧
    ∀ texts row rest line, QuotedRow texts row → EndsRow rest →
      ∃ words, readWords d (4 * (row ++ rest).length + 8) [] ⟨row ++ rest, line⟩ =
          .ok (words, ⟨rest, line + row.count '\n'⟩) ∧
        ∀ sub w, expandWords sub words w = .ok (texts.map Raw.ofText) w := by
  refine ⟨fun text => ?_, fun text rest line h => readWord_quote text h line,
    fun text sub w => expandWord_quoted (Raw.ofText text), fun text other => quote_inj, ?_⟩
  · rw [ofText_quote]
    exact spells_quoteChars (Raw.ofText text)
  · intro texts row rest line hrow hrest
    have hfuel : texts.length < 4 * (row ++ rest).length + 8 := by
      have hlength := hrow.length_le
      rw [List.length_append]
      omega
    exact ⟨texts.map verbatimWord, hrow.readWords hrest hfuel, fun sub w =>
      expandWords_verbatimWords texts⟩

/-- Texts with quotes at both ends and in a run, with nothing, and with what is special
elsewhere. -/
def awkwardTexts : List String := ["'it''s'", "", "$HOME\n\\ \x60ls\x60 \"*"]

/-- Those texts, quoted, with the next line behind them. -/
def awkwardRow : String :=
  "''\\''it'\\'''\\''s'\\''' \t'' '$HOME\n\\ \x60ls\x60 \"*'\necho"

theorem awkwardTexts_read : ∃ words,
    readWords .dash (4 * awkwardRow.length + 8) [] ⟨Raw.ofText awkwardRow, 1⟩ =
      .ok (words, ⟨"\necho".toList, 2⟩) ∧
    ∀ sub w, expandWords sub words w = .ok (awkwardTexts.map Raw.ofText) w := by
  obtain ⟨-, -, -, -, hread⟩ := quoted_texts_read .dash
  have hlast : QuotedRow ["$HOME\n\\ \x60ls\x60 \"*"] _ :=
    .next _ [] (by simp) (by simp) .none
  have hempty : QuotedRow ["", "$HOME\n\\ \x60ls\x60 \"*"] _ :=
    .next _ [' '] (by simp [isBlank_iff]) (by simp) hlast
  have hrow : QuotedRow awkwardTexts _ :=
    .next _ [' ', '\t'] (by simp [isBlank_iff]) (by simp) hempty
  obtain ⟨words, hwords, hexpand⟩ :=
    hread _ _ "\necho".toList 1 hrow (.inr ⟨_, rfl⟩)
  have hascii : awkwardRow.toList.all (fun c => c.toNat < 128) = true := by decide
  refine ⟨words, ?_, hexpand⟩
  rw [Raw.ofText_of_ascii (by simpa using List.all_eq_true.mp hascii)]
  exact hwords

end Pipeline.Shell
