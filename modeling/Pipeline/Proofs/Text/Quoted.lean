import Pipeline.Proofs.Text.Utf8
import Pipeline.Text.Quoted

/-!
# Quoted text

A character stands in quoted text in one of three forms: after a backslash, by itself or as a
letter, spelt by its code point, or as it is (`form_escapeChar`). Nothing is hidden in any of them,
so quoted text stays on one line (`isHidden_of_mem_quoteChars`). Each form is read back as the
character, so quoted text is read back to its closing quote (`unquote_quoteChars`). The same goes
for a list of quoted texts up to the parenthesis that closes it (`literals?_quotedTexts`): no comma
or parenthesis inside the quotes is taken for one outside.
-/

namespace Pipeline.Text

/-- Characters that are written after a backslash, and what is written there. -/
def shortForms : List (Char × Char) :=
  [('\x00', '0'), ('\t', 't'), ('\n', 'n'), ('\r', 'r'), ('"', '"'), ('\\', '\\')]

theorem mem_shortForms {c letter : Char} : (c, letter) ∈ shortForms ↔
    c = '\x00' ∧ letter = '0' ∨ c = '\t' ∧ letter = 't' ∨ c = '\n' ∧ letter = 'n' ∨
      c = '\r' ∧ letter = 'r' ∨ c = '"' ∧ letter = '"' ∨ c = '\\' ∧ letter = '\\' := by
  simp [shortForms]

/-- The forms of a character in quoted text. -/
inductive Form : Char → List Char → Prop where
  | short {c letter : Char} : (c, letter) ∈ shortForms → Form c ['\\', letter]
  | spelt {c : Char} : c ≠ '\x00' → isHidden c = true → Form c (codePoint c)
  | plain {c : Char} : isHidden c = false → c ≠ '"' → c ≠ '\\' → Form c [c]

theorem form_escapeChar (c : Char) : Form c (escapeChar c) := by
  unfold escapeChar
  split
  · exact .short (by decide)
  · exact .short (by decide)
  · exact .short (by decide)
  · exact .short (by decide)
  · exact .short (by decide)
  · exact .short (by decide)
  · rename_i hzero _ _ _ hquote hback
    split
    · rename_i hhidden
      exact .spelt hzero hhidden
    · rename_i hshown
      exact .plain (by simpa using hshown) hquote hback

theorem ne_of_isHidden {c x : Char} (hc : isHidden c = true) (hx : isHidden x = false) : c ≠ x := by
  rintro rfl
  rw [hx] at hc
  cases hc

/-! ### Hexadecimal digits -/

theorem lt_of_mem_hexDigits {n d : Nat} (h : d ∈ hexDigits n) : d < 16 := by
  have hmem := (List.dropWhile_suffix _).subset h
  simp only [List.mem_cons, List.not_mem_nil, or_false] at hmem
  omega

theorem mem_spelling {c x : Char} (h : x ∈ (hexDigits c.toNat).map hexDigit) :
    ∃ d < 16, x = hexDigit d := by
  obtain ⟨d, hd, rfl⟩ := List.mem_map.mp h
  exact ⟨d, lt_of_mem_hexDigits hd, rfl⟩

/-- The number that digits make up behind another. -/
def numberOf (value : Nat) (ds : List Nat) : Nat := ds.foldl (fun value d => value * 16 + d) value

theorem numberOf_dropWhile (ds : List Nat) : numberOf 0 (ds.dropWhile (· == 0)) = numberOf 0 ds := by
  induction ds with
  | nil => rfl
  | cons d ds ih =>
      by_cases hd : d = 0
      · subst hd
        exact ih
      · rw [List.dropWhile_cons_of_neg (by simpa using hd)]

theorem numberOf_hexDigits {n : Nat} (h : n < 0x1000000) : numberOf 0 (hexDigits n) = n := by
  unfold hexDigits
  rw [numberOf_dropWhile]
  simp only [numberOf, List.foldl_cons, List.foldl_nil]
  omega

theorem hexDigits_ne_nil {n : Nat} (h : n < 0x1000000) (hne : n ≠ 0) : hexDigits n ≠ [] := by
  intro hnil
  have hvalue := numberOf_hexDigits h
  rw [hnil] at hvalue
  exact hne hvalue.symm

theorem length_hexDigits (n : Nat) : (hexDigits n).length ≤ 6 := (List.dropWhile_suffix _).length_le

theorem hexValue_hexDigit : ∀ d < 16, hexValue (hexDigit d) = some d := by decide

theorem hexDigit_ne_brace : ∀ d < 16, hexDigit d ≠ '\x7d' := by decide

theorem hexNumber_map {ds : List Nat} (h : ∀ d ∈ ds, d < 16) (value : Nat) :
    hexNumber value (ds.map hexDigit) = some (numberOf value ds) := by
  induction ds generalizing value with
  | nil => rfl
  | cons d ds ih =>
      obtain ⟨hd, hds⟩ := List.forall_mem_cons.mp h
      rw [List.map_cons, hexNumber, hexValue_hexDigit d hd]
      exact ih hds _

theorem isHidden_letter : ∀ form ∈ shortForms, isHidden form.2 = false := by decide

theorem isHidden_hexDigit : ∀ d < 16, isHidden (hexDigit d) = false := by decide

/-! ### What stands in quoted text -/

/-- The forms of a hidden character show it. -/
theorem Form.isHidden {c x : Char} {text : List Char} (h : Form c text) (hx : x ∈ text) :
    isHidden x = false := by
  cases h with
  | @short letter hmem =>
      have hpair : x = '\\' ∨ x = letter := by simpa using hx
      rcases hpair with rfl | rfl
      · decide
      · exact isHidden_letter _ hmem
  | spelt =>
      have hmem : x = '\\' ∨ x = 'u' ∨ x = '\x7b' ∨ x ∈ (hexDigits c.toNat).map hexDigit ∨
          x = '\x7d' := by
        simpa [codePoint] using hx
      rcases hmem with rfl | rfl | rfl | hdigit | rfl
      · decide
      · decide
      · decide
      · obtain ⟨d, hd, rfl⟩ := mem_spelling hdigit
        exact isHidden_hexDigit d hd
      · decide
  | plain hshown =>
      rw [List.mem_singleton.mp hx]
      exact hshown

/-- Quoted text is shown as it is: no hidden character stands in it. -/
theorem isHidden_of_mem_quoteChars {cs : List Char} {x : Char} (h : x ∈ quoteChars cs) :
    isHidden x = false := by
  unfold quoteChars at h
  rw [List.cons_append, List.mem_cons, List.mem_append, List.mem_singleton] at h
  rcases h with rfl | h | rfl
  · decide
  · obtain ⟨c, -, hx⟩ := List.mem_flatMap.mp h
    exact (form_escapeChar c).isHidden hx
  · decide

/-! ### Reading quoted text -/

theorem unquoteFrom_digit {c : Char} {done found rest : List Char} (hc : c ≠ '\x7d')
    (hlength : found.length < 6) :
    unquoteFrom done (.digits found) (c :: rest) =
      unquoteFrom done (.digits (c :: found)) rest := by
  cases found with
  | nil => simp [unquoteFrom, hc]
  | cons d found =>
      rw [unquoteFrom, if_neg hc, if_pos hlength]
      simp

theorem unquoteFrom_digits {ds done found : List Char} (rest : List Char)
    (hds : ∀ c ∈ ds, c ≠ '\x7d') (hlength : found.length + ds.length ≤ 6) :
    unquoteFrom done (.digits found) (ds ++ rest) =
      unquoteFrom done (.digits (ds.reverse ++ found)) rest := by
  induction ds generalizing found with
  | nil => rfl
  | cons c ds ih =>
      obtain ⟨hc, hrest⟩ := List.forall_mem_cons.mp hds
      rw [List.length_cons] at hlength
      rw [List.cons_append, unquoteFrom_digit hc (by omega),
        ih hrest (by rw [List.length_cons]; omega), List.reverse_cons, List.append_assoc]
      rfl

/-- Digits that spell a character are read as the character at their closing brace. -/
theorem unquoteFrom_brace {c : Char} {found done rest : List Char} (hsome : found ≠ [])
    (hnumber : hexNumber 0 found.reverse = some c.toNat) :
    unquoteFrom done (.digits found) ('\x7d' :: rest) = unquoteFrom (c :: done) .plain rest := by
  have hvalid : c.toNat.isValidChar := c.valid
  cases found with
  | nil => exact absurd rfl hsome
  | cons d found =>
      simp only [unquoteFrom, hnumber, if_true, if_pos hvalid, Char.ofNat_toNat]

theorem unquoteFrom_codePoint {c : Char} (hne : c ≠ '\x00') (done rest : List Char) :
    unquoteFrom done .plain (codePoint c ++ rest) = unquoteFrom (c :: done) .plain rest := by
  have hsmall : c.toNat < 0x1000000 := by
    have := Utf8.toNat_valid c
    omega
  have hzero : c.toNat ≠ 0 := fun h => hne (by rw [← Char.ofNat_toNat c, h])
  have hnumber : hexNumber 0 ((hexDigits c.toNat).map hexDigit) = some c.toNat := by
    rw [hexNumber_map fun d => lt_of_mem_hexDigits, numberOf_hexDigits hsmall]
  have hsome := hexDigits_ne_nil hsmall hzero
  have hbraces : ∀ x ∈ (hexDigits c.toNat).map hexDigit, x ≠ '\x7d' := by
    intro x hx
    obtain ⟨d, hd, rfl⟩ := mem_spelling hx
    exact hexDigit_ne_brace d hd
  have hlength := length_hexDigits c.toNat
  have hopen : unquoteFrom done .plain (codePoint c ++ rest) =
      unquoteFrom done (.digits []) ((hexDigits c.toNat).map hexDigit ++ '\x7d' :: rest) := by
    simp [codePoint, unquoteFrom]
  rw [hopen, unquoteFrom_digits _ hbraces (by simpa using hlength), List.append_nil,
    unquoteFrom_brace (by simpa using hsome) (by rwa [List.reverse_reverse])]

theorem unquoteFrom_escapeChar (c : Char) (done rest : List Char) :
    unquoteFrom done .plain (escapeChar c ++ rest) = unquoteFrom (c :: done) .plain rest := by
  have hform := form_escapeChar c
  generalize escapeChar c = text at hform
  cases hform with
  | short hmem =>
      rcases mem_shortForms.mp hmem with ⟨rfl, rfl⟩ | ⟨rfl, rfl⟩ | ⟨rfl, rfl⟩ | ⟨rfl, rfl⟩ | ⟨rfl, rfl⟩ | ⟨rfl, rfl⟩ <;>
        rfl
  | spelt hne => exact unquoteFrom_codePoint hne done rest
  | plain hshown hquote hback =>
      have hreturn : c ≠ '\r' := by
        rintro rfl
        exact absurd hshown (by decide)
      rw [List.singleton_append, unquoteFrom, if_neg hquote, if_neg hback, if_neg hreturn]

/-- A quoted text is read back, whatever follows it. -/
theorem unquote_quoteChars (cs rest : List Char) :
    unquote (quoteChars cs ++ rest) = some (cs, rest) := by
  -- The reader keeps what it has read, so the induction is for any such text.
  have hall (done : List Char) :
      unquoteFrom done .plain (escape cs ++ '"' :: rest) = some (done.reverse ++ cs, rest) := by
    induction cs generalizing done with
    | nil => simp [escape, unquoteFrom]
    | cons c cs ih =>
        rw [escape, List.flatMap_cons, ← escape, List.append_assoc, unquoteFrom_escapeChar, ih]
        simp
  unfold quoteChars
  rw [List.append_assoc, List.cons_append, unquote]
  exact hall []

/-! ### Lists of quoted texts -/

theorem length_unquoteFrom {done cs text rest : List Char} {state : Unquoting}
    (h : unquoteFrom done state cs = some (text, rest)) : rest.length < cs.length := by
  fun_induction unquoteFrom done state cs <;> simp_all <;> omega

theorem length_unquote {cs text rest : List Char} (h : unquote cs = some (text, rest)) :
    rest.length < cs.length := by
  unfold unquote at h
  split at h
  · exact Nat.lt_succ_of_lt (length_unquoteFrom h)
  · cases h

/-- Reads string literals with commas between them, up to the parenthesis that closes the list.
Blanks may follow a comma. -/
def literals? (cs : List Char) : Option (List String × List Char) :=
  match _h : unquote cs with
  | some (text, ')' :: rest) => some ([.ofList text], rest)
  | some (text, ',' :: rest) =>
    (literals? (rest.dropWhile (· = ' '))).map fun (texts, rest) => (.ofList text :: texts, rest)
  | _ => none
termination_by cs.length
decreasing_by
  have hlength := length_unquote ‹_›
  have hblanks := (List.dropWhile_suffix (l := rest) (· = ' ')).length_le
  simp only [List.length_cons] at hlength
  omega

theorem literals?_last {cs text rest : List Char} (h : unquote cs = some (text, ')' :: rest)) :
    literals? cs = some ([.ofList text], rest) := by
  rw [literals?]
  split <;> simp_all

theorem literals?_more {cs text rest : List Char} (h : unquote cs = some (text, ',' :: rest)) :
    literals? cs = (literals? (rest.dropWhile (· = ' '))).map fun (texts, rest) =>
      (.ofList text :: texts, rest) := by
  rw [literals?]
  split <;> simp_all

/-- Quoted texts with commas between them. -/
def quotedTexts (texts : List String) : List Char :=
  (", ".intercalate (texts.map quoted)).toList

theorem quotedTexts_singleton (text : String) : quotedTexts [text] = quoteChars text.toList := by
  rw [quotedTexts, List.map_singleton, String.intercalate_singleton, toList_quoted]

theorem quotedTexts_cons (text next : String) (texts : List String) :
    quotedTexts (text :: next :: texts) =
      quoteChars text.toList ++ (',' :: ' ' :: quotedTexts (next :: texts)) := by
  unfold quotedTexts
  rw [List.map_cons, List.map_cons, String.intercalate_cons_cons, String.toList_append,
    String.toList_append, toList_quoted, List.append_assoc]
  rfl

theorem quotedTexts_head (text : String) (texts : List String) :
    ∃ more, quotedTexts (text :: texts) = '"' :: more := by
  cases texts with
  | nil => exact ⟨_, quotedTexts_singleton text⟩
  | cons next texts => exact ⟨_, quotedTexts_cons text next texts⟩

/-- The texts are read back, up to the parenthesis behind them and whatever parentheses are in
them. -/
theorem literals?_quotedTexts (text : String) (texts : List String) (rest : List Char) :
    literals? (quotedTexts (text :: texts) ++ ')' :: rest) = some (text :: texts, rest) := by
  induction texts generalizing text with
  | nil =>
      have hread := unquote_quoteChars text.toList (')' :: rest)
      rw [quotedTexts_singleton, literals?_last hread, String.ofList_toList]
  | cons next texts ih =>
      have hread := unquote_quoteChars text.toList
        (',' :: ' ' :: (quotedTexts (next :: texts) ++ ')' :: rest))
      obtain ⟨more, hhead⟩ := quotedTexts_head next texts
      have hblanks : (' ' :: (quotedTexts (next :: texts) ++ ')' :: rest)).dropWhile (· = ' ') =
          quotedTexts (next :: texts) ++ ')' :: rest := by
        simp [hhead]
      rw [quotedTexts_cons, List.append_assoc, List.cons_append, List.cons_append,
        literals?_more hread, hblanks, ih, String.ofList_toList]
      rfl

end Pipeline.Text
