import Pipeline.Proofs.Text.Utf8
import Pipeline.Shell.Quote
import Pipeline.Shell.Syntax

/-!
# Text as a shell reads it

A shell of the plain locale sees a character for each byte. ASCII text it sees as it stands, and no
byte of another character is the code of an ASCII one: what is special to the shell stands in the
bytes where it stands in the text and nowhere else. So quoting a text and quoting its bytes come to
the same (`Raw.ofText_quote`).
-/

namespace Pipeline.Shell
namespace Raw

theorem ofText_append (a b : String) : ofText (a ++ b) = ofText a ++ ofText b := by
  simp [ofText, ofBytes, Utf8.encode_append]

/-- The characters of this locale are numbered as their bytes. -/
theorem toNat_charOfByte (b : UInt8) : (Char.ofNat b.toNat).toNat = b.toNat := by
  have hb : b.toNat < 256 := b.toNat_lt
  have hvalid : b.toNat.isValidChar := .inl (by omega)
  unfold Char.ofNat
  rw [dif_pos hvalid]
  rfl

theorem toBytes_ofBytes (bytes : Bytes) : toBytes (ofBytes bytes) = bytes := by
  induction bytes with
  | nil => rfl
  | cons b bytes ih =>
      change UInt8.ofNat (Char.ofNat b.toNat).toNat :: toBytes (ofBytes bytes) = b :: bytes
      rw [toNat_charOfByte, UInt8.ofNat_toNat, ih]

/-- A text is read back from its bytes. -/
theorem toText_ofText (text : String) : toText (ofText text) = text := by
  rw [toText, ofText, toBytes_ofBytes, Utf8.decode_encode]

/-- The bytes of one character. -/
def ofChar (c : Char) : Raw := ofBytes (String.utf8EncodeChar c)

theorem ofText_eq_flatMap (text : String) : ofText text = text.toList.flatMap ofChar := by
  unfold ofText ofBytes Utf8.encode
  rw [List.map_flatMap]
  rfl

/-- An ASCII character is its only byte. -/
theorem ofChar_of_ascii {c : Char} (h : c.toNat < 128) : ofChar c = [c] := by
  have hc : c.val.toNat = c.toNat := rfl
  have hbyte : (UInt8.ofNat c.toNat).toNat = c.toNat := UInt8.toNat_ofNat_of_lt' (by
    change _ < 256
    omega)
  unfold ofChar ofBytes String.utf8EncodeChar
  simp only [hc]
  rw [if_pos (by omega)]
  change [Char.ofNat (UInt8.ofNat c.toNat).toNat] = [c]
  rw [hbyte, Char.ofNat_toNat]

/-- A character beyond ASCII has bytes, and none is the code of an ASCII character. -/
theorem ofChar_of_not_ascii {c : Char} (h : 128 ≤ c.toNat) :
    ofChar c ≠ [] ∧ ∀ b ∈ ofChar c, 128 ≤ b.toNat := by
  have hc : c.val.toNat = c.toNat := rfl
  have hvalid := Utf8.toNat_valid c
  have hbyte (n : Nat) (h₁ : 128 ≤ n) (h₂ : n < 256) :
      128 ≤ (Char.ofNat (UInt8.ofNat n).toNat).toNat := by
    rw [toNat_charOfByte, UInt8.toNat_ofNat_of_lt' h₂]
    exact h₁
  unfold ofChar ofBytes String.utf8EncodeChar
  simp only [hc]
  generalize c.toNat = v at h hvalid
  rw [if_neg (by omega)]
  split
  · simp only [List.map_cons, List.map_nil, List.forall_mem_cons]
    exact ⟨by simp, hbyte _ (by omega) (by omega), hbyte _ (by omega) (by omega), by simp⟩
  · split
    · simp only [List.map_cons, List.map_nil, List.forall_mem_cons]
      exact ⟨by simp, hbyte _ (by omega) (by omega), hbyte _ (by omega) (by omega),
        hbyte _ (by omega) (by omega), by simp⟩
    · simp only [List.map_cons, List.map_nil, List.forall_mem_cons]
      exact ⟨by simp, hbyte _ (by omega) (by omega), hbyte _ (by omega) (by omega),
        hbyte _ (by omega) (by omega), hbyte _ (by omega) (by omega), by simp⟩

theorem ofText_nil : ofText "" = [] := rfl

theorem ofText_of_ascii {text : String} (h : ∀ c ∈ text.toList, c.toNat < 128) :
    ofText text = text.toList := by
  rw [ofText_eq_flatMap]
  generalize text.toList = cs at h
  induction cs with
  | nil => rfl
  | cons c cs ih =>
      obtain ⟨hc, hcs⟩ := List.forall_mem_cons.mp h
      rw [List.flatMap_cons, ofChar_of_ascii hc, ih hcs]
      rfl

/-- An ASCII character stands among the bytes exactly if it stands in the text. -/
theorem mem_ofText {a : Char} (ha : a.toNat < 128) (text : String) :
    a ∈ ofText text ↔ a ∈ text.toList := by
  rw [ofText_eq_flatMap, List.mem_flatMap]
  constructor
  · rintro ⟨c, hc, hmem⟩
    by_cases h : c.toNat < 128
    · rw [ofChar_of_ascii h, List.mem_singleton] at hmem
      exact hmem ▸ hc
    · have := (ofChar_of_not_ascii (by omega)).2 a hmem
      omega
  · intro hmem
    exact ⟨a, hmem, by rw [ofChar_of_ascii ha]; simp⟩

/-- The first byte is an ASCII character exactly if the first character is. -/
theorem head?_ofText {a : Char} (ha : a.toNat < 128) (text : String) :
    (ofText text).head? = some a ↔ text.toList.head? = some a := by
  rw [ofText_eq_flatMap]
  cases htext : text.toList with
  | nil => simp
  | cons c cs =>
      rw [List.flatMap_cons]
      by_cases h : c.toNat < 128
      · rw [ofChar_of_ascii h]
        simp
      · obtain ⟨hne, hbeyond⟩ := ofChar_of_not_ascii (c := c) (by omega)
        obtain ⟨b, bs, hbytes⟩ := List.exists_cons_of_ne_nil hne
        have hb := hbeyond b (by simp [hbytes])
        have hba : b ≠ a := by rintro rfl; omega
        have hca : c ≠ a := by rintro rfl; omega
        simp [hbytes, hba, hca]

end Raw

/-- A text without quotes stands between quotes as it is. -/
theorem flatMap_quoteChar {cs : List Char} (h : '\'' ∉ cs) : cs.flatMap quoteChar = cs := by
  induction cs with
  | nil => rfl
  | cons c cs ih =>
      have hc : c ≠ '\'' := by rintro rfl; exact h (by simp)
      rw [List.flatMap_cons, ih fun hmem => h (by simp [hmem]), quoteChar, if_neg hc]
      rfl

/-- The bytes of a quoted text are its quoted bytes. -/
theorem ofText_quote (text : String) :
    Raw.ofText (quote text) = quoteChars (Raw.ofText text) := by
  have hchar (c : Char) : (quoteChar c).flatMap Raw.ofChar = (Raw.ofChar c).flatMap quoteChar := by
    by_cases h : c.toNat < 128
    · rw [Raw.ofChar_of_ascii h]
      by_cases hquote : c = '\''
      · subst hquote
        rfl
      · simp [quoteChar, hquote, Raw.ofChar_of_ascii h]
    · have hquote : c ≠ '\'' := by rintro rfl; exact h (by decide)
      have hnone : '\'' ∉ Raw.ofChar c := by
        intro hmem
        exact absurd ((Raw.ofChar_of_not_ascii (by omega)).2 _ hmem) (by decide)
      rw [flatMap_quoteChar hnone]
      simp [quoteChar, hquote]
  rw [Raw.ofText_eq_flatMap, toList_quote, Raw.ofText_eq_flatMap]
  unfold quoteChars
  rw [List.cons_append, List.flatMap_cons, List.flatMap_append, List.flatMap_assoc,
    List.flatMap_assoc]
  simp only [hchar]
  rfl

end Pipeline.Shell
