import Pipeline.Text.Utf8

/-!
# Reading back written text

What `Utf8.encode` writes, `Utf8.decode` reads as the same text (`decode_encode`). One character is
read at a time: its first byte says how many more are owed and in which range the next one must
lie, and every further byte adds six bits.
-/

namespace Pipeline.Utf8

theorem encode_append (a b : String) : encode (a ++ b) = encode a ++ encode b := by
  simp [encode]

theorem step_first {n : Nat} (h : n < 0x100) : step .ready (UInt8.ofNat n) = first n := by
  have hb : (UInt8.ofNat n).toNat = n := UInt8.toNat_ofNat_of_lt' h
  rw [step, hb]

/-- A byte after the first carries six bits. -/
theorem toNat_sixBits (n : Nat) : (UInt8.ofNat (n % 64 + 0x80)).toNat = n % 64 + 0x80 :=
  UInt8.toNat_ofNat_of_lt' (by change _ < 256; omega)

/-- A byte after the first that is not the last of its character. -/
theorem step_owed (owed : Nat) {low high : Nat} (value : Nat) {n : Nat}
    (hl : low ≤ n % 64 + 0x80) (hh : n % 64 + 0x80 ≤ high) :
    step (.inside (owed + 1) low high value) (UInt8.ofNat (n % 64 + 0x80)) =
      ([], .inside owed 0x80 0xBF (value * 64 + n % 64)) := by
  simp only [step, toNat_sixBits, hl, hh, and_self, if_true, Nat.add_sub_cancel]

/-- The last byte of a character. -/
theorem step_last {low high : Nat} (value : Nat) {n : Nat} (hl : low ≤ n % 64 + 0x80)
    (hh : n % 64 + 0x80 ≤ high) :
    step (.inside 0 low high value) (UInt8.ofNat (n % 64 + 0x80)) =
      ([Char.ofNat (value * 64 + n % 64)], .ready) := by
  simp only [step, toNat_sixBits, hl, hh, and_self, if_true, Nat.add_sub_cancel]

theorem first_of_two {h : Nat} (hl : 2 ≤ h) (hh : h < 32) :
    first (h + 0xC0) = ([], .inside 0 0x80 0xBF h) := by
  unfold first
  rw [if_neg (by omega), if_neg (by omega), if_pos (by omega), Nat.add_sub_cancel]

/-- The first of three bytes leaves room for the second, unless the character could be written
shorter or is none. -/
theorem first_of_three {h m : Nat} (hh : h < 16) (hm : m < 64) (hlong : 32 ≤ h * 64 + m)
    (hchar : h * 64 + m < 0x360 ∨ 0x380 ≤ h * 64 + m) :
    ∃ low high, first (h + 0xE0) = ([], .inside 1 low high h) ∧
      low ≤ m + 0x80 ∧ m + 0x80 ≤ high := by
  unfold first
  rw [if_neg (by omega), if_neg (by omega), if_neg (by omega)]
  by_cases h0 : h = 0
  · subst h0
    exact ⟨0xA0, 0xBF, rfl, by omega, by omega⟩
  · rw [if_neg (by omega)]
    by_cases hd : h = 13
    · subst hd
      exact ⟨0x80, 0x9F, rfl, by omega, by omega⟩
    · rw [if_neg (by omega), if_pos (by omega), Nat.add_sub_cancel]
      exact ⟨0x80, 0xBF, rfl, by omega, by omega⟩

theorem first_of_four {h m : Nat} (hm : m < 64) (hlong : 16 ≤ h * 64 + m)
    (hchar : h * 64 + m < 0x110) :
    ∃ low high, first (h + 0xF0) = ([], .inside 2 low high h) ∧
      low ≤ m + 0x80 ∧ m + 0x80 ≤ high := by
  unfold first
  rw [if_neg (by omega), if_neg (by omega), if_neg (by omega), if_neg (by omega),
    if_neg (by omega), if_neg (by omega)]
  by_cases h0 : h = 0
  · subst h0
    exact ⟨0x90, 0xBF, rfl, by omega, by omega⟩
  · rw [if_neg (by omega)]
    by_cases h4 : h = 4
    · subst h4
      exact ⟨0x80, 0x8F, rfl, by omega, by omega⟩
    · rw [if_pos (by omega), Nat.add_sub_cancel]
      exact ⟨0x80, 0xBF, rfl, by omega, by omega⟩

/-- The code point of a character lies outside the surrogates and not above the last one. -/
theorem toNat_valid (c : Char) : c.toNat < 0xD800 ∨ 0xDFFF < c.toNat ∧ c.toNat < 0x110000 :=
  c.valid

/-- Reading goes on behind a character once all of its bytes are read. -/
theorem read_utf8EncodeChar (c : Char) (bs : Bytes) :
    read .ready (String.utf8EncodeChar c ++ bs) = c :: read .ready bs := by
  have hvalid := toNat_valid c
  have hof : Char.ofNat c.toNat = c := Char.ofNat_toNat c
  have hc : c.val.toNat = c.toNat := rfl
  unfold String.utf8EncodeChar
  simp only [hc]
  generalize c.toNat = v at hvalid hof
  split
  · -- one byte
    have hfirst : first v = ([c], .ready) := by
      rw [first, if_pos (by omega), hof]
    simp only [List.cons_append, List.nil_append, read, step_first (show v < 0x100 by omega),
      hfirst]
  · split
    · -- two bytes
      have hhead : v / 64 % 32 = v / 64 := by omega
      have hvalue : v / 64 * 64 + v % 64 = v := by omega
      rw [hhead, List.cons_append, List.cons_append, List.nil_append, read,
        step_first (by omega), first_of_two (by omega) (by omega), read,
        step_last _ (by omega) (by omega), hvalue, hof]
      rfl
    · split
      · -- three bytes
        have hhead : v / 4096 % 16 = v / 4096 := by omega
        have hvalue : (v / 4096 * 64 + v / 64 % 64) * 64 + v % 64 = v := by omega
        obtain ⟨low, high, hfirst, hl, hh⟩ :=
          first_of_three (h := v / 4096) (m := v / 64 % 64) (by omega) (by omega) (by omega)
            (by omega)
        rw [hhead, List.cons_append, List.cons_append, List.cons_append, List.nil_append, read,
          step_first (by omega), hfirst, read, step_owed _ _ hl hh, read,
          step_last _ (by omega) (by omega), hvalue, hof]
        rfl
      · -- four bytes
        have hhead : v / 262144 % 8 = v / 262144 := by omega
        have hvalue :
            ((v / 262144 * 64 + v / 4096 % 64) * 64 + v / 64 % 64) * 64 + v % 64 = v := by omega
        obtain ⟨low, high, hfirst, hl, hh⟩ :=
          first_of_four (h := v / 262144) (m := v / 4096 % 64) (by omega) (by omega) (by omega)
        rw [hhead, List.cons_append, List.cons_append, List.cons_append, List.cons_append,
          List.nil_append, read, step_first (by omega), hfirst, read, step_owed _ _ hl hh, read,
          step_owed _ _ (by omega) (by omega), read, step_last _ (by omega) (by omega), hvalue,
          hof]
        rfl

/-- A text reads back as it was written. -/
theorem decode_encode (text : String) : decode (encode text) = text := by
  apply String.toList_inj.mp
  rw [toList_decode, encode]
  induction text.toList with
  | nil => rfl
  | cons c cs ih => rw [List.flatMap_cons, read_utf8EncodeChar, ih]

end Pipeline.Utf8
