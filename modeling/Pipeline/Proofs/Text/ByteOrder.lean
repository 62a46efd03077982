import Pipeline.Proofs.Text.Utf8

/-!
# The order of texts and of their bytes

Texts are ordered by the first characters that differ, and bytes by the first that differ. The two
orders are one for texts and the bytes that they are written as (`Utf8.encode_lt_encode_iff`). A
character that takes more bytes has a greater first byte, and of two that take equally many the
greater has a greater byte where they differ first (`CodeUnits.lt`).
-/

namespace Pipeline.Utf8

/-- The numbers that a code point is written as, one for each byte. -/
inductive CodeUnits : Nat → List Nat → Prop where
  | one {v : Nat} : v < 0x80 → CodeUnits v [v]
  | two {v : Nat} : 0x80 ≤ v → v < 0x800 → CodeUnits v [v / 64 + 0xC0, v % 64 + 0x80]
  | three {v : Nat} : 0x800 ≤ v → v < 0x10000 →
      CodeUnits v [v / 4096 + 0xE0, v / 64 % 64 + 0x80, v % 64 + 0x80]
  | four {v : Nat} : 0x10000 ≤ v → v < 0x110000 →
      CodeUnits v [v / 262144 + 0xF0, v / 4096 % 64 + 0x80, v / 64 % 64 + 0x80, v % 64 + 0x80]

/-- Bytes of numbers. -/
def ofUnits (units : List Nat) : Bytes := units.map UInt8.ofNat

theorem codeUnits_utf8EncodeChar (c : Char) :
    ∃ units, CodeUnits c.toNat units ∧ String.utf8EncodeChar c = ofUnits units := by
  have hvalid := toNat_valid c
  have hc : c.val.toNat = c.toNat := rfl
  unfold String.utf8EncodeChar
  simp only [hc]
  generalize c.toNat = v at hvalid
  split
  · exact ⟨_, .one (by omega), rfl⟩
  · split
    · have hhead : v / 64 % 32 = v / 64 := by omega
      rw [hhead]
      exact ⟨_, .two (by omega) (by omega), rfl⟩
    · split
      · have hhead : v / 4096 % 16 = v / 4096 := by omega
        rw [hhead]
        exact ⟨_, .three (by omega) (by omega), rfl⟩
      · have hhead : v / 262144 % 8 = v / 262144 := by omega
        rw [hhead]
        exact ⟨_, .four (by omega) (by omega), rfl⟩

theorem CodeUnits.ne_nil {v : Nat} {units : List Nat} (h : CodeUnits v units) : units ≠ [] := by
  cases h <;> simp

/-- A byte decides what is before what, unless the other side has the same. -/
theorem ofUnits_cons_lt_iff {m n : Nat} (hm : m < 0x100) (hn : n < 0x100) {ms ns : List Nat}
    {xs ys : Bytes} : ofUnits (m :: ms) ++ xs < ofUnits (n :: ns) ++ ys ↔
      m < n ∨ m = n ∧ ofUnits ms ++ xs < ofUnits ns ++ ys := by
  have hbyte {k : Nat} (hk : k < 0x100) : (UInt8.ofNat k).toNat = k :=
    UInt8.toNat_ofNat_of_lt' hk
  unfold ofUnits
  rw [List.map_cons, List.map_cons, List.cons_append, List.cons_append, List.cons_lt_cons_iff,
    UInt8.lt_iff_toNat_lt, ← UInt8.toNat_inj, hbyte hm, hbyte hn]

/-- The bytes of a smaller code point are before those of a greater one, whatever is behind
them. -/
theorem CodeUnits.lt {v w : Nat} {ms ns : List Nat} (hv : CodeUnits v ms) (hw : CodeUnits w ns)
    (h : v < w) (xs ys : Bytes) : ofUnits ms ++ xs < ofUnits ns ++ ys := by
  -- the cases are by the lengths; the longer never has the smaller code point
  cases hv <;> cases hw <;> simp (disch := omega) only [ofUnits_cons_lt_iff] <;> omega

theorem utf8EncodeChar_lt {c d : Char} (h : c < d) (xs ys : Bytes) :
    String.utf8EncodeChar c ++ xs < String.utf8EncodeChar d ++ ys := by
  obtain ⟨ms, hms, hc⟩ := codeUnits_utf8EncodeChar c
  obtain ⟨ns, hns, hd⟩ := codeUnits_utf8EncodeChar d
  rw [hc, hd]
  exact hms.lt hns h xs ys

theorem utf8EncodeChar_ne_nil (c : Char) : String.utf8EncodeChar c ≠ [] := by
  obtain ⟨units, hunits, hc⟩ := codeUnits_utf8EncodeChar c
  simpa [hc, ofUnits] using hunits.ne_nil

theorem flatMap_utf8EncodeChar_lt {cs ds : List Char} (h : cs < ds) :
    cs.flatMap String.utf8EncodeChar < ds.flatMap String.utf8EncodeChar := by
  induction cs generalizing ds with
  | nil =>
      cases ds with
      | nil => exact absurd h (List.lt_irrefl [])
      | cons d ds =>
          obtain ⟨b, bs, hd⟩ := List.exists_cons_of_ne_nil (utf8EncodeChar_ne_nil d)
          rw [List.flatMap_nil, List.flatMap_cons, hd]
          exact List.nil_lt_cons _ _
  | cons c cs ih =>
      cases ds with
      | nil => exact absurd h (List.not_lt_nil _)
      | cons d ds =>
          rw [List.flatMap_cons, List.flatMap_cons]
          rcases List.cons_lt_cons_iff.mp h with hcd | ⟨rfl, hrest⟩
          · exact utf8EncodeChar_lt hcd _ _
          · exact List.append_left_lt (ih hrest)

/-- Texts are ordered as their bytes are. -/
theorem encode_lt_encode_iff {a b : String} : encode a < encode b ↔ a < b := by
  have hlt {a b : String} (h : a < b) : encode a < encode b := flatMap_utf8EncodeChar_lt h
  constructor
  · intro h
    apply Decidable.byContradiction
    intro hnot
    have hle : b ≤ a := String.not_lt.mp hnot
    by_cases heq : a = b
    · subst heq
      exact List.lt_irrefl _ h
    · have hba : b < a := String.not_le.mp fun hab => heq (String.le_antisymm hab hle)
      exact List.lt_asymm h (hlt hba)
  · exact hlt

end Pipeline.Utf8
