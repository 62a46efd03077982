import Mathlib.Data.List.Induction
import Pipeline.Proofs.Shell.Spelling
import Pipeline.Script
import Pipeline.Text.UpperCase

/-!
# Text that names a shell variable

The name of a shell variable has letters, digits and underscores only, and no digit in front. The
upper-case form of a text is such a name exactly if the text is, apart from the few letters beyond
ASCII that have an ASCII form in upper case (`isName_upper_iff`). What is made of the name of a step
has no other characters in it, so it is one unless the step begins with a digit
(`isName_stdoutVariable_iff`).
-/

namespace Pipeline.Script
open Text Shell

/-- Whether a decimal digit of ASCII stands in front. -/
def startsWithDigit (cs : List Char) : Bool := cs.head?.any Char.isDigit

/-- The name of a variable has letters, digits and underscores only, and no digit in front. -/
theorem isName_iff {cs : Raw} : isName cs = true ↔
    cs ≠ [] ∧ (∀ c ∈ cs, isNameChar c = true) ∧ startsWithDigit cs = false := by
  cases cs with
  | nil => simp [isName]
  | cons c cs =>
      have hstart : isNameStart c = true ↔ isNameChar c = true ∧ c.isDigit = false := by
        constructor
        · exact fun h => ⟨isNameChar_of_isNameStart h, isDigit_of_isNameStart h⟩
        · rintro ⟨hc, hdigit⟩
          simpa [isNameChar, isNameStart, Char.isAlphanum, hdigit] using hc
      simp [isName, startsWithDigit, hstart, and_assoc, and_comm]

/-! ### Upper-case forms -/

/-- Letters beyond ASCII whose upper-case forms are ASCII. -/
def lettersBeyond : List Char := "ßıſﬀﬁﬂﬃﬄﬅﬆ".toList

/-- The upper-case form of the character may stand in the name of a variable. -/
def HasPlainUpper (c : Char) : Prop := isNameChar c = true ∨ c ∈ lettersBeyond

theorem expansion_plain : ∀ e ∈ upperExpansions,
    ((e.2.map Char.ofNat).all isNameChar) = true → Char.ofNat e.1 ∈ lettersBeyond := by
  decide +kernel

theorem run_plain : ∀ r ∈ upperRuns, r.first + r.up - r.down < 128 →
    r.last = r.first ∧ Char.ofNat r.first ∈ lettersBeyond := by
  decide +kernel

theorem lt_of_isNameChar_ofNat {n : Nat} (h : isNameChar (Char.ofNat n) = true) : n < 128 := by
  by_cases hvalid : n.isValidChar
  · have hback : (Char.ofNat n).toNat = n := by
      rw [Char.ofNat, dif_pos hvalid]
      rfl
    exact hback ▸ toNat_isNameChar h
  · have hzero : Char.ofNat n = '\x00' := dif_neg hvalid
    exact absurd h (by rw [hzero]; decide)

theorem hasPlainUpper_of_upperChar {c : Char} (h : ∀ x ∈ upperChar c, isNameChar x = true) :
    HasPlainUpper c := by
  unfold upperChar at h
  simp only at h
  split at h
  · -- An ASCII character has one of ASCII in upper case, and these can be gone through.
    rename_i hsmall
    have hback : ∀ n < 128, isNameChar (Char.ofNat n).toUpper = true →
        isNameChar (Char.ofNat n) = true := by decide +kernel
    have hc := hback c.toNat hsmall
    rw [Char.ofNat_toNat] at hc
    exact .inl (hc (h _ (by simp)))
  · rename_i hlarge
    right
    split at h
    · -- Beyond ASCII the tables decide.
      rename_i ns hfound
      obtain ⟨before, after, hsplit, -⟩ := List.lookup_eq_some_iff.mp hfound
      have hplain := expansion_plain (c.toNat, ns) (by simp [hsplit]) (List.all_eq_true.mpr h)
      rwa [Char.ofNat_toNat] at hplain
    · split at h
      · rename_i r hfound
        have hrun := List.find?_some hfound
        simp only [Bool.and_eq_true, decide_eq_true_eq] at hrun
        have hlow := lt_of_isNameChar_ofNat (h _ List.mem_cons_self)
        obtain ⟨hone, hplain⟩ := run_plain r (List.mem_of_find?_eq_some hfound) (by omega)
        have hn : r.first = c.toNat := by omega
        rwa [hn, Char.ofNat_toNat] at hplain
      · exact absurd (toNat_isNameChar (h c (by simp))) hlarge

theorem upperChar_of_hasPlainUpper {c : Char} (h : HasPlainUpper c) :
    (∀ x ∈ upperChar c, isNameChar x = true) ∧
      (upperChar c).head?.map Char.isDigit = some c.isDigit := by
  rcases h with h | h
  · have hsmall := toNat_isNameChar h
    have hascii : ∀ n < 128, isNameChar (Char.ofNat n) = true →
        isNameChar (Char.ofNat n).toUpper = true ∧
        (Char.ofNat n).toUpper.isDigit = (Char.ofNat n).isDigit := by decide +kernel
    have hc := hascii c.toNat hsmall
    rw [Char.ofNat_toNat] at hc
    obtain ⟨hname, hdigit⟩ := hc h
    have hone : upperChar c = [c.toUpper] := if_pos hsmall
    simp [hone, hname, hdigit]
  · have hall : (lettersBeyond.all fun c => (upperChar c).all isNameChar &&
        (upperChar c).head?.map Char.isDigit == some c.isDigit) = true := by decide +kernel
    simpa using List.all_eq_true.mp hall c h

theorem upperChars_ne_nil {cs : List Char} (h : ∀ c ∈ cs, HasPlainUpper c) (hne : cs ≠ []) :
    upperChars cs ≠ [] := by
  obtain ⟨c, cs, rfl⟩ := List.exists_cons_of_ne_nil hne
  intro hnil
  obtain ⟨hup, -⟩ := List.append_eq_nil_iff.mp hnil
  have hfirst := (upperChar_of_hasPlainUpper (h c List.mem_cons_self)).2
  simp [hup] at hfirst

theorem startsWithDigit_upperChars {cs : List Char} (h : ∀ c ∈ cs, HasPlainUpper c) :
    startsWithDigit (upperChars cs) = startsWithDigit cs := by
  cases cs with
  | nil => rfl
  | cons c cs =>
      obtain ⟨-, hfirst⟩ := upperChar_of_hasPlainUpper (h c List.mem_cons_self)
      cases hup : upperChar c with
      | nil => simp [hup] at hfirst
      | cons x xs =>
          have hx : x.isDigit = c.isDigit := by simpa [hup] using hfirst
          simp [startsWithDigit, upperChars, hup, hx]

/-- A key whose upper-case form is the name of a shell variable. -/
structure NamesVariable (key : String) : Prop where
  notEmpty : key ≠ ""
  chars : ∀ c ∈ key.toList, HasPlainUpper c
  start : startsWithDigit key.toList = false

theorem isName_upper_iff {key : String} :
    isName (upper key).toList = true ↔ NamesVariable key := by
  rw [toList_upper, isName_iff]
  constructor
  · rintro ⟨hne, hall, hdigit⟩
    have hchars : ∀ c ∈ key.toList, HasPlainUpper c := by
      intro c hc
      exact hasPlainUpper_of_upperChar fun x hx => hall x (List.mem_flatMap.mpr ⟨c, hc, hx⟩)
    rw [startsWithDigit_upperChars hchars] at hdigit
    exact ⟨by rintro rfl; exact hne rfl, hchars, hdigit⟩
  · rintro ⟨hne, hchars, hdigit⟩
    refine ⟨?_, ?_, by rwa [startsWithDigit_upperChars hchars]⟩
    · exact upperChars_ne_nil hchars (by simpa using hne)
    · intro x hx
      obtain ⟨c, hc, hxc⟩ := List.mem_flatMap.mp hx
      exact (upperChar_of_hasPlainUpper (hchars c hc)).1 x hxc

/-! ### Names of steps -/

theorem variableChar_name (c : Char) :
    isNameChar (variableChar c) = true ∧ (variableChar c).isDigit = c.isDigit := by
  by_cases hc : c.toNat < 128
  · have hascii : ∀ n < 128, isNameChar (variableChar (Char.ofNat n)) = true ∧
        (variableChar (Char.ofNat n)).isDigit = (Char.ofNat n).isDigit := by decide +kernel
    have hname := hascii c.toNat hc
    rwa [Char.ofNat_toNat] at hname
  · have hletter : c.isAlphanum = false := Bool.eq_false_iff.mpr fun h =>
      hc (toNat_isNameChar (by simp [isNameChar, h]))
    have hdigit : c.isDigit = false := by
      simp only [Char.isAlphanum, Bool.or_eq_false_iff] at hletter
      exact hletter.2
    simp [variableChar, hletter, hdigit]
    decide

/-- The variable of a step is the name of one unless the step begins with a digit. -/
theorem isName_stdoutVariable_iff {step : String} :
    isName (stdoutVariable step).toList = true ↔ startsWithDigit step.toList = false := by
  have htext : (stdoutVariable step).toList = step.toList.map variableChar ++ "_STDOUT".toList := by
    simp [stdoutVariable]
  have hall : ∀ c ∈ (stdoutVariable step).toList, isNameChar c = true := by
    intro c hc
    rw [htext, List.mem_append, List.mem_map] at hc
    rcases hc with ⟨x, -, rfl⟩ | hc
    · exact (variableChar_name x).1
    · exact List.all_eq_true.mp (by decide : "_STDOUT".toList.all isNameChar = true) c hc
  have hdigit : startsWithDigit (stdoutVariable step).toList = startsWithDigit step.toList := by
    rw [htext]
    cases step.toList with
    | nil => rfl
    | cons c cs => simp [startsWithDigit, (variableChar_name c).2]
  rw [isName_iff, hdigit]
  have hne : (stdoutVariable step).toList ≠ [] := by simp [htext]
  exact ⟨fun h => h.2.2, fun h => ⟨hne, hall, h⟩⟩

end Pipeline.Script
