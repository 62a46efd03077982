import Mathlib.Data.List.Induction
import Pipeline.Harness.Basic

/-!
# Stubs at fault

The check of the stubs goes through them once and keeps a table of the paths it has seen, one for
each base name. Up to the first fault all stubs of one base name have one path, so the table has the
path of every earlier stub (`Seen`), and the check stops at the first stub whose path is empty or
differs from an earlier one for its base name (`firstFault_eq_some`). Stubs without a fault are
`Sound`, in whatever order.
-/

namespace Pipeline.Harness

/-- Every stub can have a wrapper: no path is empty, and one base name stands for one path. -/
structure Sound (stubs : List Stub) : Prop where
  named : ∀ s ∈ stubs, s.path ≠ ""
  shared : ∀ s ∈ stubs, ∀ t ∈ stubs, t.binary = s.binary → t.path = s.path

/-- The first of the stubs that cannot have a wrapper beside those before it, as an error. -/
inductive FirstFault (stubs : List Stub) : HarnessError → Prop
  | empty {before after : List Stub} {s : Stub} : stubs = before ++ s :: after → Sound before →
      s.path = "" → FirstFault stubs (.emptyStubPath before.length s.command.display)
  | conflict {before after : List Stub} {s t : Stub} : stubs = before ++ s :: after →
      Sound before → s.path ≠ "" → t ∈ before → t.binary = s.binary → t.path ≠ s.path →
      FirstFault stubs (.conflictingStubs s.binary t.path s.path)

variable {stubs done todo : List Stub} {s : Stub} {seen : Dict String} {e : HarnessError}

theorem sound_nil : Sound [] := by constructor <;> simp

theorem Sound.perm {stubs' : List Stub} (h : Sound stubs) (hperm : stubs'.Perm stubs) :
    Sound stubs' where
  named s hs := h.named s (hperm.mem_iff.mp hs)
  shared s hs t ht := h.shared s (hperm.mem_iff.mp hs) t (hperm.mem_iff.mp ht)

theorem Sound.front (h : Sound (done ++ todo)) : Sound done where
  named s hs := h.named s (List.mem_append_left todo hs)
  shared s hs t ht := h.shared s (List.mem_append_left todo hs) t (List.mem_append_left todo ht)

theorem sound_concat : Sound (done ++ [s]) ↔
    Sound done ∧ s.path ≠ "" ∧ ∀ t ∈ done, t.binary = s.binary → t.path = s.path := by
  constructor
  · intro h
    have hlast : s ∈ done ++ [s] := by simp
    exact ⟨h.front, h.named s hlast, fun t ht => h.shared s hlast t (List.mem_append_left [s] ht)⟩
  · rintro ⟨hdone, hpath, hsame⟩
    constructor
    · intro t ht
      rcases List.mem_append.mp ht with ht | ht
      · exact hdone.named t ht
      · rwa [List.mem_singleton.mp ht]
    · intro t ht u hu hname
      rcases List.mem_append.mp ht with ht | ht <;> rcases List.mem_append.mp hu with hu | hu
      · exact hdone.shared t ht u hu hname
      · rw [List.mem_singleton.mp hu] at hname ⊢
        exact (hsame t ht hname.symm).symm
      · rw [List.mem_singleton.mp ht] at hname ⊢
        exact hsame u hu hname
      · rw [List.mem_singleton.mp ht, List.mem_singleton.mp hu]

/-- Stubs are sound, or one of them is the first at fault. -/
theorem sound_or_firstFault (stubs : List Stub) : Sound stubs ∨ ∃ e, FirstFault stubs e := by
  induction stubs using List.reverseRecOn with
  | nil => exact .inl sound_nil
  | append_singleton done s ih =>
      rcases ih with hdone | ⟨e, hfault⟩
      · by_cases hpath : s.path = ""
        · exact .inr ⟨_, .empty rfl hdone hpath⟩
        · by_cases hsame : ∀ t ∈ done, t.binary = s.binary → t.path = s.path
          · exact .inl (sound_concat.mpr ⟨hdone, hpath, hsame⟩)
          · push Not at hsame
            obtain ⟨t, ht, hname, hother⟩ := hsame
            exact .inr ⟨_, .conflict rfl hdone hpath ht hname hother⟩
      · -- what is first at fault stays so when a stub is added behind it
        refine .inr ⟨e, ?_⟩
        cases hfault with
        | @empty before after x hsplit hbefore hpath =>
            have hsplit' : done ++ [s] = before ++ x :: (after ++ [s]) := by simp [hsplit]
            exact .empty hsplit' hbefore hpath
        | @conflict before after x t hsplit hbefore hpath ht hname hother =>
            have hsplit' : done ++ [s] = before ++ x :: (after ++ [s]) := by simp [hsplit]
            exact .conflict hsplit' hbefore hpath ht hname hother

/-- The table has the paths of the stubs that were gone through, and these are sound. -/
structure Seen (done : List Stub) (seen : Dict String) : Prop where
  sound : Sound done
  paths : ∀ name path, seen.get? name = some path ↔ ∃ s ∈ done, s.binary = name ∧ s.path = path

theorem seen_nil : Seen [] .empty := ⟨sound_nil, by simp⟩

theorem Seen.get? (h : Seen done seen) {t : Stub} (ht : t ∈ done) :
    seen.get? t.binary = some t.path := (h.paths _ _).mpr ⟨t, ht, rfl, rfl⟩

theorem exists_mem_concat {name path : String} :
    (∃ t ∈ done ++ [s], t.binary = name ∧ t.path = path) ↔
      (∃ t ∈ done, t.binary = name ∧ t.path = path) ∨ s.binary = name ∧ s.path = path := by
  simp only [List.mem_append, List.mem_singleton, or_and_right, exists_or, exists_eq_left]

/-- A sound stub is passed, and then the table has its path too. -/
theorem Seen.next (h : Seen done seen) (hsound : Sound (done ++ [s])) (todo : List Stub) :
    ∃ seen', Seen (done ++ [s]) seen' ∧
      firstFault done.length seen (s :: todo) = firstFault (done ++ [s]).length seen' todo := by
  obtain ⟨-, hpath, hsame⟩ := sound_concat.mp hsound
  rw [firstFault, if_neg hpath, List.length_append, List.length_singleton]
  cases hold : seen.get? s.binary with
  | some path =>
      obtain ⟨t, ht, hname, rfl⟩ := (h.paths _ _).mp hold
      have htable : seen.get? s.binary = some s.path := by rw [hold, hsame t ht hname]
      refine ⟨seen, ⟨hsound, fun name path => ?_⟩, by simp only [if_pos (hsame t ht hname)]⟩
      rw [exists_mem_concat, ← h.paths]
      refine ⟨.inl, ?_⟩
      rintro (hseen | ⟨rfl, rfl⟩)
      · exact hseen
      · exact htable
  | none =>
      refine ⟨seen.insert s.binary s.path, ⟨hsound, fun name path => ?_⟩, rfl⟩
      rw [exists_mem_concat, ← h.paths, Dict.get?_insert]
      by_cases hname : name = s.binary
      · subst hname
        simp [hold]
      · simp [hname, Ne.symm hname]

theorem Seen.past {passed : List Stub} (h : Seen done seen) (hsound : Sound (done ++ passed))
    (todo : List Stub) : ∃ seen', Seen (done ++ passed) seen' ∧
      firstFault done.length seen (passed ++ todo) =
        firstFault (done ++ passed).length seen' todo := by
  induction passed generalizing done seen with
  | nil => exact ⟨seen, by simpa using h, by simp⟩
  | cons s passed ih =>
      have hsplit : done ++ s :: passed = (done ++ [s]) ++ passed := by simp
      rw [hsplit] at hsound ⊢
      obtain ⟨seen₁, hseen₁, hstep⟩ := h.next hsound.front (passed ++ todo)
      obtain ⟨seen₂, hseen₂, hrest⟩ := ih hseen₁ hsound
      exact ⟨seen₂, hseen₂, hstep.trans hrest⟩

theorem firstFault_of_sound (h : Sound stubs) : firstFault 0 .empty stubs = none := by
  obtain ⟨seen, -, hpast⟩ := seen_nil.past h []
  rw [List.append_nil] at hpast
  exact hpast

theorem FirstFault.found (h : FirstFault stubs e) : firstFault 0 .empty stubs = some e := by
  cases h with
  | @empty before after s hsplit hbefore hpath =>
      obtain ⟨seen, -, hpast⟩ := seen_nil.past hbefore (s :: after)
      rw [hsplit]
      refine hpast.trans ?_
      rw [firstFault, if_pos hpath]
      rfl
  | @conflict before after s t hsplit hbefore hpath ht hname hother =>
      obtain ⟨seen, hseen, hpast⟩ := seen_nil.past hbefore (s :: after)
      have hold : seen.get? s.binary = some t.path := hname ▸ hseen.get? ht
      rw [hsplit]
      refine hpast.trans ?_
      rw [firstFault, if_neg hpath]
      simp only [hold, if_neg hother]

/-- The check finds the first stub at fault. -/
theorem firstFault_eq_some : firstFault 0 .empty stubs = some e ↔ FirstFault stubs e := by
  refine ⟨fun h => ?_, FirstFault.found⟩
  rcases sound_or_firstFault stubs with hsound | ⟨e', hfault⟩
  · rw [firstFault_of_sound hsound] at h
    cases h
  · rw [hfault.found] at h
    cases h
    exact hfault

theorem firstFault_eq_none : firstFault 0 .empty stubs = none ↔ Sound stubs := by
  refine ⟨fun h => ?_, firstFault_of_sound⟩
  rcases sound_or_firstFault stubs with hsound | ⟨e, hfault⟩
  · exact hsound
  · rw [hfault.found] at h
    cases h

end Pipeline.Harness
