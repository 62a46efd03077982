import Pipeline.Text.Regex

/-!
# What an expression takes

Which words an expression takes is said without going through them (`Takes`): it depends on the
character before the word and on the text behind it, since the start and the end of a line do. The
matcher comes upon exactly these words (`mem_places`), and the search goes past the places where
there is none (`findFrom_append`) and stops at the first place where there is one
(`findFrom_of_places`).
-/

namespace Pipeline.Text

theorem lastOf_append (last : Option Char) (a b : List Char) :
    lastOf last (a ++ b) = lastOf (lastOf last a) b := by
  unfold lastOf
  rw [List.getLast?_append, Option.or_assoc]

theorem lastOf_nil (last : Option Char) : lastOf last [] = last := rfl

theorem lastOf_cons (last : Option Char) (c : Char) (cs : List Char) :
    lastOf last (c :: cs) = lastOf (some c) cs := lastOf_append last [c] cs

theorem Capture.text_mk (number : Nat) (word rest : List Char) :
    Capture.text ⟨number, word ++ rest, rest⟩ = word := by
  simp [Capture.text]

namespace Regex

/-- The expression takes the word, which stands behind `last` and before `rest`, and its groups take
what the captures say. -/
def Takes : Regex → Option Char → List Char → List Char → List Capture → Prop
  | .text cs, _, word, _, captures => word = cs ∧ captures = []
  | .one accepts, _, word, _, captures => ∃ c, word = [c] ∧ accepts c = true ∧ captures = []
  | .many accepts, _, word, _, captures => (∀ c ∈ word, accepts c = true) ∧ captures = []
  | .lineStart, last, word, _, captures =>
    word = [] ∧ (last = none ∨ last = some '\n') ∧ captures = []
  | .lineEnd, _, word, rest, captures =>
    word = [] ∧ (rest.head? = none ∨ rest.head? = some '\n') ∧ captures = []
  | .seq a b, last, word, rest, captures => ∃ front back first second,
    word = front ++ back ∧ captures = second ++ first ∧
      a.Takes last front (back ++ rest) first ∧ b.Takes (lastOf last front) back rest second
  | .either a b, last, word, rest, captures =>
    a.Takes last word rest captures ∨ b.Takes last word rest captures
  | .group number a, last, word, rest, captures => ∃ inner,
    a.Takes last word rest inner ∧ captures = ⟨number, word ++ rest, rest⟩ :: inner

/-- The place behind a word, and what was taken on the way to it. -/
def Leads (r : Regex) (s s' : Spot) : Prop :=
  ∃ word captures, s.rest = word ++ s'.rest ∧ r.Takes s.last word s'.rest captures ∧
    s'.last = lastOf s.last word ∧ s'.captures = captures ++ s.captures

theorem mem_placesThrough {accepts : Char → Bool} {captures : List Capture} {found : List Spot}
    {last : Option Char} {cs : List Char} {s : Spot} :
    s ∈ placesThrough accepts captures found last cs ↔ s ∈ found ∨ ∃ word,
      cs = word ++ s.rest ∧ (∀ c ∈ word, accepts c = true) ∧ s.last = lastOf last word ∧
        s.captures = captures := by
  induction cs generalizing found last with
  | nil =>
      obtain ⟨last', rest, taken⟩ := s
      simp only [placesThrough, List.mem_cons, Spot.mk.injEq]
      constructor
      · rintro (⟨rfl, rfl, rfl⟩ | hfound)
        · exact .inr ⟨[], by simp [lastOf_nil]⟩
        · exact .inl hfound
      · rintro (hfound | ⟨word, hword, -, hlast, hcaptures⟩)
        · exact .inr hfound
        · obtain ⟨rfl, rfl⟩ := List.append_eq_nil_iff.mp hword.symm
          exact .inl ⟨hlast, rfl, hcaptures⟩
  | cons c cs ih =>
      have hhere : s = ⟨last, c :: cs, captures⟩ ↔
          c :: cs = [] ++ s.rest ∧ s.last = lastOf last [] ∧ s.captures = captures := by
        obtain ⟨last', rest, taken⟩ := s
        simp only [Spot.mk.injEq, List.nil_append, lastOf_nil]
        constructor
        · rintro ⟨rfl, rfl, rfl⟩
          exact ⟨rfl, rfl, rfl⟩
        · rintro ⟨rfl, rfl, rfl⟩
          exact ⟨rfl, rfl, rfl⟩
      unfold placesThrough
      simp only
      split
      · rename_i haccepts
        rw [ih, List.mem_cons, hhere]
        constructor
        · rintro ((⟨hrest, hlast, hcaptures⟩ | hfound) | ⟨word, rfl, hall, hlast, hcaptures⟩)
          · exact .inr ⟨[], hrest, by simp, hlast, hcaptures⟩
          · exact .inl hfound
          · refine .inr ⟨c :: word, rfl, ?_, ?_, hcaptures⟩
            · exact List.forall_mem_cons.mpr ⟨haccepts, hall⟩
            · rw [lastOf_cons, hlast]
        · rintro (hfound | ⟨word, hrest, hall, hlast, hcaptures⟩)
          · exact .inl (.inr hfound)
          · cases word with
            | nil => exact .inl (.inl ⟨hrest, hlast, hcaptures⟩)
            | cons x word =>
                rw [List.cons_append] at hrest
                cases hrest
                rw [lastOf_cons] at hlast
                exact .inr ⟨word, rfl, fun d hd => hall d (by simp [hd]), hlast, hcaptures⟩
      · rename_i hrefuses
        rw [List.mem_cons, hhere, or_comm]
        refine or_congr_right ?_
        constructor
        · rintro ⟨hrest, hlast, hcaptures⟩
          exact ⟨[], hrest, by simp, hlast, hcaptures⟩
        · rintro ⟨word, hrest, hall, hlast, hcaptures⟩
          cases word with
          | nil => exact ⟨hrest, hlast, hcaptures⟩
          | cons x word =>
              rw [List.cons_append] at hrest
              cases hrest
              exact absurd (hall c (by simp)) hrefuses

theorem startsLine_iff {s : Spot} : s.startsLine = true ↔ s.last = none ∨ s.last = some '\n' := by
  simp [Spot.startsLine]

theorem endsLine_iff {s : Spot} :
    s.endsLine = true ↔ s.rest.head? = none ∨ s.rest.head? = some '\n' := by
  simp [Spot.endsLine]

/-- An expression that takes nothing leads nowhere else. -/
theorem leads_of_nothing {r : Regex} {s s' : Spot} {P : Prop}
    (h : ∀ word captures, r.Takes s.last word s'.rest captures ↔ word = [] ∧ P ∧ captures = []) :
    r.Leads s s' ↔ P ∧ s' = s := by
  obtain ⟨last, rest, captures⟩ := s
  obtain ⟨last', rest', captures'⟩ := s'
  simp only [Leads, h, Spot.mk.injEq]
  constructor
  · rintro ⟨_, _, rfl, ⟨rfl, hP, rfl⟩, rfl, rfl⟩
    exact ⟨hP, rfl, rfl, rfl⟩
  · rintro ⟨hP, rfl, rfl, rfl⟩
    exact ⟨[], [], rfl, ⟨rfl, hP, rfl⟩, rfl, rfl⟩

/-- An expression that takes one word leads behind it. -/
theorem leads_of_word {r : Regex} {s s' : Spot} {front : List Char}
    (h : ∀ word captures, r.Takes s.last word s'.rest captures ↔ word = front ∧ captures = []) :
    r.Leads s s' ↔ front <+: s.rest ∧ s' = s.past front := by
  obtain ⟨last, rest, captures⟩ := s
  obtain ⟨last', rest', captures'⟩ := s'
  simp only [Leads, h, Spot.past, Spot.mk.injEq]
  constructor
  · rintro ⟨_, _, rfl, ⟨rfl, rfl⟩, rfl, rfl⟩
    exact ⟨List.prefix_append .., rfl, by simp, rfl⟩
  · rintro ⟨⟨rest, rfl⟩, rfl, rfl, rfl⟩
    exact ⟨front, [], by simp, ⟨rfl, rfl⟩, rfl, rfl⟩

theorem leads_one {accepts : Char → Bool} {s s' : Spot} : (one accepts).Leads s s' ↔
    ∃ c, accepts c = true ∧ [c] <+: s.rest ∧ s' = s.past [c] := by
  obtain ⟨last, rest, captures⟩ := s
  obtain ⟨last', rest', captures'⟩ := s'
  simp only [Leads, Takes, Spot.past, Spot.mk.injEq]
  constructor
  · rintro ⟨_, _, rfl, ⟨c, rfl, haccepts, rfl⟩, rfl, rfl⟩
    exact ⟨c, haccepts, List.prefix_append .., rfl, by simp, rfl⟩
  · rintro ⟨c, haccepts, ⟨rest, rfl⟩, rfl, rfl, rfl⟩
    exact ⟨[c], [], by simp, ⟨c, rfl, haccepts, rfl⟩, rfl, rfl⟩

theorem leads_seq {a b : Regex} {s s' : Spot} :
    (seq a b).Leads s s' ↔ ∃ mid, a.Leads s mid ∧ b.Leads mid s' := by
  simp only [Leads, Takes]
  constructor
  · rintro ⟨_, _, hrest, ⟨front, back, first, second, rfl, rfl, ha, hb⟩, hlast, hcaptures⟩
    refine ⟨⟨lastOf s.last front, back ++ s'.rest, first ++ s.captures⟩,
      ⟨front, first, ?_, ha, rfl, rfl⟩, back, second, rfl, hb, ?_, ?_⟩
    · rw [hrest, List.append_assoc]
    · rw [hlast, lastOf_append]
    · rw [hcaptures, List.append_assoc]
  · rintro ⟨mid, ⟨front, first, hfront, ha, hmid, hfirst⟩, back, second, hback, hb, hlast, hsecond⟩
    refine ⟨front ++ back, second ++ first, ?_, ⟨front, back, first, second, rfl, rfl, ?_, ?_⟩,
      ?_, ?_⟩
    · rw [hfront, hback, List.append_assoc]
    · rwa [← hback]
    · rwa [← hmid]
    · rw [hlast, hmid, lastOf_append]
    · rw [hsecond, hfirst, List.append_assoc]

theorem leads_either {a b : Regex} {s s' : Spot} :
    (either a b).Leads s s' ↔ a.Leads s s' ∨ b.Leads s s' := by
  simp only [Leads, Takes]
  constructor
  · rintro ⟨word, captures, hrest, ha | hb, hends⟩
    · exact .inl ⟨word, captures, hrest, ha, hends⟩
    · exact .inr ⟨word, captures, hrest, hb, hends⟩
  · rintro (⟨word, captures, hrest, ha, hends⟩ | ⟨word, captures, hrest, hb, hends⟩)
    · exact ⟨word, captures, hrest, .inl ha, hends⟩
    · exact ⟨word, captures, hrest, .inr hb, hends⟩

theorem leads_group {number : Nat} {a : Regex} {s s' : Spot} :
    (group number a).Leads s s' ↔ ∃ mid, a.Leads s mid ∧ mid.capture number s = s' := by
  simp only [Leads, Takes]
  constructor
  · rintro ⟨word, _, hrest, ⟨inner, ha, rfl⟩, hlast, hcaptures⟩
    refine ⟨⟨s'.last, s'.rest, inner ++ s.captures⟩, ⟨word, inner, hrest, ha, hlast, rfl⟩, ?_⟩
    rw [Spot.capture, hrest, ← List.cons_append, ← hcaptures]
  · rintro ⟨mid, ⟨word, inner, hrest, ha, hlast, hcaptures⟩, rfl⟩
    refine ⟨word, _, hrest, ⟨inner, ha, rfl⟩, hlast, ?_⟩
    simp [Spot.capture, hcaptures, hrest]

/-- A matcher comes upon exactly the places that the words of the expression lead to. -/
theorem mem_places {r : Regex} {s s' : Spot} : s' ∈ r.places s ↔ r.Leads s s' := by
  -- Each constructor by its own lemma on `Leads`; only repetition goes on over the text.
  induction r generalizing s s' with
  | text cs =>
      rw [leads_of_word fun _ _ => Iff.rfl, places, List.mem_ite_nil_right,
        List.isPrefixOf_iff_prefix, List.mem_singleton]
  | one accepts =>
      rw [leads_one, places]
      cases hrest : s.rest with
      | nil => simp
      | cons c cs =>
          simp only [List.mem_ite_nil_right, List.mem_singleton, List.cons_prefix_cons,
            List.nil_prefix, and_true]
          constructor
          · rintro ⟨haccepts, hs⟩
            exact ⟨c, haccepts, rfl, hs⟩
          · rintro ⟨_, haccepts, rfl, hs⟩
            exact ⟨haccepts, hs⟩
  | many accepts =>
      simp only [places, mem_placesThrough, Leads, Takes]
      constructor
      · rintro (hfound | ⟨word, hrest, hall, hlast, hcaptures⟩)
        · cases hfound
        · exact ⟨word, [], hrest, ⟨hall, rfl⟩, hlast, hcaptures⟩
      · rintro ⟨word, _, hrest, ⟨hall, rfl⟩, hlast, hcaptures⟩
        exact .inr ⟨word, hrest, hall, hlast, hcaptures⟩
  | lineStart =>
      rw [leads_of_nothing fun _ _ => Iff.rfl, places, List.mem_ite_nil_right, startsLine_iff,
        List.mem_singleton]
  | lineEnd =>
      rw [places, List.mem_ite_nil_right, endsLine_iff, List.mem_singleton,
        leads_of_nothing fun _ _ => Iff.rfl]
      refine and_congr_left ?_
      rintro rfl
      rfl
  | seq a b iha ihb => simp only [places, List.mem_flatMap, leads_seq, iha, ihb]
  | either a b iha ihb => simp only [places, List.mem_append, leads_either, iha, ihb]
  | group number a ih => simp only [places, List.mem_map, leads_group, ih]

theorem takes_optional {a : Regex} {last : Option Char} {word rest : List Char}
    {captures : List Capture} : (optional a).Takes last word rest captures ↔
      a.Takes last word rest captures ∨ word = [] ∧ captures = [] := Iff.rfl

theorem takes_atLeastOne {accepts : Char → Bool} {last : Option Char} {word rest : List Char}
    {captures : List Capture} : (atLeastOne accepts).Takes last word rest captures ↔
      word ≠ [] ∧ (∀ c ∈ word, accepts c = true) ∧ captures = [] := by
  simp only [atLeastOne, Takes]
  constructor
  · rintro ⟨_, back, _, _, rfl, rfl, ⟨c, rfl, hc, rfl⟩, hback, rfl⟩
    exact ⟨by simp, List.forall_mem_cons.mpr ⟨hc, hback⟩, rfl⟩
  · rintro ⟨hne, hall, rfl⟩
    obtain ⟨c, back, rfl⟩ := List.exists_cons_of_ne_nil hne
    obtain ⟨hc, hback⟩ := List.forall_mem_cons.mp hall
    exact ⟨[c], back, [], [], rfl, rfl, ⟨c, rfl, hc, rfl⟩, hback, rfl⟩

/-- Whether an expression has no groups. -/
def isQuiet : Regex → Bool
  | .seq a b => a.isQuiet && b.isQuiet
  | .either a b => a.isQuiet && b.isQuiet
  | .group _ _ => false
  | _ => true

theorem captures_of_isQuiet {r : Regex} (hquiet : r.isQuiet = true) {last : Option Char}
    {word rest : List Char} {captures : List Capture} (h : r.Takes last word rest captures) :
    captures = [] := by
  induction r generalizing last word rest captures with
  | text cs => exact h.2
  | one accepts =>
      obtain ⟨_, -, -, hnone⟩ := h
      exact hnone
  | many accepts => exact h.2
  | lineStart => exact h.2.2
  | lineEnd => exact h.2.2
  | seq a b iha ihb =>
      obtain ⟨ha, hb⟩ := Bool.and_eq_true_iff.mp hquiet
      obtain ⟨_, _, _, _, -, rfl, hfirst, hsecond⟩ := h
      rw [iha ha hfirst, ihb hb hsecond]
      rfl
  | either a b iha ihb =>
      obtain ⟨ha, hb⟩ := Bool.and_eq_true_iff.mp hquiet
      exact h.elim (iha ha) (ihb hb)
  | group number a => cases hquiet

section
variable {as : List Regex} {last : Option Char} {word rest : List Char} {captures : List Capture}

theorem takes_inTurn_nil :
    (inTurn []).Takes last word rest captures ↔ word = [] ∧ captures = [] := Iff.rfl

/-- What is taken in turn begins with what the first expression takes. -/
theorem takes_inTurn_cons {a : Regex} (hquiet : a.isQuiet = true) :
    (inTurn (a :: as)).Takes last word rest captures ↔ ∃ front back, word = front ++ back ∧
      a.Takes last front (back ++ rest) [] ∧
      (inTurn as).Takes (lastOf last front) back rest captures := by
  simp only [inTurn, Takes]
  constructor
  · rintro ⟨front, back, _, second, rfl, rfl, ha, has⟩
    cases captures_of_isQuiet hquiet ha
    rw [List.append_nil]
    exact ⟨front, back, rfl, ha, has⟩
  · rintro ⟨front, back, rfl, ha, has⟩
    exact ⟨front, back, [], captures, rfl, (List.append_nil _).symm, ha, has⟩

/-- The only group in turn takes a part of the whole. -/
theorem takes_inTurn_group {number : Nat} {a : Regex} (hquiet : a.isQuiet = true)
    (hothers : (inTurn as).isQuiet = true) :
    (inTurn (.group number a :: as)).Takes last word rest captures ↔ ∃ front back,
      word = front ++ back ∧ a.Takes last front (back ++ rest) [] ∧
      (inTurn as).Takes (lastOf last front) back rest [] ∧
      captures = [⟨number, front ++ (back ++ rest), back ++ rest⟩] := by
  simp only [inTurn, Takes]
  constructor
  · rintro ⟨front, back, _, _, rfl, rfl, ⟨_, ha, rfl⟩, has⟩
    cases captures_of_isQuiet hquiet ha
    cases captures_of_isQuiet hothers has
    exact ⟨front, back, rfl, ha, has, rfl⟩
  · rintro ⟨front, back, rfl, ha, has, rfl⟩
    exact ⟨front, back, _, [], rfl, rfl, ⟨[], ha, rfl⟩, has⟩

end

/-! ### Searching -/

/-- The search goes past a text at no place of which there is a match. -/
theorem findFrom_append {r : Regex} {last : Option Char} {cs rest : List Char}
    (h : ∀ front back, cs = front ++ back → back ≠ [] →
      r.places ⟨lastOf last front, back ++ rest, []⟩ = []) :
    r.findFrom last (cs ++ rest) = r.findFrom (lastOf last cs) rest := by
  induction cs generalizing last with
  | nil => rfl
  | cons c cs ih =>
      have hhere : r.places ⟨last, c :: (cs ++ rest), []⟩ = [] := h [] (c :: cs) rfl (by simp)
      rw [List.cons_append, findFrom, hhere, lastOf_cons]
      refine ih fun front back hsplit hne => ?_
      rw [← lastOf_cons last]
      exact h (c :: front) back (by rw [hsplit, List.cons_append]) hne

/-- Where there is a match, the search stops there or at a place before. -/
theorem findFrom_of_places {r : Regex} {last : Option Char} {front rest : List Char}
    (h : r.places ⟨lastOf last front, rest, []⟩ ≠ []) :
    ∃ before after s, front = before ++ after ∧
      s ∈ r.places ⟨lastOf last before, after ++ rest, []⟩ ∧
      r.findFrom last (front ++ rest) = some s := by
  induction front generalizing last with
  | nil =>
      obtain ⟨s, more, hplaces⟩ := List.exists_cons_of_ne_nil h
      refine ⟨[], [], s, rfl, ?_, ?_⟩
      · rw [List.nil_append, hplaces]
        exact List.mem_cons_self
      · rw [lastOf_nil] at hplaces
        rw [List.nil_append, findFrom.eq_def, hplaces]
  | cons c front ih =>
      cases hhere : r.places ⟨last, c :: (front ++ rest), []⟩ with
      | nil =>
          rw [lastOf_cons] at h
          obtain ⟨before, after, s, rfl, hs, hfind⟩ := ih h
          refine ⟨c :: before, after, s, rfl, ?_, ?_⟩
          · rwa [lastOf_cons]
          · rw [List.cons_append, findFrom, hhere]
            exact hfind
      | cons s more =>
          refine ⟨[], c :: front, s, rfl, ?_, ?_⟩
          · rw [lastOf_nil, List.cons_append, hhere]
            exact List.mem_cons_self
          · rw [List.cons_append, findFrom, hhere]

end Regex
end Pipeline.Text
