import Pipeline.Shell.Environment

/-!
# What a program finds in its environment

A variable that was set for the programs that a shell starts is found in their environment under its
name, however the shell arranges the variables that it hands on (`lookup_environmentOf`).
-/

namespace Pipeline.Shell

theorem mem_setVariable {name : String} {v : Variable} {vars : List (String × Variable)}
    {e : String × Variable} :
    e ∈ setVariable name v vars ↔ e = (name, v) ∨ e ∈ vars ∧ e.1 ≠ name := by
  unfold setVariable
  split
  · rename_i hany
    obtain ⟨x, hx, hname⟩ : ∃ x ∈ vars, x.1 = name := by simpa using hany
    rw [List.mem_map]
    constructor
    · rintro ⟨y, hy, rfl⟩
      by_cases hsame : y.1 = name
      · simp [hsame]
      · simp [hsame, hy]
    · rintro (rfl | ⟨he, hne⟩)
      · exact ⟨x, hx, by simp [hname]⟩
      · exact ⟨e, he, by simp [hne]⟩
  · rename_i hany
    have hnone : ∀ x ∈ vars, x.1 ≠ name := by
      intro x hx hname
      exact hany (List.any_eq_true.mpr ⟨x, hx, by simpa using hname⟩)
    rw [List.mem_cons]
    exact or_congr_right ⟨fun he => ⟨he, hnone e he⟩, And.left⟩

/-- Among variables, one of this name has this value, and no other of its name has another. -/
def Holds {α β : Type} (vars : List (α × β)) (name : α) (value : β) : Prop :=
  (name, value) ∈ vars ∧ ∀ e ∈ vars, e.1 = name → e.2 = value

section
variable {α β : Type} {vars others : List (α × β)} {name : α} {value : β}

theorem Holds.of_mem_iff (h : Holds vars name value) (hsame : ∀ e, e ∈ others ↔ e ∈ vars) :
    Holds others name value :=
  ⟨(hsame _).mpr h.1, fun e he => h.2 e ((hsame e).mp he)⟩

theorem Holds.lookup [BEq α] [LawfulBEq α] (h : Holds vars name value) :
    vars.lookup name = some value := by
  obtain ⟨hmem, hall⟩ := h
  induction vars with
  | nil => cases hmem
  | cons e vars ih =>
      obtain ⟨k, v⟩ := e
      by_cases hk : name = k
      · subst hk
        have hv : v = value := hall (name, v) (by simp) rfl
        rw [List.lookup_cons_self, hv]
      · have hrest : (name, value) ∈ vars := by
          rcases List.mem_cons.mp hmem with heq | hrest
          · cases heq
            exact absurd rfl hk
          · exact hrest
        have hfalse : (name == k) = false := by simpa using hk
        rw [List.lookup_cons, hfalse]
        exact ih hrest fun e he => hall e (by simp [he])

end

theorem Holds.setVariable {vars : List (String × Variable)} {name other : String}
    {v value : Variable} (h : Holds vars name value) (hne : name ≠ other) :
    Holds (setVariable other v vars) name value := by
  constructor
  · exact mem_setVariable.mpr (.inr ⟨h.1, hne⟩)
  · intro e he hname
    rcases mem_setVariable.mp he with rfl | ⟨hmem, -⟩
    · exact absurd hname.symm hne
    · exact h.2 e hmem hname

theorem holds_setVariable (name : String) (v : Variable) (vars : List (String × Variable)) :
    Holds (setVariable name v vars) name v := by
  refine ⟨mem_setVariable.mpr (.inl rfl), fun e he hname => ?_⟩
  rcases mem_setVariable.mp he with rfl | ⟨-, hne⟩
  · rfl
  · exact absurd hname hne

theorem Holds.exported {s : ShellState} {name : String} {value : Raw}
    (h : Holds s.vars name ⟨some value, true, false⟩) :
    Holds (exported s) name.toList value := by
  constructor
  · exact List.mem_filterMap.mpr ⟨_, h.1, rfl⟩
  · intro e he hname
    obtain ⟨⟨k, v⟩, hmem, hv⟩ := List.mem_filterMap.mp he
    have hexported : v.exported = true := by
      cases hv' : v.exported with
      | true => rfl
      | false => simp [hv'] at hv
    obtain ⟨text, htext, rfl⟩ : ∃ text, v.value = some text ∧ (k.toList, text) = e := by
      simpa [hexported] using hv
    have hk : k = name := String.toList_inj.mp hname
    have hsame : v = ⟨some value, true, false⟩ := h.2 _ hmem hk
    rw [hsame] at htext
    exact (Option.some.inj htext).symm

theorem mem_inSlots {d : Dialect} {size : Nat} {vars : List (Raw × Raw)} {e : Raw × Raw} :
    e ∈ inSlots d size vars ↔ e ∈ vars := List.mem_mergeSort

/-- No variable is lost and none is added when they are taken out in groups. -/
theorem mem_takeGroups {vars : List (Raw × Raw)} {groups : List (List String)} {e : Raw × Raw} :
    (e ∈ (takeGroups vars groups).1.flatten ∨ e ∈ (takeGroups vars groups).2) ↔ e ∈ vars := by
  induction groups generalizing vars with
  | nil => simp [takeGroups]
  | cons names groups ih =>
      unfold takeGroups
      rw [List.partition_eq_filter_filter]
      simp only [List.flatten_cons, List.mem_append, or_assoc, ih, List.mem_filter]
      simp [← and_or_left, Classical.em]

/-- A variable that was set for programs is in the environment of the program that takes the place
of the shell, unless it is the one that the shell counts its level in. -/
theorem lookup_environmentOf (s : ShellState) {name : String} (value : Raw)
    (hlevel : name ≠ levelVariable) (settings : List String) :
    (environmentOf (givenUp (s.put name ⟨some value, true, false⟩)) settings).lookup name.toList =
      some value := by
  have hvars : Holds (givenUp (s.put name ⟨some value, true, false⟩)).vars name
      ⟨some value, true, false⟩ := by
    have hput := holds_setVariable name ⟨some value, true, false⟩ s.vars
    unfold givenUp
    split
    · exact hput
    · exact hput.setVariable hlevel
  have hexported := hvars.exported
  generalize givenUp (s.put name ⟨some value, true, false⟩) = given at hexported
  unfold environmentOf
  split
  · refine (hexported.of_mem_iff fun e => ?_).lookup
    rw [mem_inSlots, List.mem_reverse]
  · let scopes := settings :: given.hidden.map fun scope => scope.map (·.1)
    let groups := takeGroups (exported given) scopes
    let own := groups.1.flatMap (inSlots .bash smallTableSize) ++
      inSlots .bash (tableSize .bash) groups.2
    have hown : Holds own name.toList value := by
      refine hexported.of_mem_iff fun e => ?_
      rw [List.mem_append, List.mem_flatMap, mem_inSlots]
      simp only [mem_inSlots]
      rw [← List.mem_flatten]
      exact mem_takeGroups
    change (own ++ given.passed).lookup name.toList = some value
    rw [List.lookup_append, hown.lookup]
    rfl

end Pipeline.Shell
