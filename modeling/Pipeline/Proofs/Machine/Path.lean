import Pipeline.Command
import Mathlib.Data.List.Basic

/-!
# Paths in a directory

A name leads from a directory to something in it. The parts of a path that is seen from a directory
are the parts of the directory and then its own, and it ends as it did. So a name adds one part.
The base name of a program is such a name, unless it leads to a directory.
-/

namespace Pipeline

namespace Text
variable {sep : Char}

theorem consFirst_append (c : Char) {ps : List (List Char)} (h : ps ≠ []) (qs : List (List Char)) :
    consFirst c (ps ++ qs) = consFirst c ps ++ qs := by
  cases ps with
  | nil => exact absurd rfl h
  | cons p ps => rfl

/-- A text is cut at a separator in it, whatever else is cut. -/
theorem split_append (front back : List Char) :
    split sep (front ++ sep :: back) = split sep front ++ split sep back := by
  induction front with
  | nil => exact split_cons_self sep back
  | cons c cs ih =>
      by_cases hc : c = sep
      · subst hc
        rw [List.cons_append, split_cons_self, split_cons_self, ih]
        rfl
      · rw [List.cons_append, split_cons_of_ne hc, split_cons_of_ne hc, ih,
          consFirst_append c (split_ne_nil sep cs)]

theorem split_of_not_mem {cs : List Char} (h : sep ∉ cs) : split sep cs = [cs] := by
  induction cs with
  | nil => rfl
  | cons c cs ih =>
      have hc : c ≠ sep := fun heq => h (by simp [heq])
      have hrest : sep ∉ cs := fun hmem => h (List.mem_cons_of_mem c hmem)
      rw [split_cons_of_ne hc, ih hrest]
      rfl

theorem not_mem_of_mem_split {cs p : List Char} (h : p ∈ split sep cs) : sep ∉ p := by
  induction cs generalizing p with
  | nil =>
      have hp : p = [] := by simpa [split] using h
      simp [hp]
  | cons c cs ih =>
      by_cases hc : c = sep
      · rw [hc, split_cons_self] at h
        cases List.mem_cons.mp h with
        | inl hp => simp [hp]
        | inr hp => exact ih hp
      · rw [split_cons_of_ne hc] at h
        cases hs : split sep cs with
        | nil => exact absurd hs (split_ne_nil sep cs)
        | cons q qs =>
            rw [hs] at h ih
            cases List.mem_cons.mp h with
            | inl hp =>
                have hq : sep ∉ q := ih List.mem_cons_self
                simp [hp, hq, Ne.symm hc]
            | inr hp => exact ih (List.mem_cons_of_mem q hp)

end Text

namespace Path
open Text

/-- A name leads from a directory to something in it. -/
structure IsName (name : String) : Prop where
  noSlash : '/' ∉ name.toList
  notEmpty : name ≠ ""
  notHere : name ≠ "."
  notUp : name ≠ ".."

theorem pieces_ne_nil (path : String) : pieces '/' path ≠ [] := by
  unfold pieces
  simp [split_ne_nil]

theorem parts_eq (path : String) :
    parts path = (pieces '/' path).filter fun p => p ≠ "" ∧ p ≠ "." := rfl

theorem IsName.pieces {name : String} (h : IsName name) : pieces '/' name = [name] := by
  unfold Text.pieces
  rw [split_of_not_mem h.noSlash]
  simp

theorem IsName.parts {name : String} (h : IsName name) : parts name = [name] := by
  rw [parts_eq, h.pieces]
  simp [h.notEmpty, h.notHere]

theorem IsName.isAbsolute {name : String} (h : IsName name) : isAbsolute name = false := by
  unfold Path.isAbsolute
  have hhead : name.toList.head? ≠ some '/' := fun hslash => h.noSlash (List.mem_of_head? hslash)
  simpa using hhead

theorem isName_of_mem_parts {path name : String} (h : name ∈ parts path) (hup : name ≠ "..") :
    IsName name := by
  obtain ⟨hpiece, hkept⟩ := List.mem_filter.mp h
  obtain ⟨hempty, hdot⟩ := of_decide_eq_true hkept
  obtain ⟨p, hp, rfl⟩ := List.mem_map.mp hpiece
  refine ⟨?_, hempty, hdot, hup⟩
  rw [String.toList_ofList]
  exact not_mem_of_mem_split hp

/-! ### Seen from a directory -/

/-- What is before the pieces of a path seen from a directory keeps the parts of the directory. -/
theorem pieces_join (dir : String) {path : String} (h : isAbsolute path = false) :
    ∃ front, pieces '/' (join dir path) = front ++ pieces '/' path ∧
      (front.filter fun p => p ≠ "" ∧ p ≠ ".") = parts dir := by
  unfold join
  rw [if_neg (by simp [h])]
  by_cases hempty : dir = ""
  · subst hempty
    exact ⟨[], rfl, rfl⟩
  · rw [if_neg hempty]
    by_cases hslash : dir.toList.getLast? = some '/'
    · obtain ⟨front, hfront⟩ := List.getLast?_eq_some_iff.mp hslash
      refine ⟨(split '/' front).map .ofList, ?_, ?_⟩
      · simp [pieces, hfront, split_append]
      · have hlast : split '/' ([] : List Char) = [[]] := rfl
        simp [parts, pieces, hfront, split_append, hlast]
    · refine ⟨pieces '/' dir, ?_, rfl⟩
      have hbar : "/".toList = ['/'] := rfl
      simp [hslash, pieces, hbar, split_append]

theorem parts_join (dir : String) {path : String} (h : isAbsolute path = false) :
    parts (join dir path) = parts dir ++ parts path := by
  obtain ⟨front, hpieces, hfront⟩ := pieces_join dir h
  rw [parts_eq (join dir path), hpieces, List.filter_append, hfront, parts_eq path]

theorem endsAsDirectory_join (dir path : String) :
    endsAsDirectory (join dir path) = endsAsDirectory path := by
  cases habs : isAbsolute path with
  | true =>
      unfold join
      rw [if_pos habs]
  | false =>
      obtain ⟨front, hpieces, -⟩ := pieces_join dir habs
      unfold endsAsDirectory
      rw [hpieces, List.getLast?_append_of_ne_nil _ (pieces_ne_nil path)]

theorem isAbsolute_join (dir : String) {path : String} (h : isAbsolute path = false) :
    isAbsolute (join dir path) = isAbsolute dir := by
  unfold join
  rw [if_neg (by simp [h])]
  by_cases hempty : dir = ""
  · rw [if_pos hempty, hempty, h]
    rfl
  · have hlist : dir.toList ≠ [] := by simpa using hempty
    have hhead (rest : List Char) : (dir.toList ++ rest).head? = dir.toList.head? :=
      List.head?_append_of_ne_nil _ hlist
    rw [if_neg hempty]
    unfold isAbsolute
    split <;> simp only [String.toList_append, List.append_assoc, hhead]

theorem IsName.endsAsDirectory {name : String} (h : IsName name) :
    Path.endsAsDirectory name = false := by
  unfold Path.endsAsDirectory
  rw [h.pieces]
  simp [h.notEmpty, h.notHere, h.notUp]

theorem IsName.getLast?_join {name : String} (h : IsName name) (dir : String) :
    (join dir name).toList.getLast? = name.toList.getLast? := by
  have hlist : name.toList ≠ [] := by simpa using h.notEmpty
  have hlast (front : List Char) : (front ++ name.toList).getLast? = name.toList.getLast? :=
    List.getLast?_append_of_ne_nil _ hlist
  unfold join
  rw [if_neg (by simp [h.isAbsolute])]
  split
  · rfl
  · split <;> simp only [String.toList_append, hlast]

/-- A search list without colons is one directory. -/
theorem searchList_of_not_mem {dirs : String} (h : ':' ∉ dirs.toList) :
    searchList dirs = [dirs] := by
  unfold searchList pieces
  rw [split_of_not_mem h]
  simp

/-! ### Base names -/

/-- A path that does not end as a directory has a name for its last part. -/
theorem parts_of_not_endsAsDirectory {path : String} (h : endsAsDirectory path = false) :
    ∃ front name, parts path = front ++ [name] ∧ IsName name := by
  obtain ⟨before, last, hpieces⟩ :=
    (List.eq_nil_or_concat (pieces '/' path)).resolve_left (pieces_ne_nil path)
  rw [List.concat_eq_append] at hpieces
  unfold endsAsDirectory at h
  rw [hpieces, List.getLast?_concat] at h
  simp only [Bool.or_eq_false_iff, decide_eq_false_iff_not] at h
  obtain ⟨⟨hempty, hdot⟩, hup⟩ := h
  have hparts : parts path = (before.filter fun p => p ≠ "" ∧ p ≠ ".") ++ [last] := by
    rw [parts_eq, hpieces, List.filter_append]
    simp [hempty, hdot]
  have hmem : last ∈ parts path := by simp [hparts]
  exact ⟨_, last, hparts, isName_of_mem_parts hmem hup⟩

/-- The base name of a program is a name, unless it is a path that leads to a directory. -/
theorem isName_programName (path : String)
    (h : endsAsDirectory (Command.programName path) = false) :
    IsName (Command.programName path) := by
  cases hname : fileName? path with
  | some name =>
      have hprogram : Command.programName path = name := by simp [Command.programName, hname]
      unfold fileName? at hname
      rw [hprogram]
      split at hname
      · cases hname
      · rename_i hup
        refine isName_of_mem_parts (List.mem_of_getLast? hname) fun heq => ?_
        exact hup (by rw [hname, heq])
  | none =>
      have hprogram : Command.programName path = path := by simp [Command.programName, hname]
      rw [hprogram] at h
      obtain ⟨front, name, hparts, hvalid⟩ := parts_of_not_endsAsDirectory h
      have hsome : fileName? path = some name := by
        unfold fileName?
        rw [hparts, List.getLast?_concat]
        split
        · rename_i hup
          exact absurd (Option.some.inj hup) hvalid.notUp
        · rfl
      rw [hsome] at hname
      cases hname

end Path
end Pipeline
