import Pipeline.Proofs.Machine.FileSystem

/-!
# Making and removing directories

Whether all directories on a path can be made or not, nothing that was there changes and nothing but
directories is added (`AddsDirs`). If they can, the path leads to a directory (`Ready`), and from
then on there is nothing to make. A directory that is not removed with another keeps all those that
it lies in (`Anchored.removeTree`).
-/

namespace Pipeline.FileSystem

variable {fs fs' fs'' : FileSystem} {here place : Place} {path : String}

/-- What was there is there, and everything else that is there now is a new directory. -/
structure AddsDirs (fs fs' : FileSystem) : Prop where
  kept : ∀ place node, fs.at? place = some node → fs'.at? place = some node
  added : ∀ place, fs.at? place = none →
    fs'.at? place = none ∨ fs'.at? place = some (.dir dirMode)

theorem AddsDirs.refl (fs : FileSystem) : fs.AddsDirs fs := ⟨fun _ _ h => h, fun _ h => .inl h⟩

theorem AddsDirs.trans (h : fs.AddsDirs fs') (h' : fs'.AddsDirs fs'') : fs.AddsDirs fs'' where
  kept place node hat := h'.kept place node (h.kept place node hat)
  added place hnone := by
    cases h.added place hnone with
    | inl hnone' => exact h'.added place hnone'
    | inr hdir => exact .inr (h'.kept place _ hdir)

theorem AddsDirs.keepsDirs (h : fs.AddsDirs fs') : fs.KeepsDirs fs' := by
  rintro place ⟨mode, hmode⟩
  exact ⟨mode, h.kept place _ hmode⟩

theorem addsDirs_put (h : fs.at? place = none) : fs.AddsDirs (fs.put place (.dir dirMode)) := by
  have hplace : place ≠ [] := by
    rintro rfl
    cases h
  have hcases : ∀ other, (fs.at? other = none ∧
      (fs.put place (.dir dirMode)).at? other = some (.dir dirMode)) ∨
      (fs.put place (.dir dirMode)).at? other = fs.at? other := by
    intro other
    by_cases hroot : other = []
    · subst hroot
      exact .inr rfl
    · by_cases hsame : absolute other = absolute place
      · refine .inl ⟨?_, ?_⟩
        · rw [at?_congr fs hroot hplace hsame, h]
        · rw [at?_congr _ hroot hplace hsame, at?_put_self fs _ hplace]
      · exact .inr (at?_put_of_ne fs _ hsame)
  constructor
  · intro other node hat
    obtain ⟨hnone, -⟩ | hsame := hcases other
    · rw [hnone] at hat
      cases hat
    · rw [hsame, hat]
  · intro other hnone
    obtain ⟨-, hdir⟩ | hsame := hcases other
    · exact .inr hdir
    · exact .inl (hsame.trans hnone)

theorem isDirectory_iff :
    fs.isDirectory here path = true ↔ ∃ place, fs.locate here path = .ok place ∧ fs.IsDir place := by
  unfold isDirectory FileSystem.find IsDir
  cases fs.locate here path with
  | error e => simp
  | ok place =>
      cases hat : fs.at? place with
      | none => simp [hat]
      | some node =>
          cases node with
          | dir mode => simp [hat]
          | file content mode => by_cases hasks : asksForDirectory path = true <;> simp [hat, hasks]
          | tool name => by_cases hasks : asksForDirectory path = true <;> simp [hat, hasks]
          | nullDevice => by_cases hasks : asksForDirectory path = true <;> simp [hat, hasks]

theorem isDirectory_keep (hkeep : fs.KeepsDirs fs') (h : fs.isDirectory here path = true) :
    fs'.isDirectory here path = true := by
  obtain ⟨place, hplace, hdir⟩ := isDirectory_iff.mp h
  exact isDirectory_iff.mpr ⟨place, locate_keep hkeep hplace, hkeep place hdir⟩

theorem makeDirectory_ok (h : fs.makeDirectory here path = .ok fs') :
    ∃ place, fs.locate here path = .ok place ∧ fs.at? place = none ∧
      fs' = fs.put place (.dir dirMode) := by
  unfold makeDirectory at h
  split at h
  · cases h
  · rename_i place hplace
    split at h
    · cases h
    · rename_i hnone
      dsimp only at h
      split at h
      · cases h
        exact ⟨place, hplace, hnone, rfl⟩
      · cases h
      · cases h

/-- A directory that is there cannot be made, and it is not for want of another. -/
theorem makeDirectory_of_isDirectory (h : fs.isDirectory here path = true) :
    fs.makeDirectory here path = .error .alreadyExists := by
  obtain ⟨place, hplace, mode, hmode⟩ := isDirectory_iff.mp h
  unfold makeDirectory
  rw [hplace]
  simp only [hmode]

theorem ensureDirectory_ok (h : fs.ensureDirectory here path = .ok fs') :
    fs.AddsDirs fs' ∧ fs'.isDirectory here path = true := by
  unfold ensureDirectory at h
  split at h
  · rename_i made hmade
    cases h
    obtain ⟨place, hplace, hnone, rfl⟩ := makeDirectory_ok hmade
    have hadds := addsDirs_put hnone
    have hroot : place ≠ [] := by
      rintro rfl
      cases hnone
    refine ⟨hadds, isDirectory_iff.mpr ⟨place, locate_keep hadds.keepsDirs hplace, dirMode, ?_⟩⟩
    exact at?_put_self fs _ hroot
  · split at h
    · rename_i hdir
      cases h
      exact ⟨.refl fs, hdir⟩
    · cases h

theorem ensureDirectory_of_isDirectory (h : fs.isDirectory here path = true) :
    fs.ensureDirectory here path = .ok fs := by
  unfold ensureDirectory
  rw [makeDirectory_of_isDirectory h]
  simp only [if_pos h]

theorem makeAll_addsDirs (here : Place) (paths : List String) (fs : FileSystem) :
    fs.AddsDirs (makeAll here paths fs).2 := by
  -- the directories above are made first, so what is then made is added to what they add
  induction paths generalizing fs with
  | nil => exact .refl fs
  | cons path above ih =>
      rw [makeAll]
      split
      · rename_i made hmade
        exact (ensureDirectory_ok hmade).1
      · split
        · have habove := ih fs
          split
          · rename_i hmade
            rw [hmade] at habove
            exact habove
          · rename_i hmade
            rw [hmade] at habove
            split
            · rename_i hlast
              exact habove.trans (ensureDirectory_ok hlast).1
            · exact habove
        · exact .refl fs

theorem isDirectory_of_makeAll {above : List String}
    (h : makeAll here (path :: above) fs = (.ok (), fs')) : fs'.isDirectory here path = true := by
  rw [makeAll] at h
  split at h
  · rename_i made hmade
    cases h
    exact (ensureDirectory_ok hmade).2
  · split at h
    · split at h
      · cases h
      · split at h
        · rename_i made hmade
          cases h
          exact (ensureDirectory_ok hmade).2
        · cases h
    · cases h

/-- There is a directory for what is written to, or none is asked for. -/
def Ready (fs : FileSystem) (here : Place) (path : String) : Prop :=
  path = "" ∨ fs.isDirectory here path = true

instance (fs : FileSystem) (here : Place) (path : String) : Decidable (fs.Ready here path) :=
  inferInstanceAs (Decidable (path = "" ∨ fs.isDirectory here path = true))

theorem makeTree_addsDirs (fs : FileSystem) (here : Place) (path : String) :
    fs.AddsDirs (fs.makeTree here path).2 := by
  unfold makeTree
  split
  · exact .refl fs
  · exact makeAll_addsDirs here _ fs

theorem ready_of_makeTree (h : fs.makeTree here path = (.ok (), fs')) : fs'.Ready here path := by
  unfold makeTree at h
  split at h
  · rename_i hempty
    exact .inl hempty
  · exact .inr (isDirectory_of_makeAll h)

theorem Ready.keep (h : fs.Ready here path) (hkeep : fs.KeepsDirs fs') : fs'.Ready here path :=
  h.imp_right (isDirectory_keep hkeep)

/-- Where there is a directory nothing is made. -/
theorem Ready.makeTree (h : fs.Ready here path) : fs.makeTree here path = (.ok (), fs) := by
  unfold FileSystem.makeTree
  split
  · rfl
  · rename_i hsome
    rw [makeAll, ensureDirectory_of_isDirectory (h.resolve_left hsome)]

/-! ### Removing them -/

theorem at?_clearAll (fs : FileSystem) (top : Place) (h : place ≠ []) :
    (fs.clearAll top).at? place =
      if leadsInto top (absolute place) then none else fs.at? place := by
  rw [at?_of_ne_nil _ h, at?_of_ne_nil _ h]
  unfold clearAll
  rw [Dict.get?_filterKeys]
  cases leadsInto top (absolute place) <;> rfl

/-- What is in a place is in whatever the place is in. -/
theorem leadsInto_append {top above rest : Place} (habove : above ≠ [])
    (h : leadsInto top (absolute above) = true) :
    leadsInto top (absolute (above ++ rest)) = true := by
  by_cases hrest : rest = []
  · rwa [hrest, List.append_nil]
  · have hpath : (absolute (above ++ rest)).toList =
        (absolute above ++ "/").toList ++ ("/".intercalate rest).toList := by
      simp [absolute, String.intercalate_append_of_ne_nil habove hrest]
    simp only [leadsInto, Bool.or_eq_true, decide_eq_true_eq, List.isPrefixOf_iff_prefix] at h ⊢
    right
    rw [hpath]
    obtain heq | hfront := h
    · rw [heq]
      exact List.prefix_append _ _
    · have habove' : (absolute above).toList <+: (absolute above ++ "/").toList := by simp
      exact (hfront.trans habove').trans (List.prefix_append _ _)

/-- A directory that is not removed keeps all directories that it lies in. -/
theorem Anchored.clearAll {top : Place} (h : fs.Anchored place)
    (hdir : (fs.clearAll top).IsDir place) : (fs.clearAll top).Anchored place := by
  rintro above ⟨rest, rfl⟩ hne
  by_cases hroot : above = []
  · rw [hroot]
    exact isDir_root _
  · obtain ⟨mode, hmode⟩ := hdir
    rw [at?_clearAll fs top (by simp [hroot])] at hmode
    have habove : leadsInto top (absolute above) ≠ true := by
      intro hinto
      rw [if_pos (leadsInto_append hroot hinto)] at hmode
      cases hmode
    obtain ⟨mode', hmode'⟩ := h above (List.prefix_append _ _) hne
    refine ⟨mode', ?_⟩
    rw [at?_clearAll fs top hroot, if_neg habove, hmode']

theorem removeTree_cases (fs : FileSystem) (here : Place) (path : String) :
    fs.removeTree here path = fs ∨ ∃ top, fs.removeTree here path = fs.clearAll top := by
  unfold removeTree
  split
  · exact .inl rfl
  · rename_i top _
    split
    · exact .inr ⟨top, rfl⟩
    · exact .inl rfl

/-- The way to a directory starts at one. -/
theorem isDir_start (h : fs.isDirectory here path = true) : fs.IsDir (start here path) := by
  obtain ⟨place, hplace, hdir⟩ := isDirectory_iff.mp h
  have hwalk := locate_walk hplace
  cases hparts : Path.parts path with
  | nil =>
      rw [hparts] at hwalk
      cases hwalk
      exact hdir
  | cons part parts =>
      rw [hparts] at hwalk
      exact (walk_cons.mp hwalk).1

theorem keepsDirs_removeTree (fs : FileSystem) (here : Place) (path : String) :
    (fs.removeTree here path).KeepsDirs fs := by
  rintro place ⟨mode, hmode⟩
  refine ⟨mode, ?_⟩
  obtain heq | ⟨top, heq⟩ := removeTree_cases fs here path
  · rwa [heq] at hmode
  · by_cases hroot : place = []
    · rw [hroot] at hmode ⊢
      exact hmode
    · rw [heq, at?_clearAll fs top hroot] at hmode
      split at hmode
      · cases hmode
      · exact hmode

/-- What was removed is there no longer. -/
theorem isDirectory_removeTree (hroot : fs.locate here path ≠ .ok []) :
    (fs.removeTree here path).isDirectory here path = false := by
  rw [← Bool.not_eq_true, isDirectory_iff]
  rintro ⟨place, hplace, hdir⟩
  have hkeeps := keepsDirs_removeTree fs here path
  have hbefore := locate_keep hkeeps hplace
  have hne : place ≠ [] := by
    rintro rfl
    exact hroot hbefore
  obtain ⟨mode, hmode⟩ := hkeeps place hdir
  obtain ⟨mode', hmode'⟩ := hdir
  have hself : leadsInto place (absolute place) = true := by simp [leadsInto]
  simp only [removeTree, hbefore, hmode] at hmode'
  rw [at?_clearAll fs place hne, if_pos hself] at hmode'
  cases hmode'

theorem Anchored.removeTree {gone : String} (h : fs.Anchored (FileSystem.start here path))
    (hdir : (fs.removeTree here gone).isDirectory here path = true) :
    (fs.removeTree here gone).Anchored (FileSystem.start here path) := by
  have hstart := isDir_start hdir
  obtain heq | ⟨top, heq⟩ := removeTree_cases fs here gone
  · rwa [heq]
  · rw [heq] at hstart ⊢
    exact h.clearAll hstart

end Pipeline.FileSystem
