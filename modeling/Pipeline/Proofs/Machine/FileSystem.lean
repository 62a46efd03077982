import Pipeline.Machine.FileSystem
import Pipeline.Proofs.Machine.Path

/-!
# Places and paths

Nothing that is put at a place replaces a directory (`KeepsDirs`), so a path that led to a place
leads there ever after. A path for writing leads to a place without a directory (`writable_ok`); and
where a file was written for execution its content is read back, unless the null device is there
(`Written`). If a working directory lies in directories (`Anchored`), then a path that goes up at
its end leads to a directory, and no file is written there.
-/

namespace Pipeline.FileSystem
open Pipeline.Path (IsName)

variable {fs fs' : FileSystem} {here place place' : Place} {path : String}

/-! ### What stands at a place -/

def IsDir (fs : FileSystem) (place : Place) : Prop := ∃ mode, fs.at? place = some (.dir mode)

theorem isDir_root (fs : FileSystem) : fs.IsDir [] := ⟨dirMode, rfl⟩

theorem ne_nil_of_not_isDir (h : ¬ fs.IsDir place) : place ≠ [] := fun heq =>
  h (heq ▸ isDir_root fs)

theorem at?_of_ne_nil (fs : FileSystem) (h : place ≠ []) :
    fs.at? place = fs.nodes.get? (absolute place) := by
  cases place with
  | nil => exact absurd rfl h
  | cons p ps => rfl

theorem at?_congr (fs : FileSystem) (h' : place' ≠ []) (h : place ≠ [])
    (hsame : absolute place' = absolute place) : fs.at? place' = fs.at? place := by
  rw [at?_of_ne_nil fs h', at?_of_ne_nil fs h, hsame]

/-- What is put at a place leaves alone what is filed under other paths. -/
theorem at?_put_of_ne (fs : FileSystem) (node : Node) (h : absolute place' ≠ absolute place) :
    (fs.put place node).at? place' = fs.at? place' := by
  cases place' with
  | nil => rfl
  | cons p ps => exact Dict.get?_insert_of_ne _ _ h

/-- Things in one directory are filed under different paths if their names differ. -/
theorem absolute_concat_inj {name name' : String}
    (h : absolute (place ++ [name]) = absolute (place ++ [name'])) : name = name' := by
  cases place with
  | nil =>
      simp only [absolute, List.nil_append, String.intercalate_singleton] at h
      exact String.append_right_inj _ |>.mp h
  | cons p ps =>
      simp only [absolute, String.intercalate_append_of_ne_nil (List.cons_ne_nil p ps)
        (List.cons_ne_nil _ _), String.intercalate_singleton] at h
      exact String.append_right_inj _ |>.mp (String.append_right_inj _ |>.mp h)

/-! ### Directories last -/

/-- All directories of a file system are directories of the other. -/
def KeepsDirs (fs fs' : FileSystem) : Prop := ∀ place, fs.IsDir place → fs'.IsDir place

theorem KeepsDirs.refl (fs : FileSystem) : fs.KeepsDirs fs := fun _ h => h

theorem keepsDirs_put (h : ¬ fs.IsDir place) (node : Node) : fs.KeepsDirs (fs.put place node) := by
  intro place' hdir
  by_cases hnil : place' = []
  · exact hnil ▸ isDir_root _
  · have hne : absolute place' ≠ absolute place := by
      intro heq
      apply h
      unfold IsDir at hdir ⊢
      rwa [at?_congr fs hnil (ne_nil_of_not_isDir h) heq] at hdir
    unfold IsDir
    rwa [at?_put_of_ne fs node hne]

/-! ### Walking -/

/-- All places above a place are directories. -/
def Anchored (fs : FileSystem) (place : Place) : Prop :=
  ∀ above, above <+: place → above ≠ place → fs.IsDir above

theorem anchored_root (fs : FileSystem) : fs.Anchored [] := fun _ hpre hne =>
  absurd (List.prefix_nil.mp hpre) hne

theorem Anchored.keep (h : fs.Anchored place) (hkeep : fs.KeepsDirs fs') : fs'.Anchored place :=
  fun above hpre hne => hkeep above (h above hpre hne)

theorem Anchored.concat (h : fs.Anchored place) (hdir : fs.IsDir place) (name : String) :
    fs.Anchored (place ++ [name]) := by
  intro above hpre hne
  have habove : above <+: place := (List.prefix_concat_iff.mp hpre).resolve_left hne
  by_cases heq : above = place
  · exact heq ▸ hdir
  · exact h above habove heq

theorem Anchored.dropLast (h : fs.Anchored place) : fs.Anchored place.dropLast := by
  intro above hpre hne
  have hlt : above.length < place.dropLast.length :=
    Nat.lt_of_le_of_ne hpre.length_le fun heq => hne (hpre.eq_of_length heq)
  refine h above (hpre.trans (List.dropLast_prefix place)) fun heq => ?_
  rw [heq, List.length_dropLast] at hlt
  omega

theorem Anchored.isDir_dropLast (h : fs.Anchored place) (hdir : fs.IsDir place) :
    fs.IsDir place.dropLast := by
  by_cases heq : place.dropLast = place
  · rwa [heq]
  · exact h _ (List.dropLast_prefix place) heq

/-- Where a part of a path leads from a place. -/
def onward (here : Place) (part : String) : Place :=
  if part = ".." then here.dropLast else here ++ [part]

theorem onward_name (here : Place) {name : String} (h : IsName name) :
    onward here name = here ++ [name] := if_neg h.notUp

/-- A walk goes on from a directory only, and takes no name that is too long. -/
theorem walk_cons {part : String} {parts : List String} :
    fs.walk here (part :: parts) = .ok place ↔
      fs.IsDir here ∧ (part = ".." ∨ part.utf8ByteSize ≤ nameLimit) ∧
        fs.walk (onward here part) parts = .ok place := by
  rw [walk]
  unfold IsDir onward
  cases hat : fs.at? here with
  | none => simp
  | some node =>
      cases node with
      | dir mode =>
          by_cases hup : part = ".."
          · simp [hup]
          · by_cases hsize : part.utf8ByteSize ≤ nameLimit
            · simp [hup, hsize, Nat.not_lt.mpr hsize]
            · simp [hup, hsize, Nat.lt_of_not_le hsize]
      | file content mode => simp
      | tool name => simp
      | nullDevice => simp

theorem walk_append {front back : List String} :
    fs.walk here (front ++ back) = .ok place ↔
      ∃ middle, fs.walk here front = .ok middle ∧ fs.walk middle back = .ok place := by
  induction front generalizing here with
  | nil => simp [walk]
  | cons part parts ih =>
      simp only [List.cons_append, walk_cons, ih]
      constructor
      · rintro ⟨hdir, hpart, middle, hfront, hback⟩
        exact ⟨middle, ⟨hdir, hpart, hfront⟩, hback⟩
      · rintro ⟨middle, ⟨hdir, hpart, hfront⟩, hback⟩
        exact ⟨hdir, hpart, middle, hfront, hback⟩

theorem walk_one {part : String} (h : fs.walk here [part] = .ok place) :
    fs.IsDir here ∧ place = onward here part := by
  obtain ⟨hdir, -, hlast⟩ := walk_cons.mp h
  exact ⟨hdir, (Except.ok.inj hlast).symm⟩

theorem walk_keep {parts : List String} (hkeep : fs.KeepsDirs fs')
    (h : fs.walk here parts = .ok place) : fs'.walk here parts = .ok place := by
  induction parts generalizing here with
  | nil => exact h
  | cons part parts ih =>
      obtain ⟨hdir, hpart, hrest⟩ := walk_cons.mp h
      exact walk_cons.mpr ⟨hkeep here hdir, hpart, ih hrest⟩

/-- A walk from an anchored place ends at one. -/
theorem Anchored.walk {parts : List String} (h : fs.Anchored here)
    (hwalk : fs.walk here parts = .ok place) : fs.Anchored place := by
  induction parts generalizing here with
  | nil =>
      cases hwalk
      exact h
  | cons part parts ih =>
      obtain ⟨hdir, -, hrest⟩ := walk_cons.mp hwalk
      refine ih ?_ hrest
      unfold onward
      split
      · exact h.dropLast
      · exact h.concat hdir part

/-- What goes up at its end leads to a directory. -/
theorem Anchored.isDir_of_up {front : List String} (h : fs.Anchored here)
    (hwalk : fs.walk here (front ++ [".."]) = .ok place) : fs.IsDir place := by
  obtain ⟨middle, hfront, hup⟩ := walk_append.mp hwalk
  obtain ⟨hdir, rfl⟩ := walk_one hup
  exact (h.walk hfront).isDir_dropLast hdir

/-! ### Paths -/

/-- Where the walk along a path starts. -/
def start (here : Place) (path : String) : Place := if Path.isAbsolute path then [] else here

theorem Anchored.start (h : fs.Anchored here) (path : String) : fs.Anchored (start here path) := by
  unfold FileSystem.start
  split
  · exact anchored_root fs
  · exact h

/-- What is seen from a directory starts where the directory does, or at the root. -/
theorem Anchored.start_join {dir : String} (h : fs.Anchored (FileSystem.start here dir))
    (name : String) : fs.Anchored (FileSystem.start here (Path.join dir name)) := by
  cases habsolute : Path.isAbsolute name with
  | true =>
      have hjoin : Path.join dir name = name := by
        unfold Path.join
        rw [if_pos habsolute]
      unfold FileSystem.start
      rw [hjoin, if_pos habsolute]
      exact anchored_root fs
  | false =>
      unfold FileSystem.start at h ⊢
      rwa [Path.isAbsolute_join dir habsolute]

theorem locate_walk (h : fs.locate here path = .ok place) :
    fs.walk (start here path) (Path.parts path) = .ok place := by
  unfold locate at h
  split at h
  · cases h
  · split at h
    · cases h
    · split at h
      · cases h
      · exact h

theorem locate_keep (hkeep : fs.KeepsDirs fs') (h : fs.locate here path = .ok place) :
    fs'.locate here path = .ok place := by
  have hwalk := walk_keep hkeep (locate_walk h)
  unfold locate at h ⊢
  split at h
  · cases h
  · rename_i hnul
    rw [if_neg hnul]
    split at h
    · cases h
    · rename_i hempty
      rw [if_neg hempty]
      split at h
      · cases h
      · rename_i hsize
        rw [if_neg hsize]
        exact hwalk

/-! ### Writing -/

theorem writable_ok (h : fs.writable here path = .ok place) :
    fs.locate here path = .ok place ∧ ¬ fs.IsDir place ∧ asksForDirectory path = false := by
  unfold writable at h
  split at h
  · cases h
  · rename_i found hfound
    split at h
    · cases h
    · split at h
      · cases h
      · rename_i node hnode hat
        split at h
        · cases h
        · rename_i hasks
          cases h
          refine ⟨hfound, fun ⟨mode, hdir⟩ => ?_, by simpa using hasks⟩
          exact hnode mode (Option.some.inj (hat.symm.trans hdir))
      · rename_i hat
        split at h
        · cases h
        · rename_i hasks
          split at h
          · cases h
            refine ⟨hfound, fun ⟨mode, hdir⟩ => ?_, by simpa using hasks⟩
            cases hat.symm.trans hdir
          · cases h
          · cases h

/-- No file is written to a path that ends as a directory. -/
theorem Anchored.not_endsAsDirectory (hstart : fs.Anchored (FileSystem.start here path))
    (h : fs.writable here path = .ok place) : Path.endsAsDirectory path = false := by
  obtain ⟨hfound, hdir, hasks⟩ := writable_ok h
  cases hends : Path.endsAsDirectory path with
  | false => rfl
  | true =>
      have hup : (Path.parts path).getLast? = some ".." := by
        simpa [asksForDirectory, hends] using hasks
      obtain ⟨front, hparts⟩ := List.getLast?_eq_some_iff.mp hup
      have hwalk := locate_walk hfound
      rw [hparts] at hwalk
      exact absurd (hstart.isDir_of_up hwalk) hdir

/-- A path leads to a file with this content that anybody may execute, or to the null device. -/
structure Written (fs : FileSystem) (here : Place) (path : String) (content : Bytes) : Prop where
  leads : ∃ place, fs.locate here path = .ok place ∧
    (fs.at? place = some (.file content executableMode) ∨ fs.at? place = some .nullDevice)
  asks : asksForDirectory path = false

theorem Written.find {content : Bytes} (h : Written fs here path content)
    (hdevice : fs.find here path ≠ .ok .nullDevice) :
    fs.find here path = .ok (.file content executableMode) := by
  obtain ⟨⟨place, hplace, hat⟩, hasks⟩ := h
  unfold FileSystem.find at hdevice ⊢
  rw [hplace] at hdevice ⊢
  cases hat with
  | inl hfile => simp [hfile, hasks]
  | inr hnull => simp [hnull, hasks] at hdevice

end Pipeline.FileSystem
