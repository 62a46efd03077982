import Pipeline.Harness.Launch
import Pipeline.Proofs.Machine.FileSystem

/-!
# Many files in one directory

Writing a file for execution at a place it can be written to amounts to a `deposit` there. No
directory comes or goes with it (`SameDirs`), so deposits do not decide whether later ones are
possible. In one directory deposits under different names commute, and of those under one name the
last one counts; so the order of files that agree does not matter (`depositAll_perm`), and files
that are written over others leave nothing of them (`depositAll_absorb`).
-/

namespace Pipeline.FileSystem
open Pipeline.Path (IsName)

variable {fs fs' fs'' : FileSystem} {here place place' : Place} {path dir name : String}
  {content content' : Bytes}

/-! ### The same directories -/

def SameDirs (fs fs' : FileSystem) : Prop := ∀ place, fs'.IsDir place ↔ fs.IsDir place

theorem SameDirs.refl (fs : FileSystem) : fs.SameDirs fs := fun _ => .rfl

theorem SameDirs.symm (h : fs.SameDirs fs') : fs'.SameDirs fs := fun place => (h place).symm

theorem SameDirs.trans (h : fs.SameDirs fs') (h' : fs'.SameDirs fs'') : fs.SameDirs fs'' :=
  fun place => (h' place).trans (h place)

theorem SameDirs.keepsDirs (h : fs.SameDirs fs') : fs.KeepsDirs fs' := fun place => (h place).mpr

theorem SameDirs.locate (h : fs.SameDirs fs') :
    fs'.locate here path = .ok place ↔ fs.locate here path = .ok place :=
  ⟨locate_keep h.symm.keepsDirs, locate_keep h.keepsDirs⟩

theorem sameDirs_put {node : Node} (h : ¬ fs.IsDir place) (hnode : ∀ mode, node ≠ .dir mode) :
    fs.SameDirs (fs.put place node) := by
  have hplace := ne_nil_of_not_isDir h
  intro other
  constructor
  · rintro ⟨mode, hmode⟩
    by_cases hroot : other = []
    · exact hroot ▸ isDir_root fs
    · by_cases hsame : absolute other = absolute place
      · rw [at?_congr _ hroot hplace hsame, at?_put_self fs node hplace] at hmode
        exact absurd (Option.some.inj hmode) (hnode mode)
      · rw [at?_put_of_ne fs node hsame] at hmode
        exact ⟨mode, hmode⟩
  · exact keepsDirs_put h node other

/-! ### Files in a directory -/

/-- What a path leads through before the name at its end. -/
theorem locate_join (hname : IsName name) (h : fs.locate here (Path.join dir name) = .ok place) :
    ∃ inside, fs.walk (start here dir) (Path.parts dir) = .ok inside ∧ fs.IsDir inside ∧
      place = inside ++ [name] := by
  have hwalk := locate_walk h
  have hstart : start here (Path.join dir name) = start here dir := by
    unfold start
    rw [Path.isAbsolute_join dir hname.isAbsolute]
  rw [hstart, Path.parts_join dir hname.isAbsolute, hname.parts] at hwalk
  obtain ⟨inside, hfront, hback⟩ := walk_append.mp hwalk
  obtain ⟨hdir, hplace⟩ := walk_one hback
  exact ⟨inside, hfront, hdir, by rw [hplace, onward_name _ hname]⟩

/-- A file can be written under a name unless a directory has it. -/
theorem writable_join (hname : IsName name) :
    fs.writable here (Path.join dir name) = .ok place ↔
      fs.locate here (Path.join dir name) = .ok place ∧ ¬ fs.IsDir place := by
  constructor
  · intro h
    obtain ⟨hplace, hdir, -⟩ := writable_ok h
    exact ⟨hplace, hdir⟩
  · rintro ⟨hplace, hdir⟩
    have hasks : asksForDirectory (Path.join dir name) = false := by
      unfold asksForDirectory
      rw [Path.endsAsDirectory_join, hname.endsAsDirectory, Bool.false_and]
    have hslash : (Path.join dir name).toList.getLast? ≠ some '/' := by
      rw [hname.getLast?_join]
      exact fun hlast => hname.noSlash (List.mem_of_getLast? hlast)
    obtain ⟨inside, -, ⟨mode, hinside⟩, rfl⟩ := locate_join hname hplace
    unfold writable
    rw [hplace]
    simp only [if_neg hslash, hasks]
    cases hat : fs.at? (inside ++ [name]) with
    | none => simp [hinside]
    | some node =>
        cases node with
        | dir mode => exact absurd ⟨mode, hat⟩ hdir
        | file bytes mode => rfl
        | tool name => rfl
        | nullDevice => rfl

theorem SameDirs.writable_join (hname : IsName name) (h : fs.SameDirs fs') :
    fs'.writable here (Path.join dir name) = .ok place ↔
      fs.writable here (Path.join dir name) = .ok place := by
  rw [FileSystem.writable_join hname, FileSystem.writable_join hname, h.locate, h place]

/-! ### Deposits -/

/-- Leaves a file for execution at a place. The null device takes it and stays. -/
def deposit (fs : FileSystem) (place : Place) (content : Bytes) : FileSystem :=
  if fs.at? place = some .nullDevice then fs else fs.put place (.file content executableMode)

theorem put_put (fs : FileSystem) (place : Place) (node node' : Node) :
    (fs.put place node).put place node' = fs.put place node' := by
  unfold put
  congr 1
  apply Dict.ext_get?
  intro key
  simp only [Dict.get?_insert]
  split <;> rfl

theorem put_comm (fs : FileSystem) (node node' : Node) (h : absolute place ≠ absolute place') :
    (fs.put place node).put place' node' = (fs.put place' node').put place node := by
  unfold put
  congr 1
  apply Dict.ext_get?
  intro key
  simp only [Dict.get?_insert]
  by_cases hkey : key = absolute place
  · subst hkey
    simp [h]
  · simp [hkey]

theorem keepsDirs_fill (h : ¬ fs.IsDir place) (content : Bytes) :
    fs.KeepsDirs (fs.fill place content) := by
  unfold fill
  split
  · exact .refl fs
  · exact keepsDirs_put h _
  · exact keepsDirs_put h _
  · exact keepsDirs_put h _

theorem writeExecutable_of_writable (h : fs.writable here path = .ok place) (content : Bytes) :
    fs.writeExecutable here path content = .ok (fs.deposit place content) := by
  obtain ⟨hplace, hdir, -⟩ := writable_ok h
  have hkept := keepsDirs_fill hdir content
  have hroot := ne_nil_of_not_isDir hdir
  unfold writeExecutable write
  rw [h]
  simp only [setMode, locate_keep hkept hplace]
  unfold deposit fill
  cases hat : fs.at? place with
  | none => simp [at?_put_self _ _ hroot, put_put]
  | some node =>
      cases node with
      | dir mode => exact absurd ⟨mode, hat⟩ hdir
      | file bytes mode => simp [at?_put_self _ _ hroot, put_put]
      | tool name => simp [at?_put_self _ _ hroot, put_put]
      | nullDevice => simp [hat]

theorem writeExecutable_ok (h : fs.writeExecutable here path content = .ok fs') :
    ∃ place, fs.writable here path = .ok place ∧ fs' = fs.deposit place content := by
  cases hplace : fs.writable here path with
  | error e =>
      unfold writeExecutable write at h
      simp [hplace] at h
  | ok place =>
      rw [writeExecutable_of_writable hplace] at h
      exact ⟨place, rfl, (Except.ok.inj h).symm⟩

theorem at?_deposit_of_ne (fs : FileSystem) (content : Bytes)
    (h : absolute place' ≠ absolute place) :
    (fs.deposit place content).at? place' = fs.at? place' := by
  unfold deposit
  split
  · rfl
  · exact at?_put_of_ne fs _ h

theorem at?_deposit_self (fs : FileSystem) (content : Bytes) (hroot : place ≠ []) :
    (fs.deposit place content).at? place =
      if fs.at? place = some .nullDevice then some .nullDevice
      else some (.file content executableMode) := by
  unfold deposit
  split
  · assumption
  · exact at?_put_self fs _ hroot

theorem at?_deposit_cases (fs : FileSystem) (place' : Place) (hroot : place ≠ [])
    (content : Bytes) : (fs.deposit place content).at? place' = fs.at? place' ∨
      (fs.deposit place content).at? place' = some (.file content executableMode) := by
  by_cases hsame : absolute place' = absolute place
  · by_cases hroot' : place' = []
    · subst hroot'
      exact .inl rfl
    · rw [at?_congr fs hroot' hroot hsame, at?_congr _ hroot' hroot hsame,
        at?_deposit_self fs content hroot]
      split
      · rename_i hnull
        exact .inl hnull.symm
      · exact .inr rfl
  · exact .inl (at?_deposit_of_ne fs content hsame)

/-- Neither does a deposit put the null device anywhere, nor does it remove it. -/
theorem nullDevice_deposit (fs : FileSystem) (hroot : place ≠ []) (content : Bytes) :
    (fs.deposit place content).at? place' = some .nullDevice ↔
      fs.at? place' = some .nullDevice := by
  by_cases hsame : absolute place' = absolute place
  · by_cases hroot' : place' = []
    · subst hroot'
      exact .rfl
    · rw [at?_congr fs hroot' hroot hsame, at?_congr _ hroot' hroot hsame,
        at?_deposit_self fs content hroot]
      split <;> simp_all
  · rw [at?_deposit_of_ne fs content hsame]

theorem sameDirs_deposit (h : ¬ fs.IsDir place) (content : Bytes) :
    fs.SameDirs (fs.deposit place content) := by
  unfold deposit
  split
  · exact .refl fs
  · exact sameDirs_put h fun _ hnode => by cases hnode

theorem deposit_deposit (fs : FileSystem) (hroot : place ≠ []) (content content' : Bytes) :
    (fs.deposit place content).deposit place content' = fs.deposit place content' := by
  by_cases hnull : fs.at? place = some .nullDevice
  · simp [deposit, hnull]
  · simp [deposit, hnull, at?_put_self fs _ hroot, put_put]

theorem deposit_comm (fs : FileSystem) (content content' : Bytes)
    (h : absolute place ≠ absolute place') :
    (fs.deposit place content).deposit place' content' =
      (fs.deposit place' content').deposit place content := by
  have hthere := at?_deposit_of_ne fs content h.symm
  have hhere := at?_deposit_of_ne fs content' h
  unfold deposit at hthere hhere ⊢
  rw [hthere, hhere]
  by_cases hnull : fs.at? place = some .nullDevice
  · simp [hnull]
  · by_cases hnull' : fs.at? place' = some .nullDevice
    · simp [hnull, hnull']
    · simp only [if_neg hnull, if_neg hnull']
      exact put_comm fs _ _ h

/-! ### Many deposits -/

/-- Leaves files in a directory in turn, each with its name. -/
def depositAll (place : Place) (files : List (String × Bytes)) (fs : FileSystem) : FileSystem :=
  files.foldl (fun fs file => fs.deposit (place ++ [file.1]) file.2) fs

/-- Files of one name have one content. -/
def Agree (files : List (String × Bytes)) : Prop :=
  ∀ file ∈ files, ∀ other ∈ files, other.1 = file.1 → other.2 = file.2

variable {files files' : List (String × Bytes)}

theorem deposits_commute (fs : FileSystem) (place : Place) {file other : String × Bytes}
    (h : other.1 = file.1 → other.2 = file.2) :
    (fs.deposit (place ++ [file.1]) file.2).deposit (place ++ [other.1]) other.2 =
      (fs.deposit (place ++ [other.1]) other.2).deposit (place ++ [file.1]) file.2 := by
  by_cases hname : other.1 = file.1
  · rw [hname, h hname]
  · exact deposit_comm fs _ _ fun heq => hname (absolute_concat_inj heq).symm

/-- The order of files that agree does not matter. -/
theorem depositAll_perm (place : Place) (fs : FileSystem) (hperm : files.Perm files')
    (hagree : Agree files) : depositAll place files fs = depositAll place files' fs := by
  apply hperm.foldl_eq'
  intro file hfile other hother fs
  exact deposits_commute fs place (hagree file hfile other hother)

/-- Nothing is left of a file when others are written, one of them under its name. -/
theorem depositAll_deposit (place : Place) (fs : FileSystem) {file : String × Bytes}
    (hagree : Agree files) (hover : ∃ other ∈ files, other.1 = file.1) :
    depositAll place files (fs.deposit (place ++ [file.1]) file.2) = depositAll place files fs := by
  obtain ⟨other, hother, hname⟩ := hover
  have hfront := List.perm_cons_erase hother
  have hover := deposit_deposit fs (List.concat_ne_nil other.1 place) file.2 other.2
  rw [depositAll_perm place _ hfront hagree, depositAll_perm place fs hfront hagree]
  simp only [depositAll, List.foldl_cons, ← hname, hover]

/-- Nothing is left of files that are written over. -/
theorem depositAll_absorb (place : Place) (fs : FileSystem) (hagree : Agree files')
    (hover : ∀ file ∈ files, ∃ other ∈ files', other.1 = file.1) :
    depositAll place files' (depositAll place files fs) = depositAll place files' fs := by
  induction files generalizing fs with
  | nil => rfl
  | cons file files ih =>
      obtain ⟨hfile, hfiles⟩ := List.forall_mem_cons.mp hover
      have hrest := ih (fs.deposit (place ++ [file.1]) file.2) hfiles
      rw [depositAll_deposit place fs hagree hfile] at hrest
      exact hrest

/-- What is at a place of another name stays. -/
theorem at?_depositAll_of_ne (fs : FileSystem)
    (h : ∀ file ∈ files, absolute place' ≠ absolute (place ++ [file.1])) :
    (depositAll place files fs).at? place' = fs.at? place' := by
  induction files generalizing fs with
  | nil => rfl
  | cons file files ih =>
      obtain ⟨hfile, hfiles⟩ := List.forall_mem_cons.mp h
      have hrest := ih (fs.deposit (place ++ [file.1]) file.2) hfiles
      rw [at?_deposit_of_ne fs file.2 hfile] at hrest
      exact hrest

theorem nullDevice_depositAll (fs : FileSystem) (place' : Place) :
    (depositAll place files fs).at? place' = some .nullDevice ↔
      fs.at? place' = some .nullDevice := by
  induction files generalizing fs with
  | nil => exact .rfl
  | cons file files ih =>
      exact (ih _).trans (nullDevice_deposit fs (List.concat_ne_nil file.1 place) file.2)

/-- Each file is there in the end, unless the null device has its name. -/
theorem at?_depositAll (fs : FileSystem) (hagree : Agree files) {file : String × Bytes}
    (hfile : file ∈ files) :
    (depositAll place files fs).at? (place ++ [file.1]) =
      if fs.at? (place ++ [file.1]) = some .nullDevice then some .nullDevice
      else some (.file file.2 executableMode) := by
  have hlast : files.Perm (files.erase file ++ [file]) :=
    (List.perm_cons_erase hfile).trans (List.perm_append_singleton file _).symm
  have hroot := List.concat_ne_nil file.1 place
  rw [depositAll_perm place fs hlast hagree, depositAll, List.foldl_append]
  have hself := at?_deposit_self (depositAll place (files.erase file) fs) file.2 hroot
  simp only [nullDevice_depositAll] at hself
  exact hself

theorem sameDirs_depositAll (h : ∀ file ∈ files, ¬ fs.IsDir (place ++ [file.1])) :
    fs.SameDirs (depositAll place files fs) := by
  induction files generalizing fs with
  | nil => exact .refl fs
  | cons file files ih =>
      obtain ⟨hfile, hfiles⟩ := List.forall_mem_cons.mp h
      have hfirst := sameDirs_deposit hfile file.2
      have hrest := ih fun other hother => (hfirst _).not.mpr (hfiles other hother)
      exact hfirst.trans hrest

/-! ### Programs -/

/-- Whether what stands at a place can be run. -/
def IsProgram : Node → Prop
  | .file _ mode => allowsExecution mode = true
  | .tool _ => True
  | _ => False

theorem isExecutable_iff :
    fs.isExecutable here path = true ↔ asksForDirectory path = false ∧
      ∃ place node, fs.locate here path = .ok place ∧ fs.at? place = some node ∧
        IsProgram node := by
  unfold isExecutable FileSystem.find IsProgram
  cases fs.locate here path with
  | error e => simp
  | ok place =>
      cases hat : fs.at? place with
      | none => simp [hat]
      | some node => cases node <;> by_cases hasks : asksForDirectory path = true <;> simp [hat, hasks]

/-- Whatever is found after deposits was there before, or is one of them. -/
theorem at?_depositAll_cases (fs : FileSystem) (place place' : Place)
    (files : List (String × Bytes)) :
    (depositAll place files fs).at? place' = fs.at? place' ∨
      ∃ content, (depositAll place files fs).at? place' =
        some (.file content executableMode) := by
  induction files generalizing fs with
  | nil => exact .inl rfl
  | cons file files ih =>
      cases ih (fs.deposit (place ++ [file.1]) file.2) with
      | inr hfile => exact .inr hfile
      | inl hsame =>
          have hroot := List.concat_ne_nil file.1 place
          rcases at?_deposit_cases fs place' hroot file.2 with hkept | hfile
          · exact .inl (hsame.trans hkept)
          · exact .inr ⟨_, hsame.trans hfile⟩

/-- A program is not lost to deposits. -/
theorem isExecutable_depositAll (hdirs : fs.SameDirs (depositAll place files fs))
    (h : fs.isExecutable here path = true) :
    (depositAll place files fs).isExecutable here path = true := by
  obtain ⟨hasks, place', node, hplace, hat, hprogram⟩ := isExecutable_iff.mp h
  refine isExecutable_iff.mpr ⟨hasks, place', ?_⟩
  cases at?_depositAll_cases fs place place' files with
  | inl hsame => exact ⟨node, hdirs.locate.mpr hplace, hsame.trans hat, hprogram⟩
  | inr hfile =>
      obtain ⟨content, hfile⟩ := hfile
      exact ⟨_, hdirs.locate.mpr hplace, hfile, rfl⟩

theorem split_absolute (place : Place) (name : String) :
    ∃ front, Text.split '/' (absolute (place ++ [name])).toList =
      front ++ Text.split '/' name.toList := by
  have hbar : "/".toList = ['/'] := rfl
  cases place with
  | nil =>
      refine ⟨Text.split '/' [], ?_⟩
      rw [← Text.split_append]
      simp [absolute, hbar]
  | cons part parts =>
      refine ⟨Text.split '/' ('/' :: ("/".intercalate (part :: parts)).toList), ?_⟩
      rw [← Text.split_append, absolute,
        String.intercalate_append_of_ne_nil (List.cons_ne_nil part parts) (List.cons_ne_nil _ _)]
      simp [hbar]

/-- Things of different names are filed under different paths, wherever they are. -/
theorem name_eq_of_absolute {name' : String} (hname : IsName name) (hname' : IsName name')
    (h : absolute (place ++ [name]) = absolute (place' ++ [name'])) : name = name' := by
  obtain ⟨front, hfront⟩ := split_absolute place name
  obtain ⟨front', hfront'⟩ := split_absolute place' name'
  rw [h, hfront', Text.split_of_not_mem hname.noSlash, Text.split_of_not_mem hname'.noSlash] at hfront
  have hlast := (List.append_inj' hfront rfl).2
  rw [List.singleton_inj, String.toList_inj] at hlast
  exact hlast.symm

/-- Whether a path leads to a program is not changed by deposits under other names. -/
theorem isExecutable_depositAll_of_ne (hname : IsName name)
    (hdirs : fs.SameDirs (depositAll place files fs))
    (hfiles : ∀ file ∈ files, IsName file.1 ∧ file.1 ≠ name) (dir : String) :
    (depositAll place files fs).isExecutable here (Path.join dir name) =
      fs.isExecutable here (Path.join dir name) := by
  have hkept : ∀ found, fs.locate here (Path.join dir name) = .ok found →
      (depositAll place files fs).at? found = fs.at? found := by
    intro found hfound
    obtain ⟨inside, -, -, rfl⟩ := locate_join hname hfound
    apply at?_depositAll_of_ne
    intro file hfile heq
    obtain ⟨hproper, hne⟩ := hfiles file hfile
    exact hne (name_eq_of_absolute hname hproper heq).symm
  rw [Bool.eq_iff_iff, isExecutable_iff, isExecutable_iff]
  refine and_congr_right fun _ => exists_congr fun found => exists_congr fun node => ?_
  rw [hdirs.locate]
  refine and_congr_right fun hfound => ?_
  rw [hkept found hfound]

end Pipeline.FileSystem

namespace Pipeline.Launch
open FileSystem

variable {fs : FileSystem} {here place : Place} {program : String}
  {files : List (String × Bytes)}

/-- Deposits under other names do not change what a search finds. -/
theorem lookupProgram_depositAll (l : Launch) (hprogram : Path.IsName program)
    (hdirs : fs.SameDirs (depositAll place files fs))
    (hfiles : ∀ file ∈ files, Path.IsName file.1 ∧ file.1 ≠ program) :
    l.lookupProgram (depositAll place files fs) here program =
      l.lookupProgram fs here program := by
  have hname : Path.hasSlash program = false := by
    simpa [Path.hasSlash] using hprogram.noSlash
  have hsame (dir : String) :
      (depositAll place files fs).isExecutable here (Path.join dir program) = _ :=
    isExecutable_depositAll_of_ne hprogram hdirs hfiles dir
  unfold lookupProgram
  rw [if_neg (by simp [hname]), if_neg (by simp [hname])]
  cases l.env.get? searchVariable with
  | none => rfl
  | some dirs => simp only [List.find?_map, Function.comp_def, hsame]

/-- A search that found a program finds one after deposits too. -/
theorem lookupProgram_depositAll_isSome (l : Launch)
    (hdirs : fs.SameDirs (depositAll place files fs))
    (hfound : (l.lookupProgram fs here program).isSome) :
    (l.lookupProgram (depositAll place files fs) here program).isSome := by
  unfold lookupProgram at hfound ⊢
  split at hfound
  · rename_i hslash
    rw [if_pos hslash]
    split at hfound
    · rename_i hrun
      rw [if_pos (isExecutable_depositAll hdirs hrun)]
      rfl
    · cases hfound
  · rename_i hslash
    rw [if_neg hslash]
    cases hdirsList : l.env.get? searchVariable with
    | none => simp [hdirsList] at hfound
    | some dirs =>
        simp only [hdirsList, List.find?_isSome] at hfound ⊢
        obtain ⟨candidate, hcandidate, hrun⟩ := hfound
        exact ⟨candidate, hcandidate, isExecutable_depositAll hdirs hrun⟩

end Pipeline.Launch
