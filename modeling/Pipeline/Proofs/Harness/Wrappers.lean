import Pipeline.Proofs.Harness.Faults
import Pipeline.Proofs.Machine.Deposit

/-!
# Writing the wrappers

The wrappers are written one after the other into one directory. None of them is a directory or
stands in the way of another, so they can all be written if each of them could be written at the
start (`Admits`), and then they amount to deposits (`writeWrappers_of_admits`). Wrappers of one base
name are written to one file in turn; if the stubs are sound these agree, and each wrapper is there
in the end (`written_depositAll`).
-/

namespace Pipeline.Harness
open FileSystem (Agree Anchored SameDirs Written depositAll)

section
variable {here inside : Place} {dir : String} {fs fs' : FileSystem} {names : List String}
  {wrappers : List (String × String)}

/-- Whatever has the base name of a program for its name, and can be written, has a proper name. -/
theorem isName_of_writable {path : String} {place : Place}
    (hstart : fs.Anchored (FileSystem.start here dir))
    (h : fs.writable here (Path.join dir (Command.programName path)) = .ok place) :
    Path.IsName (Command.programName path) := by
  have hends := (hstart.start_join _).not_endsAsDirectory h
  rw [Path.endsAsDirectory_join] at hends
  exact Path.isName_programName path hends

/-- Base names of programs. -/
def AreBaseNames (wrappers : List (String × String)) : Prop :=
  ∀ w ∈ wrappers, ∃ path, w.1 = Command.programName path

/-- Files with these names can be written to the directory `dir`, which is at `inside`. -/
def Admits (fs : FileSystem) (here : Place) (dir : String) (inside : Place)
    (names : List String) : Prop :=
  ∀ name ∈ names, Path.IsName name ∧
    fs.writable here (Path.join dir name) = .ok (inside ++ [name])

theorem Admits.keep (h : Admits fs here dir inside names) (hdirs : fs.SameDirs fs') :
    Admits fs' here dir inside names := by
  intro name hname
  obtain ⟨hproper, hwritable⟩ := h name hname
  exact ⟨hproper, (hdirs.writable_join hproper).mpr hwritable⟩

theorem Admits.not_isDir (h : Admits fs here dir inside names) {name : String}
    (hname : name ∈ names) : ¬ fs.IsDir (inside ++ [name]) :=
  (FileSystem.writable_ok (h name hname).2).2.1

/-- One wrapper that is written: its place, and what is left to write. -/
theorem writeWrappers_cons {w : String × String}
    (h : writeWrappers here dir (w :: wrappers) fs = (.ok (), fs')) :
    ∃ place, fs.writable here (Path.join dir w.1) = .ok place ∧
      writeWrappers here dir wrappers (fs.deposit place (Utf8.encode w.2)) = (.ok (), fs') := by
  unfold writeWrappers at h
  cases hwritten : fs.writeExecutable here (Path.join dir w.1) (Utf8.encode w.2) with
  | error e =>
      simp only [hwritten] at h
      cases h
  | ok written =>
      obtain ⟨place, hplace, rfl⟩ := FileSystem.writeExecutable_ok hwritten
      simp only [hwritten] at h
      exact ⟨place, hplace, h⟩

/-- A base name that can be written is written to a file of the directory. -/
theorem place_of_writable {name : String} {place : Place}
    (hstart : fs.Anchored (FileSystem.start here dir))
    (hname : ∃ path, name = Command.programName path)
    (h : fs.writable here (Path.join dir name) = .ok place) :
    Path.IsName name ∧ ∃ inside, place = inside ++ [name] ∧
      fs.walk (FileSystem.start here dir) (Path.parts dir) = .ok inside := by
  obtain ⟨path, rfl⟩ := hname
  have hproper := isName_of_writable hstart h
  obtain ⟨inside, hinside, -, hplace⟩ :=
    FileSystem.locate_join hproper (FileSystem.writable_ok h).1
  exact ⟨hproper, inside, hplace, hinside⟩

/-- What was written could be written at the start, since each wrapper changes files only. -/
theorem admits_inside (hstart : fs.Anchored (FileSystem.start here dir))
    (hnames : AreBaseNames wrappers)
    (hinside : fs.walk (FileSystem.start here dir) (Path.parts dir) = .ok inside)
    (h : writeWrappers here dir wrappers fs = (.ok (), fs')) :
    Admits fs here dir inside (wrappers.map Prod.fst) := by
  induction wrappers generalizing fs with
  | nil => exact fun name hname => absurd hname List.not_mem_nil
  | cons w ws ih =>
      obtain ⟨place, hplace, hrest⟩ := writeWrappers_cons h
      obtain ⟨hname, hothers⟩ := List.forall_mem_cons.mp hnames
      obtain ⟨hproper, found, rfl, hfound⟩ := place_of_writable hstart hname hplace
      cases hinside.symm.trans hfound
      have hdirs := FileSystem.sameDirs_deposit (FileSystem.writable_ok hplace).2.1
        (Utf8.encode w.2)
      have hthere := ih (hstart.keep hdirs.keepsDirs) hothers
        (FileSystem.walk_keep hdirs.keepsDirs hinside) hrest
      rw [List.map_cons]
      exact List.forall_mem_cons.mpr ⟨⟨hproper, hplace⟩, hthere.keep hdirs.symm⟩

theorem admits_of_written (hstart : fs.Anchored (FileSystem.start here dir))
    (hnames : AreBaseNames wrappers)
    (h : writeWrappers here dir wrappers fs = (.ok (), fs')) :
    ∃ inside, Admits fs here dir inside (wrappers.map Prod.fst) := by
  cases wrappers with
  | nil => exact ⟨[], fun name hname => absurd hname List.not_mem_nil⟩
  | cons w ws =>
      obtain ⟨place, hplace, -⟩ := writeWrappers_cons h
      obtain ⟨-, inside, -, hinside⟩ :=
        place_of_writable hstart (hnames w List.mem_cons_self) hplace
      exact ⟨inside, admits_inside hstart hnames hinside h⟩

/-- If all wrappers can be written, they are, as deposits. -/
theorem writeWrappers_of_admits (h : Admits fs here dir inside (wrappers.map Prod.fst)) :
    writeWrappers here dir wrappers fs =
      (.ok (), depositAll inside (wrappers.map fun w => (w.1, Utf8.encode w.2)) fs) := by
  induction wrappers generalizing fs with
  | nil => rfl
  | cons w ws ih =>
      obtain ⟨⟨hproper, hplace⟩, hothers⟩ := List.forall_mem_cons.mp h
      have hdirs := FileSystem.sameDirs_deposit (FileSystem.writable_ok hplace).2.1
        (Utf8.encode w.2)
      have hrest := ih (Admits.keep hothers hdirs)
      unfold writeWrappers
      rw [FileSystem.writeExecutable_of_writable hplace]
      exact hrest

end

/-! ### The wrappers of a harness -/

/-- The wrapper for a stub, as a file. -/
def wrapperFile (h : Harness) (bash : String) (s : Stub) : String × Bytes :=
  (s.binary, Utf8.encode (Wrapper.script bash s.path h.launch.selfExe h.testName))

def wrapperFiles (h : Harness) (bash : String) : List (String × Bytes) :=
  h.stubs.map (h.wrapperFile bash)

section
variable {h : Harness} {here inside : Place} {dir : String} {fs fs' : FileSystem}

theorem agree_wrapperFiles (hsound : Sound h.stubs) (bash : String) :
    Agree (h.wrapperFiles bash) := by
  intro file hfile other hother hname
  obtain ⟨s, hs, rfl⟩ := List.mem_map.mp hfile
  obtain ⟨t, ht, rfl⟩ := List.mem_map.mp hother
  unfold wrapperFile
  rw [hsound.shared s hs t ht hname]

theorem map_fst_wrappers (h : Harness) (bash : String) :
    (h.wrappers bash).map Prod.fst = h.stubs.map Stub.binary := by
  simp [wrappers, Function.comp_def]

theorem writeWrappers_eq (bash : String)
    (hadmits : Admits fs here dir inside (h.stubs.map Stub.binary)) :
    writeWrappers here dir (h.wrappers bash) fs =
      (.ok (), depositAll inside (h.wrapperFiles bash) fs) := by
  have hfiles : ((h.wrappers bash).map fun w => (w.1, Utf8.encode w.2)) = h.wrapperFiles bash := by
    simp [wrapperFiles, wrapperFile, wrappers, Function.comp_def]
  rw [← map_fst_wrappers h bash] at hadmits
  rw [writeWrappers_of_admits hadmits, hfiles]

/-- A directory admits the wrappers that were written to it. -/
theorem admits_wrappers {bash : String} (hstart : fs.Anchored (FileSystem.start here dir))
    (hwrite : writeWrappers here dir (h.wrappers bash) fs = (.ok (), fs')) :
    ∃ inside, Admits fs here dir inside (h.stubs.map Stub.binary) := by
  have hnames : AreBaseNames (h.wrappers bash) := by
    intro w hw
    obtain ⟨s, -, rfl⟩ := List.mem_map.mp hw
    exact ⟨s.command.path, rfl⟩
  rw [← map_fst_wrappers h bash]
  exact admits_of_written hstart hnames hwrite

theorem sameDirs_wrappers (bash : String)
    (hadmits : Admits fs here dir inside (h.stubs.map Stub.binary)) :
    fs.SameDirs (depositAll inside (h.wrapperFiles bash) fs) := by
  apply FileSystem.sameDirs_depositAll
  intro file hfile
  obtain ⟨s, hs, rfl⟩ := List.mem_map.mp hfile
  exact hadmits.not_isDir (List.mem_map_of_mem hs)

/-- Each wrapper is there in the end. -/
theorem written_depositAll (hsound : Sound h.stubs) (bash : String)
    (hadmits : Admits fs here dir inside (h.stubs.map Stub.binary)) {s : Stub} (hs : s ∈ h.stubs) :
    Written (depositAll inside (h.wrapperFiles bash) fs) here (Path.join dir s.binary)
      (Utf8.encode (Wrapper.script bash s.path h.launch.selfExe h.testName)) := by
  obtain ⟨hplace, -, hasks⟩ :=
    FileSystem.writable_ok (hadmits s.binary (List.mem_map_of_mem hs)).2
  have hfile : h.wrapperFile bash s ∈ h.wrapperFiles bash := List.mem_map_of_mem hs
  have hat : (depositAll inside (h.wrapperFiles bash) fs).at? (inside ++ [s.binary]) = _ :=
    FileSystem.at?_depositAll fs (agree_wrapperFiles hsound bash) hfile
  refine ⟨⟨_, (sameDirs_wrappers bash hadmits).locate.mpr hplace, ?_⟩, hasks⟩
  split at hat
  · exact .inr hat
  · exact .inl hat

end
end Pipeline.Harness
