import Pipeline.Proofs.Harness.Installed

/-!
# All wrappers or none

As long as the file system does not fail, an installation is told by its stubs. If one of them is at
fault, or there is no interpreter for wrappers, then no file is written; otherwise there is one
wrapper for each base name in the end (`Filled`). Writing the wrappers amounts to as many deposits
in one directory (`writeWrappers_eq`), so the order of the stubs does not show, and writing them
again leaves them as they are. Only the interpreter may be another one the second time: a wrapper
that is called like it may be found in its place.
-/

namespace Pipeline.Harness
open FileSystem (Anchored Agree SameDirs Written absolute depositAll)

/-! ### Filling the directory -/

section
variable {h h' : Harness} {here inside : Place} {dir scratch bash : String}
  {fs ready files : FileSystem} {e : HarnessError}

/-- Filling a directory asks a harness for its stubs, its launch and its test only. -/
theorem fillDirectory_congr (hstubs : h'.stubs = h.stubs) (hlaunch : h'.launch = h.launch)
    (htest : h'.testName = h.testName) (here : Place) (dir : String) (fs : FileSystem) :
    h'.fillDirectory here dir fs = h.fillDirectory here dir fs := by
  unfold fillDirectory wrappers
  rw [hstubs, hlaunch, htest]

theorem fillDirectory_of_fault (h : Harness) (hfault : FirstFault h.stubs e) :
    h.fillDirectory here dir fs = (.error e, fs) := by
  unfold fillDirectory
  rw [hfault.found]

theorem fillDirectory_of_noBash (hsound : Sound h.stubs) (hsome : h.stubs ≠ [])
    (hbash : h.launch.lookupProgram fs here "bash" = none) :
    h.fillDirectory here dir fs = (.error .bashNotFound, fs) := by
  unfold fillDirectory
  rw [firstFault_of_sound hsound]
  simp only [if_neg hsome, hbash]

theorem fillDirectory_of_bash (hsound : Sound h.stubs)
    (hbash : h.stubs ≠ [] → h.launch.lookupProgram fs here "bash" = some bash)
    (hadmits : Admits fs here dir inside (h.stubs.map Stub.binary)) :
    h.fillDirectory here dir fs = (.ok (), depositAll inside (h.wrapperFiles bash) fs) := by
  unfold fillDirectory
  rw [firstFault_of_sound hsound]
  by_cases hnone : h.stubs = []
  · simp [hnone, wrapperFiles, depositAll]
  · simp only [if_neg hnone, hbash hnone, writeWrappers_eq bash hadmits]

/-- If the wrappers are not refused by the file system, they could be written at the start. -/
theorem admits_of_fillDirectory (hstart : fs.Anchored (FileSystem.start here dir))
    (hsound : Sound h.stubs)
    (hbash : h.stubs ≠ [] → h.launch.lookupProgram fs here "bash" = some bash)
    (hio : ∀ io, (h.fillDirectory here dir fs).1 ≠ .error (.io io)) :
    ∃ inside, Admits fs here dir inside (h.stubs.map Stub.binary) := by
  by_cases hnone : h.stubs = []
  · rw [hnone]
    exact ⟨[], fun name hname => absurd hname List.not_mem_nil⟩
  · unfold fillDirectory at hio
    rw [firstFault_of_sound hsound] at hio
    simp only [if_neg hnone, hbash hnone] at hio
    cases hwrite : writeWrappers here dir (h.wrappers bash) fs with
    | mk r written =>
        cases r with
        | ok u => exact admits_wrappers hstart hwrite
        | error io =>
            simp only [hwrite] at hio
            exact absurd rfl (hio io)

/-- The same stubs in another order are written as the same files. -/
theorem fillDirectory_perm {stubs : List Stub} (hperm : stubs.Perm h.stubs)
    (hsound : Sound h.stubs)
    (hbash : h.stubs ≠ [] → h.launch.lookupProgram fs here "bash" = some bash)
    (hadmits : Admits fs here dir inside (h.stubs.map Stub.binary)) :
    { h with stubs := stubs }.fillDirectory here dir fs =
      (.ok (), depositAll inside (h.wrapperFiles bash) fs) := by
  have hsound' : Sound stubs := hsound.perm hperm
  have hadmits' : Admits fs here dir inside (stubs.map Stub.binary) :=
    fun name hname => hadmits name ((hperm.map _).mem_iff.mp hname)
  have hbash' : stubs ≠ [] → h.launch.lookupProgram fs here "bash" = some bash :=
    fun hsome => hbash fun hnone => hsome (List.perm_nil.mp (hnone ▸ hperm))
  have hfiles : ({ h with stubs := stubs }.wrapperFiles bash).Perm (h.wrapperFiles bash) :=
    hperm.map (h.wrapperFile bash)
  have hfill : { h with stubs := stubs }.fillDirectory here dir fs = _ :=
    fillDirectory_of_bash hsound' hbash' hadmits'
  rw [hfill, FileSystem.depositAll_perm inside fs hfiles (agree_wrapperFiles hsound' bash)]

theorem isName_bash : Path.IsName "bash" := by constructor <;> decide

/-- Once the wrappers are written an interpreter is still found. It is the same one unless a wrapper
is called like it. -/
theorem bash_again
    (hbash : h.stubs ≠ [] → h.launch.lookupProgram fs here "bash" = some bash)
    (hadmits : Admits fs here dir inside (h.stubs.map Stub.binary)) :
    ∃ bash', (h.stubs ≠ [] → h.launch.lookupProgram
        (depositAll inside (h.wrapperFiles bash) fs) here "bash" = some bash') ∧
      ((∀ s ∈ h.stubs, s.binary ≠ "bash") → bash' = bash) := by
  have hdirs := sameDirs_wrappers bash hadmits
  by_cases hnone : h.stubs = []
  · exact ⟨bash, fun hsome => absurd hnone hsome, fun _ => rfl⟩
  · have hfound : (h.launch.lookupProgram fs here "bash").isSome := by
      rw [hbash hnone]
      rfl
    obtain ⟨bash', hbash'⟩ := Option.isSome_iff_exists.mp
      (h.launch.lookupProgram_depositAll_isSome hdirs hfound)
    refine ⟨bash', fun _ => hbash', fun hothers => ?_⟩
    rw [h.launch.lookupProgram_depositAll isName_bash hdirs, hbash hnone] at hbash'
    · exact (Option.some.inj hbash').symm
    · intro file hfile
      obtain ⟨s, hs, rfl⟩ := List.mem_map.mp hfile
      exact ⟨(hadmits s.binary (List.mem_map_of_mem hs)).1, hothers s hs⟩

/-- Filling the directory again leaves what filling it with the later interpreter would have
left. -/
theorem fillDirectory_again (hsound : Sound h.stubs)
    (hbash : h.stubs ≠ [] → h.launch.lookupProgram fs here "bash" = some bash)
    (hadmits : Admits fs here dir inside (h.stubs.map Stub.binary)) :
    ∃ bash', h.fillDirectory here dir (depositAll inside (h.wrapperFiles bash) fs) =
        (.ok (), depositAll inside (h.wrapperFiles bash') fs) ∧
      ((∀ s ∈ h.stubs, s.binary ≠ "bash") → bash' = bash) := by
  obtain ⟨bash', hbash', hsame⟩ := bash_again hbash hadmits
  refine ⟨bash', ?_, hsame⟩
  rw [fillDirectory_of_bash hsound hbash' (hadmits.keep (sameDirs_wrappers bash hadmits)),
    FileSystem.depositAll_absorb inside fs (agree_wrapperFiles hsound bash')]
  intro file hfile
  obtain ⟨s, hs, rfl⟩ := List.mem_map.mp hfile
  exact ⟨h.wrapperFile bash' s, List.mem_map_of_mem hs, rfl⟩

/-- What an installation leaves whose wrappers have the interpreter `bash`. -/
structure Filled (h : Harness) (here : Place) (dir bash : String) (ready files : FileSystem) :
    Prop where
  /-- Under each base name there is the wrapper for the path that its stubs share, -/
  wrapper : ∀ s ∈ h.stubs, Written files here (Path.join dir s.binary)
    (Utf8.encode (Wrapper.script bash s.path h.launch.selfExe h.testName))
  /-- in a file of its own, -/
  apart : ∀ s ∈ h.stubs, ∀ t ∈ h.stubs, s.binary ≠ t.binary → ∀ place place',
    ready.locate here (Path.join dir s.binary) = .ok place →
    ready.locate here (Path.join dir t.binary) = .ok place' → absolute place ≠ absolute place'
  /-- and nothing else has changed. -/
  other : ∀ place, (∀ s ∈ h.stubs, ∀ place',
    ready.locate here (Path.join dir s.binary) = .ok place' → absolute place ≠ absolute place') →
    files.at? place = ready.at? place

theorem filled_depositAll (bash : String) (hsound : Sound h.stubs)
    (hadmits : Admits ready here dir inside (h.stubs.map Stub.binary)) :
    Filled h here dir bash ready (depositAll inside (h.wrapperFiles bash) ready) := by
  have hplace : ∀ s ∈ h.stubs,
      ready.locate here (Path.join dir s.binary) = .ok (inside ++ [s.binary]) :=
    fun s hs => (FileSystem.writable_ok (hadmits s.binary (List.mem_map_of_mem hs)).2).1
  constructor
  case wrapper => exact fun s hs => written_depositAll hsound bash hadmits hs
  case apart =>
    intro s hs t ht hne place place' hfound hfound' hsame
    cases (hplace s hs).symm.trans hfound
    cases (hplace t ht).symm.trans hfound'
    exact hne (FileSystem.absolute_concat_inj hsame)
  case other =>
    intro place hother
    apply FileSystem.at?_depositAll_of_ne
    intro file hfile
    obtain ⟨s, hs, rfl⟩ := List.mem_map.mp hfile
    exact hother s hs _ (hplace s hs)

/-! ### Installing -/

/-- With its directory a harness still has the stubs that it had, and fills the directory so. -/
theorem fillDirectory_made {made : Harness}
    (hmake : h.makeBinDir here scratch fs = (.ok (dir, made), ready)) (dir' : Option String)
    (fs : FileSystem) :
    { made with binDir := dir' }.fillDirectory here dir fs = h.fillDirectory here dir fs := by
  obtain ⟨-, rfl⟩ | ⟨-, -, rfl⟩ := chooseDir_cases (makeBinDir_ok hmake).1
  · exact fillDirectory_congr rfl rfl rfl here dir fs
  · exact fillDirectory_congr rfl rfl rfl here dir fs

theorem install_of_makeBinDir {made : Harness}
    (hmake : h.makeBinDir here scratch fs = (.ok (dir, made), ready)) :
    h.install here scratch fs =
      match h.fillDirectory here dir ready with
      | (.error e, files) => (.error e, made, files)
      | (.ok (), files) => (.ok (), { made with binDir := some dir }, files) := by
  have hfill : made.fillDirectory here dir ready = h.fillDirectory here dir ready :=
    fillDirectory_made hmake made.binDir ready
  unfold install
  rw [hmake]
  cases hresult : h.fillDirectory here dir ready with
  | mk r files =>
      rw [hresult] at hfill
      cases r <;> simp only [hfill]

/-- The stubs have no say in where the directory is. -/
theorem makeBinDir_stubs {made : Harness} (stubs : List Stub)
    (hmake : h.makeBinDir here scratch fs = (.ok (dir, made), ready)) :
    { h with stubs := stubs }.makeBinDir here scratch fs =
      (.ok (dir, { made with stubs := stubs }), ready) := by
  obtain ⟨hchosen, full, htree, rfl⟩ := makeBinDir_ok hmake
  have hchosen' : { h with stubs := stubs }.chooseDir scratch =
      (dir, { made with stubs := stubs }) := by
    unfold chooseDir
    obtain ⟨hgiven, rfl⟩ | ⟨hnone, rfl, rfl⟩ := chooseDir_cases hchosen
    · simp only [hgiven]
    · simp only [hnone]
  unfold makeBinDir
  rw [hchosen', htree]
  rfl

/-- A directory that is there is used as it is. -/
theorem makeBinDir_of_ready (scratch : String) (hgiven : h.binDir = some dir)
    (hready : fs.Ready here dir) : h.makeBinDir here scratch fs = (.ok (dir, h), fs) := by
  have hchosen : h.chooseDir scratch = (dir, h) := by
    unfold chooseDir
    rw [hgiven]
  unfold makeBinDir
  rw [hchosen, hready.makeTree]
  simp only [discard_of_given (by simp [hgiven] : h.binDir ≠ none)]

/-- An installation that succeeds, with `bash` for the interpreter of its wrappers. -/
structure Completes (h : Harness) (here : Place) (scratch dir bash : String) (made : Harness)
    (fs ready files : FileSystem) : Prop where
  /-- The same stubs in any order have the same outcome. -/
  result : ∀ stubs, stubs.Perm h.stubs →
    { h with stubs := stubs }.install here scratch fs =
      (.ok (), { made with stubs := stubs, binDir := some dir }, files)
  filled : Filled h here dir bash ready files
  /-- Installing once more leaves the directory and fills it again, with the interpreter that is
  found by then. -/
  again : ∀ scratch', ∃ bash' files', { made with binDir := some dir }.install here scratch' files =
      (.ok (), { made with binDir := some dir }, files') ∧
    Filled h here dir bash' ready files' ∧ (bash' = bash → files' = files) ∧
    ((∀ s ∈ h.stubs, s.binary ≠ "bash") → bash' = bash)

theorem completes_of_bash {made : Harness} (hhere : fs.Anchored here)
    (hmake : h.makeBinDir here scratch fs = (.ok (dir, made), ready)) (hsound : Sound h.stubs)
    (hbash : h.stubs ≠ [] → h.launch.lookupProgram ready here "bash" = some bash)
    (hio : ∀ io, (h.install here scratch fs).1 ≠ .error (.io io)) :
    ∃ files, Completes h here scratch dir bash made fs ready files := by
  have hready : ready.Ready here dir := by
    obtain ⟨-, full, htree, rfl⟩ := makeBinDir_ok hmake
    exact ready_discard (FileSystem.ready_of_makeTree htree)
  have hio' : ∀ io, (h.fillDirectory here dir ready).1 ≠ .error (.io io) := by
    intro io hfill
    apply hio io
    rw [install_of_makeBinDir hmake]
    cases hresult : h.fillDirectory here dir ready with
    | mk r files =>
        rw [hresult] at hfill
        cases hfill
        rfl
  obtain ⟨inside, hadmits⟩ :=
    admits_of_fillDirectory (anchored_of_makeBinDir hhere hmake) hsound hbash hio'
  have hdirs := sameDirs_wrappers bash hadmits
  refine ⟨depositAll inside (h.wrapperFiles bash) ready, ?_, filled_depositAll bash hsound hadmits,
    ?_⟩
  · intro stubs hperm
    rw [install_of_makeBinDir (makeBinDir_stubs stubs hmake),
      fillDirectory_perm hperm hsound hbash hadmits]
  · intro scratch'
    obtain ⟨bash', hfill, hsame⟩ := fillDirectory_again hsound hbash hadmits
    have hmake' : { made with binDir := some dir }.makeBinDir here scratch'
        (depositAll inside (h.wrapperFiles bash) ready) = _ :=
      makeBinDir_of_ready scratch' rfl (hready.keep hdirs.keepsDirs)
    have hagain : { made with binDir := some dir }.fillDirectory here dir
        (depositAll inside (h.wrapperFiles bash) ready) = _ :=
      (fillDirectory_made hmake (some dir) _).trans hfill
    refine ⟨bash', _, ?_, filled_depositAll bash' hsound hadmits, fun heq => by rw [heq], hsame⟩
    rw [install_of_makeBinDir hmake', hagain]

/-- As long as the file system does not fail, an installation makes its directory, in place of a
scratch directory that it had alone, and then reports the first stub at fault, or that there is no
interpreter, with no file written; or it writes the wrappers and nothing else. -/
theorem install_exact (hhere : fs.Anchored here)
    (hio : ∀ io, (h.install here scratch fs).1 ≠ .error (.io io)) :
    ∃ dir made ready, h.makeBinDir here scratch fs = (.ok (dir, made), ready) ∧
      (∃ full, fs.AddsDirs full ∧ ready = h.discard here dir full) ∧
      (Sound h.stubs ∨ ∃ e, FirstFault h.stubs e) ∧
      (∀ e, FirstFault h.stubs e → h.install here scratch fs = (.error e, made, ready)) ∧
      (Sound h.stubs → h.stubs ≠ [] → h.launch.lookupProgram ready here "bash" = none →
        h.install here scratch fs = (.error .bashNotFound, made, ready)) ∧
      ∀ bash, Sound h.stubs →
        (h.stubs ≠ [] → h.launch.lookupProgram ready here "bash" = some bash) →
        ∃ files, Completes h here scratch dir bash made fs ready files := by
  cases hmake : h.makeBinDir here scratch fs with
  | mk r ready =>
      cases r with
      | error io =>
          have hfailed : (h.install here scratch fs).1 = .error (.io io) := by
            unfold install
            rw [hmake]
          exact absurd hfailed (hio io)
      | ok chosen =>
          obtain ⟨dir, made⟩ := chosen
          have hadds : ∃ full, fs.AddsDirs full ∧ ready = h.discard here dir full := by
            obtain ⟨-, full, htree, hready⟩ := makeBinDir_ok hmake
            have hfull := FileSystem.makeTree_addsDirs fs here dir
            rw [htree] at hfull
            exact ⟨full, hfull, hready⟩
          refine ⟨dir, made, ready, rfl, hadds, sound_or_firstFault h.stubs, ?_, ?_, ?_⟩
          · intro e hfault
            rw [install_of_makeBinDir hmake, fillDirectory_of_fault h hfault]
          · intro hsound hsome hbash
            rw [install_of_makeBinDir hmake, fillDirectory_of_noBash hsound hsome hbash]
          · intro bash hsound hbash
            exact completes_of_bash hhere hmake hsound hbash hio

end

/-- Two stubs for `helm`, at different paths. -/
def twoHelms : Harness :=
  { clusterHarness with stubs := [.withOutput ⟨"helm", []⟩ "", .withOutput ⟨"/opt/helm", []⟩ ""] }

/-- Three stubs are installed, once and again; two that need the same wrapper are not. -/
theorem clusterHarness_installs :
    let ready := (clusterHarness.makeBinDir [] "" bashFiles).2
    (∃ files, clusterHarness.install [] "" bashFiles = (.ok (), clusterHarness, files) ∧
      Filled clusterHarness [] "/stubs" "/usr/bin/bash" ready files ∧
      clusterHarness.install [] "" files = (.ok (), clusterHarness, files)) ∧
    twoHelms.install [] "" bashFiles =
      (.error (.conflictingStubs "helm" "helm" "/opt/helm"), twoHelms, ready) := by
  intro ready
  have hroot := FileSystem.anchored_root bashFiles
  constructor
  · have hdone : (clusterHarness.install [] "" bashFiles).1 = .ok () := by decide +kernel
    have hio : ∀ io, (clusterHarness.install [] "" bashFiles).1 ≠ .error (.io io) := by
      intro io hfailed
      rw [hdone] at hfailed
      cases hfailed
    obtain ⟨dir, made, files₁, hmake, -, -, -, -, hcompletes⟩ := install_exact hroot hio
    have hready : files₁ = ready := (congrArg Prod.snd hmake).symm
    subst hready
    cases (makeBinDir_ok hmake).1
    have hsound : Sound clusterHarness.stubs := firstFault_eq_none.mp (by decide +kernel)
    have hbash : clusterHarness.launch.lookupProgram ready [] "bash" = some "/usr/bin/bash" := by
      decide +kernel
    obtain ⟨files, hfilled⟩ := hcompletes "/usr/bin/bash" hsound fun _ => hbash
    obtain ⟨bash', files', hagain, -, hsame, hothers⟩ := hfilled.again ""
    have hfiles : files' = files := hsame (hothers (by decide))
    rw [hfiles] at hagain
    exact ⟨files, hfilled.result _ (.refl _), hfilled.filled, hagain⟩
  · have hdone : (twoHelms.install [] "" bashFiles).1 =
        .error (.conflictingStubs "helm" "helm" "/opt/helm") := by decide +kernel
    have hio : ∀ io, (twoHelms.install [] "" bashFiles).1 ≠ .error (.io io) := by
      intro io hfailed
      rw [hdone] at hfailed
      cases hfailed
    obtain ⟨dir, made, files₁, hmake, -, -, hfault, -, -⟩ := install_exact hroot hio
    have hready : files₁ = ready := (congrArg Prod.snd hmake).symm
    subst hready
    cases (makeBinDir_ok hmake).1
    exact hfault _ (firstFault_eq_some.mp (by decide +kernel))

/-- A harness with a stub for the interpreter of its wrappers, and their directory in its search
list before the real one. -/
def bashHarness : Harness :=
  { clusterHarness with
    launch := ⟨["self"], Dict.empty.insert searchVariable "/stubs:/usr/bin", "/self"⟩
    stubs := [.withOutput ⟨"bash", []⟩ ""]
    testName := none }

/-- Installed again, it takes its own wrapper for the interpreter. -/
theorem bashHarness_differs :
    let once := bashHarness.install [] "" bashFiles
    let twice := once.2.1.install [] "" once.2.2
    once.1 = .ok () ∧ twice.1 = .ok () ∧
      once.2.2.read [] "/stubs/bash" =
        .ok (Utf8.encode (Wrapper.script "/usr/bin/bash" "bash" "/self" none)) ∧
      twice.2.2.read [] "/stubs/bash" =
        .ok (Utf8.encode (Wrapper.script "/stubs/bash" "bash" "/self" none)) ∧
      twice.2.2.read [] "/stubs/bash" ≠ once.2.2.read [] "/stubs/bash" := by
  intro once twice
  have honce : once.1 = .ok () ∧ once.2.2.read [] "/stubs/bash" =
      .ok (Utf8.encode (Wrapper.script "/usr/bin/bash" "bash" "/self" none)) := by
    decide +kernel
  have htwice : twice.1 = .ok () ∧ twice.2.2.read [] "/stubs/bash" =
      .ok (Utf8.encode (Wrapper.script "/stubs/bash" "bash" "/self" none)) := by
    decide +kernel
  refine ⟨honce.1, htwice.1, honce.2, htwice.2, ?_⟩
  rw [honce.2, htwice.2]
  decide +kernel

end Pipeline.Harness
