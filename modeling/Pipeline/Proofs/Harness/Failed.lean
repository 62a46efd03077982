import Pipeline.Proofs.Harness.Confined

/-!
# Installations that fail

A harness with a directory for its wrappers is the same harness after an installation that failed.
One without it has got a scratch directory, which it keeps: from then on it looks for wrappers there
and starts them, although none was written. What a failed installation leaves of its work in the
file system are directories, and the wrappers before the one that could not be written
(`LeftBehind`).
-/

namespace Pipeline.Harness

section
variable {h h' : Harness} {here : Place} {dir scratch : String} {fs fs' : FileSystem}
  {wrappers : List (String × String)} {e : HarnessError}

/-- To the commands of its stubs a harness is what it was: it looks for wrappers in the same place,
and executing such a command comes to the same. -/
structure Unharmed (h h' : Harness) (fs fs' : FileSystem) : Prop where
  looks : h'.binDir? = h.binDir?
  executes : ∀ start here c args (host : Host), h.Expects c.path args → host.files = fs →
    (h'.target start here).execute c args { host with files := fs' } =
      (h.target start here).execute c args host

/-- Directories were made, a scratch directory that was replaced was removed, and after that these
wrappers were written, in their turn; or not all directories could be made, and that was all. -/
structure LeftBehind (h : Harness) (here : Place) (dir : String) (written : List (String × String))
    (fs fs' : FileSystem) : Prop where
  inTurn : ∃ bash rest, h.wrappers bash = written ++ rest
  made : ∃ full, fs.AddsDirs full ∧ (fs.Ready here dir → full = fs) ∧
    ((fs.makeTree here dir).1 ≠ .ok () ∧ written = [] ∧ fs' = full ∨
      writeWrappers here dir written (h.discard here dir full) = (.ok (), fs'))

/-- What was written before a wrapper that could not be. -/
theorem writeWrappers_error {io : IoError}
    (h : writeWrappers here dir wrappers fs = (.error io, fs')) :
    ∃ written rest, wrappers = written ++ rest ∧
      writeWrappers here dir written fs = (.ok (), fs') := by
  induction wrappers generalizing fs with
  | nil => cases h
  | cons w ws ih =>
      unfold writeWrappers at h
      cases hwritten : fs.writeExecutable here (Path.join dir w.1) (Utf8.encode w.2) with
      | error io' =>
          simp only [hwritten] at h
          cases h
          exact ⟨[], w :: ws, rfl, rfl⟩
      | ok files =>
          simp only [hwritten] at h
          obtain ⟨written, rest, hsplit, hdone⟩ := ih h
          refine ⟨w :: written, rest, by rw [hsplit]; rfl, ?_⟩
          unfold writeWrappers
          simp only [hwritten]
          exact hdone

/-- A directory that was not filled holds what was written before the failure; nothing, unless it is
the file system that failed. -/
theorem fillDirectory_error (hfill : h.fillDirectory here dir fs = (.error e, fs')) :
    ∃ bash written rest, h.wrappers bash = written ++ rest ∧
      writeWrappers here dir written fs = (.ok (), fs') ∧ ((∀ io, e ≠ .io io) → written = []) := by
  unfold fillDirectory at hfill
  split at hfill
  · cases hfill
    exact ⟨"", [], h.wrappers "", rfl, rfl, fun _ => rfl⟩
  · split at hfill
    · cases hfill
    · split at hfill
      · cases hfill
        exact ⟨"", [], h.wrappers "", rfl, rfl, fun _ => rfl⟩
      · rename_i bash hbash
        split at hfill
        · cases hfill
        · rename_i io files hwrite
          cases hfill
          obtain ⟨written, rest, hsplit, hdone⟩ := writeWrappers_error hwrite
          exact ⟨bash, written, rest, hsplit, hdone, fun hio => absurd rfl (hio io)⟩

theorem makeBinDir_error {io : IoError} (hmake : h.makeBinDir here scratch fs = (.error io, fs')) :
    fs.makeTree here (h.chooseDir scratch).1 = (.error io, fs') := by
  unfold makeBinDir at hmake
  cases hmade : fs.makeTree here (h.chooseDir scratch).1 with
  | mk r files =>
      rw [hmade] at hmake
      cases r with
      | error io' =>
          cases hmake
          rfl
      | ok u => cases hmake

/-- An installation that fails does so before it has a directory, or while it fills it. -/
theorem install_error (hinstall : h.install here scratch fs = (.error e, h', fs')) :
    (∃ io, h.makeBinDir here scratch fs = (.error io, fs') ∧ e = .io io ∧ h' = h) ∨
      ∃ dir ready, h.makeBinDir here scratch fs = (.ok (dir, h'), ready) ∧
        h'.fillDirectory here dir ready = (.error e, fs') := by
  unfold install at hinstall
  split at hinstall
  · rename_i io files hmake
    cases hinstall
    exact .inl ⟨io, hmake, rfl, rfl⟩
  · rename_i dir made ready hmake
    split at hinstall
    · rename_i e' files hfill
      cases hinstall
      exact .inr ⟨dir, ready, hmake, hfill⟩
    · cases hinstall

/-- Installing gives the harness no new scratch directory: it has a directory, or that very one, or
it cannot be made. -/
def NoScratch (h : Harness) (here : Place) (scratch : String) (fs : FileSystem) : Prop :=
  h.binDir ≠ none ∨ h.scratch = some scratch ∨ (fs.makeTree here scratch).1 ≠ .ok ()

theorem install_error_noScratch (hinstall : h.install here scratch fs = (.error e, h', fs'))
    (hkeeps : h.NoScratch here scratch fs) : h' = h := by
  rcases install_error hinstall with ⟨io, -, -, hsame⟩ | ⟨dir, ready, hmake, -⟩
  · exact hsame
  · obtain ⟨hchosen, full, htree, -⟩ := makeBinDir_ok hmake
    obtain ⟨-, rfl⟩ | ⟨hnone, rfl, rfl⟩ := chooseDir_cases hchosen
    · rfl
    · rcases hkeeps with hsome | hsame | hfails
      · exact absurd hnone hsome
      · rw [← hsame]
      · rw [htree] at hfails
        exact absurd rfl hfails

theorem install_error_scratch (hinstall : h.install here scratch fs = (.error e, h', fs'))
    (hnew : ¬ h.NoScratch here scratch fs) :
    h.binDir = none ∧ h.scratch ≠ some scratch ∧ h' = { h with scratch := some scratch } := by
  unfold NoScratch at hnew
  push Not at hnew
  obtain ⟨hnone, hother, htree⟩ := hnew
  refine ⟨hnone, hother, ?_⟩
  have hchosen : h.chooseDir scratch = (scratch, { h with scratch := some scratch }) := by
    unfold chooseDir
    rw [hnone]
  rcases install_error hinstall with ⟨io, hmake, -, -⟩ | ⟨dir, ready, hmake, -⟩
  · have hmade := makeBinDir_error hmake
    rw [hchosen] at hmade
    rw [hmade] at htree
    cases htree
  · rw [(makeBinDir_ok hmake).1] at hchosen
    cases hchosen
    rfl

theorem install_error_files (hinstall : h.install here scratch fs = (.error e, h', fs')) :
    ∃ written, LeftBehind h here (h.chooseDir scratch).1 written fs fs' ∧
      ((∀ io, e ≠ .io io) → written = []) := by
  have hadds := FileSystem.makeTree_addsDirs fs here (h.chooseDir scratch).1
  rcases install_error hinstall with ⟨io, hmake, rfl, -⟩ | ⟨dir, ready, hmake, hfill⟩
  · have hmade := makeBinDir_error hmake
    rw [hmade] at hadds
    refine ⟨[], ⟨⟨"", h.wrappers "", rfl⟩, fs', hadds, fun hready => ?_, .inl ⟨?_, rfl, rfl⟩⟩,
      fun _ => rfl⟩
    · rw [hready.makeTree] at hmade
      cases hmade
    · rw [hmade]
      rintro ⟨⟩
  · obtain ⟨hchosen, full, htree, rfl⟩ := makeBinDir_ok hmake
    have hstubs : ∀ bash, h'.wrappers bash = h.wrappers bash := by
      obtain ⟨-, rfl⟩ | ⟨-, -, rfl⟩ := chooseDir_cases hchosen <;> exact fun _ => rfl
    obtain ⟨bash, written, rest, hsplit, hwritten, hnone⟩ := fillDirectory_error hfill
    rw [hstubs] at hsplit
    rw [hchosen] at hadds ⊢
    rw [htree] at hadds
    refine ⟨written, ⟨⟨bash, rest, hsplit⟩, full, hadds, fun hready => ?_, .inr hwritten⟩, hnone⟩
    rw [hready.makeTree] at htree
    exact (congrArg Prod.snd htree).symm

/-- Without a new scratch directory none is removed. -/
theorem NoScratch.discard (hkeeps : h.NoScratch here scratch fs)
    (hready : fs.Ready here (h.chooseDir scratch).1) :
    h.discard here (h.chooseDir scratch).1 fs = fs := by
  by_cases hgiven : h.binDir = none
  · have hchosen : (h.chooseDir scratch).1 = scratch := by
      unfold chooseDir
      rw [hgiven]
    rw [hchosen] at hready ⊢
    rcases hkeeps with hsome | hsame | hfails
    · exact absurd hgiven hsome
    · simp [Harness.discard, hgiven, hsame]
    · rw [hready.makeTree] at hfails
      exact absurd rfl hfails
  · exact discard_of_given hgiven

/-- After an installation that failed, a harness looks for wrappers where it did before exactly if
it got no new scratch directory; then nothing about it has changed, and if its directory was there
and no wrapper was written, neither has what executing the command of a stub comes to. Otherwise it
starts wrappers in the scratch directory. -/
theorem install_failed (hinstall : h.install here scratch fs = (.error e, h', fs')) :
    (h'.binDir? = h.binDir? ↔ h.NoScratch here scratch fs) ∧
    (h.NoScratch here scratch fs → h' = h) ∧
    (¬ h.NoScratch here scratch fs → h'.binDir? = some scratch ∧
      ∀ c args s files here', h.findExpected c.path args = some s → ∃ p : Spawn,
        p.program = Path.join scratch s.binary ∧
          h'.decide files here' c args = .start p p.program) ∧
    ∃ written, LeftBehind h here (h.chooseDir scratch).1 written fs fs' ∧
      ((∀ io, e ≠ .io io) → written = []) ∧
      (h.NoScratch here scratch fs → fs.Ready here (h.chooseDir scratch).1 → written = [] →
        Unharmed h h' fs fs') := by
  have hkept : h.NoScratch here scratch fs → h' = h := install_error_noScratch hinstall
  refine ⟨?_, hkept, ?_, ?_⟩
  · refine ⟨fun hlooks => ?_, fun hkeeps => by rw [hkept hkeeps]⟩
    by_contra hnew
    obtain ⟨hnone, hother, rfl⟩ := install_error_scratch hinstall hnew
    have hbefore : h.binDir? = h.scratch := by
      unfold binDir?
      rw [hnone]
      cases h.scratch <;> rfl
    rw [hbefore] at hlooks
    exact hother hlooks.symm
  · intro hnew
    obtain ⟨-, -, rfl⟩ := install_error_scratch hinstall hnew
    refine ⟨rfl, fun c args s files here' hfind => ?_⟩
    have hfind' : { h with scratch := some scratch }.findExpected c.path args = some s := hfind
    unfold decide
    rw [hfind']
    exact ⟨_, rfl, rfl⟩
  · obtain ⟨written, hleft, hnone⟩ := install_error_files hinstall
    refine ⟨written, hleft, hnone, ?_⟩
    rintro hkeeps hready rfl
    have hfiles : fs' = fs := by
      obtain ⟨full, -, hsame, ⟨hfails, -, -⟩ | hwritten⟩ := hleft.made
      · rw [hready.makeTree] at hfails
        exact absurd rfl hfails
      · rw [hsame hready, hkeeps.discard hready] at hwritten
        exact (congrArg Prod.snd hwritten).symm
    cases hkept hkeeps
    rw [hfiles]
    refine ⟨rfl, fun start here' c args host _ hfiles => ?_⟩
    rw [← hfiles]

end

/-- A harness with a stub for `kind` and one for an empty path. -/
def nameless : Harness :=
  { clusterHarness with stubs := [.withOutput ⟨"kind", []⟩ "", .withOutput ⟨"", []⟩ ""] }

/-- With a directory that is there, it is none the worse for failing to be installed. -/
theorem nameless_unharmed :
    let fs := bashFiles.put ["stubs"] (.dir 0o755)
    let done := nameless.install [] "/tmp/bin" fs
    done.1 = .error (.emptyStubPath 1 "") ∧ Unharmed nameless done.2.1 fs done.2.2 := by
  intro fs done
  have hdone : done.1 = .error (.emptyStubPath 1 "") := by decide +kernel
  have hinstall : nameless.install [] "/tmp/bin" fs =
      (.error (.emptyStubPath 1 ""), done.2.1, done.2.2) := by rw [← hdone]
  have hready : fs.Ready [] "/stubs" := by decide +kernel
  obtain ⟨-, -, -, written, -, hnone, hunharmed⟩ := install_failed hinstall
  have hgiven : nameless.NoScratch [] "/tmp/bin" fs := .inl (by decide)
  refine ⟨hdone, hunharmed hgiven hready (hnone ?_)⟩
  intro io hio
  cases hio

/-- Without one, it has a directory after the failure, and its command is no longer refused. -/
theorem nameless_scratch :
    let h := { nameless with binDir := none }
    let done := h.install [] "/tmp/bin" bashFiles
    let execute (h : Harness) (fs : FileSystem) :=
      ((h.target silent []).execute ⟨"kind", []⟩ [] (.ofFiles fs)).1
    done.1 = .error (.emptyStubPath 1 "") ∧
    h.binDir? = none ∧ done.2.1.binDir? = some "/tmp/bin" ∧
    execute h bashFiles = .error (.harness .notStarted) ∧
    execute done.2.1 done.2.2 ≠ .error (.harness .notStarted) := by
  decide +kernel

/-- After a second failure the first scratch directory is gone. -/
example :
    let once := { nameless with binDir := none }.install [] "/tmp/bin" bashFiles
    let twice := once.2.1.install [] "/tmp/other" once.2.2
    once.2.2.isDirectory [] "/tmp/bin" = true ∧ twice.2.2.isDirectory [] "/tmp/bin" = false ∧
      twice.2.2.isDirectory [] "/tmp/other" = true ∧ twice.2.1.binDir? = some "/tmp/other" := by
  decide +kernel

end Pipeline.Harness
