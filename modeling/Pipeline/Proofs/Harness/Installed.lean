import Pipeline.Harness.Setting
import Pipeline.Proofs.Harness.LoopBack
import Pipeline.Proofs.Harness.Wrappers
import Pipeline.Proofs.Machine.Directories

/-!
# The same stub on both sides

The process that a wrapper becomes looks for a stub once more, by the path that the wrapper
announces and the arguments it was called with. It finds the stub that the wrapper was started for
(`PicksSame`), because an installation leaves for each base name a wrapper that announces the path
of the stubs of that name (`Announces`). There is one such path only, or `firstFault` would have
found a fault (`firstFault_eq_none`); so it does not matter that stubs of one name write one file in
turn (`written_depositAll`).

A harness writes its wrappers to the directory it was given last, and looks for them in its scratch
directory as soon as it has one. These are the same in a settled harness (`looks_iff_settled`), and
one that is not settled does not start the wrappers it has just written (`moved_misses_wrapper`).
-/

namespace Pipeline
open FileSystem (Anchored Written)
open Shell (Raw quote)

namespace Wrapper

/-- Different paths have different wrappers. -/
theorem script_inj {bash path other selfExe : String} {testName : Option String}
    (h : script bash path selfExe testName = script bash other selfExe testName) :
    path = other := by
  have hquote : quote path = quote other := by simpa [script, callLine] using h
  exact Shell.quote_inj hquote

end Wrapper

namespace Stub

/-- What a process does that runs the handler of a stub. -/
def answer (s : Stub) (path : String) (c : StubContext) : Int × StubContext :=
  match perform s.handler c with
  | (none, c) => (c.exitCode.getD 0, c)
  | (some e, c) => (1, c.err (Utf8.encode (failureText path e)))

/-- The index of the first of the stubs that stands for an invocation. -/
def index? (stubs : List Stub) (path : String) (args : List String) : Option Nat :=
  stubs.findIdx? fun s => s.standsFor path args

variable {stubs : List Stub} {path : String} {args : List String} {index : Nat}

/-- The first stub by its index. It stands for one path only. -/
theorem find?_of_index? (h : index? stubs path args = some index) :
    ∃ s, stubs[index]? = some s ∧ find? stubs path args = some s ∧ s.path = path := by
  obtain ⟨hlt, hstands, -⟩ := List.findIdx?_eq_some_iff_getElem.mp h
  have hget : stubs[index]? = some stubs[index] := List.getElem?_eq_getElem hlt
  refine ⟨stubs[index], hget, ?_, ?_⟩
  · unfold find?
    rw [List.find?_eq_bind_findIdx?_getElem?]
    unfold index? at h
    rw [h]
    exact hget
  · simp only [standsFor, Bool.and_eq_true, beq_iff_eq] at hstands
    exact hstands.1

theorem serve_of_find? {s : Stub} (h : find? stubs path args = some s) (c : StubContext) :
    serve stubs path args c = s.answer path c := by
  unfold serve
  rw [h]
  rfl

end Stub

namespace Harness

/-! ### Installing -/

/-- The harness looks for its wrappers where it last wrote them: a directory given to it is not
another one than a directory it made for itself. -/
def Settled (h : Harness) : Prop :=
  ∀ given own, h.binDir = some given → h.scratch = some own → given = own

theorem Settled.looks {h : Harness} {dir : String} (hsettled : h.Settled)
    (hdir : h.binDir = some dir) : h.binDir? = some dir := by
  unfold binDir?
  cases hown : h.scratch with
  | none => exact hdir
  | some own => rw [hsettled dir own hdir hown]; rfl

theorem settled_of_fresh {h : Harness} (hfresh : h.scratch = none) : h.Settled := by
  intro given own _ hown
  rw [hfresh] at hown
  cases hown

section
variable {h h' made : Harness} {here : Place} {scratch dir : String} {fs fs' : FileSystem}
  {result : Except HarnessError Unit}

theorem makeBinDir_ok (hmake : h.makeBinDir here scratch fs = (.ok (dir, made), fs')) :
    h.chooseDir scratch = (dir, made) ∧
      ∃ full, fs.makeTree here dir = (.ok (), full) ∧ fs' = h.discard here dir full := by
  unfold makeBinDir at hmake
  cases htree : fs.makeTree here (h.chooseDir scratch).1 with
  | mk r full =>
      rw [htree] at hmake
      cases r with
      | error e => cases hmake
      | ok u =>
          injection hmake with hchosen hfiles
          injection hchosen with hchosen
          rw [hchosen] at htree hfiles
          exact ⟨hchosen, full, htree, hfiles.symm⟩

theorem discard_of_given (hgiven : h.binDir ≠ none) : h.discard here dir fs = fs := by
  unfold discard
  split
  · rename_i hnone _
    exact absurd hnone hgiven
  · rfl

/-- Whatever is removed, the new directory stays. -/
theorem discard_cases (h : Harness) (here : Place) (dir : String) (fs : FileSystem) :
    h.discard here dir fs = fs ∨ ∃ old, h.discard here dir fs = fs.removeTree here old ∧
      (fs.removeTree here old).isDirectory here dir = true := by
  unfold discard
  split
  · rename_i old _ _
    dsimp only
    split
    · rename_i hstays
      exact .inr ⟨old, rfl, hstays.2⟩
    · exact .inl rfl
  · exact .inl rfl

/-- The scratch directory of before is gone once another has taken its place. -/
theorem isDirectory_discard {old : String} (hnone : h.binDir = none) (hown : h.scratch = some old)
    (hother : old ≠ dir) (hstays : (fs.removeTree here old).isDirectory here dir = true)
    (hroot : fs.locate here old ≠ .ok []) :
    (h.discard here dir fs).isDirectory here old = false := by
  have hgone : h.discard here dir fs = fs.removeTree here old := by
    simp [discard, hnone, hown, hother, hstays]
  rw [hgone]
  exact FileSystem.isDirectory_removeTree hroot

theorem ready_discard (hready : fs.Ready here dir) : (h.discard here dir fs).Ready here dir := by
  obtain heq | ⟨old, heq, hstays⟩ := discard_cases h here dir fs
  · rwa [heq]
  · rw [heq]
    exact .inr hstays

/-- The way to the new directory leads through directories. -/
theorem anchored_of_makeBinDir (hhere : fs.Anchored here)
    (hmake : h.makeBinDir here scratch fs = (.ok (dir, made), fs')) :
    fs'.Anchored (FileSystem.start here dir) := by
  obtain ⟨-, full, htree, rfl⟩ := makeBinDir_ok hmake
  have hdirs := (FileSystem.makeTree_addsDirs fs here dir).keepsDirs
  rw [htree] at hdirs
  have hfull := (hhere.start dir).keep hdirs
  obtain heq | ⟨old, heq, hstays⟩ := discard_cases h here dir full
  · rwa [heq]
  · rw [heq]
    exact hfull.removeTree hstays

/-- What a harness is that has a directory for its wrappers. -/
theorem chooseDir_cases (hchosen : h.chooseDir scratch = (dir, made)) :
    (h.binDir = some dir ∧ made = h) ∨
      (h.binDir = none ∧ dir = scratch ∧ made = { h with scratch := some scratch }) := by
  unfold chooseDir at hchosen
  split at hchosen
  · rename_i given hgiven
    cases hchosen
    exact .inl ⟨hgiven, rfl⟩
  · rename_i hnone
    cases hchosen
    exact .inr ⟨hnone, rfl, rfl⟩

/-- The directory that was made is where the harness will look. -/
theorem Settled.makeBinDir (hsettled : h.Settled)
    (hmake : h.makeBinDir here scratch fs = (.ok (dir, made), fs')) :
    ∀ own, made.scratch = some own → dir = own := by
  intro own hown
  obtain ⟨hgiven, rfl⟩ | ⟨-, rfl, rfl⟩ := chooseDir_cases (makeBinDir_ok hmake).1
  · exact hsettled dir own hgiven hown
  · exact Option.some.inj hown

/-- An installation leaves a harness settled, whether it succeeds or not. -/
theorem Settled.install (hsettled : h.Settled)
    (hinstall : h.install here scratch fs = (result, h', fs')) : h'.Settled := by
  unfold Harness.install at hinstall
  split at hinstall
  · cases hinstall
    exact hsettled
  · rename_i dir made fs₁ hmake
    split at hinstall
    · cases hinstall
      obtain ⟨-, rfl⟩ | ⟨hnone, -, rfl⟩ := chooseDir_cases (makeBinDir_ok hmake).1
      · exact hsettled
      · intro given own hgiven
        cases hnone.symm.trans hgiven
    · cases hinstall
      intro given own hgiven hown
      cases hgiven
      exact hsettled.makeBinDir hmake own hown

/-- Filling a directory succeeds if no stub is at fault and all wrappers are written. -/
theorem fillDirectory_ok (hfill : h.fillDirectory here dir fs = (.ok (), fs')) :
    firstFault 0 .empty h.stubs = none ∧
      ∃ bash, h.stubs ≠ [] → h.launch.lookupProgram fs here "bash" = some bash ∧
        writeWrappers here dir (h.wrappers bash) fs = (.ok (), fs') := by
  unfold fillDirectory at hfill
  split at hfill
  · cases hfill
  · rename_i hfault
    refine ⟨hfault, ?_⟩
    split at hfill
    · rename_i hnone
      exact ⟨"", fun hsome => absurd hnone hsome⟩
    · split at hfill
      · cases hfill
      · rename_i bash hbash
        refine ⟨bash, fun _ => ⟨hbash, ?_⟩⟩
        split at hfill
        · rename_i hwritten
          cases hfill
          exact hwritten
        · cases hfill

/-- What a successful installation comes to. -/
theorem install_ok (hinstall : h.install here scratch fs = (.ok (), h', fs')) :
    ∃ dir made fs₁, h.makeBinDir here scratch fs = (.ok (dir, made), fs₁) ∧
      made.fillDirectory here dir fs₁ = (.ok (), fs') ∧
      h' = { made with binDir := some dir } := by
  unfold Harness.install at hinstall
  split at hinstall
  · cases hinstall
  · rename_i dir made fs₁ hmake
    refine ⟨dir, made, fs₁, hmake, ?_⟩
    split at hinstall
    · cases hinstall
    · rename_i hfill
      cases hinstall
      exact ⟨hfill, rfl⟩

/-- A harness that is not settled writes its wrappers to the directory given to it and looks for
them in its own. -/
theorem install_unsettled {given own : String} (hgiven : h.binDir = some given)
    (hown : h.scratch = some own)
    (hinstall : h.install here scratch fs = (.ok (), h', fs')) :
    h'.binDir = some given ∧ h'.binDir? = some own := by
  obtain ⟨dir, made, fs₁, hmake, -, rfl⟩ := install_ok hinstall
  obtain ⟨hdir, rfl⟩ | ⟨hnone, -⟩ := chooseDir_cases (makeBinDir_ok hmake).1
  · cases hgiven.symm.trans hdir
    refine ⟨rfl, ?_⟩
    unfold binDir?
    rw [hown]
    rfl
  · cases hgiven.symm.trans hnone

/-- After its directory is filled, a harness has a wrapper there for each stub, with the path that
all stubs of its base name share. -/
theorem fillDirectory_written (hstart : fs.Anchored (FileSystem.start here dir))
    (hfill : h.fillDirectory here dir fs = (.ok (), fs')) :
    (∀ s ∈ h.stubs, s.path ≠ "" ∧ ∀ t ∈ h.stubs, t.binary = s.binary → t.path = s.path) ∧
      ∃ bash, (h.stubs ≠ [] → h.launch.lookupProgram fs here "bash" = some bash) ∧
        ∀ s ∈ h.stubs, Path.IsName s.binary ∧ Written fs' here (Path.join dir s.binary)
          (Utf8.encode (Wrapper.script bash s.path h.launch.selfExe h.testName)) := by
  obtain ⟨hfault, bash, hwrite⟩ := fillDirectory_ok hfill
  have hsound := firstFault_eq_none.mp hfault
  refine ⟨fun s hs => ⟨hsound.named s hs, hsound.shared s hs⟩, bash,
    fun hsome => (hwrite hsome).1, fun s hs => ?_⟩
  have hwritten := (hwrite (List.ne_nil_of_mem hs)).2
  obtain ⟨inside, hadmits⟩ := admits_wrappers hstart hwritten
  rw [writeWrappers_eq bash hadmits] at hwritten
  cases hwritten
  exact ⟨(hadmits s.binary (List.mem_map_of_mem hs)).1, written_depositAll hsound bash hadmits hs⟩

end

/-! ### The two sides -/

/-- The wrapper called `name` announces `path`, whatever it is called with. -/
structure Announces (h : Harness) (here : Place) (fs : FileSystem) (dir bash name path : String) :
    Prop where
  /-- It is the wrapper for this path, -/
  file : fs.find here (Path.join dir name) = .ok (.file
    (Utf8.encode (Wrapper.script bash path h.launch.selfExe h.testName))
    FileSystem.executableMode)
  /-- and the wrapper for no other. -/
  only : ∀ other mode, fs.find here (Path.join dir name) = .ok (.file
    (Utf8.encode (Wrapper.script bash other h.launch.selfExe h.testName)) mode) → other = path
  /-- A shell that seeks programs in that directory finds it by its bare name. -/
  found : dir ≠ "" → ':' ∉ dir.toList → ∀ w : Shell.Scene, w.machine.files = fs →
    w.shell.here = here → (w.shell.vars.lookup "PATH").bind (·.value) = some (Raw.ofText dir) →
    Shell.findProgram (Raw.ofText name) w = .ok (some (Raw.ofText (Path.join dir name))) w
  /-- It is read as two commands, -/
  reads : '\n' ∉ bash.toList → ∀ d, Shell.ReadsAs d
    ⟨Raw.ofText (Wrapper.script bash path h.launch.selfExe h.testName), 1⟩
    [.sequence [Wrapper.silence], .sequence [Wrapper.call path h.launch.selfExe h.testName]]
  /-- the last of which sets the variable to the path and replaces the shell by a server. -/
  execs : h.launch.selfExe.toList.head? ≠ some '-' → ∀ args : List String,
    Shell.Execs (Wrapper.call path h.launch.selfExe h.testName) (args.map Raw.ofText)
      Launch.invocationVariable (Raw.ofText path) (Raw.ofText h.launch.selfExe)
      ((Wrapper.runnerArgs h.testName ++ Launch.separator :: args).map Raw.ofText)
  /-- The server stands in for the path, with the arguments of the wrapper. -/
  mode : ∀ (l : Launch) (args : List String),
    l.args = Wrapper.serverArgs h.launch.selfExe h.testName args →
    l.env.get? Launch.invocationVariable = some path → l.mode = .standIn path args

/-- The harness and the process that stands in for `path` use one stub, the one at `index`. The
wrappers were written to `dir`, and the harness looks for them in `looked`. -/
structure PicksSame (h : Harness) (here : Place) (fs : FileSystem) (looked dir bash path : String)
    (args : List String) (index : Nat) (s : Stub) : Prop where
  /-- The harness executes the command by starting what has the name of the stub. -/
  starts : ∀ c : Command, c.path = path → ∃ spawn,
    h.decide fs here c args = .start spawn (Path.join looked s.binary) ∧
      spawn.program = Path.join looked s.binary ∧ spawn.args = args
  /-- The wrapper of that name announces the path of the command. -/
  announces : Announces h here fs dir bash s.binary path
  /-- The server that it becomes has the stubs of the harness, and runs the same handler. -/
  serves : ∀ g : Harness, g.stubs = h.stubs → Stub.index? g.stubs path args = some index ∧
    (∀ c, g.serve path args c = s.answer path c) ∧
    (g.launch.args = Wrapper.serverArgs h.launch.selfExe h.testName args →
      g.launch.env.get? Launch.invocationVariable = some path → ∀ here scratch fs,
        g.start here scratch fs =
          .served (s.answer path .fresh).1 (s.answer path .fresh).2)

/-- What an installation leaves that wrote its wrappers to `dir`. -/
structure Installed (h : Harness) (here : Place) (fs : FileSystem) (looked dir bash : String) :
    Prop where
  given : h.binDir = some dir
  looks : h.binDir? = some looked
  /-- The interpreter of the wrappers is the one that the search list led to before they were
  written. -/
  interpreter : h.stubs ≠ [] → ∃ before, h.launch.lookupProgram before here "bash" = some bash
  /-- Stubs of one base name share a path, and the wrapper of that name announces it. -/
  announces : ∀ s ∈ h.stubs, Announces h here fs dir bash s.binary s.path ∧
    ∀ t ∈ h.stubs, t.binary = s.binary → t.path = s.path
  /-- Both sides find the same stub for an invocation. -/
  picks : ∀ path args index, Stub.index? h.stubs path args = some index →
    ∃ s, h.stubs[index]? = some s ∧ PicksSame h here fs looked dir bash path args index s

section
variable {h h' : Harness} {here : Place} {scratch looked dir bash name path : String}
  {fs fs' : FileSystem} {args : List String} {index : Nat}

theorem announces_of_find (hname : Path.IsName name) (hpath : path ≠ "")
    (htest : h.testName ≠ some Launch.separator)
    (hfile : fs.find here (Path.join dir name) = .ok (.file
      (Utf8.encode (Wrapper.script bash path h.launch.selfExe h.testName))
      FileSystem.executableMode)) : Announces h here fs dir bash name path where
  file := hfile
  only other mode hother := by
    rw [hfile] at hother
    have hcontent := (Node.file.inj (Except.ok.inj hother)).1
    have hscript := congrArg Utf8.decode hcontent
    rw [Utf8.decode_encode, Utf8.decode_encode] at hscript
    exact (Wrapper.script_inj hscript).symm
  found hdir hcolon w hfs hhere hlist := by
    subst hfs hhere
    refine Shell.findProgram_only hname hdir hcolon hlist ?_
    unfold FileSystem.isExecutable
    rw [hfile]
    rfl
  reads hbash _ := Wrapper.readsAs_script hbash path h.launch.selfExe h.testName
  execs hself := Wrapper.execs_call hself path h.testName
  mode _ _ hargs henv := Launch.mode_of_serverArgs hargs henv hpath htest

theorem picksSame_of_find {s : Stub} (hlooked : h.binDir? = some looked)
    (hindex : Stub.index? h.stubs path args = some index)
    (hfind : Stub.find? h.stubs path args = some s)
    (hannounces : Announces h here fs dir bash s.binary path) :
    PicksSame h here fs looked dir bash path args index s where
  starts c hc := by
    have hexpected : h.findExpected c.path args = some s := by
      rw [hc]
      exact hfind
    unfold decide
    rw [hexpected, hlooked]
    exact ⟨_, rfl, rfl, rfl⟩
  announces := hannounces
  serves g hstubs := by
    have hserve : ∀ c, g.serve path args c = s.answer path c := by
      intro c
      unfold serve
      rw [hstubs]
      exact Stub.serve_of_find? hfind c
    refine ⟨by rw [hstubs]; exact hindex, hserve, fun hargs henv here' scratch' fs₁ => ?_⟩
    unfold start
    simp only [hannounces.mode g.launch args hargs henv, hserve]

/-- The directory in which a harness looks for wrappers is the one that they were written to exactly
if it was settled. -/
theorem looks_iff_settled (hinstall : h.install here scratch fs = (.ok (), h', fs'))
    (hgiven : h'.binDir = some dir) (hlooked : h'.binDir? = some looked) :
    looked = dir ↔ h.Settled := by
  constructor
  · rintro rfl given own hbin hown
    obtain ⟨hgiven', hlooked'⟩ := install_unsettled hbin hown hinstall
    rw [hgiven'] at hgiven
    rw [hlooked'] at hlooked
    exact (Option.some.inj hgiven).trans (Option.some.inj hlooked).symm
  · intro hsettled
    have hdir := (hsettled.install hinstall).looks hgiven
    exact Option.some.inj (hlooked.symm.trans hdir)

/-- After an installation, the wrapper for the stub that the harness finds for a command makes a
process that finds the same stub. The harness starts that very wrapper exactly if the directory it
was given, if any, is not another one than the scratch directory it has, if any. -/
theorem install_picks_same_stub
    (hinstall : h.install here scratch fs = (.ok (), h', fs'))
    (htest : h.testName ≠ some Launch.separator) (hhere : fs.Anchored here)
    (hdevice : ∀ dir ∈ h'.binDir, ∀ s ∈ h.stubs,
      fs'.find here (Path.join dir s.binary) ≠ .ok .nullDevice) :
    h'.stubs = h.stubs ∧ ∃ looked dir bash, Installed h' here fs' looked dir bash ∧
      (looked = dir ↔ h.Settled) := by
  obtain ⟨dir, made, ready, hmake, hfill, rfl⟩ := install_ok hinstall
  obtain ⟨hstubs, hname⟩ : made.stubs = h.stubs ∧ made.testName = h.testName := by
    obtain ⟨-, rfl⟩ | ⟨-, -, rfl⟩ := chooseDir_cases (makeBinDir_ok hmake).1 <;> exact ⟨rfl, rfl⟩
  obtain ⟨looked, hlooked⟩ : ∃ looked, { made with binDir := some dir }.binDir? = some looked := by
    unfold binDir?
    cases made.scratch <;> exact ⟨_, rfl⟩
  obtain ⟨hpaths, bash, hbash, hwritten⟩ :=
    fillDirectory_written (anchored_of_makeBinDir hhere hmake) hfill
  rw [← hstubs] at hdevice
  rw [← hname] at htest
  have hannounces : ∀ s ∈ made.stubs,
      Announces { made with binDir := some dir } here fs' dir bash s.binary s.path := by
    intro s hs
    obtain ⟨hvalid, hfile⟩ := hwritten s hs
    exact announces_of_find hvalid (hpaths s hs).1 htest (hfile.find (hdevice dir rfl s hs))
  refine ⟨hstubs, looked, dir, bash, ⟨rfl, hlooked, fun hsome => ⟨ready, hbash hsome⟩,
    fun s hs => ⟨hannounces s hs, (hpaths s hs).2⟩, ?_⟩, looks_iff_settled hinstall rfl hlooked⟩
  intro path args index hindex
  obtain ⟨s, hget, hfind, rfl⟩ := Stub.find?_of_index? hindex
  exact ⟨s, hget, picksSame_of_find hlooked hindex hfind
    (hannounces s (List.mem_of_getElem? hget))⟩

end

/-- A machine with an interpreter for wrappers. -/
def bashFiles : FileSystem :=
  ((FileSystem.empty.put ["usr"] (.dir 0o755)).put ["usr", "bin"] (.dir 0o755)).put
    ["usr", "bin", "bash"] (.tool "bash")

/-- Starts every program, which writes nothing and exits successfully. -/
def silent : Starter := fun _ fs => (.ok ⟨[], .code 0, none, none⟩, fs)

/-- A harness with three stubs, two of which share a wrapper. -/
def clusterHarness : Harness where
  launch := ⟨["/tests/run"], Dict.empty.insert searchVariable "/usr/bin", "/tests/run"⟩
  stubs := [.withOutput ⟨"kubectl", [.literal "get"]⟩ "none", .withOutput ⟨"/opt/helm", []⟩ "ok",
    .withOutput ⟨"kubectl", [.literal "apply"]⟩ "done"]
  allowByDefault := false
  allowed := []
  testName := some "suite::case"
  printer := stubDefinition
  binDir := some "/stubs"
  scratch := none

/-- The later of the two stubs that share a wrapper is found on both sides. -/
theorem clusterHarness_picks_same_stub :
    let done := clusterHarness.install [] "" bashFiles
    done.1 = .ok () ∧ Stub.index? clusterHarness.stubs "kubectl" ["apply"] = some 2 ∧
      ∃ dir bash, Installed done.2.1 [] done.2.2 dir dir bash := by
  have hdone : (clusterHarness.install [] "" bashFiles).1 = .ok () := by decide +kernel
  have hdevice : ∀ dir ∈ (clusterHarness.install [] "" bashFiles).2.1.binDir,
      ∀ s ∈ clusterHarness.stubs,
        (clusterHarness.install [] "" bashFiles).2.2.find [] (Path.join dir s.binary) ≠
          .ok .nullDevice := by decide +kernel
  have hinstall : clusterHarness.install [] "" bashFiles =
      (.ok (), (clusterHarness.install [] "" bashFiles).2) := by rw [← hdone]
  obtain ⟨-, looked, dir, bash, hinstalled, hsame⟩ := install_picks_same_stub hinstall (by decide)
    (FileSystem.anchored_root bashFiles) hdevice
  cases hsame.mpr (settled_of_fresh rfl)
  exact ⟨hdone, by decide +kernel, _, bash, hinstalled⟩

/-- A harness that was started, given a directory and a stub, and started again: the wrapper is in
that directory, and the harness starts what is not there in the other. -/
theorem moved_misses_wrapper :
    let first := { clusterHarness with stubs := [], binDir := none }.install [] "/own" bashFiles
    let moved := (first.2.1.set (.binDir "/stubs")).set (.stub (.withOutput ⟨"kind", []⟩ "ok"))
    let second := moved.install [] "/other" first.2.2
    first.1 = .ok () ∧ second.1 = .ok () ∧ Stub.index? second.2.1.stubs "kind" [] = some 0 ∧
    ((second.2.1.target silent []).execute ⟨"kind", []⟩ [] (.ofFiles second.2.2)).2.spawned.map
      Spawn.program = ["/own/kind"] ∧
    second.2.2.find [] "/own/kind" = .error .noEntry ∧
    second.2.2.find [] "/stubs/kind" = .ok (.file (Utf8.encode
      (Wrapper.script "/usr/bin/bash" "kind" "/tests/run" (some "suite::case")))
      FileSystem.executableMode) := by
  intro first moved second
  exact ⟨by decide +kernel, by decide +kernel, by decide +kernel, by decide +kernel,
    by decide +kernel, by decide +kernel⟩

end Harness
end Pipeline
