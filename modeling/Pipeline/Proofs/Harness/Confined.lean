import Pipeline.Harness.Setting
import Pipeline.Proofs.Harness.Installed
import Pipeline.Proofs.Run.Exchange
import Pipeline.Proofs.Run.Recorded

/-!
# Confinement

Whatever a task does on a harness with its wrappers in place, each of its commands is dealt with in
one of four ways (`Dealt`): a stub stands for it and its wrapper is started; or none does, and it is
allowed and found, allowed and not found, or refused. The guards exclude each other, so a stub comes
before any permission, and only the first two ways start a program. A single command is the step
(`Dealt.of_holds`); a run is a sequence of exchanges, so the programs it starts are those of its
commands and no others (`Confines`).
-/

namespace Pipeline
namespace Harness

/-! ### Harnesses that were installed -/

/-- A harness whose wrappers were installed once, whatever it was set up with since, and whether or
not it was installed again. -/
inductive Prepared : Harness → Prop
  | installed {h h' : Harness} {here : Place} {scratch : String} {fs fs' : FileSystem} :
      h.install here scratch fs = (.ok (), h', fs') → Prepared h'
  | set {h : Harness} (s : Setting) : Prepared h → Prepared (h.set s)
  | again {h h' : Harness} {here : Place} {scratch : String} {fs fs' : FileSystem}
      {result : Except HarnessError Unit} :
      Prepared h → h.install here scratch fs = (result, h', fs') → Prepared h'

theorem set_keeps_binDir {h : Harness} (s : Setting) (hdir : h.binDir.isSome) :
    (h.set s).binDir.isSome := by
  cases s with
  | binDir dir => rfl
  | _ => exact hdir

/-- A directory, once given, is not lost to an installation that fails. -/
theorem install_keeps_binDir {h h' : Harness} {here : Place} {scratch : String}
    {fs fs' : FileSystem} {result : Except HarnessError Unit} (hdir : h.binDir.isSome)
    (hinstall : h.install here scratch fs = (result, h', fs')) : h'.binDir.isSome := by
  unfold Harness.install at hinstall
  split at hinstall
  · cases hinstall
    exact hdir
  · rename_i dir made fs₁ hmake
    split at hinstall
    · cases hinstall
      obtain ⟨-, rfl⟩ | ⟨hnone, -⟩ := chooseDir_cases (makeBinDir_ok hmake).1
      · exact hdir
      · simp [hnone] at hdir
    · cases hinstall
      rfl

theorem Prepared.binDir {h : Harness} (hprepared : h.Prepared) : h.binDir.isSome := by
  induction hprepared with
  | installed hinstall =>
      obtain ⟨dir, made, fs₁, -, -, rfl⟩ := install_ok hinstall
      rfl
  | set s _ ih => exact set_keeps_binDir s ih
  | again _ hinstall ih => exact install_keeps_binDir ih hinstall

theorem Prepared.looks {h : Harness} (hprepared : h.Prepared) : ∃ dir, h.binDir? = some dir := by
  obtain ⟨given, hgiven⟩ := Option.isSome_iff_exists.mp hprepared.binDir
  unfold binDir?
  cases h.scratch with
  | none => exact ⟨given, hgiven⟩
  | some own => exact ⟨own, rfl⟩

/-! ### One command -/

section
variable {h : Harness} {start : Starter} {here : Place} {dir : String}

/-- Some stub has the very path and the very arguments. -/
def Expects (h : Harness) (path : String) (args : List String) : Prop :=
  ∃ s ∈ h.stubs, s.command.path = path ∧ s.command.renderedArgs = args

def Allows (h : Harness) (c : Command) : Prop :=
  h.allowByDefault = true ∨ c.program ∈ h.allowed

/-- How a harness deals with a command, and the programs that it starts for it. -/
inductive Dealt (h : Harness) (start : Starter) (here : Place) (dir : String)
    (x : Exchange Host) : List Spawn → Prop
  | stubbed {s : Stub} {p : Spawn} :
      s ∈ h.stubs → s.command.path = x.command.path → s.command.renderedArgs = x.args →
      p.program = Path.join dir s.binary → p.args = x.args →
      p.env.toList = [(searchVariable, dir), (Launch.invocationVariable, x.command.path)] →
      x.before.answer start p p.program = (x.answer, x.after) → Dealt h start here dir x [p]
  | allowed {p : Spawn} :
      ¬ h.Expects x.command.path x.args → h.Allows x.command →
      h.launch.lookupProgram x.before.files here x.command.path = some p.program →
      p.args = x.args → p.env.toList = [(searchVariable, dir)] →
      x.before.answer start p x.command.path = (x.answer, x.after) → Dealt h start here dir x [p]
  | missing :
      ¬ h.Expects x.command.path x.args → h.Allows x.command →
      h.launch.lookupProgram x.before.files here x.command.path = none →
      x.answer = .error (.executableNotFound x.command.path) → x.after = x.before →
      Dealt h start here dir x []
  | refused :
      ¬ h.Expects x.command.path x.args → ¬ h.Allows x.command →
      x.answer = .error (.unexpectedCommand (spaced (x.command.path :: x.args))
        (h.printer x.command.path x.args)) → x.after = x.before →
      Dealt h start here dir x []

theorem isAllowed_iff {c : Command} : h.isAllowed c = true ↔ h.Allows c := by
  simp [isAllowed, Allows]

theorem findExpected_some {path : String} {args : List String} {s : Stub}
    (hfind : h.findExpected path args = some s) :
    s ∈ h.stubs ∧ s.command.path = path ∧ s.command.renderedArgs = args := by
  unfold findExpected Stub.find? at hfind
  have hstands := List.find?_some hfind
  simp only [Stub.standsFor, Bool.and_eq_true, beq_iff_eq] at hstands
  exact ⟨List.mem_of_find?_eq_some hfind, hstands⟩

theorem findExpected_none {path : String} {args : List String}
    (hfind : h.findExpected path args = none) : ¬ h.Expects path args := by
  rintro ⟨s, hs, hpath, hargs⟩
  have hnone := List.find?_eq_none.mp hfind s hs
  simp [Stub.standsFor, hpath, hargs] at hnone

theorem toList_searchOnly (dir : String) : (searchOnly dir).toList = [(searchVariable, dir)] := rfl

theorem toList_announcing (dir path : String) :
    ((searchOnly dir).insert Launch.invocationVariable path).toList =
      [(searchVariable, dir), (Launch.invocationVariable, path)] := by
  have hbehind : ¬ Launch.invocationVariable < searchVariable := by decide
  have hother : Launch.invocationVariable ≠ searchVariable := by decide
  simp [Dict.toList, Dict.insert, Dict.place, searchOnly, Dict.empty, hbehind, hother]

/-- Every command that the harness executes is dealt with in one of the four ways. -/
theorem Dealt.of_holds {x : Exchange Host} (hdir : h.binDir? = some dir)
    (hx : x.Holds (h.target start here)) : ∃ started, h.Dealt start here dir x started := by
  have hexecute : (h.target start here).execute x.command x.args x.before =
      (x.answer, x.after) := hx
  unfold target Harness.decide at hexecute
  cases hfind : h.findExpected x.command.path x.args with
  | some s =>
      obtain ⟨hs, hpath, hargs⟩ := findExpected_some hfind
      simp only [hfind, hdir] at hexecute
      exact ⟨_, .stubbed hs hpath hargs rfl rfl (toList_announcing dir x.command.path) hexecute⟩
  | none =>
      have hunexpected := findExpected_none hfind
      simp only [hfind] at hexecute
      by_cases hallowed : h.isAllowed x.command = true
      · have hallows := isAllowed_iff.mp hallowed
        cases hprogram : h.launch.lookupProgram x.before.files here x.command.path with
        | none =>
            rw [if_pos hallowed, hprogram, Prod.mk.injEq] at hexecute
            exact ⟨[], .missing hunexpected hallows hprogram hexecute.1.symm hexecute.2.symm⟩
        | some program =>
            rw [if_pos hallowed, hprogram, hdir, Option.getD_some] at hexecute
            exact ⟨_, .allowed hunexpected hallows hprogram rfl (toList_searchOnly dir) hexecute⟩
      · have hallows : ¬ h.Allows x.command := fun hallows => hallowed (isAllowed_iff.mpr hallows)
        rw [if_neg hallowed, Prod.mk.injEq] at hexecute
        exact ⟨[], .refused hunexpected hallows hexecute.1.symm hexecute.2.symm⟩

theorem answer_spawned {host host' : Host} {p : Spawn} {invokedBy : String} {answer : Execution}
    (hanswer : host.answer start p invokedBy = (answer, host')) :
    host'.spawned = host.spawned ++ [p] := by
  cases hanswer
  rfl

theorem Dealt.spawned {x : Exchange Host} {started : List Spawn}
    (hdealt : h.Dealt start here dir x started) :
    x.after.spawned = x.before.spawned ++ started := by
  cases hdealt with
  | stubbed _ _ _ _ _ _ hanswer => exact answer_spawned hanswer
  | allowed _ _ _ _ _ hanswer => exact answer_spawned hanswer
  | missing _ _ _ _ hafter => rw [hafter, List.append_nil]
  | refused _ _ _ hafter => rw [hafter, List.append_nil]

/-! ### A run -/

/-- A command of a run that the harness answered, and the programs started for it. -/
structure Dealing (h : Harness) (start : Starter) (here : Place) (dir : String) where
  exchange : Exchange Host
  started : List Spawn
  holds : exchange.Holds (h.target start here)
  dealt : h.Dealt start here dir exchange started

/-- From one world to another by commands that the harness dealt with. The calls in the log are
theirs, and so are the programs that were started, in order. -/
def Confines (h : Harness) (start : Starter) (here : Place) (dir : String) (w w' : World Host) :
    Prop :=
  ∃ dealings : List (Dealing h start here dir),
    (∃ events, w'.log = w.log ++ events ∧
      events.filter Event.isCall = dealings.map fun d => d.exchange.event) ∧
    w'.target.spawned = w.target.spawned ++ dealings.flatMap fun d => d.started

theorem exchanged_dealings {w w' : World Host} {xs : List (Exchange Host)}
    (hdir : h.binDir? = some dir) (hxs : Exchanged (h.target start here) w xs w') :
    ∃ dealings : List (Dealing h start here dir),
      dealings.map (fun d => d.exchange) = xs ∧
      w'.target.spawned = w.target.spawned ++ dealings.flatMap fun d => d.started := by
  -- output that the sinks took starts nothing
  induction hxs with
  | start => exact ⟨[], rfl, by simp⟩
  | told _ _ ih => exact ih
  | absorbed _ _ _ ih => exact ih
  | @executed xs w₁ x _ hx hbefore ih =>
      obtain ⟨dealings, hmap, hspawned⟩ := ih
      obtain ⟨started, hdealt⟩ := Dealt.of_holds hdir hx
      refine ⟨dealings ++ [⟨x, started, hx, hdealt⟩], by simp [hmap], ?_⟩
      calc x.after.spawned = w₁.target.spawned ++ started := by rw [hdealt.spawned, hbefore]
        _ = _ := by simp [hspawned]

theorem Confines.of_exchanges {w w' : World Host} (hdir : h.binDir? = some dir)
    (hw : Exchanges (h.target start here) w w') : h.Confines start here dir w w' := by
  obtain ⟨xs, hxs⟩ := hw
  obtain ⟨dealings, rfl, hspawned⟩ := exchanged_dealings hdir hxs
  refine ⟨dealings, ?_, hspawned⟩
  simpa [Function.comp_def] using hxs.calls

end

/-- A task that runs or cleans up on a prepared harness has no command executed that is neither
expected nor allowed, and starts no program but the wrappers of stubs and what it is allowed. -/
theorem prepared_confines {h : Harness} (hprepared : h.Prepared) :
    ∃ dir, h.binDir? = some dir ∧
      ∀ (start : Starter) (here : Place) (inputs : Inputs) (task : Task) (w : World Host),
        h.Confines start here dir w (runTask (h.target start here) inputs task w).2 ∧
        ∀ state, h.Confines start here dir w
          (runCleanup (h.target start here) inputs task state w).2 := by
  obtain ⟨dir, hdir⟩ := hprepared.looks
  refine ⟨dir, hdir, ?_⟩
  intro start here inputs task w
  constructor
  · exact .of_exchanges hdir (runTask_exchanges _ inputs task w)
  · intro state
    exact .of_exchanges hdir (runCleanup_exchanges _ inputs task state w)

/-- A command that a stub stands for, one that is allowed, and one that nearly is the first. -/
def rollout : Task where
  steps := [⟨"apply", .command ⟨"kubectl", [.literal "apply"]⟩⟩,
    ⟨"check", .command ⟨"bash", [.literal "-c", .literal "true"]⟩⟩,
    ⟨"watch", .command ⟨"kubectl", [.literal "apply", .literal "--watch"]⟩⟩]
  cleanup := []
  inputs := .forInputs
  distinct := by decide

/-- One wrapper and one allowed program are started, and the third command is refused. -/
theorem clusterHarness_confines :
    let done := clusterHarness.install [] "" bashFiles
    let h := done.2.1.set (.allow "bash")
    let w : World Host := ⟨.ofFiles done.2.2, []⟩
    let after := (runTask (h.target silent []) .empty rollout w).2
    h.Prepared ∧ ∃ dir, h.binDir? = some dir ∧ h.Confines silent [] dir w after ∧
      after.target.spawned.map (fun p => (p.program, p.args, p.env.toList)) =
        [("/stubs/kubectl", ["apply"], [("PATH", "/stubs"), ("STEPFORGE_INVOCATION", "kubectl")]),
          ("/usr/bin/bash", ["-c", "true"], [("PATH", "/stubs")])] ∧
      (after.log.filter Event.isCall).map Event.step = ["apply", "check", "watch"] := by
  intro done h w after
  have hdone : done.1 = .ok () := by decide +kernel
  have hinstall : clusterHarness.install [] "" bashFiles = (.ok (), done.2) := by rw [← hdone]
  have hprepared : h.Prepared := .set (.allow "bash") (.installed hinstall)
  obtain ⟨dir, hdir, hconfines⟩ := prepared_confines hprepared
  exact ⟨hprepared, dir, hdir, (hconfines silent [] .empty rollout w).1, by decide +kernel,
    by decide +kernel⟩

end Harness
end Pipeline
