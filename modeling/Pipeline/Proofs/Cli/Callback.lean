import Pipeline.Cli.Commands
import Pipeline.Proofs.Run.Lookup
import Pipeline.Proofs.Run.Recorded
import Pipeline.Proofs.Script.Aliasing
import Pipeline.Proofs.Stream.Capture

/-!
# Calling back for a function step

A script leaves a function step to the program that wrote it: its line calls the program back, which
runs the step alone, from an empty state and in another world, and prints its outputs as
assignments. A body that looks up inputs only, on a target that remembers nothing, cannot tell the
difference (`runFunc_alone`). The names that are assigned are the names of the variables that the
script reads the outputs from (`substitutes_output`).
-/

namespace Pipeline

/-- A target that answers a command by its path and arguments, whatever it was asked before. -/
def Target.Oblivious {σ : Type} (t : Target σ) : Prop :=
  ∃ answer : String → List String → Execution,
    ∀ c args s, (t.execute c args s).1 = answer c.path args

section
variable {σ : Type} {t : Target σ} {inputs : Inputs}

theorem Target.Oblivious.indistinct (h : t.Oblivious) (step : String) :
    Indistinct t step fun _ _ => True where
  call c args w w' _ := by
    obtain ⟨answer, hanswer⟩ := h
    refine ⟨?_, trivial⟩
    simp only [Pipeline.call, hanswer]
  note _ _ _ _ := trivial

/-- A function that looks up inputs only comes to the same in every state and every world. -/
theorem runFunc_alone (ht : t.Oblivious) {step : String} {f : Func} {w : World σ}
    (hreads : ∀ r ∈ lookups t inputs step .empty f.body .empty w, r.isInput = true)
    (state : RunState) (w' : World σ) :
    (runFunc t inputs step f state w').1 = (runFunc t inputs step f .empty w).1 :=
  (runFunc_congr (ht.indistinct step) trivial fun r hr =>
    sameAnswer_input (hreads r hr) .empty state).1

theorem runStep_func {s : Step} {f : Func} (hf : s.runnable = .func f) (state : RunState)
    (w : World σ) : (runStep t inputs s state w).1 =
      (runFunc t inputs s.name f state (w.tell (.began s.name))).1.map (state.record s.name) := by
  unfold runStep runRunnable
  rw [hf]
  cases hrun : runFunc t inputs s.name f state (w.tell (.began s.name)) with
  | mk r w₁ => cases r <;> simp only [hrun] <;> rfl

/-- What a run records for a step that it got past is there at its end. -/
theorem recorded_at_end {task : Task} {w₀ w w₁ : World σ} {before after : List Step} {s : Step}
    {state final : RunState} {outputs : Dict String} (hsplit : task.steps = before ++ s :: after)
    (hreach : Reaches t inputs w₀ before state w)
    (hrun : (runStep t inputs s state w).1 = .ok (state.record s.name outputs))
    (hend : runTask t inputs task w₀ = (.ok final, w₁)) :
    final.outputs? s.name = some outputs := by
  have hall : Reaches t inputs w₀ task.steps final w₁ := reaches_iff.mpr hend
  obtain ⟨kept, hkept, state', w', w₂, hreach', hcompleted, -⟩ :=
    (hall.stateAfter task.nodup_steps).entries before s after hsplit
  -- the run got to the step in one way
  have hsame := hreach'.run_eq.symm.trans hreach.run_eq
  cases hsame
  simp only [runStep, hcompleted, Except.ok.injEq] at hrun
  have hfound := congrArg (RunState.outputs? · s.name) hrun
  simp only [RunState.outputs?_record_self] at hfound
  rw [hkept, hfound]

end

namespace Script

/-- Wherever a step behind `s` is written, the text stands for a reference to an output of `s`. -/
def Substitutes (task : Task) (inputs : Inputs) (s : Step) (key text : String) : Prop :=
  ∀ before mid x after, task.steps = (before ++ s :: mid) ++ x :: after →
    (∀ o w, write task inputs o w =
      Outline.onward
        (Outline.onward (putFront task inputs o w) (putSteps o inputs (before ++ s :: mid) .empty))
        (putSteps o inputs (x :: after) (placed (before ++ s :: mid)))) ∧
    resolve x.name inputs (placed (before ++ s :: mid)) (.output s.name key) = .ok text

theorem substitutes_placeholder (task : Task) (inputs : Inputs) {s : Step} {key : String}
    (hkey : key ∈ s.recordedKeys) : Substitutes task inputs s key (placeholderFor s key) := by
  intro before mid x after hsplit
  have hnames : ((before ++ s :: mid).map Step.name).Nodup := by
    have hall := task.nodup_steps
    rw [hsplit] at hall
    exact nodup_names_left hall
  constructor
  · intro o w
    exact write_from inputs o hsplit w
  · exact (standsFor_placeholder hnames (by simp) hkey).resolved x.name inputs

end Script

namespace Cli
open Script Text

/-- What is printed for an output, without the line feed. -/
def outputLine (f : Func) (key value : String) : String :=
  Func.variableName f.name key ++ "=" ++ value

theorem substitutes_output (task : Task) (inputs : Inputs) {s : Step} {f : Func} {key : String}
    (hf : s.runnable = .func f) (hkey : key ∈ f.outputs) :
    Substitutes task inputs s key ("$\x7b" ++ Func.variableName f.name key ++ "\x7d") := by
  have hrecorded : key ∈ s.recordedKeys := by
    unfold Step.recordedKeys
    rwa [hf]
  have hplace := substitutes_placeholder task inputs hrecorded
  unfold placeholderFor variableFor at hplace
  rwa [hf] at hplace

/-- The lines that are printed for outputs assign every declared one to the variable that the script
reads it from. -/
structure Prints (task : Task) (inputs : Inputs) (s : Step) (f : Func) (outputs : Dict String)
    (text : String) : Prop where
  lines : text = unlines (outputs.toList.map fun e => outputLine f e.1 e.2)
  declared : ∀ key ∈ f.outputs, ∃ value, outputs.get? key = some value ∧
    outputLine f key value ∈ outputs.toList.map (fun e => outputLine f e.1 e.2) ∧
    Substitutes task inputs s key ("$\x7b" ++ Func.variableName f.name key ++ "\x7d")

theorem prints_of_contains (task : Task) (inputs : Inputs) {s : Step} {f : Func}
    {outputs : Dict String} (hf : s.runnable = .func f)
    (hall : ∀ key ∈ f.outputs, outputs.contains key = true) :
    Prints task inputs s f outputs
      (String.join (outputs.toList.map fun e => assignment f e.1 e.2)) where
  lines := by
    unfold unlines
    rw [List.map_map]
    rfl
  declared key hkey := by
    have hcontains := hall key hkey
    rw [Dict.contains_eq_isSome, Option.isSome_iff_exists] at hcontains
    obtain ⟨value, hvalue⟩ := hcontains
    obtain ⟨front, back, hentries, -⟩ := List.lookup_eq_some_iff.mp hvalue
    have hmem : (key, value) ∈ outputs.toList := by
      unfold Dict.toList
      rw [hentries]
      simp
    exact ⟨value, hvalue, List.mem_map.mpr ⟨_, hmem, rfl⟩, substitutes_output task inputs hf hkey⟩

section
variable {σ : Type} {t : Target σ} {inputs : Inputs} {task : Task}

theorem funcOf_name {s : Step} {f : Func} (hs : s ∈ task.steps) (hf : s.runnable = .func f) :
    funcOf task s.name = .ok (s, f) := by
  have hfind : task.find? s.name = some s :=
    find?_name task.distinct (List.mem_append_left _ hs)
  unfold funcOf
  simp only [hfind, hf]

theorem runStepAlone_func {s : Step} {f : Func} (hf : s.runnable = .func f) (w : World σ) :
    (runStepAlone t inputs s f w).1 =
      match (runFunc t inputs s.name f .empty (w.tell (.began s.name))).1 with
      | .error halt =>
        .error (halt.map fun e => e.failure.within ("Step " ++ quoted s.name ++ " failed"))
      | .ok outputs => .ok (String.join (outputs.toList.map fun e => assignment f e.1 e.2)) := by
  have hstep : (runStep t inputs s .empty w).1 = _ := runStep_func hf .empty w
  unfold runStepAlone
  cases hrun : runStep t inputs s .empty w with
  | mk r w₁ =>
      rw [hrun] at hstep
      cases hfunc : (runFunc t inputs s.name f .empty (w.tell (.began s.name))).1 with
      | error e =>
          rw [hfunc] at hstep
          cases hstep
          rfl
      | ok outputs =>
          rw [hfunc] at hstep
          cases hstep
          simp only [RunState.outputs?_record_self, Option.getD_some]

/-- A function step that looks up inputs only, run alone on a target that remembers nothing, comes
to what it comes to within a run that got to it: it succeeds in both or in neither, and it records
the same outputs. The lines that are printed for them assign the variables that the script of the
task reads. -/
theorem runStepAlone_agrees (ht : t.Oblivious) {before after : List Step} {s : Step} {f : Func}
    (hsplit : task.steps = before ++ s :: after) (hf : s.runnable = .func f)
    {w₀ w : World σ} {state : RunState} (hreach : Reaches t inputs w₀ before state w)
    (alone : World σ) (hreads : ∀ r ∈ lookups t inputs s.name .empty f.body .empty
      (alone.tell (.began s.name)), r.isInput = true) :
    funcOf task s.name = .ok (s, f) ∧
    ((∃ text, (runStepAlone t inputs s f alone).1 = .ok text) ↔
      ∃ state', (runStep t inputs s state w).1 = .ok state') ∧
    ∀ text, (runStepAlone t inputs s f alone).1 = .ok text → ∃ outputs,
      (runStep t inputs s .empty alone).1 = .ok (RunState.record .empty s.name outputs) ∧
      (runStep t inputs s state w).1 = .ok (state.record s.name outputs) ∧
      (∀ final w₁, runTask t inputs task w₀ = (.ok final, w₁) →
        final.outputs? s.name = some outputs) ∧
      Prints task inputs s f outputs text := by
  have hs : s ∈ task.steps := by
    rw [hsplit]
    simp
  have hsame := runFunc_alone ht hreads state (w.tell (.began s.name))
  have hempty : (runStep t inputs s .empty alone).1 = _ := runStep_func hf .empty alone
  have hwithin : (runStep t inputs s state w).1 = _ := runStep_func hf state w
  rw [hsame] at hwithin
  rw [runStepAlone_func hf, hempty, hwithin]
  refine ⟨funcOf_name hs hf, ?_⟩
  cases hrun : runFunc t inputs s.name f .empty (alone.tell (.began s.name)) with
  | mk r w₁ =>
      rw [hrun] at hwithin
      cases r with
      | error e =>
          constructor
          · constructor <;> rintro ⟨_, ⟨⟩⟩
          · rintro _ ⟨⟩
      | ok outputs =>
          constructor
          · exact ⟨fun _ => ⟨_, rfl⟩, fun _ => ⟨_, rfl⟩⟩
          · rintro _ ⟨⟩
            refine ⟨outputs, rfl, rfl, fun final w' hend => ?_, ?_⟩
            · exact recorded_at_end hsplit hreach hwithin hend
            · cases runFunc_outcome hrun with
              | completed hbody =>
                  exact prints_of_contains task inputs hf fun key hkey =>
                    contains_withDefaults hkey _

end

def prepareStep : Step := ⟨"prepare", .command ⟨"make", [.literal "all"]⟩⟩

/-- Sets one of the two outputs that it declares, and one that it does not. -/
def signFunc : Func := ⟨"sign", ["digest", "path"],
  .future <| .resolving (.input "seed") fun seed =>
    .executing ⟨"openssl", [.literal seed, .ref (.input "seed")]⟩ fun captured =>
      .set "digest" captured.stdout (.set "note" "draft" .done)⟩

def signStep : Step := ⟨"sign all", .func signFunc⟩

def publishStep : Step := ⟨"publish", .command ⟨"curl",
  [.ref (.output "sign all" "digest"), .ref (.output "sign all" "path")]⟩⟩

/-- A function step between a command and one that refers to its outputs. -/
def signing : Task where
  steps := [prepareStep, signStep, publishStep]
  cleanup := []
  inputs := Registry.forInputs.define "seed"
  distinct := by decide

theorem echoing_oblivious : echoing.Oblivious := ⟨echoLine, fun _ _ _ => rfl⟩

/-- What signing records, the default of the output that is not set included. -/
def signed : Dict String :=
  withDefaults signFunc.outputs
    ((Dict.empty.insert "digest" (echoed "openssl" ["7", "7"])).insert "note" "draft")

theorem signFunc_reads (w : World Record) :
    ∀ r ∈ lookups echoing seeded signStep.name .empty signFunc.body .empty w,
      r.isInput = true := by
  have hfirst : resolve signStep.name seeded .empty (.input "seed") = .ok "7" := rfl
  intro r hr
  simp only [signFunc, Body.resolving, Body.executing, lookups, hfirst, argLookups,
    resolveArgs, resolveArg, List.mem_cons, List.mem_append, List.not_mem_nil, or_false] at hr
  rcases hr with rfl | rfl | hr
  · rfl
  · rfl
  · -- nothing is looked up after the command, whatever it answered
    split at hr
    · cases hr
    · cases hr
    · cases hr
    · split at hr <;> cases hr

theorem signFunc_runs (w : World Record) :
    (runFunc echoing seeded signStep.name signFunc .empty w).1 = .ok signed := by
  have hcaptures : Captures (.ofBytes (Utf8.encode (echoed "openssl" ["7", "7"]))) .empty _ :=
    captures_of_ending rfl rfl
  have hexecutes : runBody echoing seeded signStep.name .empty
      (.executing ⟨"openssl", [.literal "7", .ref (.input "seed")]⟩ fun captured =>
        .set "digest" captured.stdout (.set "note" "draft" .done)) .empty w = _ :=
    hcaptures.body echoing seeded signStep.name _ .empty ["7", "7"] w _ _ .empty rfl rfl
  have hresolves : runBody echoing seeded signStep.name .empty
      (.resolving (.input "seed") fun seed =>
        .executing ⟨"openssl", [.literal seed, .ref (.input "seed")]⟩ fun captured =>
          .set "digest" captured.stdout (.set "note" "draft" .done)) .empty w = _ := hexecutes
  unfold runFunc
  rw [signFunc, runBody, hresolves]
  simp [runBody, BodyEnd.guarded, Reader.bytes, Reader.ofBytes, Utf8.decode_encode, signed,
    signFunc]

theorem signFunc_prints : String.join (signed.toList.map fun e => assignment signFunc e.1 e.2) =
    "SIGN_DIGEST=openssl 7 7\n\nSIGN_NOTE=draft\nSIGN_PATH=\n" := by
  decide +kernel

/-- Within the run, signing follows the first step; alone, it follows nothing. -/
theorem signing_agrees : ∃ state w outputs,
    Reaches echoing seeded ⟨.empty, []⟩ [prepareStep] state w ∧
    (runStepAlone echoing seeded signStep signFunc ⟨.empty, []⟩).1 =
      .ok "SIGN_DIGEST=openssl 7 7\n\nSIGN_NOTE=draft\nSIGN_PATH=\n" ∧
    (runStep echoing seeded signStep state w).1 = .ok (state.record signStep.name outputs) ∧
    Prints signing seeded signStep signFunc outputs
      "SIGN_DIGEST=openssl 7 7\n\nSIGN_NOTE=draft\nSIGN_PATH=\n" := by
  have hfirst := (Reaches.start (t := echoing)).next
    (Prod.ext (runStep_echoing (s := prepareStep) rfl rfl ⟨.empty, []⟩) rfl)
  have hsplit : signing.steps = [prepareStep] ++ signStep :: [publishStep] := rfl
  have hsign : signStep.runnable = .func signFunc := rfl
  obtain ⟨-, -, hagrees⟩ := runStepAlone_agrees echoing_oblivious hsplit hsign hfirst ⟨.empty, []⟩
    (signFunc_reads _)
  have halone : (runStepAlone echoing seeded signStep signFunc ⟨.empty, []⟩).1 =
      .ok "SIGN_DIGEST=openssl 7 7\n\nSIGN_NOTE=draft\nSIGN_PATH=\n" := by
    rw [runStepAlone_func rfl, signFunc_runs]
    exact congrArg Except.ok signFunc_prints
  obtain ⟨outputs, -, hwithin, -, hprints⟩ := hagrees _ halone
  exact ⟨_, _, outputs, hfirst, halone, hwithin, hprints⟩

end Cli
end Pipeline
