import Pipeline.Proofs.Run.Steps
import Pipeline.Proofs.Stream.Copy
import Pipeline.Proofs.Text.Utf8
import Pipeline.Target.Recording

/-!
# What a run records

The state of a run has one entry for each step that completed: the outputs that the step recorded
then, which no later step touches (`Reaches.stateAfter`). A command records its standard output and
nothing else, a function at least the keys it declares. That the entries stay apart rests on the
distinct names of a task.
-/

namespace Pipeline

section
variable {σ : Type} {t : Target σ} {inputs : Inputs}

theorem copyOut_ok {step : String} {stdout stderr : Reader} {w w' : World σ} {captured : Captured}
    (h : copyOut t step stdout stderr w = (.ok captured, w')) :
    captured.stdout = Utf8.decode stdout.bytes := by
  obtain ⟨out, err, hout, -, rfl⟩ := CopiedStreams.settle_ok (congrArg Prod.fst h)
  rw [copy_ok hout]

theorem copyOut_of_steady {step : String} {stdout stderr : Reader} {w : World σ}
    (hout : stdout.ending = none) (herr : stderr.ending = none)
    (hs : ∀ stream, (t.sink stream w.target).Steady) :
    (copyOut t step stdout stderr w).1 =
      .ok ⟨Utf8.decode stdout.bytes, Utf8.decode stderr.bytes⟩ := by
  simp only [copyOut, copyStreams, copy_of_steady hout (hs .stdout),
    copy_of_steady herr (hs .stderr)]
  rfl

/-- A command completes when its arguments resolve, the target answers with streams that end, and
the sinks do not fail. -/
theorem runCommand_of_steady {step : String} {c : Command} {state : RunState} {w w₁ : World σ}
    {args : List String} {stdout stderr : Reader}
    (hargs : resolveArgs step inputs state c.args = .ok args)
    (hcall : call t step c args w = (.streams stdout stderr, w₁))
    (hout : stdout.ending = none) (herr : stderr.ending = none)
    (hs : ∀ stream, (t.sink stream w₁.target).Steady) :
    (runCommand t inputs step c state w).1 =
      .ok (Dict.empty.insert stdoutKey (Utf8.decode stdout.bytes)) := by
  have hcopy : (copyOut t step stdout stderr w₁).1 = _ := copyOut_of_steady hout herr hs
  unfold runCommand
  rw [hargs]
  simp only [hcall]
  cases hw : copyOut t step stdout stderr w₁ with
  | mk r w₂ =>
      rw [hw] at hcopy
      cases hcopy
      rfl

theorem get?_withDefaults (keys : List String) (set : Dict String) (k : String) :
    (withDefaults keys set).get? k = (set.get? k).or (if k ∈ keys then some "" else none) := by
  unfold withDefaults
  induction keys generalizing set with
  | nil => simp
  | cons key keys ih =>
      rw [List.foldl_cons, ih, Dict.get?_insertIfNew]
      by_cases h : k = key <;> simp [h]

/-- Every declared key has a value once the defaults are in place. -/
theorem contains_withDefaults {keys : List String} {k : String} (h : k ∈ keys)
    (set : Dict String) : (withDefaults keys set).contains k = true := by
  rw [Dict.contains_eq_isSome, get?_withDefaults]
  simp [h]

/-- The outputs that a step may record when it completes in a state and a world. -/
def Step.Records (t : Target σ) (inputs : Inputs) (s : Step) (state : RunState) (w : World σ)
    (outputs : Dict String) : Prop :=
  match s.runnable with
  | .command c => ∃ args stdout stderr,
      resolveArgs s.name inputs state c.args = .ok args ∧
      (t.execute c args w.target).1 = .streams stdout stderr ∧
      outputs.toList = [(stdoutKey, Utf8.decode stdout.bytes)]
  | .func f => ∀ key ∈ f.outputs, outputs.contains key = true

theorem records_of_run {s : Step} {state : RunState} {w w' : World σ} {outputs : Dict String}
    (h : runRunnable t inputs s.name s.runnable state (w.tell (.began s.name)) =
      (.ok outputs, w')) : s.Records t inputs state w outputs := by
  cases hr : s.runnable with
  | command c =>
      rw [hr] at h
      cases runCommand_outcome h with
      | @completed args stdout stderr captured w₁ w₂ hargs hcall hcopy =>
          simp only [Step.Records, hr]
          refine ⟨args, stdout, stderr, hargs, congrArg Prod.fst hcall, ?_⟩
          rw [← copyOut_ok hcopy]
          rfl
  | func f =>
      rw [hr] at h
      cases runFunc_outcome h with
      | completed hbody =>
          simp only [Step.Records, hr]
          intro key hkey
          exact contains_withDefaults hkey _

/-- After the steps `before`, the step `s` completed and recorded `outputs`. -/
def Completed (t : Target σ) (inputs : Inputs) (w₀ : World σ) (before : List Step) (s : Step)
    (outputs : Dict String) : Prop :=
  ∃ state w w', Reaches t inputs w₀ before state w ∧
    runRunnable t inputs s.name s.runnable state (w.tell (.began s.name)) = (.ok outputs, w') ∧
    s.Records t inputs state w outputs

/-- The state after some steps: an entry for each, as it was recorded, and no other. -/
structure StateAfter (t : Target σ) (inputs : Inputs) (w₀ : World σ) (done : List Step)
    (state : RunState) : Prop where
  keys : state.keys.Perm (done.map Step.name)
  entries : ∀ before s after, done = before ++ s :: after → ∃ outputs,
    state.outputs? s.name = some outputs ∧ Completed t inputs w₀ before s outputs

theorem StateAfter.record {w₀ : World σ} {done : List Step} {s : Step} {state : RunState}
    {outputs : Dict String} (h : StateAfter t inputs w₀ done state)
    (hd : ((done ++ [s]).map Step.name).Nodup) (hs : Completed t inputs w₀ done s outputs) :
    StateAfter t inputs w₀ (done ++ [s]) (state.record s.name outputs) := by
  constructor
  · refine (List.perm_ext_iff_of_nodup (Dict.nodup_keys _) hd).mpr fun name => ?_
    have hold := h.keys.mem_iff (a := name)
    rw [Dict.mem_keys] at hold
    rw [Dict.mem_keys, RunState.record, Dict.contains_insert, List.map_append, List.mem_append,
      ← hold]
    simp [or_comm]
  · intro before x after hsplit
    rcases split_of_concat hsplit with ⟨rfl, rfl⟩ | ⟨rest, hdone⟩
    · -- the step that has just completed
      exact ⟨outputs, RunState.outputs?_record_self .., hs⟩
    · -- an earlier step, whose entry has another name
      obtain ⟨kept, hkept, hcompleted⟩ := h.entries before x rest hdone
      have hx : x ∈ done := by rw [hdone]; simp
      have hne : x.name ≠ s.name := name_ne_of_nodup hd hx (by simp)
      exact ⟨kept, (RunState.outputs?_record_of_ne _ _ hne).trans hkept, hcompleted⟩

/-- The state of a run holds what the completed steps recorded. -/
theorem Reaches.stateAfter {w₀ : World σ} {done : List Step} {state : RunState} {w : World σ}
    (h : Reaches t inputs w₀ done state w) (hd : (done.map Step.name).Nodup) :
    StateAfter t inputs w₀ done state := by
  induction h with
  | start => exact ⟨.refl _, fun before s after h => by simp at h⟩
  | @next done s state state' w w' hdone hs ih =>
      obtain ⟨outputs, hrun, rfl⟩ := runStep_ok hs
      exact (ih (nodup_names_left hd)).record hd ⟨state, w, w', hdone, hrun, records_of_run hrun⟩

theorem hasRun_iff {steps : List Step} {state : RunState}
    (h : state.keys.Perm (steps.map Step.name)) (name : String) :
    state.hasRun name = true ↔ name ∈ steps.map Step.name := by
  rw [← h.mem_iff, Dict.mem_keys]
  rfl

/-- When the main step at `i` begins, the state has the names of the steps before it as its keys,
and the entry of each is what that step recorded when it completed. A run that succeeds ends in
such a state with the names of all main steps, and of no cleanup step. -/
theorem runTask_state (t : Target σ) (inputs : Inputs) (task : Task) (w₀ : World σ) :
    (∀ i state w, Reaches t inputs w₀ (task.steps.take i) state w →
      runTask t inputs task w₀ = runSteps t inputs (task.steps.drop i) state w ∧
      state.keys.Perm ((task.steps.take i).map Step.name) ∧
      ∀ j s, j < i → task.steps[j]? = some s → ∃ outputs,
        state.outputs? s.name = some outputs ∧
          Completed t inputs w₀ (task.steps.take j) s outputs) ∧
    ∀ state w, runTask t inputs task w₀ = (.ok state, w) →
      Reaches t inputs w₀ task.steps state w ∧ state.keys.Perm (task.steps.map Step.name) ∧
      ∀ s ∈ task.cleanup, state.hasRun s.name = false := by
  constructor
  · intro i state w h
    have hd : ((task.steps.take i).map Step.name).Nodup :=
      task.nodup_steps.sublist ((List.take_sublist i task.steps).map Step.name)
    have hafter := h.stateAfter hd
    refine ⟨?_, hafter.keys, ?_⟩
    · rw [← h.run_append, List.take_append_drop]
      rfl
    · intro j s hj hs
      obtain ⟨hlt, rfl⟩ := List.getElem?_eq_some_iff.mp hs
      have hj' : j < (task.steps.take i).length := by
        rw [List.length_take]
        omega
      have hsplit := (List.take_append_drop j (task.steps.take i)).symm
      rw [List.drop_eq_getElem_cons hj', List.take_take, Nat.min_eq_left (Nat.le_of_lt hj),
        List.getElem_take] at hsplit
      exact hafter.entries _ _ _ hsplit
  · intro state w h
    have hreach : Reaches t inputs w₀ task.steps state w := reaches_iff.mpr h
    have hkeys := (hreach.stateAfter task.nodup_steps).keys
    refine ⟨hreach, hkeys, fun s hs => ?_⟩
    rw [Bool.eq_false_iff, Ne, hasRun_iff hkeys]
    intro hmem
    obtain ⟨x, hx, hname⟩ := List.mem_map.mp hmem
    exact name_ne_of_nodup task.distinct hx hs hname

end

def generateStep : Step :=
  ⟨"generate", .func ⟨"gen", ["path"], .future (.set "note" "draft" .done)⟩⟩

def applyStep : Step := ⟨"apply", .command ⟨"kubectl",
  [.literal "apply", .ref (.output "generate" "path"), .ref (.input "seed")]⟩⟩

def reportStep : Step := ⟨"report", .command ⟨"echo", [.ref (.output "apply" stdoutKey)]⟩⟩

def stopStep : Step := ⟨"stop", .command ⟨"cat", [.ref (.output "apply" stderrKey)]⟩⟩

/-- A function that sets another key than it declares, two commands that refer to what is before
them, and a cleanup step. -/
def release : Task where
  steps := [generateStep, applyStep, reportStep]
  cleanup := [stopStep]
  inputs := Registry.forInputs.define "seed"
  distinct := by decide

def seeded : Inputs := Dict.empty.insert "seed" "7"

/-- Answers every command with its own line. -/
def echoing : Target Record := scripted [] fun _ => .buffer

def echoed (path : String) (args : List String) : String := (Invocation.mk path args).line ++ "\n"

theorem runStep_echoing {s : Step} {c : Command} {state : RunState} {args : List String}
    (hc : s.runnable = .command c) (hargs : resolveArgs s.name seeded state c.args = .ok args)
    (w : World Record) : (runStep echoing seeded s state w).1 =
      .ok (state.record s.name (Dict.empty.insert stdoutKey (echoed c.path args))) := by
  have hrun : (runCommand echoing seeded s.name c state (w.tell (.began s.name))).1 = _ :=
    runCommand_of_steady hargs rfl rfl rfl fun _ => Sink.steady_buffer
  simp only [runStep, runRunnable, hc]
  cases hw : runCommand echoing seeded s.name c state (w.tell (.began s.name)) with
  | mk r w₁ =>
      rw [hw] at hrun
      cases hrun
      simp [Reader.bytes, Reader.ofBytes, Utf8.decode_encode, echoed]

/-- What running `release` records. -/
def released : RunState :=
  let generated : RunState :=
    RunState.record .empty "generate" ((Dict.empty.insert "note" "draft").insert "path" "")
  let applied := echoed "kubectl" ["apply", "", "7"]
  (generated.record "apply" (Dict.empty.insert stdoutKey applied)).record "report"
    (Dict.empty.insert stdoutKey (echoed "echo" [applied]))

theorem release_succeeds :
    ∃ w, runTask echoing seeded release ⟨.empty, []⟩ = (.ok released, w) := by
  have hgenerate : (runStep echoing seeded generateStep .empty ⟨.empty, []⟩).1 = .ok _ := rfl
  have h₁ := (Reaches.start (t := echoing)).next (Prod.ext hgenerate rfl)
  have h₂ := h₁.next (s := applyStep) (Prod.ext (runStep_echoing rfl rfl _) rfl)
  have h₃ := h₂.next (s := reportStep) (Prod.ext (runStep_echoing rfl rfl _) rfl)
  exact ⟨_, reaches_iff.mp h₃⟩

theorem release_state : ∃ outputs w,
    runTask echoing seeded release ⟨.empty, []⟩ = (.ok released, w) ∧
    released.keys.Perm ["generate", "apply", "report"] ∧ released.hasRun "stop" = false ∧
    released.outputs? "apply" = some outputs ∧
    Completed echoing seeded ⟨.empty, []⟩ [generateStep] applyStep outputs := by
  obtain ⟨w, hrun⟩ := release_succeeds
  obtain ⟨hbegins, hends⟩ := runTask_state echoing seeded release ⟨.empty, []⟩
  obtain ⟨hreach, hkeys, hcleanup⟩ := hends released w hrun
  obtain ⟨-, -, hentries⟩ := hbegins 3 released w hreach
  obtain ⟨outputs, houtputs, hcompleted⟩ := hentries 1 applyStep (by decide) rfl
  exact ⟨outputs, w, hrun, hkeys, hcleanup stopStep List.mem_cons_self, houtputs, hcompleted⟩

end Pipeline
