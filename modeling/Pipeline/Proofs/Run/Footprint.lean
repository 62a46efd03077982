import Pipeline.Proofs.Run.Lookup
import Pipeline.Proofs.Run.Recorded

/-!
# What a step depends on, and what it changes

Of the state that it begins with a step sees the answers to the references that it looks up, in its
arguments or from its body (`Step.lookups`). Which ones these are may turn on the answers to those
before. Where a second state answers them alike (`AnswersAlike`), the step acts on the world as it
did and comes to the same result (`runRunnable_alike`). Of the state itself it changes its own entry
if it completes, and nothing if it fails (`RunState.afterStep`).
-/

namespace Pipeline

/-- Two states hold the same for a reference: the same value, no such output of its producer, or no
entry for the producer. Inputs are not for a state to answer. -/
def AnswersAlike (state state' : RunState) (r : Ref) : Prop :=
  ∀ producer, r.step = some producer →
    (state'.outputs? producer).map (·.get? r.key) = (state.outputs? producer).map (·.get? r.key)

/-- States answer a reference alike just if no step can tell them apart by it. -/
theorem answersAlike_iff {state state' : RunState} {r : Ref} (step : String) (inputs : Inputs) :
    AnswersAlike state state' r ↔ SameAnswer step inputs state state' r := by
  unfold AnswersAlike SameAnswer resolve
  cases r.step with
  | none => simp
  | some producer =>
      simp only [Option.some.injEq, forall_eq']
      cases state.outputs? producer with
      | none =>
          cases state'.outputs? producer with
          | none => simp
          | some d' => cases hd' : d'.get? r.key <;> simp [hd']
      | some d =>
          cases state'.outputs? producer with
          | none => cases hd : d.get? r.key <;> simp [hd]
          | some d' => cases hd : d.get? r.key <;> cases hd' : d'.get? r.key <;> simp [hd, hd']

/-- The state that a step leaves to whatever comes after it. -/
def RunState.afterStep (state : RunState) : Except (Halt RunError) RunState → RunState
  | .ok new => new
  | .error _ => state

section
variable {σ : Type} (t : Target σ) (inputs : Inputs)

/-- The references that a step looks up on its way to its end. -/
def Step.lookups (s : Step) (state : RunState) (w : World σ) : List Ref :=
  match s.runnable with
  | .command c => argLookups s.name inputs state c.args
  | .func f => Pipeline.lookups t inputs s.name state f.body .empty (w.tell (.began s.name))

variable {t inputs}

/-- What is the same in both worlds at the start stays the same. -/
theorem indistinct_eq (t : Target σ) (step : String) : Indistinct t step Eq where
  call _ _ _ _ h := by
    rw [h]
    exact ⟨rfl, rfl⟩
  note _ _ _ h := by rw [h]

theorem runRunnable_alike {s : Step} {state state' : RunState} {w : World σ}
    (h : ∀ r ∈ s.lookups t inputs state w, AnswersAlike state state' r) :
    runRunnable t inputs s.name s.runnable state' (w.tell (.began s.name)) =
      runRunnable t inputs s.name s.runnable state (w.tell (.began s.name)) := by
  have hsame : ∀ r ∈ s.lookups t inputs state w, SameAnswer s.name inputs state state' r :=
    fun r hr => (answersAlike_iff s.name inputs).mp (h r hr)
  unfold Step.lookups at hsame
  cases hs : s.runnable with
  | command c =>
      rw [hs] at hsame
      simp only [runRunnable, runCommand, resolveArgs_congr hsame]
  | func f =>
      rw [hs] at hsame
      obtain ⟨hresult, hworld⟩ := runFunc_congr (indistinct_eq t s.name) rfl hsame
      exact Prod.ext hresult hworld.symm

/-- What is attempted after a step goes on from the state that the step left. -/
theorem attemptSteps_cons {s : Step} {state : RunState} {w : World σ}
    (h : ∀ p, (runStep t inputs s state w).1 ≠ .error (.unwound p)) (later : List Step) :
    (attemptSteps t inputs (s :: later) state w).2 =
      (attemptSteps t inputs later (state.afterStep (runStep t inputs s state w).1)
        (runStep t inputs s state w).2).2 := by
  rw [attemptSteps]
  cases hrun : runStep t inputs s state w with
  | mk result w₁ =>
      cases result with
      | ok new => rfl
      | error halt =>
          cases halt with
          | failed e => rfl
          | unwound p =>
              rw [hrun] at h
              exact absurd rfl (h p)

/-- After a step that a panic goes on past nothing more is attempted. -/
theorem attemptSteps_of_unwound {s : Step} {state : RunState} {w : World σ} {p : Panic}
    (h : (runStep t inputs s state w).1 = .error (.unwound p)) (later : List Step) :
    attemptSteps t inputs (s :: later) state w = (.error p, (runStep t inputs s state w).2) := by
  rw [attemptSteps]
  cases hrun : runStep t inputs s state w with
  | mk result w₁ =>
      rw [hrun] at h
      cases h
      rfl

/-- A step does the same, with the same result and the same outputs to record, in any two states
that answer alike what it looks up in the first. It leaves the entries of other steps as they are,
and if it fails its own too. That is the state for what is attempted next, if anything is. -/
theorem runStep_footprint (t : Target σ) (inputs : Inputs) (s : Step) (state : RunState)
    (w : World σ) :
    (∀ state', (∀ r ∈ s.lookups t inputs state w, AnswersAlike state state' r) →
      (runStep t inputs s state' w).2 = (runStep t inputs s state w).2 ∧
      ((∃ e, (runStep t inputs s state w).1 = .error e ∧
          (runStep t inputs s state' w).1 = .error e) ∨
        ∃ outputs, (runStep t inputs s state w).1 = .ok (state.record s.name outputs) ∧
          (runStep t inputs s state' w).1 = .ok (state'.record s.name outputs))) ∧
    (∀ name, name ≠ s.name →
      (state.afterStep (runStep t inputs s state w).1).outputs? name = state.outputs? name) ∧
    (∀ e, (runStep t inputs s state w).1 = .error e →
      state.afterStep (runStep t inputs s state w).1 = state) ∧
    ((∀ p, (runStep t inputs s state w).1 ≠ .error (.unwound p)) →
      ∀ later, (attemptSteps t inputs (s :: later) state w).2 =
        (attemptSteps t inputs later (state.afterStep (runStep t inputs s state w).1)
          (runStep t inputs s state w).2).2) ∧
    ∀ p, (runStep t inputs s state w).1 = .error (.unwound p) → ∀ later,
      attemptSteps t inputs (s :: later) state w = (.error p, (runStep t inputs s state w).2) := by
  refine ⟨fun state' h => ?_, fun name hname => ?_, fun e he => ?_, attemptSteps_cons,
    fun p => attemptSteps_of_unwound⟩
  · have halike := runRunnable_alike h
    simp only [runStep, halike]
    cases runRunnable t inputs s.name s.runnable state (w.tell (.began s.name)) with
    | mk result w₁ =>
        cases result with
        | error e => exact ⟨rfl, .inl ⟨e, rfl, rfl⟩⟩
        | ok outputs => exact ⟨rfl, .inr ⟨outputs, rfl, rfl⟩⟩
  · cases hrun : runStep t inputs s state w with
    | mk result w₁ =>
        cases result with
        | error e => rfl
        | ok new =>
            obtain ⟨outputs, -, rfl⟩ := runStep_ok hrun
            exact RunState.outputs?_record_of_ne state outputs hname
  · rw [he]
    rfl

end

/-- Looks for an output of one step, and for one of another where the first is missing. -/
def locateStep : Step := ⟨"locate", .func ⟨"locate", ["found"],
  .future <| .resolve (.output "generate" "path") fun
    | .ok path => .set "found" path .done
    | .error _ => .resolving (.output "apply" stdoutKey) fun text => .set "found" text .done⟩⟩

def drafted : RunState :=
  (RunState.record .empty "generate" (Dict.empty.insert "note" "draft")).record "apply"
    (Dict.empty.insert stdoutKey "done")

/-- Another note, and an entry more. -/
def reported : RunState :=
  ((RunState.record .empty "generate" (Dict.empty.insert "note" "final")).record "apply"
    (Dict.empty.insert stdoutKey "done")).record "report" .empty

theorem locate_alike : drafted.outputs? "generate" ≠ reported.outputs? "generate" ∧
    ∃ outputs w, outputs.get? "found" = some "done" ∧
      runStep echoing seeded locateStep drafted ⟨.empty, []⟩ =
        (.ok (drafted.record "locate" outputs), w) ∧
      runStep echoing seeded locateStep reported ⟨.empty, []⟩ =
        (.ok (reported.record "locate" outputs), w) := by
  refine ⟨by decide, ?_⟩
  have hlookups : locateStep.lookups echoing seeded drafted ⟨.empty, []⟩ =
      [.output "generate" "path", .output "apply" stdoutKey] := rfl
  have hrun : (runStep echoing seeded locateStep drafted ⟨.empty, []⟩).1 =
      .ok (drafted.record locateStep.name (Dict.empty.insert "found" "done")) := rfl
  have hsame : ∀ r ∈ locateStep.lookups echoing seeded drafted ⟨.empty, []⟩,
      AnswersAlike drafted reported r := by
    rw [hlookups]
    simp only [List.mem_cons, List.not_mem_nil, or_false]
    rintro r (rfl | rfl) producer ⟨⟩ <;> rfl
  obtain ⟨halike, -⟩ := runStep_footprint echoing seeded locateStep drafted ⟨.empty, []⟩
  obtain ⟨hworld, ⟨e, he, -⟩ | ⟨outputs, hok, hok'⟩⟩ := halike reported hsame
  · rw [hrun] at he
    cases he
  · have hrecorded := congrArg (RunState.outputs? · locateStep.name)
      (Except.ok.inj (hrun.symm.trans hok))
    simp only [RunState.outputs?_record_self, Option.some.injEq] at hrecorded
    refine ⟨outputs, _, ?_, Prod.ext hok rfl, Prod.ext hok' hworld⟩
    rw [← hrecorded]
    rfl

end Pipeline
