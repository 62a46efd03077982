import Pipeline.Run.Exec

/-!
# How steps end, and how far a run gets

A command step ends in one of six ways and a function step in one of four; `CommandOutcome` and
`FuncOutcome` list them, so that later proofs split on the way a step ended and not on the code
that ran it. `Reaches` says that a run got past some steps, and with which state. A run that stops,
by an error or by a panic that goes on, stops at one step, after the steps before it completed
(`runSteps_error`).
-/

namespace Pipeline

/-- Where an element stands in a list to which one more was appended. -/
theorem split_of_concat {α : Type} {done before after : List α} {s x : α}
    (h : done ++ [s] = before ++ x :: after) :
    (before = done ∧ x = s) ∨ ∃ rest, done = before ++ x :: rest := by
  rcases List.eq_nil_or_concat after with rfl | ⟨rest, last, rfl⟩
  · obtain ⟨hdone, hs⟩ := List.append_inj' h rfl
    cases hs
    exact .inl ⟨hdone.symm, rfl⟩
  · have h' : done ++ [s] = (before ++ x :: rest) ++ [last] := by simpa using h
    exact .inr ⟨rest, (List.append_inj' h' rfl).1⟩

section
variable {σ : Type} {t : Target σ} {inputs : Inputs}

/-- The ways in which a command step ends. -/
inductive CommandOutcome (t : Target σ) (inputs : Inputs) (step : String) (c : Command)
    (state : RunState) (w : World σ) : Except (Halt RunError) (Dict String) × World σ → Prop
  | refused {e : ResolveError} : resolveArgs step inputs state c.args = .error e →
      CommandOutcome t inputs step c state w (.error (.failed (.resolve e)), w)
  | panicked {args : List String} {p : Panic} {w₁ : World σ} :
      resolveArgs step inputs state c.args = .ok args → call t step c args w = (.panic p, w₁) →
      CommandOutcome t inputs step c state w (.error (.failed (.panicked step p.message)), w₁)
  | unwound {args : List String} {p : Panic} {w₁ : World σ} :
      resolveArgs step inputs state c.args = .ok args → call t step c args w = (.unwound p, w₁) →
      CommandOutcome t inputs step c state w (.error (.unwound p), w₁)
  | failed {args : List String} {e : TargetError} {w₁ : World σ} :
      resolveArgs step inputs state c.args = .ok args → call t step c args w = (.error e, w₁) →
      CommandOutcome t inputs step c state w (.error (.failed (.execution step e)), w₁)
  | broken {args : List String} {stdout stderr : Reader} {e : StreamError} {w₁ w₂ : World σ} :
      resolveArgs step inputs state c.args = .ok args →
      call t step c args w = (.streams stdout stderr, w₁) →
      copyOut t step stdout stderr w₁ = (.error e, w₂) →
      CommandOutcome t inputs step c state w (.error (.failed (.stream step e)), w₂)
  | completed {args : List String} {stdout stderr : Reader} {captured : Captured}
      {w₁ w₂ : World σ} :
      resolveArgs step inputs state c.args = .ok args →
      call t step c args w = (.streams stdout stderr, w₁) →
      copyOut t step stdout stderr w₁ = (.ok captured, w₂) →
      CommandOutcome t inputs step c state w
        (.ok (Dict.empty.insert stdoutKey captured.stdout), w₂)

theorem runCommand_outcome {step : String} {c : Command} {state : RunState} {w : World σ}
    {r : Except (Halt RunError) (Dict String) × World σ}
    (h : runCommand t inputs step c state w = r) : CommandOutcome t inputs step c state w r := by
  unfold runCommand at h
  split at h
  · rename_i e he
    subst h
    exact .refused he
  · rename_i args hargs
    split at h
    · rename_i p w₁ hcall
      subst h
      exact .panicked hargs hcall
    · rename_i p w₁ hcall
      subst h
      exact .unwound hargs hcall
    · rename_i e w₁ hcall
      subst h
      exact .failed hargs hcall
    · rename_i stdout stderr w₁ hcall
      split at h
      · rename_i e w₂ hcopy
        subst h
        exact .broken hargs hcall hcopy
      · rename_i captured w₂ hcopy
        subst h
        exact .completed hargs hcall hcopy

/-- The ways in which a function step ends. -/
inductive FuncOutcome (t : Target σ) (inputs : Inputs) (step : String) (f : Func)
    (state : RunState) (w : World σ) : Except (Halt RunError) (Dict String) × World σ → Prop
  | completed {set : Dict String} {w₁ : World σ} :
      runBody t inputs step state f.body .empty w = (.done, set, w₁) →
      FuncOutcome t inputs step f state w (.ok (withDefaults f.outputs set), w₁)
  | failed {failure : Failure} {set : Dict String} {w₁ : World σ} :
      runBody t inputs step state f.body .empty w = (.failed failure, set, w₁) →
      FuncOutcome t inputs step f state w (.error (.failed (.func step failure)), w₁)
  | panicked {p : Panic} {set : Dict String} {w₁ : World σ} :
      runBody t inputs step state f.body .empty w = (.panicked p, set, w₁) →
      FuncOutcome t inputs step f state w (.error (.failed (.panicked step p.message)), w₁)
  | unwound {p : Panic} {set : Dict String} {w₁ : World σ} :
      runBody t inputs step state f.body .empty w = (.unwound p, set, w₁) →
      FuncOutcome t inputs step f state w (.error (.unwound p), w₁)

theorem runFunc_outcome {step : String} {f : Func} {state : RunState} {w : World σ}
    {r : Except (Halt RunError) (Dict String) × World σ}
    (h : runFunc t inputs step f state w = r) : FuncOutcome t inputs step f state w r := by
  unfold runFunc at h
  split at h
  · rename_i set w₁ hbody
    subst h
    exact .completed hbody
  · rename_i failure set w₁ hbody
    subst h
    exact .failed hbody
  · rename_i p set w₁ hbody
    subst h
    exact .panicked hbody
  · rename_i p set w₁ hbody
    subst h
    exact .unwound hbody

theorem runStep_ok {s : Step} {state state' : RunState} {w w' : World σ}
    (h : runStep t inputs s state w = (.ok state', w')) :
    ∃ outputs, runRunnable t inputs s.name s.runnable state (w.tell (.began s.name)) =
      (.ok outputs, w') ∧ state' = state.record s.name outputs := by
  unfold runStep at h
  split at h
  · rename_i outputs w₁ hrun
    cases h
    exact ⟨outputs, hrun, rfl⟩
  · cases h

theorem runStep_error {s : Step} {state : RunState} {w w' : World σ} {e : Halt RunError}
    (h : runStep t inputs s state w = (.error e, w')) :
    runRunnable t inputs s.name s.runnable state (w.tell (.began s.name)) = (.error e, w') := by
  unfold runStep at h
  split at h
  · cases h
  · rename_i e₁ w₁ hrun
    cases h
    exact hrun

/-- A reference is refused in the name of the step that holds it. -/
theorem resolve_error_step {step : String} {state : RunState} {r : Ref} {e : ResolveError}
    (h : resolve step inputs state r = .error e) : e.step = step := by
  unfold resolve at h
  split at h
  · split at h <;> cases h
    rfl
  · split at h
    · cases h
      rfl
    · split at h <;> cases h
      rfl

theorem resolveArgs_error {step : String} {state : RunState} {args : List Arg} {e : ResolveError}
    (h : resolveArgs step inputs state args = .error e) :
    ∃ r, Arg.ref r ∈ args ∧ resolve step inputs state r = .error e := by
  induction args with
  | nil => cases h
  | cons a as ih =>
      unfold resolveArgs at h
      split at h
      · rename_i e₁ ha
        cases h
        cases a with
        | literal text => cases ha
        | ref r => exact ⟨r, by simp, ha⟩
      · split at h
        · rename_i e₁ has
          cases h
          obtain ⟨r, hr, he⟩ := ih has
          exact ⟨r, List.mem_cons_of_mem _ hr, he⟩
        · cases h

theorem resolveArgs_error_step {step : String} {state : RunState} {args : List Arg}
    {e : ResolveError} (h : resolveArgs step inputs state args = .error e) : e.step = step := by
  obtain ⟨r, _, hr⟩ := resolveArgs_error h
  exact resolve_error_step hr

/-- The error of a step names that step. -/
theorem runStep_error_step {s : Step} {state : RunState} {w w' : World σ} {e : RunError}
    (h : runStep t inputs s state w = (.error (.failed e), w')) : e.step = s.name := by
  have hrun := runStep_error h
  unfold runRunnable at hrun
  split at hrun
  · cases runCommand_outcome hrun with
    | refused hargs => exact resolveArgs_error_step hargs
    | panicked _ _ => rfl
    | failed _ _ => rfl
    | broken _ _ _ => rfl
  · cases runFunc_outcome hrun with
    | failed _ => rfl
    | panicked _ => rfl

/-- Only a command step is refused for a reference, and then none of its effects took place. -/
theorem runStep_resolve_error {s : Step} {state : RunState} {w w' : World σ} {e : ResolveError}
    (h : runStep t inputs s state w = (.error (.failed (.resolve e)), w')) :
    ∃ c, s.runnable = .command c ∧ resolveArgs s.name inputs state c.args = .error e ∧
      w' = w.tell (.began s.name) := by
  have hrun := runStep_error h
  unfold runRunnable at hrun
  split at hrun
  · rename_i c hc
    cases runCommand_outcome hrun with
    | refused hargs => exact ⟨c, hc, hargs, rfl⟩
  · cases runFunc_outcome hrun

theorem runStep_of_refused {s : Step} {c : Command} {state : RunState} {e : ResolveError}
    (hc : s.runnable = .command c) (he : resolveArgs s.name inputs state c.args = .error e)
    (w : World σ) :
    runStep t inputs s state w = (.error (.failed (.resolve e)), w.tell (.began s.name)) := by
  simp [runStep, runRunnable, runCommand, hc, he]

/-- A run from the empty state got past the steps `done`, and left a state and a world. -/
inductive Reaches (t : Target σ) (inputs : Inputs) (w₀ : World σ) :
    List Step → RunState → World σ → Prop
  | start : Reaches t inputs w₀ [] .empty w₀
  | next {done : List Step} {s : Step} {state state' : RunState} {w w' : World σ} :
      Reaches t inputs w₀ done state w → runStep t inputs s state w = (.ok state', w') →
      Reaches t inputs w₀ (done ++ [s]) state' w'

theorem runSteps_append (xs ys : List Step) (state : RunState) (w : World σ) :
    runSteps t inputs (xs ++ ys) state w =
      match runSteps t inputs xs state w with
      | (.ok state, w) => runSteps t inputs ys state w
      | (.error e, w) => (.error e, w) := by
  induction xs generalizing state w with
  | nil => rfl
  | cons s ss ih =>
      simp only [List.cons_append, runSteps]
      cases runStep t inputs s state w with
      | mk r w₁ =>
          cases r with
          | error e => rfl
          | ok state₁ => exact ih state₁ w₁

theorem Reaches.run_eq {w₀ : World σ} {done : List Step} {state : RunState} {w : World σ}
    (h : Reaches t inputs w₀ done state w) :
    runSteps t inputs done .empty w₀ = (.ok state, w) := by
  induction h with
  | start => rfl
  | next _ hs ih =>
      rw [runSteps_append, ih]
      simp only [runSteps, hs]

/-- What is left to run goes on from the state and the world that the run has reached. -/
theorem Reaches.run_append {w₀ : World σ} {done : List Step} {state : RunState}
    {w : World σ} (h : Reaches t inputs w₀ done state w) (todo : List Step) :
    runSteps t inputs (done ++ todo) .empty w₀ =
      runSteps t inputs todo state w := by
  rw [runSteps_append, h.run_eq]

theorem Reaches.extend {w₀ : World σ} {done todo : List Step} {state state' : RunState}
    {w w' : World σ} (h : Reaches t inputs w₀ done state w)
    (hr : runSteps t inputs todo state w = (.ok state', w')) :
    Reaches t inputs w₀ (done ++ todo) state' w' := by
  induction todo generalizing done state w with
  | nil =>
      cases hr
      simpa using h
  | cons s ss ih =>
      simp only [runSteps] at hr
      split at hr
      · rename_i state₁ w₁ hs
        have h₁ := ih (h.next hs) hr
        simpa using h₁
      · cases hr

theorem reaches_iff {w₀ : World σ} {done : List Step} {state : RunState} {w : World σ} :
    Reaches t inputs w₀ done state w ↔ runSteps t inputs done .empty w₀ = (.ok state, w) :=
  ⟨Reaches.run_eq, fun h => Reaches.extend .start h⟩

/-- A run that stops does so at one step, after the steps before it completed. -/
theorem runSteps_error {w₀ : World σ} {steps : List Step} {e : Halt RunError} {w' : World σ}
    (h : runSteps t inputs steps .empty w₀ = (.error e, w')) :
    ∃ done s todo state w, steps = done ++ s :: todo ∧ Reaches t inputs w₀ done state w ∧
      runStep t inputs s state w = (.error e, w') := by
  suffices hs : ∀ todo done state w, Reaches t inputs w₀ done state w →
      runSteps t inputs todo state w = (.error e, w') →
      ∃ xs s ys state w, done ++ todo = xs ++ s :: ys ∧ Reaches t inputs w₀ xs state w ∧
        runStep t inputs s state w = (.error e, w') from
    hs steps [] .empty w₀ .start h
  intro todo
  induction todo with
  | nil =>
      intro done state w _ hr
      cases hr
  | cons s ss ih =>
      intro done state w hd hr
      simp only [runSteps] at hr
      split at hr
      · rename_i state₁ w₁ hs
        obtain ⟨xs, x, ys, state₂, w₂, hsplit, hx⟩ := ih _ _ _ (hd.next hs) hr
        exact ⟨xs, x, ys, state₂, w₂, by simpa using hsplit, hx⟩
      · rename_i e₁ w₁ hs
        cases hr
        exact ⟨done, s, ss, state, w, rfl, hd, hs⟩

end

theorem cleanupResult_eq_ok {r : Except Panic (Option RunError)} :
    cleanupResult r = .ok () ↔ r = .ok none := by
  rcases r with p | (_ | e) <;> simp [cleanupResult]

theorem cleanupResult_eq_failed {r : Except Panic (Option RunError)} {e : RunError} :
    cleanupResult r = .error (.failed e) ↔ r = .ok (some e) := by
  rcases r with p | (_ | first) <;> simp [cleanupResult]

theorem cleanupResult_eq_unwound {r : Except Panic (Option RunError)} {p : Panic} :
    cleanupResult r = .error (.unwound p) ↔ r = .error p := by
  rcases r with q | (_ | e) <;> simp [cleanupResult]

end Pipeline
