import Mathlib.Data.List.Induction
import Mathlib.Data.List.Nodup
import Pipeline.Proofs.Run.Ends
import Pipeline.Proofs.Run.Log
import Pipeline.Proofs.Run.Objections

/-!
# Cleaning up

Cleanup attempts the cleanup steps one after the other, the last declared first, and goes on after a
failure. A list of `Attempt`s says what each step resolved its references against and what came of
it, and `Attempted` that a cleanup made these attempts. The state that it was called with is never
written to: what a step sees is that state with the outputs of the attempts that have succeeded by
then (`RunState.extend`), and a failure adds nothing to it. Of several failures the first one to
happen is reported, which is that of the step declared last (`Reported`).

Only a panic that goes on past a step keeps the steps after it from being attempted
(`recall_unwinds`).
-/

namespace Pipeline

/-- An attempt of a step: the state that it began with, and its outputs or what it halted with. -/
structure Attempt where
  step : Step
  state : RunState
  outcome : Except (Halt RunError) (Dict String)

namespace Attempt

def Succeeded (a : Attempt) : Prop := ∃ outputs, a.outcome = .ok outputs

/-- A panic went on past the step. -/
def Unwound (a : Attempt) : Prop := ∃ p, a.outcome = .error (.unwound p)

/-- The error of an attempt that failed. -/
def error? (a : Attempt) : Option RunError :=
  match a.outcome with
  | .error (.failed e) => some e
  | .error (.unwound _) => none
  | .ok _ => none

theorem error?_eq_none {a : Attempt} (h : ¬a.Unwound) : a.error? = none ↔ a.Succeeded := by
  unfold Unwound at h
  unfold error? Succeeded
  split <;> simp_all

theorem error?_eq_some {a : Attempt} {e : RunError} :
    a.error? = some e ↔ a.outcome = .error (.failed e) := by
  unfold error?
  split <;> simp_all

theorem not_unwound_of_succeeded {a : Attempt} (h : a.Succeeded) : ¬a.Unwound := by
  rintro ⟨p, hp⟩
  obtain ⟨outputs, hok⟩ := h
  cases hok.symm.trans hp

end Attempt

/-- A state with what an attempt adds to it. -/
def RunState.after (state : RunState) (a : Attempt) : RunState :=
  match a.outcome with
  | .ok outputs => state.record a.step.name outputs
  | .error _ => state

/-- A state with the outputs of those attempts that succeeded. -/
def RunState.extend (state : RunState) (attempts : List Attempt) : RunState :=
  attempts.foldl RunState.after state

theorem RunState.extend_concat (state : RunState) (attempts : List Attempt) (a : Attempt) :
    state.extend (attempts ++ [a]) = (state.extend attempts).after a := by
  simp [extend]

/-- Attempts of steps of other names leave an entry as it is. -/
theorem RunState.outputs?_extend_of_others {state : RunState} {attempts : List Attempt}
    {name : String} (h : ∀ a ∈ attempts, a.Succeeded → a.step.name ≠ name) :
    (state.extend attempts).outputs? name = state.outputs? name := by
  induction attempts using List.reverseRecOn with
  | nil => rfl
  | append_singleton attempts a ih =>
      have hkept := ih fun x hx => h x (by simp [hx])
      rw [extend_concat, after]
      split
      · rename_i outputs hok
        have hne : name ≠ a.step.name := (h a (by simp) ⟨outputs, hok⟩).symm
        exact (outputs?_record_of_ne _ _ hne).trans hkept
      · exact hkept

/-- Among attempts of different steps, each that succeeded left its outputs. -/
theorem RunState.outputs?_extend_of_mem {state : RunState} {attempts : List Attempt} {a : Attempt}
    {outputs : Dict String} (hd : (attempts.map fun x => x.step.name).Nodup) (ha : a ∈ attempts)
    (hok : a.outcome = .ok outputs) :
    (state.extend attempts).outputs? a.step.name = some outputs := by
  obtain ⟨before, after, rfl⟩ := List.append_of_mem ha
  have hsplit : before ++ a :: after = (before ++ [a]) ++ after := by simp
  have hothers : ∀ x ∈ after, x.Succeeded → x.step.name ≠ a.step.name := by
    intro x hx _ heq
    rw [List.map_append, List.nodup_append] at hd
    rw [List.map_cons, List.nodup_cons] at hd
    exact hd.2.1.1 (heq ▸ List.mem_map_of_mem hx)
  have hself : (state.extend (before ++ [a])).outputs? a.step.name = some outputs := by
    rw [extend_concat, RunState.after, hok]
    exact outputs?_record_self ..
  rw [hsplit, extend, List.foldl_append]
  exact (outputs?_extend_of_others hothers).trans hself

section
variable {σ : Type} {t : Target σ} {inputs : Inputs}

/-- From a state and a world these attempts were made in order, each once, and they left a world. -/
inductive Attempted (t : Target σ) (inputs : Inputs) (state : RunState) (w₀ : World σ) :
    List Attempt → World σ → Prop
  | start : Attempted t inputs state w₀ [] w₀
  | next {made : List Attempt} {s : Step} {outcome : Except (Halt RunError) (Dict String)}
      {w w' : World σ} : Attempted t inputs state w₀ made w →
      s.Ends t inputs (state.extend made) w outcome w' →
      Attempted t inputs state w₀ (made ++ [⟨s, state.extend made, outcome⟩]) w'

/-- Each attempt began with what the attempts before it had added. -/
theorem Attempted.state_eq {state : RunState} {w₀ w : World σ} {made before after : List Attempt}
    {a : Attempt} (h : Attempted t inputs state w₀ made w) (hsplit : made = before ++ a :: after) :
    a.state = state.extend before := by
  induction h generalizing before a after with
  | start => simp at hsplit
  | next _ _ ih =>
      rcases split_of_concat hsplit with ⟨rfl, rfl⟩ | ⟨rest, hrest⟩
      · rfl
      · exact ih hrest

/-- An attempt found the outputs of the attempts before it that had succeeded, and every other
entry as it was at the start. -/
theorem Attempted.found {state : RunState} {w₀ w : World σ} {made before after : List Attempt}
    {a : Attempt} (h : Attempted t inputs state w₀ made w)
    (hd : (made.map fun x => x.step.name).Nodup) (hsplit : made = before ++ a :: after) :
    (∀ x ∈ before, ∀ outputs, x.outcome = .ok outputs →
      a.state.outputs? x.step.name = some outputs) ∧
    ∀ name, (∀ x ∈ before, x.Succeeded → x.step.name ≠ name) →
      a.state.outputs? name = state.outputs? name := by
  rw [h.state_eq hsplit]
  rw [hsplit, List.map_append] at hd
  have hbefore := (List.nodup_append.mp hd).1
  exact ⟨fun x hx outputs hok => RunState.outputs?_extend_of_mem hbefore hx hok,
    fun name hothers => RunState.outputs?_extend_of_others hothers⟩

theorem Attempted.error_step {state : RunState} {w₀ w : World σ} {made : List Attempt}
    (h : Attempted t inputs state w₀ made w) :
    ∀ a ∈ made, ∀ e, a.outcome = .error (.failed e) → e.step = a.step.name := by
  induction h with
  | start => simp
  | next _ hends ih =>
      intro a ha e he
      rcases List.mem_append.mp ha with ha | ha
      · exact ih a ha e he
      · rw [List.mem_singleton.mp ha] at he ⊢
        cases he
        exact runStep_error_step (runStep_error_iff.mpr hends)

/-- No panic goes on past attempts of steps whose panics all come from futures. -/
theorem Attempted.not_unwound {state : RunState} {w₀ w : World σ} {made : List Attempt}
    (h : Attempted t inputs state w₀ made w) (ht : t.Deferred)
    (hsteps : ∀ a ∈ made, a.step.Deferred) : ∀ a ∈ made, ¬a.Unwound := by
  induction h with
  | start => simp
  | @next made s outcome w w' _ hends ih =>
      intro a ha
      rcases List.mem_append.mp ha with ha | ha
      · exact ih (fun x hx => hsteps x (List.mem_append_left _ hx)) a ha
      · rw [List.mem_singleton.mp ha]
        rintro ⟨p, hp⟩
        cases hp
        have hs : s.Deferred := hsteps ⟨s, state.extend made, .error (.unwound p)⟩ (by simp)
        exact hends.not_unwound ht hs p

/-- What each attempt of a command asked of the target. The induction is on the attempts: a later
one of another name asks nothing on behalf of an earlier one. -/
theorem Attempted.calls {state : RunState} {w₀ w : World σ} {made : List Attempt}
    (h : Attempted t inputs state w₀ made w) (hd : (made.map fun x => x.step.name).Nodup) :
    ∃ events, w.log = w₀.log ++ events ∧ InTurn (made.map Attempt.step) events ∧
      ∀ a ∈ made, ∀ c, a.step.runnable = .command c →
        invocations a.step.name events = c.calls a.step.name inputs a.state := by
  induction h with
  | start => exact ⟨[], by simp, .nothing, by simp⟩
  | @next made s outcome w w' _ hends ih =>
      rw [List.map_append] at hd
      obtain ⟨hmade, -, hothers⟩ := List.nodup_append.mp hd
      obtain ⟨events, hevents, hturn, hcalls⟩ := ih hmade
      obtain ⟨work, hlog, hwork, hown⟩ := runRunnable_calls hends.runRunnable
      have hnew : ∀ a ∈ made, a.step.name ≠ s.name := fun a ha =>
        hothers _ (List.mem_map_of_mem ha) s.name (by simp)
      refine ⟨events ++ .began s.name :: work, ?_, ?_, ?_⟩
      · rw [hlog]
        simp [World.tell, hevents]
      · rw [List.map_append]
        exact hturn.next hwork
      · intro a ha c hc
        rw [invocations_append]
        rcases List.mem_append.mp ha with ha | ha
        · have hnone : invocations a.step.name (.began s.name :: work) = [] := by
            refine invocations_of_others fun e he => ?_
            rcases List.mem_cons.mp he with rfl | he
            · exact (hnew a ha).symm
            · rw [(hwork e he).1]
              exact (hnew a ha).symm
          rw [hnone, List.append_nil, hcalls a ha c hc]
        · rw [List.mem_singleton.mp ha] at hc ⊢
          have hnone : invocations s.name events = [] := by
            refine invocations_of_others fun e he heq => ?_
            have hmem := hturn.step_mem e he
            rw [List.map_map] at hmem
            obtain ⟨x, hx, hname⟩ := List.mem_map.mp hmem
            exact hnew x hx (hname.trans heq)
          rw [hnone, List.nil_append]
          exact hown c hc

/-- What attempts of these steps come to: the first error, if they were all attempted, and a panic,
if it went on past the last attempt that was made. -/
inductive ComeTo : List Step → List Attempt → Except Panic (Option RunError) → Prop
  | all {made : List Attempt} : (∀ a ∈ made, ¬a.Unwound) →
      ComeTo (made.map Attempt.step) made (.ok (made.findSome? Attempt.error?))
  | unwound {made : List Attempt} {a : Attempt} {p : Panic} {left : List Step} :
      (∀ x ∈ made, ¬x.Unwound) → a.outcome = .error (.unwound p) →
      ComeTo ((made ++ [a]).map Attempt.step ++ left) (made ++ [a]) (.error p)

theorem ComeTo.of_ok {s : Step} {steps : List Step} {made : List Attempt}
    {r : Except Panic (Option RunError)} (h : ComeTo steps made r) (state : RunState)
    (outputs : Dict String) : ComeTo (s :: steps) (⟨s, state, .ok outputs⟩ :: made) r := by
  have hsucceeded : Attempt.Succeeded ⟨s, state, .ok outputs⟩ := ⟨outputs, rfl⟩
  have hunwound := Attempt.not_unwound_of_succeeded hsucceeded
  cases h with
  | all hmade => exact .all (List.forall_mem_cons.mpr ⟨hunwound, hmade⟩)
  | unwound hmade hp =>
      exact @ComeTo.unwound (_ :: _) _ _ _ (List.forall_mem_cons.mpr ⟨hunwound, hmade⟩) hp

theorem ComeTo.of_error {s : Step} {steps : List Step} {made : List Attempt}
    {r : Except Panic (Option RunError)} (h : ComeTo steps made r) (state : RunState)
    (e : RunError) : ComeTo (s :: steps) (⟨s, state, .error (.failed e)⟩ :: made)
      (r.map fun _ => some e) := by
  have hunwound : ¬Attempt.Unwound ⟨s, state, .error (.failed e)⟩ := by
    rintro ⟨p, ⟨⟩⟩
  cases h with
  | all hmade => exact .all (List.forall_mem_cons.mpr ⟨hunwound, hmade⟩)
  | unwound hmade hp =>
      exact @ComeTo.unwound (_ :: _) _ _ _ (List.forall_mem_cons.mpr ⟨hunwound, hmade⟩) hp

theorem comeTo_of_unwound (s : Step) (steps : List Step) (state : RunState) (p : Panic) :
    ComeTo (s :: steps) [⟨s, state, .error (.unwound p)⟩] (.error p) :=
  @ComeTo.unwound [] ⟨s, state, .error (.unwound p)⟩ p steps (by simp) rfl

theorem comeTo_nothing : ComeTo [] [] (.ok none) := @ComeTo.all [] (by simp)

/-- What is still to be attempted goes on from the attempts made so far. The induction is on the
steps to attempt; a failure is remembered and the others are attempted all the same. -/
theorem Attempted.attemptSteps {state : RunState} {w₀ w : World σ} {made : List Attempt}
    (h : Attempted t inputs state w₀ made w) (steps : List Step) :
    ∃ more r w', Pipeline.attemptSteps t inputs steps (state.extend made) w = (r, w') ∧
      Attempted t inputs state w₀ (made ++ more) w' ∧ ComeTo steps more r := by
  induction steps generalizing made w with
  | nil => exact ⟨[], _, w, rfl, by simpa using h, comeTo_nothing⟩
  | cons s steps ih =>
      unfold Pipeline.attemptSteps
      cases hrun : runStep t inputs s (state.extend made) w with
      | mk result w₁ =>
          cases result with
          | ok state₁ =>
              obtain ⟨outputs, hends, rfl⟩ := runStep_ok_iff.mp hrun
              obtain ⟨more, r, w', hmore, hmade, hcome⟩ := ih (h.next hends)
              rw [RunState.extend_concat] at hmore
              exact ⟨_, r, w', hmore, by simpa using hmade, hcome.of_ok _ outputs⟩
          | error halt =>
              have hends := runStep_error_iff.mp hrun
              have hnext := h.next hends
              cases halt with
              | failed e =>
                  obtain ⟨more, r, w', hmore, hmade, hcome⟩ := ih hnext
                  rw [RunState.extend_concat] at hmore
                  have hlater : Pipeline.attemptSteps t inputs steps (state.extend made) w₁ =
                      (r, w') := hmore
                  simp only [hlater]
                  exact ⟨_, _, w', rfl, by simpa using hmade, hcome.of_error _ e⟩
              | unwound p =>
                  exact ⟨_, _, w₁, rfl, hnext, comeTo_of_unwound s steps _ p⟩

/-- How the attempts that were made of some steps, in this order, show in the result. -/
structure Reported (steps : List Step) (made : List Attempt)
    (result : Except (Halt RunError) Unit) : Prop where
  /-- They were attempted in order, each once, -/
  front : made.map Attempt.step <+: steps
  /-- and all of them, unless a panic went on past one, -/
  all : (∀ a ∈ made, ¬a.Unwound) → made.map Attempt.step = steps
  /-- which is then the last. -/
  last : ∀ before a after, made = before ++ a :: after → a.Unwound → after = []
  ok_iff : result = .ok () ↔ ∀ a ∈ made, a.Succeeded
  /-- The error is that of the first attempt that failed. -/
  error_iff : ∀ e, result = .error (.failed e) ↔ (∀ a ∈ made, ¬a.Unwound) ∧
    ∃ before a after, made = before ++ a :: after ∧ a.outcome = .error (.failed e) ∧
      ∀ x ∈ before, x.Succeeded
  unwound_iff : ∀ p, result = .error (.unwound p) ↔ ∃ a ∈ made, a.outcome = .error (.unwound p)

theorem findSome?_error?_eq_none {made : List Attempt} (h : ∀ a ∈ made, ¬a.Unwound) :
    made.findSome? Attempt.error? = none ↔ ∀ a ∈ made, a.Succeeded := by
  rw [List.findSome?_eq_none_iff]
  exact forall₂_congr fun a ha => Attempt.error?_eq_none (h a ha)

theorem findSome?_error?_eq_some {made : List Attempt} {e : RunError}
    (h : ∀ a ∈ made, ¬a.Unwound) :
    made.findSome? Attempt.error? = some e ↔ ∃ before a after,
      made = before ++ a :: after ∧ a.outcome = .error (.failed e) ∧
        ∀ x ∈ before, x.Succeeded := by
  rw [List.findSome?_eq_some_iff]
  have hsucceeded : ∀ {before a after}, made = before ++ a :: after → ∀ x ∈ before,
      (x.error? = none ↔ x.Succeeded) := fun hsplit x hx =>
    Attempt.error?_eq_none (h x (by rw [hsplit]; simp [hx]))
  constructor
  · rintro ⟨before, a, after, hsplit, he, hbefore⟩
    exact ⟨before, a, after, hsplit, Attempt.error?_eq_some.mp he,
      fun x hx => (hsucceeded hsplit x hx).mp (hbefore x hx)⟩
  · rintro ⟨before, a, after, hsplit, he, hbefore⟩
    exact ⟨before, a, after, hsplit, Attempt.error?_eq_some.mpr he,
      fun x hx => (hsucceeded hsplit x hx).mpr (hbefore x hx)⟩

theorem ComeTo.reported {steps : List Step} {made : List Attempt}
    {r : Except Panic (Option RunError)} (h : ComeTo steps made r) :
    Reported steps made (cleanupResult r) := by
  cases h with
  | @all made hmade =>
      refine ⟨List.prefix_rfl, fun _ => rfl, ?_, ?_, fun e => ?_, fun p => ?_⟩
      · intro before a after hsplit ha
        exact absurd ha (hmade a (by rw [hsplit]; simp))
      · rw [cleanupResult_eq_ok, Except.ok.injEq, findSome?_error?_eq_none hmade]
      · rw [cleanupResult_eq_failed, Except.ok.injEq, findSome?_error?_eq_some hmade,
          and_iff_right hmade]
      · constructor
        · intro hp
          cases cleanupResult_eq_unwound.mp hp
        · rintro ⟨a, ha, hp⟩
          exact absurd ⟨p, hp⟩ (hmade a ha)
  | @unwound made a p left hmade hp =>
      have ha : a ∈ made ++ [a] := by simp
      have hnone : ¬∀ x ∈ made ++ [a], ¬x.Unwound := fun h => h a ha ⟨p, hp⟩
      refine ⟨List.prefix_append _ _, fun h => absurd h hnone, ?_, ?_, fun e => ?_, fun q => ?_⟩
      · intro before x after hsplit hx
        rcases split_of_concat hsplit with ⟨rfl, rfl⟩ | ⟨rest, hrest⟩
        · simpa using hsplit
        · exact absurd hx (hmade x (by rw [hrest]; simp))
      · constructor
        · intro h
          cases h
        · intro h
          exact absurd ⟨p, hp⟩ (Attempt.not_unwound_of_succeeded (h a ha))
      · constructor
        · intro h
          cases h
        · rintro ⟨h, -⟩
          exact absurd h hnone
      · constructor
        · intro h
          cases cleanupResult_eq_unwound.mp h
          exact ⟨a, ha, hp⟩
        · rintro ⟨x, hx, hq⟩
          rcases List.mem_append.mp hx with hx | hx
          · exact absurd ⟨q, hq⟩ (hmade x hx)
          · rw [List.mem_singleton.mp hx, hp] at hq
            cases hq
            rfl

/-- Cleaning up makes attempts, and reports on them. -/
theorem runCleanup_reported (t : Target σ) (inputs : Inputs) (task : Task) (state : RunState)
    (w₀ : World σ) : ∃ made result w, runCleanup t inputs task state w₀ = (result, w) ∧
      Attempted t inputs state w₀ made w ∧ Reported task.cleanup.reverse made result := by
  have hstart : Attempted t inputs state w₀ [] w₀ := .start
  obtain ⟨made, r, w, hattempts, hmade, hcome⟩ := hstart.attemptSteps task.cleanup.reverse
  have hrun : Pipeline.attemptSteps t inputs task.cleanup.reverse state w₀ = (r, w) := hattempts
  refine ⟨made, cleanupResult r, w, ?_, hmade, hcome.reported⟩
  unfold runCleanup
  rw [hrun]

theorem Task.nodup_cleanup (task : Task) : (task.cleanup.map Step.name).Nodup := by
  have hdistinct := task.distinct
  rw [List.map_append] at hdistinct
  exact (List.nodup_append.mp hdistinct).2.1

theorem Reported.nodup {steps : List Step} {made : List Attempt}
    {result : Except (Halt RunError) Unit} (h : Reported steps made result)
    (hd : (steps.map Step.name).Nodup) : (made.map fun a => a.step.name).Nodup := by
  have hsub := (h.front.sublist.map Step.name).nodup hd
  rwa [List.map_map] at hsub

/-- What a cleanup did: these are its attempts, in the order in which they were made. -/
structure Cleaned (t : Target σ) (inputs : Inputs) (task : Task) (state : RunState) (w₀ : World σ)
    (attempts : List Attempt) (result : Except (Halt RunError) Unit) (w : World σ) : Prop where
  /-- The cleanup steps were attempted once each, the last declared first, and the result reports on
  these attempts. -/
  reported : Reported task.cleanup.reverse attempts result
  made : Attempted t inputs state w₀ attempts w
  /-- The attempts stand in the log in turn, and each attempt of a command asked the target for that
  command, once with its arguments resolved, or not at all if one of them has no value. -/
  called : ∃ events, w.log = w₀.log ++ events ∧ InTurn (attempts.map Attempt.step) events ∧
    ∀ a ∈ attempts, ∀ c, a.step.runnable = .command c →
      invocations a.step.name events = c.calls a.step.name inputs a.state
  /-- A step found the outputs of those declared after it that had succeeded, and every other entry
  as the caller has it. -/
  found : ∀ before a after, attempts = before ++ a :: after →
    (∀ x ∈ before, ∀ outputs, x.outcome = .ok outputs →
      a.state.outputs? x.step.name = some outputs) ∧
    ∀ name, (∀ x ∈ before, x.Succeeded → x.step.name ≠ name) →
      a.state.outputs? name = state.outputs? name
  /-- The error of an attempt names its step. -/
  step : ∀ a ∈ attempts, ∀ e, a.outcome = .error (.failed e) → e.step = a.step.name

/-- Cleaning up attempts the cleanup steps, the last declared first, and reports the failure of the
one declared last. The state it is called with stays as it is. Where all panics come from futures
none of the steps is left out. -/
theorem runCleanup_complete (t : Target σ) (inputs : Inputs) (task : Task) (state : RunState)
    (w₀ : World σ) : ∃ attempts result w, runCleanup t inputs task state w₀ = (result, w) ∧
      Cleaned t inputs task state w₀ attempts result w ∧
      (t.Deferred → (∀ s ∈ task.cleanup, s.Deferred) →
        attempts.map Attempt.step = task.cleanup.reverse ∧ ∀ p, result ≠ .error (.unwound p)) := by
  obtain ⟨made, result, w, hrun, hmade, hreported⟩ := runCleanup_reported t inputs task state w₀
  have hd : (made.map fun a => a.step.name).Nodup := by
    refine hreported.nodup ?_
    rw [List.map_reverse, List.nodup_reverse]
    exact task.nodup_cleanup
  refine ⟨made, result, w, hrun, ⟨hreported, hmade, hmade.calls hd,
    fun before a after hsplit => hmade.found hd hsplit, hmade.error_step⟩, fun ht hsteps => ?_⟩
  have hunwound : ∀ a ∈ made, ¬a.Unwound := by
    refine hmade.not_unwound ht fun a ha => hsteps _ ?_
    exact List.mem_reverse.mp (hreported.front.subset (List.mem_map_of_mem ha))
  refine ⟨hreported.all hunwound, fun p hp => ?_⟩
  obtain ⟨a, ha, hp⟩ := (hreported.unwound_iff p).mp hp
  exact hunwound a ha ⟨p, hp⟩

end

/-- A report on two steps, of which the one that collects has been declared before the other. -/
def tidy : Task where
  steps := []
  cleanup := [⟨"report", .command ⟨"echo", [.ref (.output "drain" stdoutKey)]⟩⟩,
    ⟨"audit", .command ⟨"echo", [.ref (.output "collect" stdoutKey)]⟩⟩,
    ⟨"collect", .command ⟨"kubectl", [.literal "logs"]⟩⟩, ⟨"drain", .command ⟨"ls", []⟩⟩]
  inputs := .forInputs
  distinct := by decide

theorem refusing_deferred : refusing.Deferred := by
  intro c args s p
  simp only [refusing, scripted, List.find?_cons, List.find?_nil, echoLine]
  cases Rule.covers ⟨"kubectl", none, .panic (.text "no cluster")⟩ c.path args <;> rintro ⟨⟩

/-- Of four attempts the second and the third fail, the third for want of what the second would have
recorded. The second is reported, and the fourth finds the output of the first. -/
theorem tidy_cleaned : ∃ attempts w, Cleaned refusing .empty tidy .empty ⟨.empty, []⟩ attempts
      (.error (.failed (.panicked "collect" "no cluster"))) w ∧
    attempts.map (fun a => a.step.name) = ["drain", "collect", "audit", "report"] ∧
    w.log = [.began "drain", .called "drain" "ls" [], .wrote "drain" [108, 115, 10] [],
      .began "collect", .called "collect" "kubectl" ["logs"], .began "audit",
      .began "report", .called "report" "echo" ["ls\n"],
      .wrote "report" [101, 99, 104, 111, 32, 108, 115, 10, 10] []] := by
  obtain ⟨attempts, result, w, hrun, hcleaned, hall⟩ :=
    runCleanup_complete refusing .empty tidy .empty ⟨.empty, []⟩
  have hcommands : ∀ s ∈ tidy.cleanup, s.Deferred := by
    simp only [tidy, List.forall_mem_cons]
    exact ⟨by rintro f ⟨⟩, by rintro f ⟨⟩, by rintro f ⟨⟩, by rintro f ⟨⟩, by simp⟩
  obtain ⟨hsteps, -⟩ := hall refusing_deferred hcommands
  have hresult : (runCleanup refusing .empty tidy .empty ⟨.empty, []⟩).1 =
      .error (.failed (.panicked "collect" "no cluster")) :=
    errorOf_eq_some.mp (by decide +kernel)
  rw [hrun] at hresult
  cases hresult
  refine ⟨attempts, w, hcleaned, ?_, ?_⟩
  · have hnames := congrArg (List.map Step.name) hsteps
    rwa [List.map_map] at hnames
  · rw [← show (runCleanup refusing .empty tidy .empty ⟨.empty, []⟩).2 = w by rw [hrun]]
    decide +kernel

/-- The step declared last is left by a panic, and the one before it is not attempted. -/
theorem recall_unwinds : eager.cleanup.map Step.name = ["stop", "recall"] ∧
    runCleanup echoing .empty eager .empty ⟨.empty, []⟩ =
      (.error (.unwound (.text "no seed")), ⟨.empty, [.began "recall"]⟩) :=
  ⟨rfl, rfl⟩

end Pipeline
