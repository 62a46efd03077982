import Pipeline.Proofs.Run.Steps

/-!
# The effects of a step

Whatever a step holds, it acts on the world in three ways: it calls the target, it copies output to
the sinks, and its body leaves notes. A relation that these effects respect (`Respected`) therefore
holds between the worlds before and after the work of any step (`Respected.runRunnable`), and what a
run leaves in its log or asks of its target is proved without looking at bodies again.
-/

namespace Pipeline

section
variable {σ : Type} {t : Target σ} {inputs : Inputs}

/-- A relation between worlds that can be followed through a body, which calls the target and leaves
notes but copies nothing. -/
structure RespectedByBody (t : Target σ) (step : String) (R : World σ → World σ → Prop) : Prop where
  refl : ∀ w, R w w
  trans : ∀ {w w₁ w₂}, R w w₁ → R w₁ w₂ → R w w₂
  call : ∀ c args w, R w (call t step c args w).2
  note : ∀ text w, R w (w.tell (.note step text))

theorem RespectedByBody.of_call {step : String} {R : World σ → World σ → Prop}
    (h : RespectedByBody t step R) {c : Command} {args : List String} {w w' : World σ}
    {answer : Execution} (hcall : Pipeline.call t step c args w = (answer, w')) : R w w' := by
  have hR := h.call c args w
  rwa [hcall] at hR

theorem RespectedByBody.runBody {step : String} {R : World σ → World σ → Prop}
    (h : RespectedByBody t step R) (inputs : Inputs) (state : RunState) (b : Body)
    (set : Dict String) (w : World σ) :
    R w (Pipeline.runBody t inputs step state b set w).2.2 := by
  -- only a note and a call of the target reach the world
  induction b generalizing set w with
  | done => exact h.refl w
  | fail f => exact h.refl w
  | panic p => exact h.refl w
  | future next ih => exact ih set w
  | stepName next ih => exact ih step set w
  | outputs next ih => exact ih set set w
  | set key value next ih => exact ih (set.insert key value) w
  | resolve r next ih => exact ih _ set w
  | note text next ih => exact h.trans (h.note text w) (ih set _)
  | exec c next ih =>
      unfold Pipeline.runBody
      split
      · exact ih _ set w
      · rename_i args _
        split
        · rename_i p w₁ hcall
          exact h.of_call hcall
        · rename_i p w₁ hcall
          exact h.of_call hcall
        · rename_i e w₁ hcall
          exact h.trans (h.of_call hcall) (ih _ set w₁)
        · rename_i stdout stderr w₁ hcall
          have hR := h.of_call hcall
          split
          · exact h.trans hR (ih _ set w₁)
          · exact h.trans hR (ih _ set w₁)
          · exact hR

/-- A relation between worlds that can be followed through the work of a step. -/
structure Respected (t : Target σ) (step : String) (R : World σ → World σ → Prop) : Prop where
  refl : ∀ w, R w w
  trans : ∀ {w w₁ w₂}, R w w₁ → R w₁ w₂ → R w w₂
  call : ∀ c args w, R w (call t step c args w).2
  copyOut : ∀ stdout stderr w, R w (copyOut t step stdout stderr w).2
  note : ∀ text w, R w (w.tell (.note step text))

namespace Respected
variable {step : String} {R : World σ → World σ → Prop}

theorem body (h : Respected t step R) : RespectedByBody t step R :=
  ⟨h.refl, h.trans, h.call, h.note⟩

theorem of_call (h : Respected t step R) {c : Command} {args : List String} {w w' : World σ}
    {answer : Execution} (hcall : Pipeline.call t step c args w = (answer, w')) : R w w' :=
  h.body.of_call hcall

theorem of_copyOut (h : Respected t step R) {stdout stderr : Reader} {w w' : World σ}
    {r : Except StreamError Captured}
    (hcopy : Pipeline.copyOut t step stdout stderr w = (r, w')) : R w w' := by
  have hR := h.copyOut stdout stderr w
  rwa [hcopy] at hR

theorem runCommand (h : Respected t step R) {c : Command} {state : RunState} {w w' : World σ}
    {r : Except (Halt RunError) (Dict String)}
    (hrun : Pipeline.runCommand t inputs step c state w = (r, w')) : R w w' := by
  cases runCommand_outcome hrun with
  | refused _ => exact h.refl w
  | panicked _ hcall => exact h.of_call hcall
  | unwound _ hcall => exact h.of_call hcall
  | failed _ hcall => exact h.of_call hcall
  | broken _ hcall hcopy => exact h.trans (h.of_call hcall) (h.of_copyOut hcopy)
  | completed _ hcall hcopy => exact h.trans (h.of_call hcall) (h.of_copyOut hcopy)

theorem runFunc (h : Respected t step R) {f : Func} {state : RunState} {w w' : World σ}
    {r : Except (Halt RunError) (Dict String)}
    (hrun : Pipeline.runFunc t inputs step f state w = (r, w')) : R w w' := by
  have hR := h.body.runBody inputs state f.body .empty w
  cases runFunc_outcome hrun with
  | completed hbody => rwa [hbody] at hR
  | failed hbody => rwa [hbody] at hR
  | panicked hbody => rwa [hbody] at hR
  | unwound hbody => rwa [hbody] at hR

theorem runRunnable (h : Respected t step R) {r : Runnable} {state : RunState} {w w' : World σ}
    {result : Except (Halt RunError) (Dict String)}
    (hrun : Pipeline.runRunnable t inputs step r state w = (result, w')) : R w w' := by
  unfold Pipeline.runRunnable at hrun
  split at hrun
  · exact h.runCommand hrun
  · exact h.runFunc hrun

end Respected

/-- However a step ends, its work was done after it began. -/
theorem runStep_work {s : Step} {state : RunState} {w w' : World σ}
    {r : Except (Halt RunError) RunState} (h : runStep t inputs s state w = (r, w')) :
    ∃ result, runRunnable t inputs s.name s.runnable state (w.tell (.began s.name)) =
      (result, w') := by
  cases r with
  | ok state' =>
      obtain ⟨outputs, hrun, -⟩ := runStep_ok h
      exact ⟨_, hrun⟩
  | error e => exact ⟨_, runStep_error h⟩

end
end Pipeline
