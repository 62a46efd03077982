import Pipeline.Proofs.Run.Refusal
import Pipeline.Proofs.Script.Outline

/-!
# Compiling and running refuse the same reference

A task compiles exactly when no objection stands against the references of its commands, and breaks
off at the first one otherwise (`errorOf_compile`). A run heeds the same objection, so a task that
compiles is never refused a reference when it runs, and one that does not compile is refused that
very reference unless it fails before.
-/

namespace Pipeline.Script

/-- Every input of a task has a value. -/
def Bound (task : Task) (inputs : Inputs) : Prop :=
  ∀ key ∈ task.inputs.keys, inputs.contains key = true

/-- In the commands of a task, a reference to an output of a function step names a key that the
function declares. -/
def KeysDeclared (task : Task) : Prop :=
  ∀ s ∈ task.steps, ∀ r ∈ s.refs, r.KeyDeclared task.steps

theorem outline_fault_of_bound {task : Task} {inputs : Inputs} (o : Options)
    (hb : Bound task inputs) :
    (outline task inputs o).fault = (stepsOutline o inputs task.steps .empty).fault := by
  have hguards : (guardsOutline inputs (guarded task)).fault = none := by
    refine guardsOutline_of_bound fun key hkey => hb key ?_
    simpa [guarded] using hkey
  simp only [outline, Outline.andThen, hguards]

theorem errorOf_compile {task : Task} {inputs : Inputs} (o : Options) (hb : Bound task inputs)
    (hk : KeysDeclared task) :
    errorOf (compile task inputs o) = (firstObjection inputs [] task.steps).map .resolve := by
  have hsteps := stepsOutline_fault o inputs filled_empty (by exact task.nodup_steps) hk
  rw [compile_eq, outline_fault_of_bound o hb, hsteps]
  cases firstObjection inputs [] task.steps <;> rfl

section
variable {σ : Type} (t : Target σ)

theorem runTask_heeds {task : Task} (inputs : Inputs) (hk : KeysDeclared task) (w : World σ) :
    Heeds t inputs task.steps .empty w (firstObjection inputs [] task.steps) :=
  runSteps_objection filled_empty (by exact task.nodup_steps) hk

/-- Compiling either succeeds or refuses a reference. What compiles is never refused a reference
in a run, and what does not is refused the same one, or stops otherwise at an earlier step: with
another error, or left by a panic. -/
theorem compile_run_agree (task : Task) (hk : KeysDeclared task) (inputs : Inputs)
    (hb : Bound task inputs) (o : Options) (w : World σ) :
    ((∃ script, compile task inputs o = .ok script) ∨
      ∃ e, compile task inputs o = .error (.resolve e)) ∧
    (∀ script, compile task inputs o = .ok script →
      ∀ e, (runTask t inputs task w).1 ≠ .error (.failed (.resolve e))) ∧
    ∀ e, compile task inputs o = .error (.resolve e) →
      (runTask t inputs task w).1 = .error (.failed (.resolve e)) ∨
        (∃ err, (runTask t inputs task w).1 = .error (.failed err) ∧ err.OtherThanResolve ∧
          Precedes task.steps err.step e.step) ∨
        ∃ p step, (runTask t inputs task w).1 = .error (.unwound p) ∧
          UnwindsAt t inputs step p task.steps .empty w ∧ Precedes task.steps step e.step := by
  have hcompile := errorOf_compile o hb hk
  have hrun := runTask_heeds t inputs hk w
  cases hfirst : firstObjection inputs [] task.steps with
  | none =>
      rw [hfirst] at hcompile hrun
      obtain ⟨script, hscript⟩ := errorOf_eq_none.mp hcompile
      refine ⟨.inl ⟨script, hscript⟩, fun _ _ => hrun, fun e he => ?_⟩
      rw [hscript] at he
      cases he
  | some e =>
      rw [hfirst] at hcompile hrun
      have herror := errorOf_eq_some.mp hcompile
      refine ⟨.inr ⟨e, herror⟩, fun script hscript => ?_, fun e' he' => ?_⟩
      · rw [herror] at hscript
        cases hscript
      · rw [herror] at he'
        cases he'
        exact hrun

end

theorem keysDeclared_release : KeysDeclared release := by
  intro s hs r hr x hx hstep f hf
  have hrefs : r ∈ release.steps.flatMap Step.refs := List.mem_flatMap.mpr ⟨s, hs, hr⟩
  change r ∈ [Ref.output "generate" "path", .input "seed", .output "apply" stdoutKey] at hrefs
  simp only [release, List.mem_cons, List.not_mem_nil, or_false] at hx hrefs
  rcases hx with rfl | rfl | rfl
  · cases hf
    rcases hrefs with rfl | rfl | rfl
    · exact List.mem_cons_self
    · cases hstep
    · exact absurd hstep (by decide)
  · cases hf
  · cases hf

theorem bound_release : Bound release seeded := by
  intro key hkey
  cases List.mem_singleton.mp hkey
  decide

theorem release_compiles : ∃ script, compile release seeded (.calling "tool") = .ok script := by
  have hnone := errorOf_compile (.calling "tool") bound_release keysDeclared_release
  exact errorOf_eq_none.mp (hnone.trans rfl)

/-- A task with a step that refers to a cleanup step. -/
def hasty : Task where
  steps := [⟨"inspect", .command ⟨"echo", [.ref (.output "stop" stdoutKey)]⟩⟩]
  cleanup := release.cleanup
  inputs := .forInputs
  distinct := by decide

theorem release_hasty_agree :
    (∀ e, (runTask echoing seeded release ⟨.empty, []⟩).1 ≠ .error (.failed (.resolve e))) ∧
    ∃ e, compile hasty .empty (.calling "tool") = .error (.resolve e) ∧
      ((runTask echoing .empty hasty ⟨.empty, []⟩).1 = .error (.failed (.resolve e)) ∨
        (∃ err, (runTask echoing .empty hasty ⟨.empty, []⟩).1 = .error (.failed err) ∧
          err.OtherThanResolve ∧ Precedes hasty.steps err.step e.step) ∨
        ∃ p step, (runTask echoing .empty hasty ⟨.empty, []⟩).1 = .error (.unwound p) ∧
          UnwindsAt echoing .empty step p hasty.steps .empty ⟨.empty, []⟩ ∧
          Precedes hasty.steps step e.step) := by
  constructor
  · obtain ⟨script, hscript⟩ := release_compiles
    obtain ⟨-, hcompiles, -⟩ := compile_run_agree echoing release keysDeclared_release seeded
      bound_release (.calling "tool") ⟨.empty, []⟩
    exact hcompiles script hscript
  · have hkeys : KeysDeclared hasty := by
      intro s hs r hr x hx hstep f hf
      cases List.mem_singleton.mp hx
      cases hf
    have hbound : Bound hasty .empty := fun key hkey => by cases hkey
    have herror : compile hasty .empty (.calling "tool") =
        .error (.resolve (.producerNotRun "inspect" "stop" stdoutKey)) :=
      errorOf_eq_some.mp ((errorOf_compile (.calling "tool") hbound hkeys).trans rfl)
    obtain ⟨-, -, hrefused⟩ := compile_run_agree echoing hasty hkeys .empty hbound
      (.calling "tool") ⟨.empty, []⟩
    exact ⟨_, herror, hrefused _ herror⟩

end Pipeline.Script
