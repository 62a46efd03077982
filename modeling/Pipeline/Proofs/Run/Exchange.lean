import Pipeline.Proofs.Run.Log

/-!
# What a run asks of its target

A run changes the state of its target in two ways only: it has a command executed, or it hands over
what the sinks took. An `Exchange` is one command with the states before and after it and the
answer. `Exchanged` says that these exchanges, and nothing else, lie between two worlds, and the log
shows a call for each of them (`Exchanged.calls`). Whatever a target keeps in every exchange, it
keeps through runs and cleanups of every task (`runTask_exchanges`, `runCleanup_exchanges`).
-/

namespace Pipeline

structure Exchange (σ : Type) where
  step : String
  command : Command
  args : List String
  before : σ
  answer : Execution
  after : σ

def Event.isCall : Event → Bool
  | .called .. => true
  | _ => false

section
variable {σ : Type}

namespace Exchange

/-- The event that an exchange leaves in the log. -/
def event (x : Exchange σ) : Event := .called x.step x.command.path x.args

/-- The target did answer so, and went from the one state to the other. -/
def Holds (t : Target σ) (x : Exchange σ) : Prop :=
  t.execute x.command x.args x.before = (x.answer, x.after)

end Exchange

/-- From one world to another by exchanges with the target, by output that it absorbed, and by
other events than calls. -/
inductive Exchanged (t : Target σ) (w₀ : World σ) : List (Exchange σ) → World σ → Prop
  | start : Exchanged t w₀ [] w₀
  | told {xs : List (Exchange σ)} {w : World σ} {e : Event} :
      Exchanged t w₀ xs w → e.isCall = false → Exchanged t w₀ xs (w.tell e)
  | absorbed {xs : List (Exchange σ)} {w : World σ} (out err : Bytes) :
      Exchanged t w₀ xs w → Exchanged t w₀ xs { w with target := t.absorb out err w.target }
  | executed {xs : List (Exchange σ)} {w : World σ} {x : Exchange σ} :
      Exchanged t w₀ xs w → x.Holds t → x.before = w.target →
      Exchanged t w₀ (xs ++ [x]) ({ w with target := x.after }.tell x.event)

namespace Exchanged
variable {t : Target σ} {w₀ w w' : World σ} {xs ys : List (Exchange σ)}

theorem trans (h : Exchanged t w₀ xs w) (h' : Exchanged t w ys w') :
    Exchanged t w₀ (xs ++ ys) w' := by
  induction h' with
  | start => simpa using h
  | told _ he ih => exact ih.told he
  | absorbed out err _ ih => exact ih.absorbed out err
  | executed _ hx hbefore ih =>
      rw [← List.append_assoc]
      exact ih.executed hx hbefore

/-- The calls in the log are those of the exchanges, one for one and in order. -/
theorem calls (h : Exchanged t w₀ xs w) :
    ∃ events, w.log = w₀.log ++ events ∧ events.filter Event.isCall = xs.map Exchange.event := by
  induction h with
  | start => exact ⟨[], by simp, rfl⟩
  | @told xs w e _ he ih =>
      obtain ⟨events, hlog, hcalls⟩ := ih
      refine ⟨events ++ [e], ?_, ?_⟩
      · simp [World.tell, hlog]
      · simp [List.filter_append, he, hcalls]
  | absorbed _ _ _ ih => exact ih
  | @executed xs w x _ _ _ ih =>
      obtain ⟨events, hlog, hcalls⟩ := ih
      refine ⟨events ++ [x.event], ?_, ?_⟩
      · simp [World.tell, hlog]
      · simp [List.filter_append, hcalls, Exchange.event, Event.isCall]

end Exchanged

variable {t : Target σ} {inputs : Inputs}

/-- Between two worlds lie some exchanges with the target. -/
def Exchanges (t : Target σ) (w w' : World σ) : Prop := ∃ xs, Exchanged t w xs w'

theorem Exchanges.refl (t : Target σ) (w : World σ) : Exchanges t w w := ⟨[], .start⟩

theorem Exchanges.trans {w w₁ w₂ : World σ} (h : Exchanges t w w₁) (h₁ : Exchanges t w₁ w₂) :
    Exchanges t w w₂ := by
  obtain ⟨xs, hxs⟩ := h
  obtain ⟨ys, hys⟩ := h₁
  exact ⟨xs ++ ys, hxs.trans hys⟩

theorem exchanges_tell (t : Target σ) (w : World σ) {e : Event} (he : e.isCall = false) :
    Exchanges t w (w.tell e) := ⟨[], Exchanged.start.told he⟩

/-- Of the effects of a step, a call is one exchange and the others are none. -/
theorem respected_exchanges (t : Target σ) (step : String) :
    Respected t step (Exchanges t) where
  refl := .refl t
  trans := .trans
  call c args w :=
    ⟨_, Exchanged.start.executed
      (x := ⟨step, c, args, w.target, (t.execute c args w.target).1,
        (t.execute c args w.target).2⟩) rfl rfl⟩
  copyOut _ _ _ := ⟨[], (Exchanged.start.absorbed _ _).told (e := .wrote step _ _) rfl⟩
  note _ w := exchanges_tell t w rfl

theorem runStep_exchanges {s : Step} {state : RunState} {w w' : World σ}
    {r : Except (Halt RunError) RunState} (h : runStep t inputs s state w = (r, w')) :
    Exchanges t w w' := by
  obtain ⟨result, hrun⟩ := runStep_work h
  have hbegan : Exchanges t w (w.tell (.began s.name)) := exchanges_tell t w rfl
  exact hbegan.trans ((respected_exchanges t s.name).runRunnable hrun)

theorem runSteps_exchanges (t : Target σ) (inputs : Inputs) (steps : List Step) (state : RunState)
    (w : World σ) : Exchanges t w (runSteps t inputs steps state w).2 := by
  induction steps generalizing state w with
  | nil => exact .refl t w
  | cons s steps ih =>
      unfold runSteps
      split
      · rename_i state₁ w₁ hs
        exact (runStep_exchanges hs).trans (ih state₁ w₁)
      · rename_i e w₁ hs
        exact runStep_exchanges hs

theorem attemptSteps_exchanges (t : Target σ) (inputs : Inputs) (steps : List Step)
    (state : RunState) (w : World σ) : Exchanges t w (attemptSteps t inputs steps state w).2 := by
  induction steps generalizing state w with
  | nil => exact .refl t w
  | cons s steps ih =>
      unfold attemptSteps
      split
      · rename_i state₁ w₁ hs
        exact (runStep_exchanges hs).trans (ih state₁ w₁)
      · rename_i e w₁ hs
        exact (runStep_exchanges hs).trans (ih state w₁)
      · rename_i p w₁ hs
        exact runStep_exchanges hs

theorem runTask_exchanges (t : Target σ) (inputs : Inputs) (task : Task) (w : World σ) :
    Exchanges t w (runTask t inputs task w).2 :=
  runSteps_exchanges t inputs task.steps .empty w

theorem runCleanup_exchanges (t : Target σ) (inputs : Inputs) (task : Task) (state : RunState)
    (w : World σ) : Exchanges t w (runCleanup t inputs task state w).2 :=
  attemptSteps_exchanges t inputs task.cleanup.reverse state w

end
end Pipeline
