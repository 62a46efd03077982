import Pipeline.Proofs.Run.Effects

/-!
# What a run leaves in its log

A step only ever adds to the log, and only events of its own, however it ends: it begins, and its
work follows (`runStep_worked`). So the log of a run shows the steps in turn (`Reaches.inTurn`). A
command step that completes adds three events: it began, the target was called once with the
resolved arguments, and the sinks took the output (`runStep_command_log`).
-/

namespace Pipeline

/-- The step that an event belongs to. -/
def Event.step : Event → String
  | .began step => step
  | .called step _ _ => step
  | .wrote step _ _ => step
  | .note step _ => step

/-- The invocation that an event of `step` is, if it is one. -/
def Event.invocation? (step : String) : Event → Option Invocation
  | .called s path args => if s = step then some ⟨path, args⟩ else none
  | _ => none

/-- The invocations that a log shows for a step, in order. -/
def invocations (step : String) (log : List Event) : List Invocation :=
  log.filterMap (Event.invocation? step)

theorem invocations_append (step : String) (xs ys : List Event) :
    invocations step (xs ++ ys) = invocations step xs ++ invocations step ys :=
  List.filterMap_append

theorem invocations_of_others {step : String} {log : List Event} (h : ∀ e ∈ log, e.step ≠ step) :
    invocations step log = [] := by
  refine List.filterMap_eq_nil_iff.mpr fun e he => ?_
  have hne := h e he
  cases e with
  | called s path args => exact if_neg hne
  | began _ => rfl
  | wrote _ _ _ => rfl
  | note _ _ => rfl

theorem invocations_command (step path : String) (args : List String) (out err : Bytes) :
    invocations step [.began step, .called step path args, .wrote step out err] =
      [⟨path, args⟩] := by
  simp [invocations, List.filterMap_cons, Event.invocation?]

/-- An event of a step that has begun: whatever it does but begin. -/
def Event.WorkOf (step : String) (e : Event) : Prop := e.step = step ∧ ∀ s, e ≠ .began s

/-- Events of steps one after the other: each step begins once, and its work follows. -/
inductive InTurn : List Step → List Event → Prop
  | nothing : InTurn [] []
  | next {done : List Step} {s : Step} {events work : List Event} : InTurn done events →
      (∀ e ∈ work, e.WorkOf s.name) → InTurn (done ++ [s]) (events ++ .began s.name :: work)

/-- Every event belongs to one of the steps. -/
theorem InTurn.step_mem {steps : List Step} {events : List Event} (h : InTurn steps events) :
    ∀ e ∈ events, e.step ∈ steps.map Step.name := by
  induction h with
  | nothing => simp
  | @next done s events work _ hwork ih =>
      intro e he
      rw [List.map_append, List.mem_append]
      rcases List.mem_append.mp he with he | he
      · exact .inl (ih e he)
      · rcases List.mem_cons.mp he with rfl | he
        · simp [Event.step]
        · simp [(hwork e he).1]

section
variable {σ : Type} {t : Target σ} {inputs : Inputs}

/-- From one world to the other the log grew by events of one step. -/
def GrewBy (step : String) (w w' : World σ) : Prop :=
  ∃ events, w'.log = w.log ++ events ∧ ∀ e ∈ events, e.step = step

/-- From one world to the other a step that had begun did its work. -/
def Worked (step : String) (w w' : World σ) : Prop :=
  ∃ events, w'.log = w.log ++ events ∧ ∀ e ∈ events, e.WorkOf step

theorem Worked.refl (step : String) (w : World σ) : Worked step w w :=
  ⟨[], by simp, by simp⟩

theorem Worked.trans {step : String} {w w₁ w₂ : World σ} (h : Worked step w w₁)
    (h₁ : Worked step w₁ w₂) : Worked step w w₂ := by
  obtain ⟨xs, hxs, hsx⟩ := h
  obtain ⟨ys, hys, hsy⟩ := h₁
  refine ⟨xs ++ ys, by rw [hys, hxs, List.append_assoc], fun e he => ?_⟩
  rcases List.mem_append.mp he with he | he
  · exact hsx e he
  · exact hsy e he

theorem Worked.of_log {step : String} {w w' : World σ} {e : Event} (he : e.WorkOf step)
    (h : w'.log = w.log ++ [e]) : Worked step w w' :=
  ⟨[e], h, fun x hx => by rwa [List.mem_singleton.mp hx]⟩

theorem call_log {step : String} {c : Command} {args : List String} {w w' : World σ}
    {answer : Execution} (h : call t step c args w = (answer, w')) :
    w'.log = w.log ++ [.called step c.path args] := by
  have hw : (call t step c args w).2 = w' := by rw [h]
  rw [← hw]
  rfl

theorem copyOut_log {step : String} {stdout stderr : Reader} {w w' : World σ}
    {r : Except StreamError Captured} (h : copyOut t step stdout stderr w = (r, w')) :
    ∃ out err, w'.log = w.log ++ [.wrote step out err] := by
  have hw : (copyOut t step stdout stderr w).2 = w' := by rw [h]
  rw [← hw]
  exact ⟨_, _, rfl⟩

/-- Every effect of a step that has begun is work of that step. -/
theorem respected_worked (t : Target σ) (step : String) : Respected t step (Worked step) where
  refl := .refl step
  trans := .trans
  call _ _ _ := .of_log ⟨rfl, fun _ he => by cases he⟩ (call_log rfl)
  copyOut _ _ _ := by
    obtain ⟨out, err, hlog⟩ := copyOut_log rfl
    exact .of_log ⟨rfl, fun _ he => by cases he⟩ hlog
  note _ _ := .of_log ⟨rfl, fun _ he => by cases he⟩ rfl

/-- What a command asks of the target on behalf of a step: one invocation, or none if an argument
has no value. -/
def Command.calls (c : Command) (step : String) (inputs : Inputs) (state : RunState) :
    List Invocation :=
  match resolveArgs step inputs state c.args with
  | .ok args => [⟨c.path, args⟩]
  | .error _ => []

/-- However a command step ends, it asked the target for that. -/
theorem runCommand_calls {step : String} {c : Command} {state : RunState} {w w' : World σ}
    {r : Except (Halt RunError) (Dict String)} (h : runCommand t inputs step c state w = (r, w')) :
    ∃ work, w'.log = w.log ++ work ∧ invocations step work = c.calls step inputs state := by
  have hone (args : List String) (hargs : resolveArgs step inputs state c.args = .ok args) :
      invocations step [.called step c.path args] = c.calls step inputs state := by
    unfold Command.calls
    rw [hargs]
    simp [invocations, Event.invocation?]
  cases runCommand_outcome h with
  | refused hargs =>
      refine ⟨[], by simp, ?_⟩
      unfold Command.calls
      rw [hargs]
      rfl
  | panicked hargs hcall => exact ⟨_, call_log hcall, hone _ hargs⟩
  | unwound hargs hcall => exact ⟨_, call_log hcall, hone _ hargs⟩
  | failed hargs hcall => exact ⟨_, call_log hcall, hone _ hargs⟩
  | broken hargs hcall hcopy =>
      obtain ⟨out, err, hlog⟩ := copyOut_log hcopy
      rw [call_log hcall, List.append_assoc] at hlog
      refine ⟨_, hlog, ?_⟩
      rw [invocations_append, hone _ hargs]
      exact List.append_nil _
  | completed hargs hcall hcopy =>
      obtain ⟨out, err, hlog⟩ := copyOut_log hcopy
      rw [call_log hcall, List.append_assoc] at hlog
      refine ⟨_, hlog, ?_⟩
      rw [invocations_append, hone _ hargs]
      exact List.append_nil _

/-- The work of a step, and what it asked of the target if the step holds a command. -/
theorem runRunnable_calls {step : String} {r : Runnable} {state : RunState} {w w' : World σ}
    {result : Except (Halt RunError) (Dict String)}
    (h : runRunnable t inputs step r state w = (result, w')) :
    ∃ work, w'.log = w.log ++ work ∧ (∀ e ∈ work, e.WorkOf step) ∧
      ∀ c, r = .command c → invocations step work = c.calls step inputs state := by
  obtain ⟨work, hlog, hwork⟩ := (respected_worked t step).runRunnable h
  refine ⟨work, hlog, hwork, ?_⟩
  rintro c rfl
  obtain ⟨calls, hcalls, hinvocations⟩ := runCommand_calls h
  rwa [List.append_cancel_left (hlog.symm.trans hcalls)]

/-- A step begins, and then adds only work of its own to the log, however it ends. -/
theorem runStep_worked {s : Step} {state : RunState} {w w' : World σ}
    {r : Except (Halt RunError) RunState} (h : runStep t inputs s state w = (r, w')) :
    ∃ work, w'.log = w.log ++ .began s.name :: work ∧ ∀ e ∈ work, e.WorkOf s.name := by
  obtain ⟨result, hrun⟩ := runStep_work h
  obtain ⟨work, hlog, hwork⟩ := (respected_worked t s.name).runRunnable hrun
  exact ⟨work, by rw [hlog]; simp [World.tell], hwork⟩

/-- A step adds only events of its own to the log. -/
theorem runStep_grew {s : Step} {state : RunState} {w w' : World σ}
    {r : Except (Halt RunError) RunState} (h : runStep t inputs s state w = (r, w')) :
    GrewBy s.name w w' := by
  obtain ⟨work, hlog, hwork⟩ := runStep_worked h
  refine ⟨_, hlog, fun e he => ?_⟩
  rcases List.mem_cons.mp he with rfl | he
  · rfl
  · exact (hwork e he).1

/-- The steps that a run got past left their events in the log, in turn. -/
theorem Reaches.inTurn {w₀ : World σ} {done : List Step} {state : RunState} {w : World σ}
    (h : Reaches t inputs w₀ done state w) :
    ∃ events, w.log = w₀.log ++ events ∧ InTurn done events := by
  induction h with
  | start => exact ⟨[], by simp, .nothing⟩
  | next _ hs ih =>
      obtain ⟨events, hevents, hturn⟩ := ih
      obtain ⟨work, hlog, hwork⟩ := runStep_worked hs
      refine ⟨_, ?_, hturn.next hwork⟩
      rw [hlog, hevents, List.append_assoc]

/-- A command step that completes calls the target once, with its arguments resolved. -/
theorem runStep_command_log {s : Step} {c : Command} {state state' : RunState} {w w' : World σ}
    (hc : s.runnable = .command c) (h : runStep t inputs s state w = (.ok state', w')) :
    ∃ args out err, resolveArgs s.name inputs state c.args = .ok args ∧
      w'.log = w.log ++
        [.began s.name, .called s.name c.path args, .wrote s.name out err] := by
  obtain ⟨outputs, hrun, -⟩ := runStep_ok h
  rw [hc] at hrun
  cases runCommand_outcome hrun with
  | @completed args stdout stderr captured w₁ w₂ hargs hcall hcopy =>
      obtain ⟨out, err, hlog⟩ := copyOut_log hcopy
      refine ⟨args, out, err, hargs, ?_⟩
      rw [hlog, call_log hcall]
      simp [World.tell]

end
end Pipeline
