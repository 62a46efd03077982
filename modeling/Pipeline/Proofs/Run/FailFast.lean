import Pipeline.Proofs.Run.Ends
import Pipeline.Proofs.Run.Log

/-!
# The first failure of a run

A step fails when an argument of its command has no value, when the target answers with an error or
a panic, when a reader or a sink breaks the copying of the output off, or when its body fails or
panics (`Step.Ends`). Whichever it is, the run ends there. The steps before it completed, and of
what comes after it nothing took place: no event of a later step or of a cleanup step is in the log,
and other steps in their place would have left the same world (`Stopped`). A run in which no step
fails shows every step once and in order (`Logged`).

The run returns an error that names the step, unless a target or a body panicked before it gave a
future. That panic goes on past the run (`eager_unwinds`).
-/

namespace Pipeline

/-- What a step leaves in the log that ends well: a command its beginning, one call with its
arguments resolved and what the sinks took, and a function its beginning and what the moves of its
body add. -/
def Step.Leaves (s : Step) (inputs : Inputs) (state : RunState) (log : List Event) : Prop :=
  match s.runnable with
  | .command c => ∃ args out err, resolveArgs s.name inputs state c.args = .ok args ∧
      log = [.began s.name, .called s.name c.path args, .wrote s.name out err]
  | .func f => ∃ moves, Plays f.body moves .done ∧
      log = .began s.name :: moves.flatMap (Move.events inputs s.name state)

section
variable {σ : Type} {t : Target σ} {inputs : Inputs}

theorem Step.Ends.leaves {s : Step} {state : RunState} {w w' : World σ} {outputs : Dict String}
    (h : s.Ends t inputs state w (.ok outputs) w') :
    ∃ log, w'.log = w.log ++ log ∧ s.Leaves inputs state log := by
  unfold Leaves
  cases h with
  | copied hasks hcopies =>
      cases hasks with
      | intro hc hargs _ =>
          cases hcopies with
          | copied _ _ =>
              rw [hc]
              exact ⟨_, List.append_assoc .., _, _, _, hargs, rfl⟩
  | body hf hplays hanswered _ =>
      rw [hf]
      refine ⟨_, ?_, _, hplays, rfl⟩
      rw [hanswered.log_eq]
      simp [World.tell]

/-- What steps left in the log that ended well one after the other. -/
inductive Logged (t : Target σ) (inputs : Inputs) (w₀ : World σ) :
    List Step → List Event → Prop
  | nothing : Logged t inputs w₀ [] []
  | next {done : List Step} {s : Step} {events log : List Event} {state : RunState}
      {w : World σ} : Logged t inputs w₀ done events → Passed t inputs w₀ done state w →
      s.Leaves inputs state log → Logged t inputs w₀ (done ++ [s]) (events ++ log)

theorem Passed.logged {w₀ : World σ} {done : List Step} {state : RunState} {w : World σ}
    (h : Passed t inputs w₀ done state w) :
    ∃ events, w.log = w₀.log ++ events ∧ Logged t inputs w₀ done events := by
  induction h with
  | start => exact ⟨[], by simp, .nothing⟩
  | next hdone hs ih =>
      obtain ⟨events, hevents, hlogged⟩ := ih
      obtain ⟨log, hlog, hleaves⟩ := hs.leaves
      refine ⟨_, ?_, hlogged.next hdone hleaves⟩
      rw [hlog, hevents, List.append_assoc]

/-- Steps that were in turn left no event of a step of another name. -/
theorem InTurn.quiet {steps others : List Step} {events : List Event} (h : InTurn steps events)
    (hd : ((steps ++ others).map Step.name).Nodup) :
    ∀ x ∈ others, ∀ ev ∈ events, ev.step ≠ x.name := by
  intro x hx ev hev
  obtain ⟨y, hy, hname⟩ := List.mem_map.mp (h.step_mem ev hev)
  rw [← hname]
  exact name_ne_of_nodup hd hy hx

/-- What a run did that stopped at the step `s`, after the steps `before`. -/
structure Stopped (t : Target σ) (inputs : Inputs) (task : Task) (w₀ : World σ)
    (before : List Step) (s : Step) (after : List Step) (halt : Halt RunError) (w' : World σ) :
    Prop where
  split : task.steps = before ++ s :: after
  /-- The steps before it ended well, and then it did not. -/
  failed : ∃ state w, Passed t inputs w₀ before state w ∧
    s.Ends t inputs state w (.error halt) w' ∧
    ∀ r, halt = .failed (.resolve r) → w'.target = w.target
  /-- The error names the step. -/
  step : ∀ e, halt = .failed e → e.step = s.name
  /-- The log shows what the steps before it left, its beginning and its own work, which is nothing
  if a reference was refused. -/
  log : ∃ done work, w'.log = w₀.log ++ (done ++ .began s.name :: work) ∧
    Logged t inputs w₀ before done ∧ (∀ ev ∈ work, ev.WorkOf s.name) ∧
    ∀ r, halt = .failed (.resolve r) → work = []
  /-- It shows nothing of a later step, nor of a cleanup step. -/
  quiet : ∀ events, w'.log = w₀.log ++ events →
    ∀ x ∈ after ++ task.cleanup, ∀ ev ∈ events, ev.step ≠ x.name
  /-- Any other task that begins with the same steps stops alike. -/
  regardless : ∀ other : Task, (before ++ [s]) <+: other.steps →
    runTask t inputs other w₀ = (.error halt, w')

theorem stopped_of_ends {task : Task} {w₀ w w' : World σ} {before after : List Step} {s : Step}
    {state : RunState} {halt : Halt RunError} (hsplit : task.steps = before ++ s :: after)
    (hpassed : Passed t inputs w₀ before state w) (hs : s.Ends t inputs state w (.error halt) w') :
    Stopped t inputs task w₀ before s after halt w' := by
  have hrun : runStep t inputs s state w = (.error halt, w') := runStep_error_iff.mpr hs
  obtain ⟨done, hdone, hlogged⟩ := hpassed.logged
  obtain ⟨work, hlog, hwork⟩ := runStep_worked hrun
  have hall : w'.log = w₀.log ++ (done ++ .began s.name :: work) := by
    rw [hlog, hdone, List.append_assoc]
  have hrefused : ∀ r, halt = .failed (.resolve r) → w' = w.tell (.began s.name) := by
    rintro r rfl
    obtain ⟨_, _, _, hw⟩ := runStep_resolve_error hrun
    exact hw
  refine ⟨hsplit, ⟨state, w, hpassed, hs, fun r hr => ?_⟩, ?_,
    ⟨done, work, hall, hlogged, hwork, fun r hr => ?_⟩, ?_, ?_⟩
  · rw [hrefused r hr]
    rfl
  · rintro e rfl
    exact runStep_error_step hrun
  · rw [hrefused r hr] at hlog
    have hnil := List.append_cancel_left hlog
    cases hnil
    rfl
  · intro events hevents
    obtain ⟨turns, hturns, hturn⟩ := (passed_iff.mp hpassed).inTurn
    cases List.append_cancel_left (hdone.symm.trans hturns)
    have hsame : events = done ++ .began s.name :: work :=
      List.append_cancel_left (hevents.symm.trans hall)
    have hd : (((before ++ [s]) ++ (after ++ task.cleanup)).map Step.name).Nodup := by
      have hdistinct := task.distinct
      rw [hsplit] at hdistinct
      simpa using hdistinct
    rw [hsame]
    exact (hturn.next hwork).quiet hd
  · rintro other ⟨rest, hrest⟩
    have hother : other.steps = before ++ s :: rest := by rw [← hrest]; simp
    exact runTask_iff.mpr (.stopped hother hpassed hs)

/-- A step that does not end well once the steps before it have is where a run stops, with that
error or that panic, and a run stops for nothing else. Otherwise it succeeds, and has run every main
step once and in order. A run is left by a panic only if a target or a body panics before it gives a
future. -/
theorem runTask_failFast (t : Target σ) (inputs : Inputs) (task : Task) (w₀ : World σ) :
    (∀ before s after state w halt w', task.steps = before ++ s :: after →
      Passed t inputs w₀ before state w → s.Ends t inputs state w (.error halt) w' →
        runTask t inputs task w₀ = (.error halt, w')) ∧
    (∀ halt w', runTask t inputs task w₀ = (.error halt, w') →
      ∃ before s after, Stopped t inputs task w₀ before s after halt w') ∧
    (∀ state w', runTask t inputs task w₀ = (.ok state, w') →
      Passed t inputs w₀ task.steps state w' ∧
      ∃ events, w'.log = w₀.log ++ events ∧ Logged t inputs w₀ task.steps events) ∧
    (t.Deferred → (∀ s ∈ task.steps, s.Deferred) →
      ∀ p w', runTask t inputs task w₀ ≠ (.error (.unwound p), w')) := by
  refine ⟨?_, ?_, ?_, ?_⟩
  · intro before s after state w halt w' hsplit hpassed hs
    exact runTask_iff.mpr (.stopped hsplit hpassed hs)
  · intro halt w' h
    cases runTask_iff.mp h with
    | stopped hsplit hpassed hs => exact ⟨_, _, _, stopped_of_ends hsplit hpassed hs⟩
  · intro state w' h
    cases runTask_iff.mp h with
    | completed hpassed => exact ⟨hpassed, hpassed.logged⟩
  · intro ht hdeferred p w' h
    exact (runTask_iff.mp h).not_unwound ht hdeferred p

end

/-- A panic at the second of three steps, and a run in which no step fails. -/
theorem release_stopped :
    (∃ before after w', Stopped refusing seeded release ⟨.empty, []⟩ before applyStep after
        (.failed (.panicked "apply" "no cluster")) w' ∧
      w'.log = [.began "generate", .began "apply", .called "apply" "kubectl" ["apply", "", "7"]]) ∧
    ∃ w events, runTask echoing seeded release ⟨.empty, []⟩ = (.ok released, w) ∧
      w.log = events ∧ Logged echoing seeded ⟨.empty, []⟩ release.steps events := by
  constructor
  · obtain ⟨hsurfaces, hstops, -⟩ := runTask_failFast refusing seeded release ⟨.empty, []⟩
    have hgenerate : runStep refusing seeded generateStep .empty ⟨.empty, []⟩ = (.ok _, _) := rfl
    have hpassed := passed_iff.mpr ((Reaches.start (t := refusing)).next hgenerate)
    have hrun := hsurfaces [generateStep] applyStep [reportStep] _ _ _ _ rfl hpassed
      (.targetPanic (.intro rfl rfl rfl))
    obtain ⟨before, s, after, h⟩ := hstops _ _ hrun
    have hmem : s ∈ release.steps := by rw [h.split]; simp
    have hname : applyStep.name = s.name := h.step _ rfl
    have hs : s = applyStep := eq_of_name release.nodup_steps hmem (by simp [release]) hname.symm
    rw [hs] at h
    exact ⟨before, after, _, h, rfl⟩
  · obtain ⟨w, hrun⟩ := release_succeeds
    obtain ⟨-, -, hends, -⟩ := runTask_failFast echoing seeded release ⟨.empty, []⟩
    obtain ⟨-, events, hlog, hlogged⟩ := hends released w hrun
    exact ⟨w, events, hrun, by simpa using hlog, hlogged⟩

/-- A main step fails, and no error comes back. -/
theorem eager_unwinds :
    runTask echoing .empty eager ⟨.empty, []⟩ =
      (.error (.unwound (.text "no seed")), ⟨.empty, [.began "generate"]⟩) ∧
    ∀ e, (runTask echoing .empty eager ⟨.empty, []⟩).1 ≠ .error (.failed e) := by
  have hunwinds : runTask echoing .empty eager ⟨.empty, []⟩ =
      (.error (.unwound (.text "no seed")), ⟨.empty, [.began "generate"]⟩) := rfl
  refine ⟨hunwinds, fun e he => ?_⟩
  rw [hunwinds] at he
  cases he

end Pipeline
