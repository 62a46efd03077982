import Pipeline.Cli.Session
import Pipeline.Proofs.Run.Cleanup

/-!
# Running with cleanup

Whether the main steps succeeded or failed, the cleanup steps are attempted after them, unless
cleanup was turned down (`Released`). If the run succeeded, cleanup sees its outputs, and if it
failed, none at all; so a cleanup command that refers to inputs only asks the same of the target
either way (`Command.calls_of_inputs`). Two things can fail, and the failure of the run is the one
reported.

A panic that goes on past a main step goes on past the cleanup too, and no cleanup step is attempted
then (`eager_unreleased`).
-/

namespace Pipeline

theorem resolveArgs_of_inputs {step : String} {inputs : Inputs} {args : List Arg}
    (hargs : ∀ r ∈ args.filterMap Arg.ref?, r.step = none) (state other : RunState) :
    resolveArgs step inputs state args = resolveArgs step inputs other args := by
  induction args with
  | nil => rfl
  | cons a as ih =>
      cases a with
      | literal text =>
          have hrest := ih hargs
          simp only [resolveArgs, resolveArg, hrest]
      | ref r =>
          obtain ⟨hr, has⟩ := List.forall_mem_cons.mp hargs
          have hrest := ih has
          simp only [resolveArgs, resolveArg, resolve, hr, hrest]

/-- A command that refers to inputs only comes to the same in every state. -/
theorem Command.calls_of_inputs {c : Command} (hc : ∀ r ∈ c.refs, r.step = none) (step : String)
    (inputs : Inputs) (state other : RunState) :
    c.calls step inputs state = c.calls step inputs other := by
  unfold calls
  rw [resolveArgs_of_inputs hc state other]

namespace Cli
variable {σ : Type}

/-- The cleanup steps that a run goes on to attempt, in order. -/
def wanted (task : Task) (noCleanup : Bool) : List Step :=
  if noCleanup then [] else task.cleanup.reverse

/-- What follows a run of the main steps that came to `result` in the world `w₁`: the attempts of
the cleanup steps, and the report. -/
structure Released (t : Target σ) (inputs : Inputs) (task : Task) (noCleanup : Bool)
    (result : Except (Halt RunError) RunState) (w₁ : World σ) (attempts : List Attempt)
    (report : Except (Halt Failure) RunState) (w₂ : World σ) : Prop where
  /-- If the run succeeded or failed the cleanup steps are attempted in order, each once: all that
  are wanted, unless a panic goes on past one. -/
  attempted : (∀ p, result ≠ .error (.unwound p)) →
    ∃ cleaned, Reported (wanted task noCleanup) attempts cleaned
  /-- They go on from the state of the run if it succeeded, and from an empty one if it failed. -/
  succeeded : ∀ state, result = .ok state → Attempted t inputs state w₁ attempts w₂
  failed : ∀ e, result = .error (.failed e) → Attempted t inputs .empty w₁ attempts w₂
  /-- If a panic went on past the run nothing more is done. -/
  unwound : ∀ p, result = .error (.unwound p) →
    attempts = [] ∧ w₂ = w₁ ∧ report = .error (.unwound p)
  /-- The steps stand in the log in turn, and each attempt of a command asked the target for that
  command, which is the same in any state if the command refers to inputs only. -/
  called : ∃ events, w₂.log = w₁.log ++ events ∧ InTurn (attempts.map Attempt.step) events ∧
    ∀ a ∈ attempts, ∀ c, a.step.runnable = .command c →
      invocations a.step.name events = c.calls a.step.name inputs a.state ∧
      ((∀ r ∈ c.refs, r.step = none) →
        invocations a.step.name events = c.calls a.step.name inputs .empty)
  runFailure : ∀ e, result = .error (.failed e) → (∀ a ∈ attempts, ¬a.Unwound) →
    report = .error (.failed (e.failure.within "Task failed"))
  /-- If only cleanup failed, the first failure to happen is reported. -/
  cleanupFailure : ∀ state before a after e, result = .ok state →
    attempts = before ++ a :: after → a.outcome = .error (.failed e) →
    (∀ x ∈ before, x.Succeeded) → (∀ x ∈ attempts, ¬x.Unwound) →
    report = .error (.failed (e.failure.within "Cleanup failed"))
  cleanupUnwound : ∀ a ∈ attempts, ∀ p, a.outcome = .error (.unwound p) →
    report = .error (.unwound p)
  success : ∀ state, report = .ok state ↔ result = .ok state ∧ ∀ a ∈ attempts, a.Succeeded

/-- What `run` prints and leaves, given what it came to. -/
structure Printed (done : Except (Halt Failure) RunState × World Host) (json : Bool)
    (ended : Ended) : Prop where
  stderr : ended.stderr = done.2.target.outputs.stderr
  files : ended.files = done.2.target.files
  failure : ∀ halt, done.1 = .error halt →
    ended.failure = some halt ∧ ended.stdout = done.2.target.outputs.stdout
  success : ∀ state, done.1 = .ok state → ended.failure = none ∧
    ended.stdout = done.2.target.outputs.stdout ++
      if json then Utf8.encode (stateJson state ++ "\n") else []

variable {t : Target σ} {inputs : Inputs} {task : Task}

/-- Asking whether there are any cleanup steps changes nothing. -/
theorem cleanUp_wanted (t : Target σ) (inputs : Inputs) (task : Task) (state : RunState)
    (w : World σ) :
    cleanUp t inputs task false state w = runCleanup t inputs task state w := by
  unfold cleanUp
  cases hnone : task.cleanup with
  | nil => simp [runCleanup, hnone, attemptSteps, cleanupResult]
  | cons s steps => simp

/-- The attempts that cleaning up makes, and its report on them. -/
theorem cleanUp_reported (t : Target σ) (inputs : Inputs) (task : Task) (noCleanup : Bool)
    (state : RunState) (w : World σ) : ∃ attempts cleaned w',
      cleanUp t inputs task noCleanup state w = (cleaned, w') ∧
      Attempted t inputs state w attempts w' ∧
      Reported (wanted task noCleanup) attempts cleaned := by
  cases noCleanup with
  | true => exact ⟨[], .ok (), w, rfl, .start, comeTo_nothing.reported⟩
  | false =>
      obtain ⟨made, result, w', hrun, hmade, hreported⟩ :=
        runCleanup_reported t inputs task state w
      exact ⟨made, result, w', (cleanUp_wanted ..).trans hrun, hmade, hreported⟩

theorem nodup_wanted (task : Task) (noCleanup : Bool) :
    ((wanted task noCleanup).map Step.name).Nodup := by
  cases noCleanup with
  | true => exact .nil
  | false =>
      rw [wanted, if_neg Bool.false_ne_true, List.map_reverse, List.nodup_reverse]
      exact task.nodup_cleanup

/-- What the attempts of a cleanup asked of the target. -/
theorem called_of_attempted {noCleanup : Bool} {state : RunState} {w₁ w₂ : World σ}
    {attempts : List Attempt} {cleaned : Except (Halt RunError) Unit}
    (hmade : Attempted t inputs state w₁ attempts w₂)
    (hreported : Reported (wanted task noCleanup) attempts cleaned) :
    ∃ events, w₂.log = w₁.log ++ events ∧ InTurn (attempts.map Attempt.step) events ∧
      ∀ a ∈ attempts, ∀ c, a.step.runnable = .command c →
        invocations a.step.name events = c.calls a.step.name inputs a.state ∧
        ((∀ r ∈ c.refs, r.step = none) →
          invocations a.step.name events = c.calls a.step.name inputs .empty) := by
  obtain ⟨events, hlog, hturn, hcalls⟩ := hmade.calls (hreported.nodup (nodup_wanted ..))
  refine ⟨events, hlog, hturn, fun a ha c hc => ⟨hcalls a ha c hc, fun hrefs => ?_⟩⟩
  rw [hcalls a ha c hc]
  exact c.calls_of_inputs hrefs a.step.name inputs a.state .empty

/-- After a run that failed, cleanup goes on from an empty state, and unless it is left by a panic
the failure of the run is reported. -/
theorem released_failed (t : Target σ) (inputs : Inputs) (task : Task) (noCleanup : Bool)
    (w₀ : World σ) {e : RunError} {w₁ : World σ}
    (hrun : runTask t inputs task w₀ = (.error (.failed e), w₁)) :
    ∃ attempts, Released t inputs task noCleanup (.error (.failed e)) w₁ attempts
      (run t inputs task noCleanup w₀).1 (run t inputs task noCleanup w₀).2 := by
  obtain ⟨attempts, cleaned, w₂, hclean, hmade, hreported⟩ :=
    cleanUp_reported t inputs task noCleanup .empty w₁
  have hcalled := called_of_attempted hmade hreported
  obtain ⟨report, hdone, hreport⟩ : ∃ report, run t inputs task noCleanup w₀ = (report, w₂) ∧
      ((∀ p, cleaned ≠ .error (.unwound p)) ∧
          report = .error (.failed (e.failure.within "Task failed")) ∨
        ∃ p, cleaned = .error (.unwound p) ∧ report = .error (.unwound p)) := by
    unfold run
    simp only [hrun, hclean]
    rcases cleaned with (e' | p) | u
    · exact ⟨_, rfl, .inl ⟨by rintro p ⟨⟩, rfl⟩⟩
    · exact ⟨_, rfl, .inr ⟨p, rfl, rfl⟩⟩
    · exact ⟨_, rfl, .inl ⟨by rintro p ⟨⟩, rfl⟩⟩
  refine ⟨attempts, ?_⟩
  rw [hdone]
  constructor
  case attempted => exact fun _ => ⟨cleaned, hreported⟩
  case succeeded => rintro state ⟨⟩
  case failed => exact fun _ _ => hmade
  case unwound => rintro p ⟨⟩
  case called => exact hcalled
  case runFailure =>
    rintro _ ⟨⟩ hunwound
    obtain ⟨-, hfailed⟩ | ⟨p, hcleaned, -⟩ := hreport
    · exact hfailed
    · obtain ⟨a, ha, hp⟩ := (hreported.unwound_iff p).mp hcleaned
      exact absurd ⟨p, hp⟩ (hunwound a ha)
  case cleanupFailure => rintro state _ _ _ _ ⟨⟩
  case cleanupUnwound =>
    intro a ha p hp
    have hcleaned := (hreported.unwound_iff p).mpr ⟨a, ha, hp⟩
    obtain ⟨hnone, -⟩ | ⟨q, hq, hunwound⟩ := hreport
    · exact absurd hcleaned (hnone p)
    · cases hcleaned.symm.trans hq
      exact hunwound
  case success =>
    intro state
    constructor
    · intro h
      obtain ⟨-, hfailed⟩ | ⟨p, -, hunwound⟩ := hreport
      · cases hfailed.symm.trans h
      · cases hunwound.symm.trans h
    · rintro ⟨⟨⟩, -⟩

/-- After a run that succeeded, cleanup goes on from its state, and the first failure of cleanup is
reported. -/
theorem released_succeeded (t : Target σ) (inputs : Inputs) (task : Task) (noCleanup : Bool)
    (w₀ : World σ) {state : RunState} {w₁ : World σ}
    (hrun : runTask t inputs task w₀ = (.ok state, w₁)) :
    ∃ attempts, Released t inputs task noCleanup (.ok state) w₁ attempts
      (run t inputs task noCleanup w₀).1 (run t inputs task noCleanup w₀).2 := by
  obtain ⟨attempts, cleaned, w₂, hclean, hmade, hreported⟩ :=
    cleanUp_reported t inputs task noCleanup state w₁
  have hcalled := called_of_attempted hmade hreported
  have hdone : run t inputs task noCleanup w₀ =
      (match cleaned with
        | .error halt => .error (halt.map fun e => e.failure.within "Cleanup failed")
        | .ok () => .ok state, w₂) := by
    unfold run
    simp only [hrun, hclean]
    cases cleaned <;> rfl
  refine ⟨attempts, ?_⟩
  rw [hdone]
  constructor
  case attempted => exact fun _ => ⟨cleaned, hreported⟩
  case succeeded =>
    rintro _ ⟨⟩
    exact hmade
  case failed => rintro e ⟨⟩
  case unwound => rintro p ⟨⟩
  case called => exact hcalled
  case runFailure => rintro e ⟨⟩
  case cleanupFailure =>
    rintro _ before a after e ⟨⟩ hsplit he hbefore hunwound
    cases (hreported.error_iff e).mpr ⟨hunwound, before, a, after, hsplit, he, hbefore⟩
    rfl
  case cleanupUnwound =>
    intro a ha p hp
    cases (hreported.unwound_iff p).mpr ⟨a, ha, hp⟩
    rfl
  case success =>
    intro state'
    rw [← hreported.ok_iff]
    rcases cleaned with halt | ⟨⟩ <;> simp

/-- Whatever the main steps come to, cleanup follows unless a panic went on past them. -/
theorem run_released (t : Target σ) (inputs : Inputs) (task : Task) (noCleanup : Bool)
    (w₀ : World σ) : ∃ result w₁ attempts, task.Ends t inputs w₀ result w₁ ∧
      Released t inputs task noCleanup result w₁ attempts
        (run t inputs task noCleanup w₀).1 (run t inputs task noCleanup w₀).2 := by
  cases hrun : runTask t inputs task w₀ with
  | mk result w₁ =>
      have hends := runTask_iff.mp hrun
      rcases result with (e | p) | state
      · obtain ⟨attempts, hreleased⟩ := released_failed t inputs task noCleanup w₀ hrun
        exact ⟨_, w₁, attempts, hends, hreleased⟩
      · have hdone : run t inputs task noCleanup w₀ = (.error (.unwound p), w₁) := by
          unfold run
          simp only [hrun]
        refine ⟨_, w₁, [], hends, ?_⟩
        rw [hdone]
        constructor
        case attempted => exact fun h => absurd rfl (h p)
        case succeeded => rintro state ⟨⟩
        case failed => rintro e ⟨⟩
        case unwound =>
          rintro _ ⟨⟩
          exact ⟨rfl, rfl, rfl⟩
        case called => exact ⟨[], by simp, .nothing, by simp⟩
        case runFailure => rintro e ⟨⟩
        case cleanupFailure => rintro state _ _ _ _ ⟨⟩
        case cleanupUnwound => simp
        case success => simp
      · obtain ⟨attempts, hreleased⟩ := released_succeeded t inputs task noCleanup w₀ hrun
        exact ⟨_, w₁, attempts, hends, hreleased⟩

theorem mem_cleanup_of_wanted {noCleanup : Bool} {s : Step} (h : s ∈ wanted task noCleanup) :
    s ∈ task.cleanup := by
  cases noCleanup with
  | true => cases h
  | false => exact List.mem_reverse.mp h

theorem Released.not_unwound {noCleanup : Bool} {result : Except (Halt RunError) RunState}
    {w₁ w₂ : World σ} {attempts : List Attempt} {report : Except (Halt Failure) RunState}
    (h : Released t inputs task noCleanup result w₁ attempts report w₂) (ht : t.Deferred)
    (hsteps : ∀ a ∈ attempts, a.step.Deferred) : ∀ a ∈ attempts, ¬a.Unwound := by
  rcases result with (e | p) | state
  · exact (h.failed e rfl).not_unwound ht hsteps
  · rw [(h.unwound p rfl).1]
    simp
  · exact (h.succeeded state rfl).not_unwound ht hsteps

/-- A process target gives a future whenever it is called. -/
theorem processes_deferred (start : Starter) (o : ProcessOptions) :
    (processes start o).Deferred := by
  intro c args h p
  simp only [processes, Host.answer, Starter.answer]
  rcases start.run (o.spawn c.path args) h.files with ⟨_ | _, _⟩ <;> rintro ⟨⟩

theorem ended_printed (json : Bool) (done : Except (Halt Failure) RunState × World Host) :
    Printed done json (Session.ended done.2
      (done.1.map fun state => if json then stateJson state ++ "\n" else "")) := by
  obtain ⟨result, w⟩ := done
  cases result with
  | error halt =>
      refine ⟨rfl, rfl, ?_, ?_⟩
      · rintro _ ⟨⟩
        exact ⟨rfl, rfl⟩
      · rintro _ ⟨⟩
  | ok state =>
      refine ⟨rfl, rfl, ?_, ?_⟩
      · rintro _ ⟨⟩
      · rintro _ ⟨⟩
        cases json <;> exact ⟨rfl, rfl⟩

/-- A run releases what it took: on every target, the cleanup steps are attempted after the main
steps, whether these succeeded or failed. Where all panics come from futures all of them are. A
session that has collected its inputs does this on the programs of its machine, and prints the state
behind their output only if there was no failure at all. -/
theorem run_always_releases (task : Task) (noCleanup : Bool) :
    (∀ (σ : Type) (t : Target σ) (inputs : Inputs) (w₀ : World σ), ∃ result w₁ attempts,
      task.Ends t inputs w₀ result w₁ ∧
      Released t inputs task noCleanup result w₁ attempts
        (run t inputs task noCleanup w₀).1 (run t inputs task noCleanup w₀).2 ∧
      (t.Deferred → (∀ s ∈ task.steps ++ task.cleanup, s.Deferred) →
        (∀ p, result ≠ .error (.unwound p)) ∧ (∀ a ∈ attempts, ¬a.Unwound) ∧
        attempts.map Attempt.step = wanted task noCleanup)) ∧
    ∀ (s : Session) (start : Starter) (fs : FileSystem) (o : InputOptions) (json : Bool)
      (inputs : Inputs), s.inputs task fs o false = .ok inputs →
      Printed (run (processes start s.options) inputs task noCleanup ⟨.ofFiles fs, []⟩) json
        (s.answerRun start task fs o json noCleanup) := by
  constructor
  · intro σ t inputs w₀
    obtain ⟨result, w₁, attempts, hends, hreleased⟩ := run_released t inputs task noCleanup w₀
    refine ⟨result, w₁, attempts, hends, hreleased, fun ht hsteps => ?_⟩
    have hresult : ∀ p, result ≠ .error (.unwound p) := by
      rintro p rfl
      exact hends.not_unwound ht (fun s hs => hsteps s (List.mem_append_left _ hs)) p
    obtain ⟨cleaned, hreported⟩ := hreleased.attempted hresult
    have hwanted : ∀ a ∈ attempts, a.step.Deferred := by
      intro a ha
      have hmem := hreported.front.subset (List.mem_map_of_mem ha)
      exact hsteps _ (List.mem_append_right _ (mem_cleanup_of_wanted hmem))
    have hunwound := hreleased.not_unwound ht hwanted
    exact ⟨hresult, hunwound, hreported.all hunwound⟩
  · intro s start fs o json inputs hinputs
    unfold Session.answerRun
    rw [hinputs]
    exact ended_printed json _

def deleteStep : Step :=
  ⟨"delete", .command ⟨"kind", [.literal "delete", .ref (.input "seed")]⟩⟩

/-- A step that needs a cluster, and cleanup steps that refer to it and to an input. -/
def cluster : Task where
  steps := [⟨"apply", .command ⟨"kubectl", [.literal "apply"]⟩⟩]
  cleanup := [deleteStep, ⟨"note", .command ⟨"echo", [.ref (.output "apply" stdoutKey)]⟩⟩]
  inputs := Registry.forInputs.define "seed"
  distinct := by decide

/-- Starts no program. -/
def refusing : Starter := fun _ fs => (.error (.notFound "program not found"), fs)

/-- Starts programs that print a line and succeed. -/
def granting : Starter := fun _ fs =>
  (.ok ⟨[(.stdout, Utf8.encode "done\n")], .code 0, none, none⟩, fs)

def seedSession : Session := ⟨"tool", Dict.empty.insert "SEED" "7", []⟩

theorem cluster_commands : ∀ s ∈ cluster.steps ++ cluster.cleanup, s.Deferred := by
  simp only [cluster, deleteStep, List.cons_append, List.nil_append, List.forall_mem_cons]
  exact ⟨by rintro f ⟨⟩, by rintro f ⟨⟩, by rintro f ⟨⟩, by simp⟩

/-- What the main step records where programs print a line. -/
def granted : RunState := RunState.record .empty "apply" (Dict.empty.insert stdoutKey "done\n")

/-- Where no program can be started the run fails, and the note has nothing to tell; the input of
the other cleanup command is there all the same. Where programs print a line the note tells it, and
the state is printed behind what the programs have printed. -/
theorem cluster_released :
    (∃ e w₁ attempts w₂, e.step = "apply" ∧
      cluster.Ends (processes refusing seedSession.options) seeded ⟨.ofFiles .empty, []⟩
        (.error (.failed e)) w₁ ∧
      Released (processes refusing seedSession.options) seeded cluster false
        (.error (.failed e)) w₁ attempts (.error (.failed (e.failure.within "Task failed"))) w₂ ∧
      attempts.map (fun a => a.step.name) = ["note", "delete"] ∧
      w₂.log = [.began "apply", .called "apply" "kubectl" ["apply"], .began "note",
        .began "delete", .called "delete" "kind" ["delete", "7"]] ∧
      (seedSession.answerRun refusing cluster .empty ⟨[], none⟩ true false).failure =
        some (.failed (e.failure.within "Task failed"))) ∧
    ∃ w₁ attempts w₂,
      cluster.Ends (processes granting seedSession.options) seeded ⟨.ofFiles .empty, []⟩
        (.ok granted) w₁ ∧
      Released (processes granting seedSession.options) seeded cluster false
        (.ok granted) w₁ attempts (.ok granted) w₂ ∧
      attempts.map (fun a => a.step.name) = ["note", "delete"] ∧
      invocations "note" w₂.log = [⟨"echo", ["done\n"]⟩] ∧
      invocations "delete" w₂.log = [⟨"kind", ["delete", "7"]⟩] ∧
      (seedSession.answerRun granting cluster .empty ⟨[], none⟩ true false).failure = none ∧
      (seedSession.answerRun granting cluster .empty ⟨[], none⟩ true false).stdout =
        Utf8.encode "done\ndone\ndone\n" ++ Utf8.encode (stateJson granted ++ "\n") := by
  obtain ⟨hreleases, hprints⟩ := run_always_releases cluster false
  have hinputs : seedSession.inputs cluster .empty ⟨[], none⟩ false = .ok seeded := by rfl
  have hnames : ∀ {attempts : List Attempt}, attempts.map Attempt.step = wanted cluster false →
      attempts.map (fun a => a.step.name) = ["note", "delete"] := by
    intro attempts h
    have hmap := congrArg (List.map Step.name) h
    rwa [List.map_map] at hmap
  constructor
  · obtain ⟨result, w₁, attempts, hends, hreleased, hall⟩ := hreleases Host
      (processes refusing seedSession.options) seeded ⟨.ofFiles .empty, []⟩
    obtain ⟨-, hunwound, hsteps⟩ := hall (processes_deferred _ _) cluster_commands
    have hfails : runTask (processes refusing seedSession.options) seeded cluster
        ⟨.ofFiles .empty, []⟩ = (.error (.failed _), _) := rfl
    have hresult := (runTask_iff.mpr hends).symm.trans hfails
    cases hresult
    have hreport := hreleased.runFailure _ rfl hunwound
    have hprinted := (hprints seedSession refusing .empty ⟨[], none⟩ true seeded hinputs).failure _
      hreport
    rw [hreport] at hreleased
    exact ⟨_, _, attempts, _, rfl, hends, hreleased, hnames hsteps, by decide +kernel, hprinted.1⟩
  · obtain ⟨result, w₁, attempts, hends, hreleased, hall⟩ := hreleases Host
      (processes granting seedSession.options) seeded ⟨.ofFiles .empty, []⟩
    obtain ⟨-, -, hsteps⟩ := hall (processes_deferred _ _) cluster_commands
    have hsucceeds : (runTask (processes granting seedSession.options) seeded cluster
        ⟨.ofFiles .empty, []⟩).1 = .ok granted := by decide +kernel
    have hreport : (run (processes granting seedSession.options) seeded cluster false
        ⟨.ofFiles .empty, []⟩).1 = .ok granted := by decide +kernel
    rw [runTask_iff.mpr hends] at hsucceeds
    cases hsucceeds
    have hprinted := (hprints seedSession granting .empty ⟨[], none⟩ true seeded hinputs).success _
      hreport
    rw [hreport] at hreleased
    refine ⟨_, attempts, _, hends, hreleased, hnames hsteps, by decide +kernel, by decide +kernel,
      hprinted.1, ?_⟩
    rw [hprinted.2]
    congr 1
    decide +kernel

/-- The body of the main step panics when it is called, and although there are cleanup steps none of
them is attempted. -/
theorem eager_unreleased : wanted eager false ≠ [] ∧
    run echoing .empty eager false ⟨.empty, []⟩ =
      (.error (.unwound (.text "no seed")), ⟨.empty, [.began "generate"]⟩) :=
  ⟨by decide, rfl⟩

end Cli
end Pipeline
