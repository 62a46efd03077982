import Pipeline.Proofs.Run.Interaction
import Pipeline.Proofs.Stream.Isolated

/-!
# How a step ends, told by its parts

`Step.Ends` tells what a step comes to, and the world that it leaves, by what its parts do: its
arguments, the one answer of the target, the operations of the readers and the sinks (`CopyEnds`),
and the moves of its body. It follows none of the functions that run a step, and what these come to
is what it tells (`runRunnable_iff`). So it is with the steps that a run got past (`passed_iff`) and
with the run (`runTask_iff`).

A step ends well, with an error, or with a panic that goes on past it. The last needs a target or a
body that panics before it gives a future; where all is left to the futures, every panic is an error
(`Step.Ends.not_unwound`).
-/

namespace Pipeline

/-- The copy of a stream into a sink came to `c`: these are its operations, each of the reader or
with an answer of the sink, and they tell how it ended. -/
def CopyEnds (r : Reader) (k : Sink) (c : Copied) : Prop :=
  ∃ ops, Runs (copyStep r.ending) (.start r k) ops (.ended c) ∧ CopiedBy r ops c

theorem copyEnds_copy (r : Reader) (k : Sink) : CopyEnds r k (copy r k) := by
  obtain ⟨ops, hruns⟩ := copies r k
  exact ⟨ops, hruns, hruns.sound⟩

theorem CopyEnds.eq_copy {r : Reader} {k : Sink} {c : Copied} (h : CopyEnds r k c) :
    c = copy r k := by
  obtain ⟨ops, hruns, -⟩ := h
  obtain ⟨all, hall⟩ := copies r k
  obtain ⟨-, hend⟩ := hruns.end_unique (copyStep_ended _ _) hall (copyStep_ended _ _)
  exact Copying.ended.inj hend

/-- A copy that succeeds has read the whole stream, and the sink has all of it. -/
theorem CopyEnds.of_ok {r : Reader} {k : Sink} {taken bytes : Bytes}
    (h : CopyEnds r k ⟨taken, .ok bytes⟩) : taken = r.bytes ∧ bytes = r.bytes := by
  obtain ⟨ops, -, hby⟩ := h
  cases hby
  exact ⟨rfl, rfl⟩

section
variable {σ : Type}

/-- What the copying of the two streams of a command comes to: their texts, or the failure that is
reported, which is that of standard output if both fail. -/
inductive CopiesOut (t : Target σ) (step : String) (stdout stderr : Reader) (w : World σ) :
    Except StreamError Captured → World σ → Prop
  | stdoutFailed {out : Bytes} {fault : IoError ⊕ Panic} {err : Copied} :
      CopyEnds stdout (t.sink .stdout w.target) ⟨out, .error fault⟩ →
      CopyEnds stderr (t.sink .stderr w.target) err →
      CopiesOut t step stdout stderr w (.error (.ofFailure .stdout fault))
        ⟨t.absorb out err.taken w.target, w.log ++ [.wrote step out err.taken]⟩
  | stderrFailed {out err bytes : Bytes} {fault : IoError ⊕ Panic} :
      CopyEnds stdout (t.sink .stdout w.target) ⟨out, .ok bytes⟩ →
      CopyEnds stderr (t.sink .stderr w.target) ⟨err, .error fault⟩ →
      CopiesOut t step stdout stderr w (.error (.ofFailure .stderr fault))
        ⟨t.absorb out err w.target, w.log ++ [.wrote step out err]⟩
  | copied {out err : Bytes} :
      CopyEnds stdout (t.sink .stdout w.target) ⟨out, .ok out⟩ →
      CopyEnds stderr (t.sink .stderr w.target) ⟨err, .ok err⟩ →
      CopiesOut t step stdout stderr w (.ok ⟨Utf8.decode out, Utf8.decode err⟩)
        ⟨t.absorb out err w.target, w.log ++ [.wrote step out err]⟩

section
variable (t : Target σ) (inputs : Inputs) (s : Step) (state : RunState) (w : World σ)

/-- The step holds a command whose arguments have values, and with these the target was asked once
to execute it. -/
inductive Step.Asks (answer : Execution) : World σ → Prop
  | intro {c : Command} {args : List String} {target : σ} : s.runnable = .command c →
      resolveArgs s.name inputs state c.args = .ok args →
      t.execute c args w.target = (answer, target) →
      Asks answer ⟨target, w.log ++ [.began s.name, .called s.name c.path args]⟩

/-- What a step comes to that begins in a state and a world: its outputs or what it halts with, and
the world that it leaves. -/
inductive Step.Ends : Except (Halt RunError) (Dict String) → World σ → Prop
  /-- An argument, the first of perhaps more, has no value. The target is not asked. -/
  | refused {c : Command} {front rest : List Arg} {a : Arg} {e : ResolveError} :
      s.runnable = .command c → c.args = front ++ a :: rest →
      (∀ x ∈ front, ∃ value, resolveArg s.name inputs state x = .ok value) →
      resolveArg s.name inputs state a = .error e →
      Ends (.error (.failed (.resolve e))) (w.tell (.began s.name))
  /-- The target answers with an error, -/
  | execution {e : TargetError} {w' : World σ} : s.Asks t inputs state w (.error e) w' →
      Ends (.error (.failed (.execution s.name e))) w'
  /-- or panics, -/
  | targetPanic {p : Panic} {w' : World σ} : s.Asks t inputs state w (.panic p) w' →
      Ends (.error (.failed (.panicked s.name p.message))) w'
  /-- before there is a future or after. -/
  | targetUnwound {p : Panic} {w' : World σ} : s.Asks t inputs state w (.unwound p) w' →
      Ends (.error (.unwound p)) w'
  /-- A reader or a sink fails or panics, -/
  | stream {stdout stderr : Reader} {e : StreamError} {w₁ w' : World σ} :
      s.Asks t inputs state w (.streams stdout stderr) w₁ →
      CopiesOut t s.name stdout stderr w₁ (.error e) w' →
      Ends (.error (.failed (.stream s.name e))) w'
  /-- or none does, and the text of standard output is recorded. -/
  | copied {stdout stderr : Reader} {captured : Captured} {w₁ w' : World σ} :
      s.Asks t inputs state w (.streams stdout stderr) w₁ →
      CopiesOut t s.name stdout stderr w₁ (.ok captured) w' →
      Ends (.ok (Dict.empty.insert stdoutKey captured.stdout)) w'
  /-- The body of a function ends well, and what it set last is recorded, -/
  | body {f : Func} {moves : List Move} {outputs : Dict String} {w' : World σ} :
      s.runnable = .func f → Plays f.body moves .done →
      Answered t inputs s.name state [] (w.tell (.began s.name)) moves w' →
      HoldsLast moves f.outputs outputs → Ends (.ok outputs) w'
  /-- or it fails, -/
  | bodyFailed {f : Func} {moves : List Move} {failure : Failure} {w' : World σ} :
      s.runnable = .func f → Plays f.body moves (.failed failure) →
      Answered t inputs s.name state [] (w.tell (.began s.name)) moves w' →
      Ends (.error (.failed (.func s.name failure))) w'
  /-- or its future panics, -/
  | bodyPanic {f : Func} {moves : List Move} {p : Panic} {w' : World σ} :
      s.runnable = .func f → Plays f.body moves (.panicked p) →
      Answered t inputs s.name state [] (w.tell (.began s.name)) moves w' →
      Ends (.error (.failed (.panicked s.name p.message))) w'
  /-- or it panics when it is called. -/
  | bodyUnwound {f : Func} {moves : List Move} {p : Panic} {w' : World σ} :
      s.runnable = .func f → Plays f.body moves (.unwound p) →
      Answered t inputs s.name state [] (w.tell (.began s.name)) moves w' →
      Ends (.error (.unwound p)) w'

end

variable {t : Target σ} {inputs : Inputs}

/-! ### Arguments and copies -/

theorem resolveArgs_cons_of_error {step : String} {state : RunState} {a : Arg} {args : List Arg}
    {e : ResolveError} (h : resolveArg step inputs state a = .error e) :
    resolveArgs step inputs state (a :: args) = .error e := by
  simp only [resolveArgs, h]

theorem resolveArgs_cons_of_ok {step : String} {state : RunState} {a : Arg} {args : List Arg}
    {value : String} (h : resolveArg step inputs state a = .ok value) {e : ResolveError} :
    resolveArgs step inputs state (a :: args) = .error e ↔
      resolveArgs step inputs state args = .error e := by
  simp only [resolveArgs, h]
  cases resolveArgs step inputs state args <;> simp

/-- Arguments are refused for the first of them that has no value, wherever it stands. -/
theorem resolveArgs_eq_error_iff {step : String} {state : RunState} {args : List Arg}
    {e : ResolveError} : resolveArgs step inputs state args = .error e ↔
      ∃ front a rest, args = front ++ a :: rest ∧
        (∀ x ∈ front, ∃ value, resolveArg step inputs state x = .ok value) ∧
        resolveArg step inputs state a = .error e := by
  constructor
  · intro h
    induction args with
    | nil => cases h
    | cons a args ih =>
        cases ha : resolveArg step inputs state a with
        | error e₁ =>
            rw [resolveArgs_cons_of_error ha] at h
            cases h
            exact ⟨[], a, args, rfl, by simp, ha⟩
        | ok value =>
            obtain ⟨front, x, rest, rfl, hfront, hx⟩ := ih ((resolveArgs_cons_of_ok ha).mp h)
            refine ⟨a :: front, x, rest, rfl, fun y hy => ?_, hx⟩
            rcases List.mem_cons.mp hy with rfl | hy
            · exact ⟨value, ha⟩
            · exact hfront y hy
  · rintro ⟨front, a, rest, rfl, hfront, ha⟩
    induction front with
    | nil => exact resolveArgs_cons_of_error ha
    | cons x front ih =>
        obtain ⟨value, hx⟩ := hfront x List.mem_cons_self
        exact (resolveArgs_cons_of_ok hx).mpr (ih fun y hy => hfront y (List.mem_cons_of_mem x hy))

/-- Copying out is what the operations of both copies make of it. -/
theorem copyOut_iff {step : String} {stdout stderr : Reader} {w w' : World σ}
    {r : Except StreamError Captured} :
    copyOut t step stdout stderr w = (r, w') ↔ CopiesOut t step stdout stderr w r w' := by
  have hout := copyEnds_copy stdout (t.sink .stdout w.target)
  have herr := copyEnds_copy stderr (t.sink .stderr w.target)
  constructor
  · intro h
    cases h
    cases hstdout : copy stdout (t.sink .stdout w.target) with
    | mk out outResult =>
        cases hstderr : copy stderr (t.sink .stderr w.target) with
        | mk err errResult =>
            rw [hstdout] at hout
            rw [hstderr] at herr
            simp only [copyStreams, hstdout, hstderr, CopiedStreams.settle, Copied.settle_eq]
            cases outResult with
            | error fault => exact .stdoutFailed hout herr
            | ok outBytes =>
                cases errResult with
                | error fault => exact .stderrFailed hout herr
                | ok errBytes =>
                    obtain ⟨rfl, rfl⟩ := hout.of_ok
                    obtain ⟨rfl, rfl⟩ := herr.of_ok
                    exact .copied hout herr
  · intro h
    cases h with
    | stdoutFailed hout herr | stderrFailed hout herr | copied hout herr =>
        simp only [copyOut, copyStreams, ← hout.eq_copy, ← herr.eq_copy, CopiedStreams.settle,
          Copied.settle_eq]
        rfl

/-! ### What the functions that run a step come to -/

variable {s : Step} {state : RunState} {w w' : World σ}

theorem Step.Asks.call {answer : Execution} (h : s.Asks t inputs state w answer w') :
    ∃ c args, s.runnable = .command c ∧ resolveArgs s.name inputs state c.args = .ok args ∧
      Pipeline.call t s.name c args (w.tell (.began s.name)) = (answer, w') := by
  cases h with
  | intro hc hargs hanswer =>
      refine ⟨_, _, hc, hargs, ?_⟩
      simp [Pipeline.call, World.tell, hanswer]

theorem Step.asks_of_call {c : Command} {args : List String} {answer : Execution}
    (hc : s.runnable = .command c) (hargs : resolveArgs s.name inputs state c.args = .ok args)
    (h : Pipeline.call t s.name c args (w.tell (.began s.name)) = (answer, w')) :
    s.Asks t inputs state w answer w' := by
  cases h
  simpa [World.tell] using Step.Asks.intro (w := w) hc hargs rfl

theorem Step.Ends.runRunnable {r : Except (Halt RunError) (Dict String)}
    (h : s.Ends t inputs state w r w') :
    Pipeline.runRunnable t inputs s.name s.runnable state (w.tell (.began s.name)) = (r, w') := by
  unfold Pipeline.runRunnable
  cases h with
  | refused hc hsplit hfront ha =>
      have hargs := resolveArgs_eq_error_iff.mpr ⟨_, _, _, hsplit, hfront, ha⟩
      simp only [hc, runCommand, hargs]
  | execution h | targetPanic h | targetUnwound h =>
      obtain ⟨c, args, hc, hargs, hcall⟩ := h.call
      simp only [hc, runCommand, hargs, hcall]
  | stream h hcopies | copied h hcopies =>
      obtain ⟨c, args, hc, hargs, hcall⟩ := h.call
      simp only [hc, runCommand, hargs, hcall, copyOut_iff.mpr hcopies]
  | body hf hplays hanswered hlast =>
      obtain ⟨set, hrun, hset⟩ := runBody_of_plays hplays hanswered .nothing
      simp only [hf, runFunc, hrun, (hset.withDefaults _).unique hlast]
  | bodyFailed hf hplays hanswered | bodyPanic hf hplays hanswered
  | bodyUnwound hf hplays hanswered =>
      obtain ⟨set, hrun, -⟩ := runBody_of_plays hplays hanswered .nothing
      simp only [hf, runFunc, hrun]

theorem Step.ends_of_runRunnable {r : Except (Halt RunError) (Dict String)}
    (h : Pipeline.runRunnable t inputs s.name s.runnable state (w.tell (.began s.name)) =
      (r, w')) : s.Ends t inputs state w r w' := by
  unfold Pipeline.runRunnable at h
  split at h
  · rename_i c hc
    cases runCommand_outcome h with
    | refused hargs =>
        obtain ⟨front, a, rest, hsplit, hfront, ha⟩ := resolveArgs_eq_error_iff.mp hargs
        exact .refused hc hsplit hfront ha
    | panicked hargs hcall => exact .targetPanic (asks_of_call hc hargs hcall)
    | unwound hargs hcall => exact .targetUnwound (asks_of_call hc hargs hcall)
    | failed hargs hcall => exact .execution (asks_of_call hc hargs hcall)
    | broken hargs hcall hcopy =>
        exact .stream (asks_of_call hc hargs hcall) (copyOut_iff.mp hcopy)
    | completed hargs hcall hcopy =>
        exact .copied (asks_of_call hc hargs hcall) (copyOut_iff.mp hcopy)
  · rename_i f hf
    obtain ⟨moves, ending, w₁, hplays, hanswered⟩ :=
      exists_interaction t inputs s.name state f.body .nothing (w.tell (.began s.name))
    obtain ⟨set, hrun, hset⟩ := runBody_of_plays hplays hanswered .nothing
    unfold runFunc at h
    rw [hrun] at h
    cases ending with
    | done =>
        cases h
        exact .body hf hplays hanswered (hset.withDefaults f.outputs)
    | failed failure =>
        cases h
        exact .bodyFailed hf hplays hanswered
    | panicked p =>
        cases h
        exact .bodyPanic hf hplays hanswered
    | unwound p =>
        cases h
        exact .bodyUnwound hf hplays hanswered

theorem runRunnable_iff {r : Except (Halt RunError) (Dict String)} :
    runRunnable t inputs s.name s.runnable state (w.tell (.began s.name)) = (r, w') ↔
      s.Ends t inputs state w r w' :=
  ⟨Step.ends_of_runRunnable, Step.Ends.runRunnable⟩

theorem runStep_ok_iff {state' : RunState} : runStep t inputs s state w = (.ok state', w') ↔
    ∃ outputs, s.Ends t inputs state w (.ok outputs) w' ∧ state' = state.record s.name outputs := by
  constructor
  · intro h
    obtain ⟨outputs, hrun, hstate⟩ := runStep_ok h
    exact ⟨outputs, runRunnable_iff.mp hrun, hstate⟩
  · rintro ⟨outputs, hends, rfl⟩
    simp only [runStep, hends.runRunnable]

theorem runStep_error_iff {halt : Halt RunError} :
    runStep t inputs s state w = (.error halt, w') ↔ s.Ends t inputs state w (.error halt) w' := by
  constructor
  · intro h
    exact runRunnable_iff.mp (runStep_error h)
  · intro hends
    simp only [runStep, hends.runRunnable]

/-! ### Steps one after the other -/

/-- From an empty state these steps ended well one after the other, each once and on what the ones
before it had left. -/
inductive Passed (t : Target σ) (inputs : Inputs) (w₀ : World σ) :
    List Step → RunState → World σ → Prop
  | start : Passed t inputs w₀ [] .empty w₀
  | next {done : List Step} {s : Step} {state : RunState} {outputs : Dict String}
      {w w' : World σ} : Passed t inputs w₀ done state w →
      s.Ends t inputs state w (.ok outputs) w' →
      Passed t inputs w₀ (done ++ [s]) (state.record s.name outputs) w'

theorem passed_iff {w₀ : World σ} {done : List Step} :
    Passed t inputs w₀ done state w ↔ Reaches t inputs w₀ done state w := by
  constructor
  · intro h
    induction h with
    | start => exact .start
    | next _ hs ih => exact ih.next (runStep_ok_iff.mpr ⟨_, hs, rfl⟩)
  · intro h
    induction h with
    | start => exact .start
    | next _ hs ih =>
        obtain ⟨outputs, hends, rfl⟩ := runStep_ok_iff.mp hs
        exact ih.next hends

/-- What a run of the main steps comes to: all of them ended well, or one did not after those before
it had. -/
inductive Task.Ends (t : Target σ) (inputs : Inputs) (task : Task) (w₀ : World σ) :
    Except (Halt RunError) RunState → World σ → Prop
  | completed {state : RunState} {w : World σ} : Passed t inputs w₀ task.steps state w →
      Ends t inputs task w₀ (.ok state) w
  | stopped {before after : List Step} {s : Step} {state : RunState} {halt : Halt RunError}
      {w w' : World σ} : task.steps = before ++ s :: after →
      Passed t inputs w₀ before state w → s.Ends t inputs state w (.error halt) w' →
      Ends t inputs task w₀ (.error halt) w'

theorem runTask_iff {task : Task} {w₀ : World σ} {r : Except (Halt RunError) RunState} :
    runTask t inputs task w₀ = (r, w) ↔ task.Ends t inputs w₀ r w := by
  constructor
  · intro h
    cases r with
    | ok state => exact .completed (passed_iff.mpr (reaches_iff.mpr h))
    | error halt =>
        obtain ⟨before, s, after, state, w₁, hsplit, hreach, hs⟩ := runSteps_error h
        exact .stopped hsplit (passed_iff.mpr hreach) (runStep_error_iff.mp hs)
  · intro h
    unfold runTask
    cases h with
    | completed hpassed => exact reaches_iff.mp (passed_iff.mp hpassed)
    | stopped hsplit hpassed hs =>
        rw [hsplit, (passed_iff.mp hpassed).run_append]
        simp only [runSteps, runStep_error_iff.mpr hs]

/-! ### Panics that go on -/

/-- The target gives a future whenever it is called. -/
def Target.Deferred (t : Target σ) : Prop := ∀ c args s p, (t.execute c args s).1 ≠ .unwound p

/-- All that the body of a function does is left to its future. -/
def Func.Deferred (f : Func) : Prop := ∃ next, f.body = .future next

def Step.Deferred (s : Step) : Prop := ∀ f, s.runnable = .func f → f.Deferred

theorem Plays.not_unwound {next : Body} {moves : List Move} {ending : BodyEnd}
    (h : Plays (.future next) moves ending) (p : Panic) : ending ≠ .unwound p := by
  cases h with
  | @future _ _ ending _ => cases ending <;> rintro ⟨⟩

/-- No panic goes on past a step whose panics all come from futures. -/
theorem Step.Ends.not_unwound (ht : t.Deferred) (hs : s.Deferred) (p : Panic) :
    ¬s.Ends t inputs state w (.error (.unwound p)) w' := by
  intro h
  cases h with
  | targetUnwound hasks =>
      cases hasks with
      | intro _ _ hanswer => exact ht _ _ _ p (congrArg Prod.fst hanswer)
  | bodyUnwound hf hplays _ =>
      obtain ⟨next, hbody⟩ := hs _ hf
      rw [hbody] at hplays
      exact hplays.not_unwound p rfl

theorem Task.Ends.not_unwound {task : Task} {w₀ : World σ} (ht : t.Deferred)
    (hsteps : ∀ s ∈ task.steps, s.Deferred) (p : Panic) :
    ¬task.Ends t inputs w₀ (.error (.unwound p)) w := by
  intro h
  cases h with
  | stopped hsplit _ hs =>
      refine hs.not_unwound ht (hsteps _ ?_) p
      rw [hsplit]
      simp

end

/-- Answers every command but `kubectl` with its own line, and panics there. -/
def refusing : Target Record :=
  scripted [⟨"kubectl", none, .panic (.text "no cluster")⟩] fun _ => .buffer

/-- Looks the seed up while it is called, and cannot do without it. -/
def eagerFunc : Func := ⟨"gen", ["path"], .resolve (.input "seed") fun
  | .ok seed => .future (.set "path" seed .done)
  | .error _ => .panic (.text "no seed")⟩

/-- A main step and a cleanup step of that function, among others. -/
def eager : Task where
  steps := [⟨"generate", .func eagerFunc⟩, reportStep]
  cleanup := [stopStep, ⟨"recall", .func eagerFunc⟩]
  inputs := .forInputs
  distinct := by decide

end Pipeline
