import Pipeline.Harness.Basic
import Pipeline.Proofs.Run.Effects
import Pipeline.Proofs.Run.Ends
import Pipeline.Proofs.Run.Objections

/-!
# What a run writes to the sinks of its target

The sinks of a target are fresh for each command, and what they take goes behind what the sinks
before them took (`Buffers`). So the two buffers of a target show how far a run got: a command that
completes adds both of its streams whole, and a function adds nothing, whatever commands its body
executes (`Buffers.of_ok`). A step that fails adds a front of its output, and nothing unless it is
the copying that fails (`Buffers.of_halt`). Along a run these add up (`runTask_outputs`).
-/

namespace Pipeline

namespace Outputs

theorem add_empty (o : Outputs) : o.add [] [] = o := by simp [add]

theorem get_add (o added : Outputs) (stream : Stream) :
    (o.add added.stdout added.stderr).get stream = o.get stream ++ added.get stream := by
  cases stream <;> rfl

end Outputs

section
variable {σ : Type}

/-- The buffers in the state of a target hold what its sinks took, one behind the other, and nothing
else. -/
structure Buffers (t : Target σ) (buffers : σ → Outputs) : Prop where
  execute : ∀ c args s, buffers (t.execute c args s).2 = buffers s
  absorb : ∀ out err s, buffers (t.absorb out err s) = (buffers s).add out err

variable (t : Target σ) (inputs : Inputs)

/-- The output of a step that begins in a state and a world: the two streams with which its command
is answered. A function has none, nor a command that is not executed or answered otherwise. -/
def Step.output (s : Step) (state : RunState) (w : World σ) : Outputs :=
  match s.runnable with
  | .func _ => .empty
  | .command c =>
    match resolveArgs s.name inputs state c.args with
    | .error _ => .empty
    | .ok args =>
      match (t.execute c args w.target).1 with
      | .streams stdout stderr => ⟨stdout.bytes, stderr.bytes⟩
      | .error _ => .empty
      | .panic _ | .unwound _ => .empty

variable {t inputs} {buffers : σ → Outputs}

theorem Step.output_of_streams {s : Step} {state : RunState} {stdout stderr : Reader}
    {w w₁ : World σ} (h : s.Asks t inputs state w (.streams stdout stderr) w₁) :
    s.output t inputs state w = ⟨stdout.bytes, stderr.bytes⟩ := by
  cases h with
  | intro hc hargs hanswer => simp only [Step.output, hc, hargs, hanswer]

theorem Step.output_of_func {s : Step} {f : Func} (hf : s.runnable = .func f) (state : RunState)
    (w : World σ) : s.output t inputs state w = .empty := by
  simp only [Step.output, hf]

/-- What a step added that did not end well: a front of each stream of its output, and nothing at
all unless it was the copying that failed. -/
structure FrontOf (own : Outputs) (halt : Halt RunError) (added : Outputs) : Prop where
  front : ∀ stream, added.get stream <+: own.get stream
  nothing : (∀ step x, halt ≠ .failed (.stream step x)) → added = .empty

theorem frontOf_empty (own : Outputs) (halt : Halt RunError) : FrontOf own halt .empty where
  front stream := by cases stream <;> exact List.nil_prefix
  nothing _ := rfl

namespace Buffers

theorem call (hb : Buffers t buffers) {step : String} {c : Command} {args : List String}
    {w w' : World σ} {answer : Execution} (h : Pipeline.call t step c args w = (answer, w')) :
    buffers w'.target = buffers w.target := by
  have hw : (Pipeline.call t step c args w).2 = w' := by rw [h]
  rw [← hw]
  exact hb.execute c args w.target

/-- Executing commands and leaving notes adds nothing. -/
theorem body (hb : Buffers t buffers) (step : String) :
    RespectedByBody t step fun w w' => buffers w'.target = buffers w.target where
  refl _ := rfl
  trans h h' := h'.trans h
  call _ _ _ := hb.call rfl
  note _ _ := rfl

variable {s : Step} {state : RunState} {w w' : World σ}

theorem asks (hb : Buffers t buffers) {answer : Execution}
    (h : s.Asks t inputs state w answer w') : buffers w'.target = buffers w.target := by
  obtain ⟨c, args, -, -, hcall⟩ := h.call
  have hkept := hb.call hcall
  exact hkept

/-- A copy adds a front of each stream, and the whole of both if it succeeds. -/
theorem copiesOut (hb : Buffers t buffers) {step : String} {stdout stderr : Reader}
    {r : Except StreamError Captured} (h : CopiesOut t step stdout stderr w r w') :
    ∃ added : Outputs, buffers w'.target = (buffers w.target).add added.stdout added.stderr ∧
      added.stdout <+: stdout.bytes ∧ added.stderr <+: stderr.bytes ∧
      ∀ captured, r = .ok captured → added = ⟨stdout.bytes, stderr.bytes⟩ := by
  have hprefix : ∀ {r : Reader} {k : Sink} {c : Copied}, CopyEnds r k c → c.taken <+: r.bytes := by
    rintro r k c ⟨_, -, hby⟩
    exact hby.taken_prefix
  cases h with
  | stdoutFailed hout herr | stderrFailed hout herr =>
      refine ⟨⟨_, _⟩, hb.absorb _ _ w.target, hprefix hout, hprefix herr, ?_⟩
      rintro _ ⟨⟩
  | copied hout herr =>
      obtain ⟨rfl, -⟩ := hout.of_ok
      obtain ⟨rfl, -⟩ := herr.of_ok
      exact ⟨⟨_, _⟩, hb.absorb _ _ w.target, List.prefix_rfl, List.prefix_rfl, fun _ _ => rfl⟩

theorem plays (hb : Buffers t buffers) {step : String} {b : Body} {moves : List Move}
    {ending : BodyEnd} (hplays : Plays b moves ending)
    (hanswered : Answered t inputs step state [] (w.tell (.began step)) moves w') :
    buffers w'.target = buffers w.target := by
  obtain ⟨set, hrun, -⟩ := runBody_of_plays hplays hanswered .nothing
  have hkept := (hb.body step).runBody inputs state b .empty (w.tell (.began step))
  rw [hrun] at hkept
  exact hkept

theorem of_ok (hb : Buffers t buffers) {outputs : Dict String}
    (h : s.Ends t inputs state w (.ok outputs) w') :
    buffers w'.target = (buffers w.target).add (s.output t inputs state w).stdout
      (s.output t inputs state w).stderr := by
  cases h with
  | copied hasks hcopies =>
      obtain ⟨added, hadded, -, -, hwhole⟩ := hb.copiesOut hcopies
      rw [Step.output_of_streams hasks, hadded, hwhole _ rfl, hb.asks hasks]
  | body hf hplays hanswered _ =>
      rw [Step.output_of_func hf, hb.plays hplays hanswered, Outputs.empty, Outputs.add_empty]

theorem of_halt (hb : Buffers t buffers) {halt : Halt RunError}
    (h : s.Ends t inputs state w (.error halt) w') :
    ∃ added, FrontOf (s.output t inputs state w) halt added ∧
      buffers w'.target = (buffers w.target).add added.stdout added.stderr := by
  have hnothing : buffers w'.target = buffers w.target →
      ∃ added, FrontOf (s.output t inputs state w) halt added ∧
        buffers w'.target = (buffers w.target).add added.stdout added.stderr := by
    intro hkept
    refine ⟨.empty, frontOf_empty _ _, ?_⟩
    rw [hkept, Outputs.empty, Outputs.add_empty]
  cases h with
  | refused _ _ _ _ => exact hnothing rfl
  | execution hasks | targetPanic hasks | targetUnwound hasks => exact hnothing (hb.asks hasks)
  | stream hasks hcopies =>
      obtain ⟨added, hadded, hout, herr, -⟩ := hb.copiesOut hcopies
      rw [hb.asks hasks] at hadded
      refine ⟨added, ⟨?_, ?_⟩, hadded⟩
      · rw [Step.output_of_streams hasks]
        intro stream
        cases stream with
        | stdout => exact hout
        | stderr => exact herr
      · intro hne
        exact absurd rfl (hne _ _)
  | bodyFailed _ hplays hanswered | bodyPanic _ hplays hanswered
  | bodyUnwound _ hplays hanswered => exact hnothing (hb.plays hplays hanswered)

end Buffers

variable (t inputs) in
/-- Steps that were run in turn, and the output of each. -/
inductive Produced (w₀ : World σ) : List Step → List Outputs → Prop
  | none : Produced w₀ [] []
  | next {done : List Step} {parts : List Outputs} {s : Step} {state : RunState} {w : World σ} :
      Produced w₀ done parts → Reaches t inputs w₀ done state w →
      Produced w₀ (done ++ [s]) (parts ++ [s.output t inputs state w])

theorem Buffers.of_passed (hb : Buffers t buffers) {w₀ w : World σ} {done : List Step}
    {state : RunState} (h : Passed t inputs w₀ done state w) :
    ∃ parts, Produced t inputs w₀ done parts ∧ ∀ stream, (buffers w.target).get stream =
      (buffers w₀.target).get stream ++ parts.flatMap fun o => o.get stream := by
  induction h with
  | start => exact ⟨[], .none, by simp⟩
  | next hdone hs ih =>
      obtain ⟨parts, hparts, hbuffers⟩ := ih
      refine ⟨_, hparts.next (passed_iff.mp hdone), fun stream => ?_⟩
      -- the step that completed last adds the whole of its output
      rw [hb.of_ok hs, Outputs.get_add, hbuffers, List.flatMap_append, List.append_assoc]
      simp

/-- What a run does to the two buffers of its target. When it succeeds they show the output of all
steps in order. When it stops they show the whole output of the steps before the one it stopped at,
and then a front of the output of that one. -/
theorem runTask_outputs (hb : Buffers t buffers) (inputs : Inputs) (task : Task) (w₀ : World σ) :
    (∀ state w', runTask t inputs task w₀ = (.ok state, w') →
      ∃ parts, Produced t inputs w₀ task.steps parts ∧ ∀ stream, (buffers w'.target).get stream =
        (buffers w₀.target).get stream ++ parts.flatMap fun o => o.get stream) ∧
    ∀ halt w', runTask t inputs task w₀ = (.error halt, w') →
      ∃ before s after state w parts added, task.steps = before ++ s :: after ∧
        Reaches t inputs w₀ before state w ∧ s.Ends t inputs state w (.error halt) w' ∧
        Produced t inputs w₀ before parts ∧ FrontOf (s.output t inputs state w) halt added ∧
        ∀ stream, (buffers w'.target).get stream = (buffers w₀.target).get stream ++
          (parts.flatMap fun o => o.get stream) ++ added.get stream := by
  constructor
  · intro state w' h
    cases runTask_iff.mp h with
    | completed hpassed => exact hb.of_passed hpassed
  · intro halt w' h
    cases runTask_iff.mp h with
    | stopped hsplit hpassed hs =>
        obtain ⟨parts, hparts, hbuffers⟩ := hb.of_passed hpassed
        obtain ⟨added, hfront, hadded⟩ := hb.of_halt hs
        refine ⟨_, _, _, _, _, parts, added, hsplit, passed_iff.mp hpassed, hs, hparts, hfront, ?_⟩
        intro stream
        rw [hadded, Outputs.get_add, hbuffers]

end

theorem buffers_scripted (rules : List Rule) (sinks : Stream → Sink) :
    Buffers (scripted rules sinks) Record.outputs where
  execute _ _ _ := rfl
  absorb _ _ _ := rfl

theorem buffers_processes (start : Starter) (o : ProcessOptions) :
    Buffers (processes start o) Host.outputs where
  execute _ _ _ := rfl
  absorb _ _ _ := rfl

theorem Harness.buffers_target (h : Harness) (start : Starter) (here : Place) :
    Buffers (h.target start here) Host.outputs where
  execute c args host := by
    simp only [Harness.target]
    split <;> rfl
  absorb _ _ _ := rfl

/-- Executes a command whose output nobody is shown. -/
def probeStep : Step := ⟨"probe", .func ⟨"probe", [], .future <| .exec ⟨"ls", []⟩ fun _ => .done⟩⟩

def countStep : Step := ⟨"count", .command ⟨"wc", []⟩⟩

def showStep : Step := ⟨"show", .command ⟨"cat", []⟩⟩

/-- A function that executes a command, and three commands. -/
def inventory : Task where
  steps := [probeStep, countStep, showStep, ⟨"recount", .command ⟨"wc", []⟩⟩]
  cleanup := []
  inputs := .forInputs
  distinct := by decide

/-- Its standard output has room for two bytes of each command. -/
def cramped : Target Record :=
  scripted [⟨"wc", none, .streams (.ofBytes [51]) .empty⟩,
    ⟨"cat", none, .streams (.ofBytes [97, 98, 99]) (.ofBytes [33])⟩] fun
      | .stdout => narrow
      | .stderr => .buffer

/-- What the function had from its command is not shown. Of the last command that ran, what its sink
had room for stands behind the whole output of the one before. -/
theorem inventory_cut : ∃ w' before s after parts state w, ∃ added : Outputs,
    runTask cramped .empty inventory ⟨.empty, []⟩ =
      (.error (.failed (.stream "show" (.io .stdout (.other "full")))), w') ∧
    w'.target.outputs = ⟨[51, 97, 98], [33]⟩ ∧
    inventory.steps = before ++ s :: after ∧ s.name = "show" ∧
    Produced cramped .empty ⟨.empty, []⟩ before parts ∧
    added.stdout <+: (s.output cramped .empty state w).stdout ∧
    (parts.flatMap fun o => o.stdout) ++ added.stdout = [51, 97, 98] := by
  have hresult : (runTask cramped .empty inventory ⟨.empty, []⟩).1 =
      .error (.failed (.stream "show" (.io .stdout (.other "full")))) :=
    errorOf_eq_some.mp (by decide +kernel)
  have houtputs : (runTask cramped .empty inventory ⟨.empty, []⟩).2.target.outputs =
      ⟨[51, 97, 98], [33]⟩ := by decide +kernel
  have hb : Buffers cramped Record.outputs := buffers_scripted _ _
  obtain ⟨-, hcut⟩ := runTask_outputs hb .empty inventory ⟨.empty, []⟩
  obtain ⟨before, s, after, state, w, parts, added, hsplit, -, hs, hparts, hfront, hbuffers⟩ :=
    hcut _ _ (Prod.ext hresult rfl)
  have hstep : s.name = "show" := (runStep_error_step (runStep_error_iff.mpr hs)).symm
  have hstdout := hbuffers .stdout
  rw [houtputs] at hstdout
  exact ⟨_, before, s, after, parts, state, w, added, Prod.ext hresult rfl, houtputs, hsplit, hstep,
    hparts, hfront.front .stdout, hstdout.symm⟩

end Pipeline
