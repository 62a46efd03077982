import Pipeline.Proofs.Script.Agreement

/-!
# Tasks whose references are in scope

In a scoped task every reference of a command is to a declared input, or to an output that an
earlier main step declares. One kind of output is declared and never recorded, the standard error
of a command step. With every input at hand it is the only thing that compiling, running and
cleaning up such a task can be refused.
-/

namespace Pipeline

theorem Step.mem_outputs {s : Step} {k : String} :
    k ∈ s.outputs.keys ↔ k ∈ s.runnable.outputKeys := by
  rw [Step.outputs, Registry.mem_defineAll]
  simp [Registry.forStep]

/-- A reference to a declared input, or to an output that one of some steps declares. -/
def Ref.InScope (r : Ref) (inputs : Registry) (steps : List Step) : Prop :=
  (∃ key ∈ inputs.keys, r = .input key) ∨
    ∃ s ∈ steps, ∃ key ∈ s.outputs.keys, r = .output s.name key

theorem Ref.InScope.mono {r : Ref} {inputs inputs' : Registry} {steps steps' : List Step}
    (h : r.InScope inputs steps) (hi : ∀ key ∈ inputs.keys, key ∈ inputs'.keys)
    (hs : ∀ s ∈ steps, s ∈ steps') : r.InScope inputs' steps' := by
  rcases h with ⟨key, hkey, rfl⟩ | ⟨s, hmem, key, hkey, rfl⟩
  · exact .inl ⟨key, hi key hkey, rfl⟩
  · exact .inr ⟨s, hs s hmem, key, hkey, rfl⟩

/-- Every reference of a main step is in the scope of the steps strictly before it, and every
reference of a cleanup step in the scope of all main steps. -/
structure Scoped (inputs : Registry) (steps cleanup : List Step) : Prop where
  main : ∀ before s after, steps = before ++ s :: after → ∀ r ∈ s.refs, r.InScope inputs before
  cleanup : ∀ s ∈ cleanup, ∀ r ∈ s.refs, r.InScope inputs steps

def Task.Scoped (task : Task) : Prop := Pipeline.Scoped task.inputs task.steps task.cleanup

def Step.isCommand (s : Step) : Bool :=
  match s.runnable with
  | .command _ => true
  | .func _ => false

/-- The command step whose standard error a reference asks for, if it does. -/
def Ref.unrecorded? (r : Ref) (steps : List Step) : Option String :=
  match r.step with
  | none => none
  | some producer =>
    if r.key = stderrKey ∧ (steps.any fun s => s.name == producer && s.isCommand) = true then
      some producer
    else none

/-- The first reference of a main command to the standard error of a command step: the step that
holds it and the one it asks. -/
def Task.firstUnrecorded (task : Task) : Option (String × String) :=
  task.steps.findSome? fun s =>
    (s.refs.findSome? fun r => r.unrecorded? task.steps).map fun producer => (s.name, producer)

/-- A refusal of the standard error of a command step. -/
def ResolveError.OfStderr (e : ResolveError) (task : Task) : Prop :=
  ∃ step producer, e = .missingOutput step producer stderrKey ∧
    ∃ s ∈ task.steps, s.name = producer ∧ s.isCommand = true

theorem Task.Scoped.keysDeclared {task : Task} (h : task.Scoped) : Script.KeysDeclared task := by
  intro s hs r hr x hx hstep f hf
  obtain ⟨before, after, hsplit⟩ := List.append_of_mem hs
  rcases h.main before s after hsplit r hr with ⟨key, -, rfl⟩ | ⟨y, hy, key, hkey, rfl⟩
  · cases hstep
  · have hmem : y ∈ task.steps := by
      rw [hsplit]
      exact List.mem_append_left _ hy
    have heq : y = x := eq_of_name task.nodup_steps hmem hx (Option.some.inj hstep)
    rw [heq, Step.mem_outputs, hf] at hkey
    exact hkey

/-- A step is sure to record what it declares, except for the standard error of a command. -/
theorem Step.mem_recordedKeys_iff {s : Step} {key : String} (h : key ∈ s.outputs.keys) :
    key ∈ s.recordedKeys ↔ ¬(key = stderrKey ∧ s.isCommand = true) := by
  rw [Step.mem_outputs] at h
  unfold recordedKeys isCommand
  cases hrun : s.runnable with
  | func f =>
      rw [hrun] at h
      have hmem : key ∈ f.outputs := h
      simp [hmem]
  | command c =>
      rw [hrun] at h
      have hkeys : key = stdoutKey ∨ key = stderrKey := by simpa [Runnable.outputKeys] using h
      have hne : stdoutKey ≠ stderrKey := by decide
      rcases hkeys with rfl | rfl
      · simp [hne]
      · simp [hne.symm]

theorem Step.Fits.contains_recorded {s : Step} {outputs : Dict String} {key : String}
    (h : s.Fits outputs) (hkey : key ∈ s.recordedKeys) : outputs.contains key = true := by
  refine (h.contains_iff fun f hf => ?_).mpr hkey
  rwa [Step.recordedKeys, hf] at hkey

/-- Whether a name is that of a command step is told by the step of that name. -/
theorem any_command {task : Task} {s : Step} (hs : s ∈ task.steps) :
    (task.steps.any fun x => x.name == s.name && x.isCommand) = s.isCommand := by
  rw [Bool.eq_iff_iff, List.any_eq_true]
  constructor
  · rintro ⟨x, hx, hxs⟩
    rw [Bool.and_eq_true, beq_iff_eq] at hxs
    rw [← eq_of_name task.nodup_steps hx hs hxs.1]
    exact hxs.2
  · intro hcommand
    exact ⟨s, hs, by simp [hcommand]⟩

/-- What stands against a reference in scope: only that it asks for a standard error. -/
theorem objection_of_inScope {task : Task} {inputs : Inputs} {before : List Step} {step : String}
    {r : Ref} (hb : Script.Bound task inputs) (hd : (before.map Step.name).Nodup)
    (hsub : ∀ s ∈ before, s ∈ task.steps) (hr : r.InScope task.inputs before) :
    objection inputs before step r =
      (r.unrecorded? task.steps).map fun producer => .missingOutput step producer stderrKey := by
  rcases hr with ⟨key, hkey, rfl⟩ | ⟨s, hs, key, hkey, rfl⟩
  · simp [objection, Ref.input, Ref.unrecorded?, hb key hkey]
  · have hfind := find?_name hd hs
    simp only [objection, Ref.output, Ref.unrecorded?, hfind, any_command (hsub s hs)]
    by_cases hstderr : key = stderrKey ∧ s.isCommand = true
    · have hunrecorded : key ∉ s.recordedKeys := fun hkeys =>
        (Step.mem_recordedKeys_iff hkey).mp hkeys hstderr
      obtain ⟨rfl, hcommand⟩ := hstderr
      simp [hunrecorded, hcommand]
    · have hrecorded : key ∈ s.recordedKeys := (Step.mem_recordedKeys_iff hkey).mpr hstderr
      simp only [hrecorded, hstderr, ↓reduceIte, Option.map_none]

theorem Step.objection_of_scoped {task : Task} {inputs : Inputs} {before : List Step} {s : Step}
    (hb : Script.Bound task inputs) (hd : (before.map Step.name).Nodup)
    (hsub : ∀ s ∈ before, s ∈ task.steps) (hs : ∀ r ∈ s.refs, r.InScope task.inputs before) :
    s.objection inputs before = (s.refs.findSome? fun r => r.unrecorded? task.steps).map
      fun producer => .missingOutput s.name producer stderrKey := by
  rw [Step.objection, List.map_findSome?]
  exact findSome?_congr fun r hr => objection_of_inScope hb hd hsub (hs r hr)

/-- The first objection to a scoped task is to its first reference to a standard error. -/
theorem Task.Scoped.firstObjection_eq {task : Task} (h : task.Scoped) {inputs : Inputs}
    (hb : Script.Bound task inputs) :
    firstObjection inputs [] task.steps =
      task.firstUnrecorded.map fun x => .missingOutput x.1 x.2 stderrKey := by
  suffices hs : ∀ todo before, task.steps = before ++ todo →
      firstObjection inputs before todo =
        (todo.findSome? fun s => (s.refs.findSome? fun r => r.unrecorded? task.steps).map
          fun producer => (s.name, producer)).map
            fun x => .missingOutput x.1 x.2 stderrKey from
    hs task.steps [] rfl
  intro todo
  induction todo with
  | nil =>
      intro before _
      rfl
  | cons s todo ih =>
      intro before hsplit
      have hd : (before.map Step.name).Nodup := by
        have hnames := task.nodup_steps
        rw [hsplit] at hnames
        exact nodup_names_left hnames
      have hsub : ∀ x ∈ before, x ∈ task.steps := fun x hx => by
        rw [hsplit]
        exact List.mem_append_left _ hx
      rw [firstObjection, Step.objection_of_scoped hb hd hsub (h.main before s todo hsplit),
        ih (before ++ [s]) (by rw [hsplit]; simp), List.findSome?_cons]
      cases s.refs.findSome? fun r => r.unrecorded? task.steps <;> rfl

theorem Ref.unrecorded?_eq_some {r : Ref} {steps : List Step} {producer : String}
    (h : r.unrecorded? steps = some producer) :
    ∃ s ∈ steps, s.name = producer ∧ s.isCommand = true := by
  unfold unrecorded? at h
  split at h
  · cases h
  · split at h
    · rename_i hcond
      obtain ⟨s, hs, hname⟩ := List.any_eq_true.mp hcond.2
      rw [Bool.and_eq_true, beq_iff_eq] at hname
      exact ⟨s, hs, hname.1.trans (Option.some.inj h), hname.2⟩
    · cases h

theorem Task.firstUnrecorded_command {task : Task} {step producer : String}
    (h : task.firstUnrecorded = some (step, producer)) :
    ∃ s ∈ task.steps, s.name = producer ∧ s.isCommand = true := by
  obtain ⟨s, -, hs⟩ := List.exists_of_findSome?_eq_some h
  obtain ⟨producer', hfind, heq⟩ := Option.map_eq_some_iff.mp hs
  cases heq
  obtain ⟨r, -, hr⟩ := List.exists_of_findSome?_eq_some hfind
  exact Ref.unrecorded?_eq_some hr

theorem Task.Scoped.errorOf_compile {task : Task} (h : task.Scoped) {inputs : Inputs}
    (hb : Script.Bound task inputs) (o : Script.Options) :
    errorOf (Script.compile task inputs o) =
      task.firstUnrecorded.map fun x => .resolve (.missingOutput x.1 x.2 stderrKey) := by
  rw [Script.errorOf_compile o hb h.keysDeclared, h.firstObjection_eq hb, Option.map_map]
  rfl

section
variable {σ : Type} {t : Target σ} {inputs : Inputs}

theorem Task.Scoped.runTask_error {task : Task} (h : task.Scoped)
    (hb : Script.Bound task inputs) {w : World σ} {e : ResolveError}
    (he : (runTask t inputs task w).1 = .error (.failed (.resolve e))) : e.OfStderr task := by
  have hheeds := Script.runTask_heeds t inputs h.keysDeclared w
  rw [h.firstObjection_eq hb] at hheeds
  cases hfirst : task.firstUnrecorded with
  | none =>
      rw [hfirst] at hheeds
      exact absurd he (hheeds e)
  | some x =>
      obtain ⟨step, producer⟩ := x
      rw [hfirst] at hheeds
      rcases hheeds with hsame | ⟨err, herr, hother, -⟩ | ⟨p, step, hp, -⟩
      · cases he.symm.trans hsame
        exact ⟨step, producer, rfl, Task.firstUnrecorded_command hfirst⟩
      · cases he.symm.trans herr
        exact absurd rfl (hother e)
      · cases he.symm.trans hp

/-- A state with an entry for every main step, with the keys that the step is sure to record. -/
def Task.Entered (task : Task) (state : RunState) : Prop :=
  ∀ s ∈ task.steps, ∃ outputs, state.outputs? s.name = some outputs ∧ s.Fits outputs

theorem resolve_of_entered {task : Task} {state : RunState} {step : String} {r : Ref}
    {e : ResolveError} (hb : Script.Bound task inputs) (hstate : task.Entered state)
    (hr : r.InScope task.inputs task.steps) (he : resolve step inputs state r = .error e) :
    e.OfStderr task := by
  rcases hr with ⟨key, hkey, rfl⟩ | ⟨s, hs, key, hkey, rfl⟩
  · have hvalue := hb key hkey
    rw [Dict.contains_eq_isSome, Option.isSome_iff_exists] at hvalue
    obtain ⟨value, hvalue⟩ := hvalue
    simp [resolve, Ref.input, hvalue] at he
  · obtain ⟨outputs, houtputs, hfits⟩ := hstate s hs
    simp only [resolve, Ref.output, houtputs] at he
    split at he
    · cases he
    · rename_i hnone
      cases he
      have hunrecorded : key ∉ s.recordedKeys := by
        intro hrecorded
        have hcontains := hfits.contains_recorded hrecorded
        rw [Dict.contains_eq_isSome, hnone] at hcontains
        cases hcontains
      obtain ⟨rfl, hcommand⟩ : key = stderrKey ∧ s.isCommand = true :=
        Classical.not_not.mp (mt (Step.mem_recordedKeys_iff hkey).mpr hunrecorded)
      exact ⟨step, s.name, rfl, s, hs, rfl, hcommand⟩

theorem attemptSteps_error {task : Task} (hb : Script.Bound task inputs) {steps : List Step}
    (hnames : ∀ s ∈ steps, ∀ x ∈ task.steps, x.name ≠ s.name)
    (hscope : ∀ s ∈ steps, ∀ r ∈ s.refs, r.InScope task.inputs task.steps)
    {state : RunState} (hstate : task.Entered state) {w : World σ} {e : ResolveError}
    (he : (attemptSteps t inputs steps state w).1 = .ok (some (.resolve e))) :
    e.OfStderr task := by
  -- none of the cleanup steps has the name of a main step, so the entries of the main steps stay as
  -- they are
  induction steps generalizing state w with
  | nil => cases he
  | cons s steps ih =>
      unfold attemptSteps at he
      split at he
      · rename_i state₁ w₁ hs
        obtain ⟨outputs, -, rfl⟩ := runStep_ok hs
        refine ih (fun x hx => hnames x (by simp [hx])) (fun x hx => hscope x (by simp [hx])) ?_ he
        intro x hx
        obtain ⟨kept, hkept, hfits⟩ := hstate x hx
        have hne : x.name ≠ s.name := hnames s (by simp) x hx
        exact ⟨kept, (RunState.outputs?_record_of_ne _ _ hne).trans hkept, hfits⟩
      · rename_i err w₁ hs
        cases hlater : attemptSteps t inputs steps state w₁ with
        | mk later w₂ =>
            rw [hlater] at he
            cases later with
            | error p => cases he
            | ok first =>
                cases he
                obtain ⟨c, hc, hargs, -⟩ := runStep_resolve_error hs
                obtain ⟨r, hr, herr⟩ := resolveArgs_error hargs
                refine resolve_of_entered hb hstate (hscope s (by simp) r ?_) herr
                rw [Step.refs, hc]
                exact List.mem_filterMap.mpr ⟨.ref r, hr, rfl⟩
      · cases he

theorem Task.Scoped.runCleanup_error {task : Task} (h : task.Scoped)
    (hb : Script.Bound task inputs) {state : RunState} (hstate : task.Entered state)
    {w : World σ} {e : ResolveError}
    (he : (runCleanup t inputs task state w).1 = .error (.failed (.resolve e))) :
    e.OfStderr task := by
  have hfirst : (attemptSteps t inputs task.cleanup.reverse state w).1 = .ok (some (.resolve e)) :=
    cleanupResult_eq_failed.mp he
  have hnames : ∀ s ∈ task.cleanup.reverse, ∀ x ∈ task.steps, x.name ≠ s.name :=
    fun s hs x hx => name_ne_of_nodup task.distinct hx (List.mem_reverse.mp hs)
  have hscope : ∀ s ∈ task.cleanup.reverse, ∀ r ∈ s.refs, r.InScope task.inputs task.steps :=
    fun s hs => h.cleanup s (List.mem_reverse.mp hs)
  exact attemptSteps_error hb hnames hscope hstate hfirst

theorem entered_of_runTask {task : Task} {state : RunState} {w : World σ}
    (h : (runTask t inputs task w).1 = .ok state) : task.Entered state := by
  have hreach : Reaches t inputs w task.steps state (runTask t inputs task w).2 :=
    reaches_iff.mpr (Prod.ext h rfl)
  exact (hreach.filled task.nodup_steps).entry

end
end Pipeline
