import Pipeline.Proofs.Run.Recorded

/-!
# References judged before anything runs

Whether a reference of a step has a value can be told from the steps before it, by the keys that
each of them is sure to record. `objection` is that judgement on one reference and
`firstObjection` on a list of steps. It never looks at a value, so running a task and compiling it
come to the same verdict: a state that is `Filled` by the steps before refuses exactly the
references to which there is an objection (`errorOf_resolve`). Functions may record more keys than
they declare, so the judgement is about references to declared keys (`KeyDeclared`).
-/

namespace Pipeline

/-- The error of a result that is one. -/
def errorOf {ε α : Type} : Except ε α → Option ε
  | .ok _ => none
  | .error e => some e

theorem errorOf_eq_some {ε α : Type} {x : Except ε α} {e : ε} :
    errorOf x = some e ↔ x = .error e := by
  cases x <;> simp [errorOf]

theorem errorOf_eq_none {ε α : Type} {x : Except ε α} :
    errorOf x = none ↔ ∃ a, x = .ok a := by
  cases x <;> simp [errorOf]

/-- The reference that an argument is, if it is one. -/
def Arg.ref? : Arg → Option Ref
  | .literal _ => none
  | .ref r => some r

/-- The references of a command, in the order of its arguments. -/
def Command.refs (c : Command) : List Ref := c.args.filterMap Arg.ref?

/-- The references that a step holds; those a function may come to resolve are not known. -/
def Runnable.refs : Runnable → List Ref
  | .command c => c.refs
  | .func _ => []

namespace Step

def refs (s : Step) : List Ref := s.runnable.refs

/-- The keys that a step is sure to record when it completes. -/
def recordedKeys (s : Step) : List String :=
  match s.runnable with
  | .command _ => [stdoutKey]
  | .func f => f.outputs

/-- Outputs with the keys that a step is sure to record, and for a command no other. -/
def Fits (s : Step) (outputs : Dict String) : Prop :=
  match s.runnable with
  | .command _ => ∀ key, outputs.contains key = true ↔ key = stdoutKey
  | .func f => ∀ key ∈ f.outputs, outputs.contains key = true

end Step

/-- A state with an entry for each of some steps, with the keys that the step is sure to record,
and no other entry. -/
structure Filled (done : List Step) (state : RunState) : Prop where
  entry : ∀ s ∈ done, ∃ outputs, state.outputs? s.name = some outputs ∧ s.Fits outputs
  only : ∀ name, state.outputs? name ≠ none → ∃ s ∈ done, s.name = name

theorem filled_empty : Filled [] .empty :=
  ⟨fun s hs => by simp at hs, fun name h => absurd rfl h⟩

theorem Filled.record {done : List Step} {state : RunState} {s : Step} {outputs : Dict String}
    (h : Filled done state) (hnew : ∀ x ∈ done, x.name ≠ s.name) (hs : s.Fits outputs) :
    Filled (done ++ [s]) (state.record s.name outputs) := by
  constructor
  · intro x hx
    rcases List.mem_append.mp hx with hx | hx
    · obtain ⟨kept, hkept, hfits⟩ := h.entry x hx
      exact ⟨kept, (RunState.outputs?_record_of_ne _ _ (hnew x hx)).trans hkept, hfits⟩
    · rw [List.mem_singleton.mp hx]
      exact ⟨outputs, RunState.outputs?_record_self .., hs⟩
  · intro name hname
    by_cases heq : name = s.name
    · exact ⟨s, by simp, heq.symm⟩
    · rw [RunState.outputs?_record_of_ne _ _ heq] at hname
      obtain ⟨x, hx, hxname⟩ := h.only name hname
      exact ⟨x, List.mem_append_left _ hx, hxname⟩

/-- A reference to an output of a function names a key that the function declares. -/
def Ref.KeyDeclared (r : Ref) (steps : List Step) : Prop :=
  ∀ s ∈ steps, r.step = some s.name → ∀ f, s.runnable = .func f → r.key ∈ f.outputs

/-- What stands against a reference of `step` once the steps `done` have completed. -/
def objection (inputs : Inputs) (done : List Step) (step : String) (r : Ref) :
    Option ResolveError :=
  match r.step with
  | none => if inputs.contains r.key then none else some (.missingInput step r.key)
  | some producer =>
    match done.find? fun s => s.name == producer with
    | none => some (.producerNotRun step producer r.key)
    | some s => if r.key ∈ s.recordedKeys then none else some (.missingOutput step producer r.key)

/-- In a filled state, what a step recorded under a declared key is what it was sure to record. -/
theorem Step.Fits.contains_iff {s : Step} {outputs : Dict String} {key : String}
    (h : s.Fits outputs) (hk : ∀ f, s.runnable = .func f → key ∈ f.outputs) :
    outputs.contains key = true ↔ key ∈ s.recordedKeys := by
  unfold Step.Fits at h
  unfold Step.recordedKeys
  cases hr : s.runnable with
  | command c =>
      rw [hr] at h
      simpa using h key
  | func f =>
      rw [hr] at h
      have hkey : key ∈ f.outputs := hk f hr
      exact ⟨fun _ => hkey, fun _ => h key hkey⟩

theorem errorOf_resolve {done : List Step} {state : RunState} {r : Ref} (inputs : Inputs)
    (step : String) (h : Filled done state) (hr : r.KeyDeclared done) :
    errorOf (resolve step inputs state r) = objection inputs done step r := by
  unfold resolve objection
  cases hstep : r.step with
  | none =>
      cases hget : inputs.get? r.key <;> simp [errorOf, Dict.contains_eq_isSome, hget]
  | some producer =>
      cases hfind : done.find? fun s => s.name == producer with
      | none =>
          have hnone : state.outputs? producer = none := by
            cases hsome : state.outputs? producer with
            | none => rfl
            | some outputs =>
                obtain ⟨s, hs, hname⟩ := h.only producer (by simp [hsome])
                have hne := List.find?_eq_none.mp hfind s hs
                simp [hname] at hne
          simp [hfind, hnone, errorOf]
      | some s =>
          have hs : s ∈ done := List.mem_of_find?_eq_some hfind
          have hname : s.name = producer := by simpa using List.find?_some hfind
          obtain ⟨outputs, houtputs, hfits⟩ := h.entry s hs
          have hiff := hfits.contains_iff (hr s hs (hstep.trans (by rw [hname])))
          rw [hname] at houtputs
          rw [Dict.contains_eq_isSome] at hiff
          cases hget : outputs.get? r.key with
          | none =>
              have hkey : r.key ∉ s.recordedKeys := by rw [← hiff, hget]; simp
              simp [houtputs, hget, hfind, hkey, errorOf]
          | some value =>
              have hkey : r.key ∈ s.recordedKeys := by rw [← hiff, hget]; simp
              simp [houtputs, hget, hfind, hkey, errorOf]

/-- Arguments are refused for their first reference without a value. -/
theorem errorOf_resolveArgs (step : String) (inputs : Inputs) (state : RunState)
    (args : List Arg) :
    errorOf (resolveArgs step inputs state args) =
      (args.filterMap Arg.ref?).findSome? fun r => errorOf (resolve step inputs state r) := by
  induction args with
  | nil => rfl
  | cons a as ih =>
      unfold resolveArgs
      cases a with
      | literal text =>
          rw [List.filterMap_cons_none (by rfl), ← ih]
          simp only [resolveArg]
          cases resolveArgs step inputs state as <;> rfl
      | ref r =>
          rw [List.filterMap_cons_some (b := r) (by rfl), List.findSome?_cons]
          simp only [resolveArg]
          cases resolve step inputs state r with
          | error e => rfl
          | ok value =>
              change _ = (as.filterMap Arg.ref?).findSome? _
              rw [← ih]
              cases resolveArgs step inputs state as <;> rfl

theorem findSome?_congr {α β : Type} {f g : α → Option β} {l : List α}
    (h : ∀ x ∈ l, f x = g x) : l.findSome? f = l.findSome? g := by
  induction l with
  | nil => rfl
  | cons x l ih =>
      rw [List.findSome?_cons, List.findSome?_cons, h x List.mem_cons_self,
        ih fun y hy => h y (List.mem_cons_of_mem x hy)]

/-- What stands against a step: the objection to the first of its references that meets one. -/
def Step.objection (inputs : Inputs) (done : List Step) (s : Step) : Option ResolveError :=
  s.refs.findSome? (Pipeline.objection inputs done s.name)

theorem errorOf_resolveArgs_filled {done : List Step} {state : RunState} {s : Step} {c : Command}
    (inputs : Inputs) (hc : s.runnable = .command c) (h : Filled done state)
    (hs : ∀ r ∈ s.refs, r.KeyDeclared done) :
    errorOf (resolveArgs s.name inputs state c.args) = s.objection inputs done := by
  have hrefs : s.refs = c.args.filterMap Arg.ref? := by
    simp [Step.refs, hc, Runnable.refs, Command.refs]
  rw [errorOf_resolveArgs, ← hrefs]
  exact findSome?_congr fun r hr => errorOf_resolve inputs s.name h (hs r hr)

theorem Step.objection_of_func {inputs : Inputs} {done : List Step} {s : Step} {f : Func}
    (hf : s.runnable = .func f) : s.objection inputs done = none := by
  simp [Step.objection, Step.refs, hf, Runnable.refs]

/-- The first step to whose references there is an objection, and the objection. -/
def firstObjection (inputs : Inputs) : List Step → List Step → Option ResolveError
  | _, [] => none
  | done, s :: todo => (s.objection inputs done).or (firstObjection inputs (done ++ [s]) todo)

theorem objection_step {inputs : Inputs} {done : List Step} {step : String} {r : Ref}
    {e : ResolveError} (h : objection inputs done step r = some e) : e.step = step := by
  unfold objection at h
  split at h
  · split at h <;> cases h
    rfl
  · split at h
    · cases h
      rfl
    · split at h <;> cases h
      rfl

theorem Step.objection_step {inputs : Inputs} {done : List Step} {s : Step} {e : ResolveError}
    (h : s.objection inputs done = some e) : e.step = s.name := by
  obtain ⟨r, _, hr⟩ := List.exists_of_findSome?_eq_some h
  exact Pipeline.objection_step hr

theorem firstObjection_step {inputs : Inputs} {done todo : List Step} {e : ResolveError}
    (h : firstObjection inputs done todo = some e) : e.step ∈ todo.map Step.name := by
  induction todo generalizing done with
  | nil => cases h
  | cons s todo ih =>
      unfold firstObjection at h
      cases hs : s.objection inputs done with
      | some e₁ =>
          rw [hs] at h
          cases h
          simp [Step.objection_step hs]
      | none =>
          rw [hs] at h
          exact List.mem_cons_of_mem _ (ih h)

end Pipeline
