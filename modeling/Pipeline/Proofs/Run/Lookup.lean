import Pipeline.Proofs.Run.Steps

/-!
# What a body looks up

Of the state of a run a body sees no more than the answers to the references that it looks up, by
itself or in the arguments of a command (`lookups`). So in a state that gives the same answers it
does the same, as long as the target answers its commands alike (`runBody_congr`). What makes two
worlds alike to it is left open: a relation that calls with one answer and notes respect
(`Indistinct`).
-/

namespace Pipeline

/-- The references among arguments that are looked up: all up to the first without a value. -/
def argLookups (step : String) (inputs : Inputs) (state : RunState) : List Arg → List Ref
  | [] => []
  | .literal _ :: as => argLookups step inputs state as
  | .ref r :: as =>
    match resolve step inputs state r with
    | .error _ => [r]
    | .ok _ => r :: argLookups step inputs state as

/-- The answer to a reference is the same in both states. -/
def SameAnswer (step : String) (inputs : Inputs) (state state' : RunState) (r : Ref) : Prop :=
  resolve step inputs state' r = resolve step inputs state r

/-- No state has a say in what an input is. -/
theorem sameAnswer_input {step : String} {inputs : Inputs} {r : Ref} (h : r.isInput = true)
    (state state' : RunState) : SameAnswer step inputs state state' r := by
  unfold SameAnswer resolve
  rw [Option.isNone_iff_eq_none.mp h]

theorem resolveArgs_congr {step : String} {inputs : Inputs} {state state' : RunState}
    {args : List Arg}
    (h : ∀ r ∈ argLookups step inputs state args, SameAnswer step inputs state state' r) :
    resolveArgs step inputs state' args = resolveArgs step inputs state args := by
  induction args with
  | nil => rfl
  | cons a as ih =>
      cases a with
      | literal text =>
          simp only [resolveArgs, resolveArg, ih h]
      | ref r =>
          unfold argLookups at h
          cases hr : resolve step inputs state r with
          | error e =>
              rw [hr] at h
              have hsame := h r List.mem_cons_self
              unfold SameAnswer at hsame
              simp only [resolveArgs, resolveArg, hsame, hr]
          | ok value =>
              rw [hr] at h
              have hsame := h r List.mem_cons_self
              unfold SameAnswer at hsame
              simp only [resolveArgs, resolveArg, hsame,
                ih fun q hq => h q (List.mem_cons_of_mem r hq)]

section
variable {σ : Type} (t : Target σ) (inputs : Inputs)

/-- The references that a body looks up on its way to its end. -/
def lookups (step : String) (state : RunState) : Body → Dict String → World σ → List Ref
  | .done, _, _ => []
  | .fail _, _, _ => []
  | .panic _, _, _ => []
  | .future next, set, w => lookups step state next set w
  | .stepName next, set, w => lookups step state (next step) set w
  | .outputs next, set, w => lookups step state (next set) set w
  | .set key value next, set, w => lookups step state next (set.insert key value) w
  | .resolve r next, set, w => r :: lookups step state (next (resolve step inputs state r)) set w
  | .note text next, set, w => lookups step state next set (w.tell (.note step text))
  | .exec c next, set, w =>
    argLookups step inputs state c.args ++
      match resolveArgs step inputs state c.args with
      | .error e => lookups step state (next (.error (.resolve e))) set w
      | .ok args =>
        match call t step c args w with
        | (.panic _, _) | (.unwound _, _) => []
        | (.error e, w) => lookups step state (next (.error (.target e))) set w
        | (.streams stdout stderr, w) =>
          match readAll stdout stderr with
          | .ok captured => lookups step state (next (.ok captured)) set w
          | .error (.inl e) => lookups step state (next (.error (.io e))) set w
          | .error (.inr _) => []

variable {t inputs}

/-- Worlds that the commands and notes of a step cannot tell apart. -/
structure Indistinct (t : Target σ) (step : String) (R : World σ → World σ → Prop) : Prop where
  call : ∀ c args w w', R w w' →
    (call t step c args w').1 = (call t step c args w).1 ∧
      R (call t step c args w).2 (call t step c args w').2
  note : ∀ text w w', R w w' → R (w.tell (.note step text)) (w'.tell (.note step text))

theorem Indistinct.answers {step : String} {R : World σ → World σ → Prop}
    (h : Indistinct t step R) (c : Command) (args : List String) {w w' : World σ} (hw : R w w') :
    ∃ answer w₁ w₁', Pipeline.call t step c args w = (answer, w₁) ∧
      Pipeline.call t step c args w' = (answer, w₁') ∧ R w₁ w₁' := by
  obtain ⟨hanswer, hafter⟩ := h.call c args w w' hw
  exact ⟨(Pipeline.call t step c args w).1, (Pipeline.call t step c args w).2,
    (Pipeline.call t step c args w').2, rfl, Prod.ext hanswer rfl, hafter⟩

/-- Two runs of a body that cannot be told apart so far. -/
def SameRun (R : World σ → World σ → Prop) (x y : BodyEnd × Dict String × World σ) : Prop :=
  y.1 = x.1 ∧ y.2.1 = x.2.1 ∧ R x.2.2 y.2.2

theorem runBody_congr {step : String} {R : World σ → World σ → Prop} (hR : Indistinct t step R)
    {state state' : RunState} {b : Body} {set : Dict String} {w w' : World σ} (hw : R w w')
    (h : ∀ r ∈ lookups t inputs step state b set w, SameAnswer step inputs state state' r) :
    SameRun R (runBody t inputs step state b set w) (runBody t inputs step state' b set w') := by
  -- each question of the body has the same answer in both runs, and what it looks up later is
  -- looked up after that answer
  induction b generalizing set w w' with
  | done => exact ⟨rfl, rfl, hw⟩
  | fail f => exact ⟨rfl, rfl, hw⟩
  | panic p => exact ⟨rfl, rfl, hw⟩
  | future next ih =>
      obtain ⟨hend, hset, hafter⟩ := ih hw h
      exact ⟨congrArg BodyEnd.guarded hend, hset, hafter⟩
  | stepName next ih => exact ih step hw h
  | outputs next ih => exact ih set hw h
  | set key value next ih => exact ih hw h
  | note text next ih => exact ih (hR.note text w w' hw) h
  | resolve r next ih =>
      rw [lookups] at h
      obtain ⟨hsame, hrest⟩ := List.forall_mem_cons.mp h
      simp only [runBody]
      rw [show resolve step inputs state' r = resolve step inputs state r from hsame]
      exact ih _ hw hrest
  | exec c next ih =>
      rw [lookups] at h
      obtain ⟨hargs, hrest⟩ := List.forall_mem_append.mp h
      rw [runBody, runBody, resolveArgs_congr hargs]
      cases hresolved : resolveArgs step inputs state c.args with
      | error e =>
          rw [hresolved] at hrest
          exact ih _ hw hrest
      | ok args =>
          obtain ⟨answer, w₁, w₁', hcall, hcall', hafter⟩ := hR.answers c args hw
          simp only [hresolved, hcall] at hrest
          simp only [hcall, hcall']
          cases answer with
          | panic p => exact ⟨rfl, rfl, hafter⟩
          | unwound p => exact ⟨rfl, rfl, hafter⟩
          | error e => exact ih _ hafter hrest
          | streams stdout stderr =>
              cases hread : readAll stdout stderr with
              | ok captured =>
                  simp only [hread] at hrest ⊢
                  exact ih _ hafter hrest
              | error broken =>
                  simp only [hread] at hrest ⊢
                  cases broken with
                  | inl e => exact ih _ hafter hrest
                  | inr p => exact ⟨rfl, rfl, hafter⟩

/-- A function comes to the same end with the same outputs, and leaves worlds that are alike. -/
theorem runFunc_congr {step : String} {R : World σ → World σ → Prop} (hR : Indistinct t step R)
    {f : Func} {state state' : RunState} {w w' : World σ} (hw : R w w')
    (h : ∀ r ∈ lookups t inputs step state f.body .empty w,
      SameAnswer step inputs state state' r) :
    (runFunc t inputs step f state' w').1 = (runFunc t inputs step f state w).1 ∧
      R (runFunc t inputs step f state w).2 (runFunc t inputs step f state' w').2 := by
  have hsame := runBody_congr hR hw h
  unfold runFunc
  cases hrun : runBody t inputs step state f.body .empty w with
  | mk ending rest =>
      obtain ⟨set, w₁⟩ := rest
      cases hrun' : runBody t inputs step state' f.body .empty w' with
      | mk ending' rest' =>
          obtain ⟨set', w₁'⟩ := rest'
          rw [hrun, hrun'] at hsame
          obtain ⟨hend, hset, hafter⟩ := hsame
          cases hend
          cases hset
          cases ending <;> exact ⟨rfl, hafter⟩

end
end Pipeline
