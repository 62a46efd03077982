import Pipeline.Proofs.Run.Objections

/-!
# Where a run is refused a reference

A run of steps to whose references there is no objection is never refused one. Otherwise it is
refused exactly the first, unless a step before that one fails for another reason, or is left by a
panic (`Heeds`, `runSteps_objection`).
-/

namespace Pipeline

/-- A step of the name `a` is declared before one of the name `b`. -/
def Precedes (steps : List Step) (a b : String) : Prop := [a, b].Sublist (steps.map Step.name)

/-- A failure for another reason than a reference. -/
def RunError.OtherThanResolve (e : RunError) : Prop := ∀ r, e ≠ .resolve r

section
variable {σ : Type} (t : Target σ) (inputs : Inputs)

/-- Steps that complete lead to one of the name `step`, which a panic goes on past. -/
inductive UnwindsAt (step : String) (p : Panic) : List Step → RunState → World σ → Prop
  | here {s : Step} {steps : List Step} {state : RunState} {w w' : World σ} : s.name = step →
      runStep t inputs s state w = (.error (.unwound p), w') →
      UnwindsAt step p (s :: steps) state w
  | later {s : Step} {steps : List Step} {state state' : RunState} {w w' : World σ} :
      runStep t inputs s state w = (.ok state', w') → UnwindsAt step p steps state' w' →
      UnwindsAt step p (s :: steps) state w

/-- How a run of `steps` answers to the first objection to their references: without one it is not
refused, and with one it is refused for it, or before that step it has failed for another reason or
was left by a panic. -/
def Heeds (steps : List Step) (state : RunState) (w : World σ) : Option ResolveError → Prop
  | none => ∀ e, (runSteps t inputs steps state w).1 ≠ .error (.failed (.resolve e))
  | some e => (runSteps t inputs steps state w).1 = .error (.failed (.resolve e)) ∨
      (∃ err, (runSteps t inputs steps state w).1 = .error (.failed err) ∧ err.OtherThanResolve ∧
        Precedes steps err.step e.step) ∨
      ∃ p step, (runSteps t inputs steps state w).1 = .error (.unwound p) ∧
        UnwindsAt t inputs step p steps state w ∧ Precedes steps step e.step

variable {t inputs}

theorem precedes_of_first {s : Step} {steps : List Step} {e : ResolveError}
    (h : e.step ∈ steps.map Step.name) : Precedes (s :: steps) s.name e.step :=
  (List.singleton_sublist.mpr h).cons_cons _

/-- What follows a step that completes heeds an objection as the whole does. -/
theorem Heeds.cons {s : Step} {steps : List Step} {state state' : RunState} {w w' : World σ}
    {o : Option ResolveError} (hs : runStep t inputs s state w = (.ok state', w'))
    (h : Heeds t inputs steps state' w' o) : Heeds t inputs (s :: steps) state w o := by
  have hrun : runSteps t inputs (s :: steps) state w = runSteps t inputs steps state' w' := by
    simp only [runSteps, hs]
  cases o with
  | none =>
      intro e
      rw [hrun]
      exact h e
  | some e =>
      unfold Heeds
      rw [hrun]
      rcases h with h | ⟨err, herr, hother, hprec⟩ | ⟨p, step, hp, hunwinds, hprec⟩
      · exact .inl h
      · exact .inr (.inl ⟨err, herr, hother, hprec.cons _⟩)
      · exact .inr (.inr ⟨p, step, hp, .later hs hunwinds, hprec.cons _⟩)

/-- A step that fails for another reason precedes every step with an objection after it. -/
theorem heeds_of_other {s : Step} {steps : List Step} {state : RunState} {w w' : World σ}
    {err : RunError} {o : Option ResolveError}
    (hs : runStep t inputs s state w = (.error (.failed err), w')) (hother : err.OtherThanResolve)
    (ho : ∀ e, o = some e → e.step ∈ steps.map Step.name) :
    Heeds t inputs (s :: steps) state w o := by
  have hrun : (runSteps t inputs (s :: steps) state w).1 = .error (.failed err) := by
    simp only [runSteps, hs]
  cases o with
  | none =>
      intro e he
      cases hrun.symm.trans he
      exact hother e rfl
  | some e =>
      refine .inr (.inl ⟨err, hrun, hother, ?_⟩)
      rw [runStep_error_step hs]
      exact precedes_of_first (ho e rfl)

/-- So does one that a panic goes on past. -/
theorem heeds_of_unwound {s : Step} {steps : List Step} {state : RunState} {w w' : World σ}
    {p : Panic} {o : Option ResolveError}
    (hs : runStep t inputs s state w = (.error (.unwound p), w'))
    (ho : ∀ e, o = some e → e.step ∈ steps.map Step.name) :
    Heeds t inputs (s :: steps) state w o := by
  have hrun : (runSteps t inputs (s :: steps) state w).1 = .error (.unwound p) := by
    simp only [runSteps, hs]
  cases o with
  | none =>
      intro e he
      cases hrun.symm.trans he
  | some e => exact .inr (.inr ⟨p, s.name, hrun, .here rfl hs, precedes_of_first (ho e rfl)⟩)

theorem fits_of_records {s : Step} {state : RunState} {w : World σ} {outputs : Dict String}
    (h : s.Records t inputs state w outputs) : s.Fits outputs := by
  unfold Step.Records at h
  unfold Step.Fits
  cases hr : s.runnable with
  | func f =>
      rw [hr] at h
      exact h
  | command c =>
      rw [hr] at h
      obtain ⟨_, _, _, _, _, hlist⟩ := h
      intro key
      rw [← Dict.mem_keys, Dict.keys]
      unfold Dict.toList at hlist
      rw [hlist]
      simp

theorem Filled.next {done : List Step} {s : Step} {state state' : RunState} {w w' : World σ}
    (h : Filled done state) (hnew : ∀ x ∈ done, x.name ≠ s.name)
    (hs : runStep t inputs s state w = (.ok state', w')) : Filled (done ++ [s]) state' := by
  obtain ⟨outputs, hrun, rfl⟩ := runStep_ok hs
  exact h.record hnew (fits_of_records (records_of_run hrun))

theorem Reaches.filled {w₀ : World σ} {done : List Step} {state : RunState} {w : World σ}
    (h : Reaches t inputs w₀ done state w) (hd : (done.map Step.name).Nodup) :
    Filled done state := by
  have hafter := h.stateAfter hd
  constructor
  · intro s hs
    obtain ⟨before, after, rfl⟩ := List.append_of_mem hs
    obtain ⟨outputs, houtputs, _, _, _, _, _, hrecords⟩ := hafter.entries before s after rfl
    exact ⟨outputs, houtputs, fits_of_records hrecords⟩
  · intro name hname
    have hmem : name ∈ done.map Step.name := by
      rw [← hafter.keys.mem_iff, Dict.mem_keys, Dict.contains_eq_isSome]
      exact Option.isSome_iff_ne_none.mpr hname
    exact List.mem_map.mp hmem

/-- A step in a filled state is refused for its objection, and for nothing else. -/
theorem Filled.refused_iff (t : Target σ) (inputs : Inputs) {done : List Step} {s : Step}
    {state : RunState} (h : Filled done state) (hs : ∀ r ∈ s.refs, r.KeyDeclared done)
    (w : World σ) (e : ResolveError) :
    (runStep t inputs s state w).1 = .error (.failed (.resolve e)) ↔
      s.objection inputs done = some e := by
  cases hr : s.runnable with
  | command c =>
      rw [← errorOf_resolveArgs_filled inputs hr h hs, errorOf_eq_some]
      constructor
      · intro herr
        obtain ⟨c', hc', hargs, -⟩ := runStep_resolve_error (Prod.ext herr rfl)
        rw [hr] at hc'
        cases hc'
        exact hargs
      · intro hargs
        rw [runStep_of_refused hr hargs]
  | func f =>
      rw [Step.objection_of_func hr]
      constructor
      · intro herr
        obtain ⟨c, hc, -⟩ := runStep_resolve_error (Prod.ext herr rfl)
        rw [hr] at hc
        cases hc
      · intro hnone
        cases hnone

theorem runSteps_objection {done todo : List Step} {state : RunState} {w : World σ}
    (hf : Filled done state) (hd : ((done ++ todo).map Step.name).Nodup)
    (hk : ∀ s ∈ todo, ∀ r ∈ s.refs, r.KeyDeclared (done ++ todo)) :
    Heeds t inputs todo state w (firstObjection inputs done todo) := by
  induction todo generalizing done state w with
  | nil =>
      intro e he
      cases he
  | cons s todo ih =>
      have hs : ∀ r ∈ s.refs, r.KeyDeclared done := fun r hr x hx =>
        hk s (by simp) r hr x (List.mem_append_left _ hx)
      have hiff := hf.refused_iff t inputs hs w
      unfold firstObjection
      cases hrun : runStep t inputs s state w with
      | mk result w₁ =>
          rw [hrun] at hiff
          cases result with
          | ok state₁ =>
              -- the step completes, and the rest goes on from a state that it has filled
              have hnone : s.objection inputs done = none :=
                Option.eq_none_iff_forall_ne_some.mpr fun e he => by cases (hiff e).mpr he
              rw [hnone, Option.none_or]
              have hf₁ : Filled (done ++ [s]) state₁ :=
                hf.next (fun x hx => name_ne_of_nodup hd hx (by simp)) hrun
              refine (ih hf₁ (by simpa using hd) ?_).cons hrun
              intro x hx r hr
              simpa using hk x (List.mem_cons_of_mem _ hx) r hr
          | error halt =>
              cases hobj : s.objection inputs done with
              | some e =>
                  cases (hiff e).mpr hobj
                  refine .inl ?_
                  simp only [runSteps, hrun]
              | none =>
                  -- the step fails, and not for a reference
                  rw [Option.none_or]
                  cases halt with
                  | unwound p => exact heeds_of_unwound hrun fun e => firstObjection_step
                  | failed err =>
                      refine heeds_of_other hrun ?_ fun e => firstObjection_step
                      rintro e rfl
                      cases hobj.symm.trans ((hiff e).mp rfl)

end
end Pipeline
