import Mathlib.Data.List.Nodup
import Pipeline.Proofs.Task.Draft

/-!
# What becomes of declarations

A builder is told of inputs, main steps and cleanup steps in any order, and keeps each kind in the
order in which it was told (`Builder.told_steps`, `Builder.told_cleanup`, `Builder.told_inputs`).
The check of the names goes through the main steps and then the cleanup steps, with the names it has
seen, and stops at the first that it sees again (`firstRepeat_eq_some_iff`). So a task comes of the
declarations unless two of the steps have one name, and in a task the name of a step finds this step
(`Builder.build_unambiguous`).
-/

namespace Pipeline

/-- A call that tells a builder of an input or of a step. -/
inductive Declaration where
  | input (key : String)
  | step (name : String) (runnable : Runnable)
  | defer (name : String) (runnable : Runnable)

namespace Declaration

/-- The builder after the call. -/
def on (b : Builder) : Declaration → Builder
  | .input key => b.declareInput key
  | .step name runnable => (b.step name runnable).2
  | .defer name runnable => b.defer name runnable

/-- The input that a call declares. -/
def key? : Declaration → Option String
  | .input key => some key
  | _ => none

/-- The main step that a call declares. -/
def main? : Declaration → Option Step
  | .step name runnable => some ⟨name, runnable⟩
  | _ => none

/-- The cleanup step that a call declares. -/
def cleanup? : Declaration → Option Step
  | .defer name runnable => some ⟨name, runnable⟩
  | _ => none

end Declaration

namespace Builder

/-- A new builder after some calls. -/
def told (calls : List Declaration) : Builder := calls.foldl Declaration.on .empty

/-- The steps that were declared, in the order in which they are checked and searched. -/
def declared (calls : List Declaration) : List Step :=
  calls.filterMap Declaration.main? ++ calls.filterMap Declaration.cleanup?

/-- What calls add to a builder: each kind of declaration, in the order of the calls. -/
theorem foldl_on (b : Builder) (calls : List Declaration) :
    calls.foldl Declaration.on b = ⟨b.steps ++ calls.filterMap Declaration.main?,
      b.cleanup ++ calls.filterMap Declaration.cleanup?,
      b.inputs.defineAll (calls.filterMap Declaration.key?)⟩ := by
  induction calls generalizing b with
  | nil => simp [Registry.defineAll]
  | cons d calls ih =>
      rw [List.foldl_cons, ih]
      cases d <;> simp [List.filterMap_cons, Declaration.on, declareInput, step, defer,
        Registry.defineAll, Declaration.main?, Declaration.cleanup?, Declaration.key?]

theorem told_steps (calls : List Declaration) :
    (told calls).steps = calls.filterMap Declaration.main? := by
  simp [told, foldl_on, empty]

theorem told_cleanup (calls : List Declaration) :
    (told calls).cleanup = calls.filterMap Declaration.cleanup? := by
  simp [told, foldl_on, empty]

theorem told_inputs (calls : List Declaration) :
    (told calls).inputs = Registry.forInputs.defineAll (calls.filterMap Declaration.key?) := by
  simp [told, foldl_on, empty]

end Builder

/-! ### Names that occur again -/

/-- Two of the steps have one name. -/
def NameShared (steps : List Step) : Prop :=
  ∃ (i j : Nat) (s t : Step), i < j ∧ steps[i]? = some s ∧ steps[j]? = some t ∧ s.name = t.name

/-- The first step whose name occurred before it. -/
def FirstRepeated (steps : List Step) (s : Step) : Prop :=
  ∃ before after, steps = before ++ s :: after ∧ (before.map Step.name).Nodup ∧
    s.name ∈ before.map Step.name

theorem nameShared_iff {steps : List Step} :
    NameShared steps ↔ ¬(steps.map Step.name).Nodup := by
  rw [List.nodup_iff_getElem?_ne_getElem?]
  push Not
  constructor
  · rintro ⟨i, j, s, t, hij, hs, ht, hname⟩
    have hj : j < (steps.map Step.name).length := by
      rw [List.length_map]
      exact (List.getElem?_eq_some_iff.mp ht).1
    exact ⟨i, j, hij, hj, by rw [List.getElem?_map, List.getElem?_map, hs, ht, Option.map_some,
      hname, Option.map_some]⟩
  · rintro ⟨i, j, hij, hj, hsame⟩
    rw [List.length_map] at hj
    have hi : i < steps.length := Nat.lt_trans hij hj
    refine ⟨i, j, steps[i], steps[j], hij, List.getElem?_eq_getElem hi,
      List.getElem?_eq_getElem hj, ?_⟩
    simpa [hi, hj] using hsame

/-- The check stops at the first name that was seen before; `seen` is what was gone through. -/
theorem firstRepeat_eq_some_iff {seen names : List String} {name : String} :
    firstRepeat seen names = some name ↔ ∃ before after, names = before ++ name :: after ∧
      before.Nodup ∧ (∀ n ∈ before, n ∉ seen) ∧ (name ∈ seen ∨ name ∈ before) := by
  induction names generalizing seen with
  | nil => simp [firstRepeat]
  | cons n names ih =>
      rw [firstRepeat]
      by_cases hn : n ∈ seen
      · rw [if_pos hn]
        constructor
        · intro hname
          cases hname
          exact ⟨[], names, rfl, .nil, by simp, .inl hn⟩
        · rintro ⟨before, after, hsplit, -, hfresh, -⟩
          cases before with
          | nil =>
              cases hsplit
              rfl
          | cons m before =>
              cases hsplit
              exact absurd hn (hfresh n List.mem_cons_self)
      · rw [if_neg hn, ih]
        constructor
        · rintro ⟨before, after, rfl, hnodup, hfresh, hname⟩
          have hnew : n ∉ before := fun hmem => hfresh n hmem List.mem_cons_self
          refine ⟨n :: before, after, rfl, List.nodup_cons.mpr ⟨hnew, hnodup⟩, ?_, ?_⟩
          · exact List.forall_mem_cons.mpr
              ⟨hn, fun m hm hseen => hfresh m hm (List.mem_cons_of_mem n hseen)⟩
          · rw [List.mem_cons] at hname ⊢
            tauto
        · rintro ⟨before, after, hsplit, hnodup, hfresh, hname⟩
          cases before with
          | nil =>
              cases hsplit
              simp [hn] at hname
          | cons m before =>
              cases hsplit
              obtain ⟨hnew, hnodup⟩ := List.nodup_cons.mp hnodup
              refine ⟨before, after, rfl, hnodup, fun m hm hseen => ?_, ?_⟩
              · rcases List.mem_cons.mp hseen with rfl | hseen
                · exact hnew hm
                · exact hfresh m (List.mem_cons_of_mem n hm) hseen
              · rw [List.mem_cons] at hname ⊢
                tauto

theorem firstRepeated_iff {steps : List Step} {name : String} :
    firstRepeat [] (steps.map Step.name) = some name ↔
      ∃ s, FirstRepeated steps s ∧ s.name = name := by
  rw [firstRepeat_eq_some_iff]
  constructor
  · rintro ⟨before, after, hsplit, hnodup, -, hname⟩
    obtain ⟨front, back, rfl, rfl, hback⟩ := List.map_eq_append_iff.mp hsplit
    obtain ⟨s, rest, rfl, rfl, -⟩ := List.map_eq_cons_iff.mp hback
    exact ⟨s, ⟨front, rest, rfl, hnodup, by simpa using hname⟩, rfl⟩
  · rintro ⟨s, ⟨before, after, rfl, hnodup, hname⟩, rfl⟩
    exact ⟨before.map Step.name, after.map Step.name, by simp, hnodup, by simp, .inr hname⟩

/-! ### The task -/

namespace Builder

variable {b : Builder}

theorem build_of_repeat {name : String}
    (h : firstRepeat [] ((b.steps ++ b.cleanup).map Step.name) = some name) :
    b.build = .error (.duplicateStep name) := by
  unfold build
  split <;> rename_i hrepeat <;> rw [h] at hrepeat <;> cases hrepeat
  rfl

theorem build_of_nodup (h : ((b.steps ++ b.cleanup).map Step.name).Nodup) :
    b.build = .ok ⟨b.steps, b.cleanup, b.inputs, h⟩ := by
  have hnone : firstRepeat [] ((b.steps ++ b.cleanup).map Step.name) = none :=
    firstRepeat_eq_none_iff.mpr ⟨h, by simp⟩
  unfold build
  split <;> rename_i hrepeat
  · rw [hnone] at hrepeat
    cases hrepeat
  · rfl

theorem build_eq_error_iff {e : DefineError} :
    b.build = .error e ↔
      ∃ s, FirstRepeated (b.steps ++ b.cleanup) s ∧ e = .duplicateStep s.name := by
  constructor
  · intro he
    cases hrepeat : firstRepeat [] ((b.steps ++ b.cleanup).map Step.name) with
    | none =>
        rw [build_of_nodup (firstRepeat_eq_none_iff.mp hrepeat).1] at he
        cases he
    | some name =>
        rw [build_of_repeat hrepeat] at he
        cases he
        obtain ⟨s, hs, rfl⟩ := firstRepeated_iff.mp hrepeat
        exact ⟨s, hs, rfl⟩
  · rintro ⟨s, hs, rfl⟩
    exact build_of_repeat (firstRepeated_iff.mpr ⟨s, hs, rfl⟩)

theorem build_fails_iff :
    (∃ e, b.build = .error e) ↔ NameShared (b.steps ++ b.cleanup) := by
  rw [nameShared_iff]
  constructor
  · rintro ⟨e, he⟩ hnodup
    rw [build_of_nodup hnodup] at he
    cases he
  · intro hrepeated
    cases hbuild : b.build with
    | error e => exact ⟨e, rfl⟩
    | ok task =>
        obtain ⟨hsteps, hcleanup, -⟩ := build_ok hbuild
        rw [← hsteps, ← hcleanup] at hrepeated
        exact absurd task.distinct hrepeated

end Builder

theorem Task.find?_eq_none {task : Task} {name : String}
    (h : ∀ s ∈ task.steps ++ task.cleanup, s.name ≠ name) : task.find? name = none := by
  unfold find?
  rw [List.find?_eq_none]
  simpa using h

/-- Whatever the order of the calls, no task comes of them exactly if two of the declared steps have
one name, and then the first step whose name occurred before it is reported, where the main steps
stand before the cleanup steps. Else the task has the declared steps in the order of their
declaration, and a name finds the step of that name or nothing. -/
theorem Builder.build_unambiguous (calls : List Declaration) :
    ((∃ e, (told calls).build = .error e) ↔ NameShared (declared calls)) ∧
    (∀ e, (told calls).build = .error e ↔
      ∃ s, FirstRepeated (declared calls) s ∧ e = .duplicateStep s.name) ∧
    (¬NameShared (declared calls) → ∃ task, (told calls).build = .ok task ∧
      task.steps = calls.filterMap Declaration.main? ∧
      task.cleanup = calls.filterMap Declaration.cleanup? ∧
      (∀ s ∈ task.steps ++ task.cleanup, task.find? s.name = some s) ∧
      ∀ name, (∀ s ∈ task.steps ++ task.cleanup, s.name ≠ name) → task.find? name = none) := by
  have hsteps := told_steps calls
  have hcleanup := told_cleanup calls
  have hdeclared : (told calls).steps ++ (told calls).cleanup = declared calls := by
    rw [hsteps, hcleanup, declared]
  rw [← hdeclared]
  refine ⟨build_fails_iff, fun e => build_eq_error_iff, fun hshared => ?_⟩
  rw [nameShared_iff, not_not] at hshared
  refine ⟨_, build_of_nodup hshared, hsteps, hcleanup, fun s hs => ?_, fun name hname => ?_⟩
  · exact find?_name hshared hs
  · exact Task.find?_eq_none hname

/-- The declarations of `release`, its cleanup step first. -/
def releaseCalls : List Declaration :=
  [.defer stopStep.name stopStep.runnable, .step generateStep.name generateStep.runnable,
    .input "seed", .step applyStep.name applyStep.runnable,
    .step reportStep.name reportStep.runnable]

/-- With a main step of the name of the cleanup step, that was declared before it, and one more
"apply", the cleanup step is behind both and the name of the main step is reported. -/
theorem releaseCalls_built :
    (∃ task, (Builder.told releaseCalls).build = .ok task ∧
      task.steps = [generateStep, applyStep, reportStep] ∧ task.cleanup = [stopStep] ∧
      task.find? "stop" = some stopStep) ∧
    (Builder.told (releaseCalls ++ [.step "stop" reportStep.runnable,
      .step "apply" reportStep.runnable])).build = .error (.duplicateStep "apply") := by
  have hdistinct : ¬NameShared (Builder.declared releaseCalls) := by
    rw [nameShared_iff, not_not]
    decide
  constructor
  · obtain ⟨-, -, hbuilt⟩ := Builder.build_unambiguous releaseCalls
    obtain ⟨task, htask, hsteps, hcleanup, hfind, -⟩ := hbuilt hdistinct
    have hstop : stopStep ∈ task.steps ++ task.cleanup := by
      rw [hcleanup]
      exact List.mem_append_right _ List.mem_cons_self
    exact ⟨task, htask, hsteps, hcleanup, hfind stopStep hstop⟩
  · obtain ⟨-, hreported, -⟩ := Builder.build_unambiguous (releaseCalls ++
      [.step "stop" reportStep.runnable, .step "apply" reportStep.runnable])
    refine (hreported _).mpr ⟨⟨"apply", reportStep.runnable⟩, ?_, rfl⟩
    exact ⟨[generateStep, applyStep, reportStep, ⟨"stop", reportStep.runnable⟩], [stopStep], rfl,
      by decide, by decide⟩

end Pipeline
