import Pipeline.Stream.Reader

/-!
# Two tasks that take turns

The two output streams of a command are served by two tasks side by side. A task is a function that
does its next operation, or has ended. A scheduler gives the turns in any order, and what both tasks
share changes with their operations. The turns that one task had are a run of that task alone
(`Turns.runs`), so a task that comes to an end on its own comes to the same end under every
schedule, and no schedule keeps it from there (`Turns.bounded`, `Turns.ends`, `Turns.at_end`). Every
merge of what the tasks do is the work of some schedule (`turns_of_merge`).
-/

namespace Pipeline

section
variable {Op α : Type}

/-- From one state a task comes to another by these operations. -/
inductive Runs (step : α → Option (Op × α)) : α → List Op → α → Prop
  | rest (a : α) : Runs step a [] a
  | work {a b c : α} {op : Op} {ops : List Op} :
      step a = some (op, b) → Runs step b ops c → Runs step a (op :: ops) c

namespace Runs
variable {step : α → Option (Op × α)} {a b c e : α} {ops all later : List Op}

theorem trans (h : Runs step a ops b) (h' : Runs step b later c) :
    Runs step a (ops ++ later) c := by
  induction h with
  | rest => exact h'
  | work hs _ ih => exact .work hs (ih h')

theorem one {op : Op} (h : step a = some (op, b)) : Runs step a [op] b := .work h (.rest b)

/-- What each operation keeps is kept by a run; `done` are the operations before it. -/
theorem keeps {P : List Op → α → Prop} {done : List Op} (h : Runs step a ops b) (ha : P done a)
    (hstep : ∀ done a op b, P done a → step a = some (op, b) → P (done ++ [op]) b) :
    P (done ++ ops) b := by
  induction h generalizing done with
  | rest => simpa using ha
  | work hs _ ih =>
      have hnext := ih (hstep _ _ _ _ ha hs)
      simpa using hnext

theorem up_to_end (h : Runs step a ops b) (hall : Runs step a all e) (hend : step e = none) :
    ∃ later, all = ops ++ later ∧ Runs step b later e := by
  -- both runs do the same as long as the shorter one goes on
  induction h generalizing all with
  | rest => exact ⟨all, rfl, hall⟩
  | work hs _ ih =>
      cases hall with
      | rest =>
          rw [hs] at hend
          cases hend
      | work hs' hrest =>
          rw [hs] at hs'
          cases hs'
          obtain ⟨later, hsplit, hruns⟩ := ih hrest
          exact ⟨later, by rw [hsplit, List.cons_append], hruns⟩

theorem end_unique (h : Runs step a ops b) (hb : step b = none) (hall : Runs step a all e)
    (hend : step e = none) : ops = all ∧ b = e := by
  obtain ⟨later, hsplit, hruns⟩ := h.up_to_end hall hend
  cases hruns with
  | rest => exact ⟨by simpa using hsplit.symm, rfl⟩
  | work hs _ =>
      rw [hb] at hs
      cases hs

end Runs
end

/-- Two tasks in the midst of their work, and what they share. -/
structure Joint (α β γ : Type) where
  stdout : α
  stderr : β
  shared : γ

section
variable {Op α β γ : Type}

/-- The operations of one task among those of both. -/
def turnsOf (stream : Stream) (turns : List (Stream × Op)) : List Op :=
  turns.filterMap fun p => if p.1 = stream then some p.2 else none

theorem length_turnsOf (turns : List (Stream × Op)) :
    (turnsOf .stdout turns).length + (turnsOf .stderr turns).length = turns.length := by
  induction turns with
  | nil => rfl
  | cons p turns ih =>
      obtain ⟨stream, op⟩ := p
      simp only [turnsOf] at ih ⊢
      cases stream <;> simp <;> omega

/-- One task has all its turns, and then the other. -/
def oneThenOther (outs errs : List Op) : List (Stream × Op) :=
  outs.map (Prod.mk .stdout) ++ errs.map (Prod.mk .stderr)

theorem turnsOf_stdout_first (outs errs : List Op) :
    turnsOf .stdout (oneThenOther outs errs) = outs := by
  rw [turnsOf, oneThenOther, List.filterMap_append, List.filterMap_map, List.filterMap_map]
  change outs.filterMap some ++ errs.filterMap (fun _ => none) = outs
  simp

theorem turnsOf_stderr_then (outs errs : List Op) :
    turnsOf .stderr (oneThenOther outs errs) = errs := by
  rw [turnsOf, oneThenOther, List.filterMap_append, List.filterMap_map, List.filterMap_map]
  change outs.filterMap (fun _ => none) ++ errs.filterMap some = errs
  simp

variable (f : α → Option (Op × α)) (g : β → Option (Op × β)) (act : Op → γ → γ)

/-- Both tasks worked by these turns, each of which may have acted on what they share. -/
inductive Turns : Joint α β γ → List (Stream × Op) → Joint α β γ → Prop
  | rest (j : Joint α β γ) : Turns j [] j
  | stdout {j j' : Joint α β γ} {a : α} {op : Op} {turns : List (Stream × Op)} :
      f j.stdout = some (op, a) → Turns ⟨a, j.stderr, act op j.shared⟩ turns j' →
      Turns j ((.stdout, op) :: turns) j'
  | stderr {j j' : Joint α β γ} {b : β} {op : Op} {turns : List (Stream × Op)} :
      g j.stderr = some (op, b) → Turns ⟨j.stdout, b, act op j.shared⟩ turns j' →
      Turns j ((.stderr, op) :: turns) j'

/-- Neither task has anything left to do. -/
def Joint.Ended (j : Joint α β γ) : Prop := f j.stdout = none ∧ g j.stderr = none

variable {f g act}

namespace Turns
variable {j j' : Joint α β γ} {turns : List (Stream × Op)}

/-- The turns of each task are a run of that task, wherever they stand among those of the other. -/
theorem runs (h : Turns f g act j turns j') :
    Runs f j.stdout (turnsOf .stdout turns) j'.stdout ∧
      Runs g j.stderr (turnsOf .stderr turns) j'.stderr := by
  induction h with
  | rest j => exact ⟨.rest _, .rest _⟩
  | stdout hs _ ih => exact ⟨.work hs ih.1, ih.2⟩
  | stderr hs _ ih => exact ⟨ih.1, .work hs ih.2⟩

theorem shared_eq (h : Turns f g act j turns j') :
    j'.shared = turns.foldl (fun s p => act p.2 s) j.shared := by
  induction h with
  | rest j => rfl
  | stdout _ _ ih => exact ih
  | stderr _ _ ih => exact ih

end Turns

theorem turns_of_merge {a b : α} {c d : β} {turns : List (Stream × Op)} (shared : γ)
    (hf : Runs f a (turnsOf .stdout turns) b) (hg : Runs g c (turnsOf .stderr turns) d) :
    ∃ s, Turns f g act ⟨a, c, shared⟩ turns ⟨b, d, s⟩ := by
  -- the first turn is the first operation of the run that it belongs to
  induction turns generalizing a c shared with
  | nil =>
      cases hf
      cases hg
      exact ⟨shared, .rest _⟩
  | cons p turns ih =>
      obtain ⟨stream, op⟩ := p
      cases stream with
      | stdout =>
          cases hf with
          | work hs hrest =>
              obtain ⟨s, hturns⟩ := ih (act op shared) hrest hg
              exact ⟨s, .stdout hs hturns⟩
      | stderr =>
          cases hg with
          | work hs hrest =>
              obtain ⟨s, hturns⟩ := ih (act op shared) hf hrest
              exact ⟨s, .stderr hs hturns⟩

namespace Turns
variable {j j' : Joint α β γ} {turns : List (Stream × Op)} {a : α} {b : β} {fs gs : List Op}

/-- No schedule is longer than what the tasks do on their own. -/
theorem bounded (h : Turns f g act j turns j') (hf : Runs f j.stdout fs a) (hfend : f a = none)
    (hg : Runs g j.stderr gs b) (hgend : g b = none) : turns.length ≤ fs.length + gs.length := by
  obtain ⟨hout, herr⟩ := h.runs
  obtain ⟨moreOut, rfl, -⟩ := hout.up_to_end hf hfend
  obtain ⟨moreErr, rfl, -⟩ := herr.up_to_end hg hgend
  have hlength := length_turnsOf turns
  simp only [List.length_append]
  omega

/-- Wherever a schedule has come to, both tasks can still come to their ends. -/
theorem ends (h : Turns f g act j turns j') (hf : Runs f j.stdout fs a) (hfend : f a = none)
    (hg : Runs g j.stderr gs b) (hgend : g b = none) :
    ∃ later s, Turns f g act j' later ⟨a, b, s⟩ := by
  obtain ⟨hout, herr⟩ := h.runs
  obtain ⟨moreOut, -, hmoreOut⟩ := hout.up_to_end hf hfend
  obtain ⟨moreErr, -, hmoreErr⟩ := herr.up_to_end hg hgend
  rw [← turnsOf_stdout_first moreOut moreErr] at hmoreOut
  rw [← turnsOf_stderr_then moreOut moreErr] at hmoreErr
  exact ⟨_, turns_of_merge j'.shared hmoreOut hmoreErr⟩

/-- When both have ended, each has done what it does on its own. -/
theorem at_end (h : Turns f g act j turns j') (hend : j'.Ended f g)
    (hf : Runs f j.stdout fs a) (hfend : f a = none) (hg : Runs g j.stderr gs b)
    (hgend : g b = none) :
    (turnsOf .stdout turns = fs ∧ j'.stdout = a) ∧ turnsOf .stderr turns = gs ∧ j'.stderr = b := by
  obtain ⟨hout, herr⟩ := h.runs
  exact ⟨hout.end_unique hend.1 hf hfend, herr.end_unique hend.2 hg hgend⟩

end Turns
end
end Pipeline
