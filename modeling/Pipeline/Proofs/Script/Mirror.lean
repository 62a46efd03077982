import Mathlib.Data.List.Forall2
import Pipeline.Proofs.Run.Log
import Pipeline.Proofs.Script.Agreement

/-!
# A script mirrors a run

When a task runs to its end and also compiles, with the same inputs, each line of the script for a
step can be read off what the run did for that step. The compiler and the run resolve the same
arguments in different states, placeholders in one and outputs in the other, so they differ exactly
at the references to outputs (`resolveArgs_written`).
-/

namespace Pipeline

namespace Task

theorem find?_step {task : Task} {s : Step} (hs : s ∈ task.steps) : task.find? s.name = some s :=
  find?_name task.distinct (List.mem_append_left _ hs)

/-- What a script writes for an output of a step. -/
def standIn (task : Task) (producer key : String) : String :=
  match (task.find? producer).map Step.runnable with
  | some (.func f) => Func.placeholder f.name key
  | _ => Script.stdoutPlaceholder producer

/-- What a script writes for an argument to which a run gave a value. -/
def written (task : Task) : Arg → String → String
  | .ref ⟨some producer, key⟩, _ => task.standIn producer key
  | .ref ⟨none, _⟩, value => value
  | .literal _, value => value

theorem standIn_of_placeholders {task : Task} {s : Step} {key value : String}
    (hs : s ∈ task.steps) (h : (Script.placeholders s).get? key = some value) :
    value = task.standIn s.name key := by
  unfold standIn
  rw [find?_step hs]
  unfold Script.placeholders at h
  cases hr : s.runnable with
  | command c =>
      rw [hr] at h
      simp only [Option.map_some, hr]
      simp only [Dict.get?_insert, Dict.get?_empty] at h
      split at h
      · exact (Option.some.inj h).symm
      · cases h
  | func f =>
      rw [hr] at h
      simp only [Option.map_some, hr]
      simp only [Script.get?_ofList_map] at h
      split at h
      · exact (Option.some.inj h).symm
      · cases h

end Task

/-- A state that holds the placeholders of some steps of a task, and nothing else. -/
def Placed (done : List Step) (state : RunState) : Prop :=
  ∀ name outputs, state.outputs? name = some outputs →
    ∃ s ∈ done, s.name = name ∧ outputs = Script.placeholders s

theorem placed_empty : Placed [] .empty := fun _ _ h => by cases h

theorem Placed.record {done : List Step} {state : RunState} (h : Placed done state) (s : Step) :
    Placed (done ++ [s]) (state.record s.name (Script.placeholders s)) := by
  intro name outputs hget
  rw [RunState.outputs?_record] at hget
  split at hget
  · rename_i heq
    exact ⟨s, by simp, heq.symm, (Option.some.inj hget).symm⟩
  · obtain ⟨x, hx, hname, hout⟩ := h name outputs hget
    exact ⟨x, List.mem_append_left _ hx, hname, hout⟩

theorem resolveArg_written {task : Task} {done : List Step} {step : String} {inputs : Inputs}
    {state com : RunState} {a : Arg} {value text : String} (hsub : ∀ s ∈ done, s ∈ task.steps)
    (hcom : Placed done com) (hv : resolveArg step inputs state a = .ok value)
    (ht : resolveArg step inputs com a = .ok text) : text = task.written a value := by
  cases a with
  | literal word =>
      cases hv
      cases ht
      rfl
  | ref r =>
      obtain ⟨producer, key⟩ := r
      cases producer with
      | none =>
          -- an input has its value in both states
          rw [show resolveArg step inputs com (.ref ⟨none, key⟩) =
            resolveArg step inputs state (.ref ⟨none, key⟩) from rfl, hv] at ht
          cases ht
          rfl
      | some producer =>
          simp only [resolveArg, resolve] at ht
          cases hout : com.outputs? producer with
          | none =>
              rw [hout] at ht
              cases ht
          | some outputs =>
              rw [hout] at ht
              obtain ⟨s, hs, hname, rfl⟩ := hcom producer outputs hout
              cases hget : (Script.placeholders s).get? key with
              | none =>
                  simp only [hget] at ht
                  cases ht
              | some placeholder =>
                  simp only [hget] at ht
                  cases ht
                  rw [Task.written, ← hname]
                  exact Task.standIn_of_placeholders (hsub s hs) hget

/-- Arguments resolved in the state of a run, and the words that a script has for them. -/
theorem resolveArgs_written {task : Task} {done : List Step} {step : String} {inputs : Inputs}
    {state com : RunState} {args : List Arg} {values texts : List String}
    (hsub : ∀ s ∈ done, s ∈ task.steps) (hcom : Placed done com)
    (hv : resolveArgs step inputs state args = .ok values)
    (ht : resolveArgs step inputs com args = .ok texts) :
    values.length = args.length ∧ texts = List.zipWith task.written args values := by
  induction args generalizing values texts with
  | nil =>
      cases hv
      cases ht
      exact ⟨rfl, rfl⟩
  | cons a as ih =>
      simp only [resolveArgs] at hv ht
      split at hv
      · cases hv
      · rename_i value hvalue
        split at hv
        · cases hv
        · rename_i values' hvalues
          cases hv
          split at ht
          · cases ht
          · rename_i text htext
            split at ht
            · cases ht
            · rename_i texts' htexts
              cases ht
              obtain ⟨hlength, hzip⟩ := ih hvalues htexts
              refine ⟨by simp [hlength], ?_⟩
              rw [List.zipWith_cons_cons, ← hzip,
                resolveArg_written hsub hcom hvalue htext]

namespace Script
open Text

/-- How the line of a step follows from what a run did for it: a function is called back by name,
and a command is the one invocation that the run made for the step, with stand-ins for outputs. -/
def Mirrors (task : Task) (o : Options) (events : List Event) (s : Step) (line : String) : Prop :=
  match s.runnable with
  | .func _ => line = o.selfInvocation ++ " run-task-step " ++ quoted s.name
  | .command c => ∃ args, invocations s.name events = [⟨c.path, args⟩] ∧
      args.length = c.args.length ∧
      line = spaced (c.path :: List.zipWith task.written c.args args)

theorem Mirrors.of_invocations_eq {task : Task} {o : Options} {xs ys : List Event} {s : Step}
    {line : String} (h : Mirrors task o xs s line)
    (heq : invocations s.name ys = invocations s.name xs) : Mirrors task o ys s line := by
  unfold Mirrors at h ⊢
  cases hr : s.runnable with
  | func f =>
      rw [hr] at h
      exact h
  | command c =>
      rw [hr] at h
      obtain ⟨args, hinv, hrest⟩ := h
      exact ⟨args, heq.trans hinv, hrest⟩

section
variable {σ : Type} {t : Target σ}

theorem mirrors_of_step {task : Task} {inputs : Inputs} {o : Options} {done : List Step} {s : Step}
    {state state' com : RunState} {w w' : World σ} {line : String} {events : List Event}
    (hsub : ∀ x ∈ done, x ∈ task.steps) (hcom : Placed done com)
    (hrun : runStep t inputs s state w = (.ok state', w'))
    (hlog : w'.log = w.log ++ events)
    (hline : stepLine o inputs com s = .ok line) : Mirrors task o events s line := by
  unfold stepLine at hline
  unfold Mirrors
  cases hr : s.runnable with
  | func f =>
      rw [hr] at hline
      exact (Except.ok.inj hline).symm
  | command c =>
      rw [hr] at hline
      obtain ⟨args, out, err, hargs, hcalled⟩ := runStep_command_log hr hrun
      have hevents : events =
          [.began s.name, .called s.name c.path args, .wrote s.name out err] :=
        List.append_cancel_left (hlog.symm.trans hcalled)
      cases htexts : resolveArgs s.name inputs com c.args with
      | error e =>
          simp only [htexts] at hline
          cases hline
      | ok texts =>
          simp only [htexts] at hline
          obtain ⟨hlength, hzip⟩ := resolveArgs_written hsub hcom hargs htexts
          refine ⟨args, ?_, hlength, ?_⟩
          · rw [hevents, invocations_command]
          · rw [← hzip]
            exact (Except.ok.inj hline).symm

theorem stepsOutline_mirrors {task : Task} {inputs : Inputs} {o : Options}
    {done todo : List Step} {state state' com : RunState} {w w' : World σ}
    (hsplit : task.steps = done ++ todo) (hd : (todo.map Step.name).Nodup)
    (hcom : Placed done com) (hrun : runSteps t inputs todo state w = (.ok state', w'))
    (hfault : (stepsOutline o inputs todo com).fault = none) :
    ∃ events, w'.log = w.log ++ events ∧ (∀ e ∈ events, e.step ∈ todo.map Step.name) ∧
      List.Forall₂ (Mirrors task o events) todo (stepsOutline o inputs todo com).lines := by
  -- `com` is the state of the compiler before the steps that are still to run
  induction todo generalizing done state com w with
  | nil =>
      cases hrun
      exact ⟨[], by simp, by simp, .nil⟩
  | cons s todo ih =>
      rw [List.map_cons, List.nodup_cons] at hd
      simp only [runSteps] at hrun
      split at hrun
      · rename_i state₁ w₁ hs
        unfold stepsOutline at hfault ⊢
        cases hline : stepLine o inputs com s with
        | error e =>
            rw [hline] at hfault
            cases hfault
        | ok line =>
            rw [hline] at hfault
            obtain ⟨xs, hxs, hown⟩ := runStep_grew hs
            obtain ⟨ys, hys, hothers, hrest⟩ :=
              ih (by rw [hsplit]; simp) hd.2 (hcom.record s) hrun hfault
            have hhead : Mirrors task o xs s line :=
              mirrors_of_step (fun x hx => by rw [hsplit]; exact List.mem_append_left _ hx) hcom
                hs hxs hline
            refine ⟨xs ++ ys, by rw [hys, hxs, List.append_assoc], ?_, ?_⟩
            · intro e he
              rcases List.mem_append.mp he with he | he
              · simp [hown e he]
              · exact List.mem_cons_of_mem _ (hothers e he)
            · have hlater : invocations s.name ys = [] := invocations_of_others fun e he heq =>
                hd.1 (heq ▸ hothers e he)
              refine .cons (hhead.of_invocations_eq ?_) ?_
              · rw [invocations_append, hlater, List.append_nil]
              · -- what the step did shows nothing for the later ones, whose names are others
                have hmem : ∀ x ∈ todo, invocations x.name xs = [] := fun x hx =>
                  invocations_of_others fun e he heq =>
                    hd.1 (hown e he ▸ heq ▸ List.mem_map_of_mem hx)
                refine ((List.forall₂_and_left _ _).mpr ⟨hmem, hrest⟩).imp ?_
                rintro x text ⟨hnone, hmirrors⟩
                refine hmirrors.of_invocations_eq ?_
                rw [invocations_append, hnone, List.nil_append]
      · cases hrun

theorem zipWith_written_of_inputs {task : Task} {args : List Arg} {values : List String}
    (hlength : values.length = args.length)
    (hinputs : ∀ r ∈ args.filterMap Arg.ref?, r.step = none) :
    List.zipWith task.written args values = values := by
  induction args generalizing values with
  | nil => exact (List.eq_nil_of_length_eq_zero hlength).symm
  | cons a as ih =>
      cases values with
      | nil => simp at hlength
      | cons value values =>
          have hrest : values.length = as.length := by simpa using hlength
          cases a with
          | literal word =>
              rw [List.zipWith_cons_cons, ih hrest hinputs]
              rfl
          | ref r =>
              obtain ⟨hr, has⟩ := List.forall_mem_cons.mp hinputs
              obtain ⟨producer, key⟩ := r
              cases hr
              rw [List.zipWith_cons_cons, ih hrest has]
              rfl

/-- A command without references to outputs stands in the script as it was executed. -/
theorem Mirrors.line_eq {task : Task} {o : Options} {events : List Event} {s : Step}
    {line : String} {c : Command} (h : Mirrors task o events s line)
    (hc : s.runnable = .command c) (hinputs : ∀ r ∈ c.refs, r.step = none) :
    (invocations s.name events).map Invocation.line = [line] := by
  unfold Mirrors at h
  rw [hc] at h
  obtain ⟨args, hinv, hlength, hline⟩ := h
  rw [zipWith_written_of_inputs hlength hinputs] at hline
  rw [hinv, hline]
  rfl

/-- A script that compiles for a task that ran to its end: the two lines every script begins with,
the guards in the order of their keys, and a line for each step that mirrors the run. -/
theorem script_mirrors_run {task : Task} {inputs : Inputs} {o : Options} {script : String}
    {state : RunState} {w w' : World σ} (hrun : runTask t inputs task w = (.ok state, w'))
    (hscript : compile task inputs o = .ok script) :
    ∃ events guards lines, w'.log = w.log ++ events ∧
      script = unlines ([o.shebang, "set -e"] ++ guards ++ lines) ∧
      (guarded task).Perm task.inputs.keys ∧ (guarded task).Pairwise (· < ·) ∧
      List.Forall₂ (fun key line => ∃ value, inputs.get? key = some value ∧
        line = guardLine key value) (guarded task) guards ∧
      List.Forall₂ (Mirrors task o events) task.steps lines ∧
      List.Forall₂ (fun s line => ∀ c, s.runnable = .command c → (∀ r ∈ c.refs, r.step = none) →
        (invocations s.name events).map Invocation.line = [line]) task.steps lines := by
  rw [compile_eq] at hscript
  cases hfault : (outline task inputs o).fault with
  | some e =>
      rw [hfault] at hscript
      cases hscript
  | none =>
      rw [hfault] at hscript
      obtain ⟨-, hrest, hlines⟩ := Outline.andThen_of_fault hfault
      obtain ⟨hguards, hsteps, hlines'⟩ := Outline.andThen_of_fault hrest
      obtain ⟨events, hlog, -, hmirrors⟩ :=
        stepsOutline_mirrors (List.nil_append task.steps).symm task.nodup_steps placed_empty hrun
          hsteps
      refine ⟨events, _, _, hlog, ?_, List.mergeSort_perm _ _, pairwise_guarded task,
        guardsOutline_lines hguards, hmirrors, ?_⟩
      · rw [← Except.ok.inj hscript, List.append_assoc, ← hlines', ← hlines]
        rfl
      · exact hmirrors.imp fun s line h c hc hinputs => h.line_eq hc hinputs

end

theorem release_mirrored : ∃ script w guards lines,
    runTask echoing seeded release ⟨.empty, []⟩ = (.ok released, w) ∧
    compile release seeded (.calling "tool") = .ok script ∧
    script = unlines (["#!/usr/bin/env bash", "set -e"] ++ guards ++ lines) ∧
    List.Forall₂ (Mirrors release (.calling "tool") w.log) release.steps lines := by
  obtain ⟨w, hrun⟩ := release_succeeds
  obtain ⟨script, hscript⟩ := release_compiles
  obtain ⟨events, guards, lines, hlog, hlines, -, -, -, hmirrors, -⟩ :=
    script_mirrors_run hrun hscript
  rw [List.nil_append] at hlog
  rw [← hlog] at hmirrors
  exact ⟨script, w, guards, lines, hrun, hscript, hlines, hmirrors⟩

end Script
end Pipeline
