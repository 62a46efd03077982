import Mathlib.Data.List.Forall2
import Pipeline.Proofs.Run.Objections
import Pipeline.Proofs.Text.Utf8
import Pipeline.Script

/-!
# The outline of a script

What a script will say does not depend on the writer: it is a list of lines and perhaps the error
that breaks it off behind them. `write_eq_put` splits the writing of a script into its outline and
the writing of lines, and `compile_eq` reads off what compiling gives. The error in the part of the
steps is the first objection to their references (`stepsOutline_fault`).
-/

namespace Pipeline.Script
open Text

/-- The lines of a script, and what breaks it off behind them. -/
structure Outline where
  lines : List String
  fault : Option ResolveError
deriving DecidableEq, Repr

namespace Outline

/-- Goes on with another outline unless something breaks this one off. -/
def andThen (a b : Outline) : Outline :=
  match a.fault with
  | none => ⟨a.lines ++ b.lines, b.fault⟩
  | some _ => a

/-- Puts a line in front. -/
def cons (line : String) (a : Outline) : Outline := ⟨line :: a.lines, a.fault⟩

/-- Goes on writing unless the writing so far failed. -/
def onward (r : Except CompileError Unit × Writer)
    (next : Writer → Except CompileError Unit × Writer) : Except CompileError Unit × Writer :=
  match r with
  | (.ok (), w) => next w
  | (.error e, w) => (.error e, w)

/-- Writes lines in turn, and then breaks off where there is a fault. -/
def putAll (fault : Option ResolveError) : List String → Writer → Except CompileError Unit × Writer
  | [], w =>
    match fault with
    | none => (.ok (), w)
    | some e => (.error (.resolve e), w)
  | line :: lines, w => onward (putLine w line) (putAll fault lines)

/-- Writes an outline. -/
def put (a : Outline) (w : Writer) : Except CompileError Unit × Writer := putAll a.fault a.lines w

theorem onward_assoc (r : Except CompileError Unit × Writer)
    (f g : Writer → Except CompileError Unit × Writer) :
    onward (onward r f) g = onward r fun w => onward (f w) g := by
  obtain ⟨r, w⟩ := r
  cases r <;> rfl

theorem put_cons (line : String) (a : Outline) (w : Writer) :
    (a.cons line).put w = onward (putLine w line) a.put := rfl

theorem putAll_append (fault : Option ResolveError) (xs ys : List String) (w : Writer) :
    putAll fault (xs ++ ys) w = onward (putAll none xs w) (putAll fault ys) := by
  induction xs generalizing w with
  | nil => rfl
  | cons line xs ih =>
      simp only [List.cons_append, putAll, onward_assoc]
      congr 1
      exact funext ih

theorem put_andThen (a b : Outline) (w : Writer) :
    (a.andThen b).put w = onward (a.put w) b.put := by
  obtain ⟨lines, fault⟩ := a
  cases fault with
  | none => exact putAll_append b.fault lines b.lines w
  | some e =>
      -- a fault keeps what follows from being written
      have hlines :
          putAll (some e) lines w = onward (putAll none lines w) (putAll (some e) []) := by
        rw [← putAll_append, List.append_nil]
      change putAll (some e) lines w = onward (putAll (some e) lines w) b.put
      rw [hlines, onward_assoc]
      rfl

theorem andThen_of_fault {a b : Outline} (h : (a.andThen b).fault = none) :
    a.fault = none ∧ b.fault = none ∧ (a.andThen b).lines = a.lines ++ b.lines := by
  unfold andThen at h ⊢
  cases ha : a.fault with
  | none =>
      rw [ha] at h
      exact ⟨rfl, h, rfl⟩
  | some e =>
      rw [ha] at h
      exact absurd (ha.symm.trans h) (by simp)

end Outline

/-- The outline of the guards of inputs. -/
def guardsOutline (inputs : Inputs) : List String → Outline
  | [] => ⟨[], none⟩
  | key :: keys =>
    match inputs.get? key with
    | none => ⟨[], some (.missingInput inputsStep key)⟩
    | some value => (guardsOutline inputs keys).cons (guardLine key value)

/-- The outline of steps, given the placeholders of the steps before them. -/
def stepsOutline (o : Options) (inputs : Inputs) : List Step → RunState → Outline
  | [], _ => ⟨[], none⟩
  | s :: ss, state =>
    match stepLine o inputs state s with
    | .error e => ⟨[], some e⟩
    | .ok line => (stepsOutline o inputs ss (state.record s.name (placeholders s))).cons line

/-- The outline of the script of a task. -/
def outline (task : Task) (inputs : Inputs) (o : Options) : Outline :=
  (⟨[o.shebang, "set -e"], none⟩ : Outline).andThen
    ((guardsOutline inputs (guarded task)).andThen (stepsOutline o inputs task.steps .empty))

theorem putGuards_eq_put (inputs : Inputs) (keys : List String) (w : Writer) :
    putGuards inputs keys w = (guardsOutline inputs keys).put w := by
  induction keys generalizing w with
  | nil => rfl
  | cons key keys ih =>
      unfold putGuards guardsOutline
      cases inputs.get? key with
      | none => rfl
      | some value =>
          simp only [Outline.put_cons]
          cases putLine w (guardLine key value) with
          | mk r w₁ =>
              cases r with
              | error e => rfl
              | ok u => exact ih w₁

theorem putSteps_eq_put (o : Options) (inputs : Inputs) (steps : List Step) (state : RunState)
    (w : Writer) : putSteps o inputs steps state w = (stepsOutline o inputs steps state).put w := by
  induction steps generalizing state w with
  | nil => rfl
  | cons s ss ih =>
      unfold putSteps stepsOutline
      cases stepLine o inputs state s with
      | error e => rfl
      | ok line =>
          simp only [Outline.put_cons]
          cases putLine w line with
          | mk r w₁ =>
              cases r with
              | error e => rfl
              | ok u => exact ih _ w₁

theorem putHeader_eq_put (o : Options) (w : Writer) :
    putHeader o w = (⟨[o.shebang, "set -e"], none⟩ : Outline).put w := by
  unfold putHeader
  simp only [Outline.put, Outline.putAll]
  cases putLine w o.shebang with
  | mk r w₁ =>
      cases r with
      | error e => rfl
      | ok u =>
          simp only [Outline.onward]
          cases putLine w₁ "set -e" with
          | mk r w₂ => cases r <;> rfl

/-- A script is its outline, written line by line. -/
theorem write_eq_put (task : Task) (inputs : Inputs) (o : Options) (w : Writer) :
    write task inputs o w = (outline task inputs o).put w := by
  rw [outline, Outline.put_andThen, ← putHeader_eq_put]
  unfold write
  cases putHeader o w with
  | mk r w₁ =>
      cases r with
      | error e => rfl
      | ok u =>
          simp only [Outline.onward]
          rw [Outline.put_andThen, ← putGuards_eq_put]
          cases putGuards inputs (guarded task) w₁ with
          | mk r w₂ =>
              cases r with
              | error e => rfl
              | ok u => exact putSteps_eq_put ..

/-- Lines, each ended by a line feed. -/
def unlines (lines : List String) : String := String.join (lines.map (· ++ "\n"))

theorem unlines_cons (line : String) (lines : List String) :
    unlines (line :: lines) = line ++ "\n" ++ unlines lines := by
  simp [unlines]

theorem putLine_unbounded (bs : Bytes) (line : String) :
    putLine ⟨bs, none⟩ line = (.ok (), ⟨bs ++ Utf8.encode (line ++ "\n"), none⟩) := rfl

theorem putAll_unbounded (fault : Option ResolveError) (lines : List String) (bs : Bytes) :
    Outline.putAll fault lines ⟨bs, none⟩ =
      ((match fault with
        | none => .ok ()
        | some e => .error (.resolve e)),
        ⟨bs ++ Utf8.encode (unlines lines), none⟩) := by
  induction lines generalizing bs with
  | nil => cases fault <;> simp [Outline.putAll, unlines, Utf8.encode]
  | cons line lines ih =>
      rw [Outline.putAll, putLine_unbounded, Outline.onward, ih, unlines_cons,
        Utf8.encode_append (line ++ "\n"), List.append_assoc]

/-- Compiling gives the lines of the outline, or the error that breaks it off. -/
theorem compile_eq (task : Task) (inputs : Inputs) (o : Options) :
    compile task inputs o =
      match (outline task inputs o).fault with
      | none => .ok (unlines (outline task inputs o).lines)
      | some e => .error (.resolve e) := by
  rw [compile, write_eq_put, Outline.put, Writer.unbounded, putAll_unbounded, List.nil_append]
  cases (outline task inputs o).fault with
  | none => simp only [Utf8.decode_encode]
  | some e => rfl

theorem mem_guarded {task : Task} {key : String} : key ∈ guarded task ↔ key ∈ task.inputs.keys :=
  (List.mergeSort_perm _ _).mem_iff

/-- The guards stand in ascending order of their keys. -/
theorem pairwise_guarded (task : Task) : (guarded task).Pairwise (· < ·) := by
  have hsorted : (guarded task).Pairwise fun a b => decide (a ≤ b) = true := by
    refine List.pairwise_mergeSort (fun a b c hab hbc => ?_) (fun a b => ?_) _
    · simp only [decide_eq_true_eq] at hab hbc ⊢
      exact String.le_trans hab hbc
    · simpa using String.le_total a b
  have hnodup : (guarded task).Nodup :=
    (List.mergeSort_perm _ _).nodup_iff.mpr task.inputs.distinct
  refine (hsorted.and hnodup).imp ?_
  rintro a b ⟨hle, hne⟩
  exact String.not_le.mp fun hge => hne (String.le_antisymm (by simpa using hle) hge)

/-- With every input at hand the guards are one line for each. -/
theorem guardsOutline_of_bound {inputs : Inputs} {keys : List String}
    (h : ∀ key ∈ keys, inputs.contains key = true) :
    (guardsOutline inputs keys).fault = none := by
  induction keys with
  | nil => rfl
  | cons key keys ih =>
      have hkey := h key (by simp)
      rw [Dict.contains_eq_isSome, Option.isSome_iff_exists] at hkey
      obtain ⟨value, hvalue⟩ := hkey
      simp only [guardsOutline, hvalue, Outline.cons]
      exact ih fun k hk => h k (List.mem_cons_of_mem _ hk)

/-- The guards of a script that compiles: one line for each input, with its value. -/
theorem guardsOutline_lines {inputs : Inputs} {keys : List String}
    (h : (guardsOutline inputs keys).fault = none) :
    List.Forall₂ (fun key line => ∃ value, inputs.get? key = some value ∧
      line = guardLine key value) keys (guardsOutline inputs keys).lines := by
  induction keys with
  | nil => exact .nil
  | cons key keys ih =>
      unfold guardsOutline at h ⊢
      cases hget : inputs.get? key with
      | none =>
          rw [hget] at h
          cases h
      | some value =>
          rw [hget] at h
          exact .cons ⟨value, hget, rfl⟩ (ih h)

theorem get?_ofList_map (keys : List String) (g : String → String) (k : String) :
    (Dict.ofList (keys.map fun key => (key, g key))).get? k =
      if k ∈ keys then some (g k) else none := by
  suffices h : ∀ d : Dict String,
      ((keys.map fun key => (key, g key)).foldl (fun d e => d.insert e.1 e.2) d).get? k =
        if k ∈ keys then some (g k) else d.get? k by
    rw [Dict.ofList, h, Dict.get?_empty]
  intro d
  induction keys generalizing d with
  | nil => simp
  | cons key keys ih =>
      rw [List.map_cons, List.foldl_cons, ih, Dict.get?_insert]
      by_cases hmem : k ∈ keys
      · simp [hmem]
      · by_cases hkey : k = key <;> simp [hmem, hkey]

/-- The placeholders of a step have the keys that the step is sure to record. -/
theorem fits_placeholders (s : Step) : s.Fits (placeholders s) := by
  unfold Step.Fits placeholders
  cases s.runnable with
  | command c =>
      intro key
      simp
  | func f =>
      intro key hkey
      simp [Dict.contains_eq_isSome, get?_ofList_map, hkey]

/-- The line of a step fails for the objection to the step. -/
theorem errorOf_stepLine {done : List Step} {state : RunState} {s : Step} (o : Options)
    (inputs : Inputs) (h : Filled done state) (hs : ∀ r ∈ s.refs, r.KeyDeclared done) :
    errorOf (stepLine o inputs state s) = s.objection inputs done := by
  unfold stepLine
  cases hr : s.runnable with
  | command c =>
      rw [← errorOf_resolveArgs_filled inputs hr h hs]
      simp only
      cases resolveArgs s.name inputs state c.args <;> rfl
  | func f =>
      rw [Step.objection_of_func hr]
      rfl

/-- The lines of steps break off at the first objection to their references. -/
theorem stepsOutline_fault {done todo : List Step} {state : RunState} (o : Options)
    (inputs : Inputs) (hf : Filled done state) (hd : ((done ++ todo).map Step.name).Nodup)
    (hk : ∀ s ∈ todo, ∀ r ∈ s.refs, r.KeyDeclared (done ++ todo)) :
    (stepsOutline o inputs todo state).fault = firstObjection inputs done todo := by
  induction todo generalizing done state with
  | nil => rfl
  | cons s todo ih =>
      have hs : ∀ r ∈ s.refs, r.KeyDeclared done := fun r hr x hx =>
        hk s (by simp) r hr x (List.mem_append_left _ hx)
      have hline := errorOf_stepLine o inputs hf hs
      unfold stepsOutline firstObjection
      rw [← hline]
      cases stepLine o inputs state s with
      | error e => rfl
      | ok line =>
          have hf₁ := hf.record (fun x hx => name_ne_of_nodup hd hx (by simp))
            (fits_placeholders s)
          have hrest := ih hf₁ (by simpa using hd) (fun x hx r hr => by
            simpa using hk x (List.mem_cons_of_mem _ hx) r hr)
          simpa [errorOf, Outline.cons] using hrest

end Pipeline.Script
