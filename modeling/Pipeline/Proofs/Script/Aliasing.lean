import Mathlib.Data.List.Forall2
import Mathlib.Data.List.Induction
import Pipeline.Proofs.Script.Outline
import Pipeline.Proofs.Shell.Parameter
import Pipeline.Task.Builder

/-!
# Outputs that share a placeholder

The placeholder of an output is a variable between braces, and the name of the variable has two
parts with an underscore between them: what is left of the name of the step or function, and what
is left of the key. Both lose something, and an underscore may stand inside either. `Meet` says when
two names come out the same, and no more than that makes two outputs share a placeholder
(`placeholderFor_inj`). A step is written in the state `placed` by the steps before it, where a
reference to an output is answered by its placeholder (`StandsFor`), so these are the outputs that a
later step cannot tell apart.
-/

namespace Pipeline.Script
open Text

/-! ### Names cut at an underscore -/

/-- The names made of `a` and `b` and of `c` and `d` are the same, cut at the same underscore or at
another one. -/
def Meet (a b c d : List Char) : Prop :=
  (a = c ∧ b = d) ∨ (∃ mid, c = a ++ '_' :: mid ∧ b = mid ++ '_' :: d) ∨
    ∃ mid, a = c ++ '_' :: mid ∧ d = mid ++ '_' :: b

theorem Meet.symm {a b c d : List Char} (h : Meet a b c d) : Meet c d a b := by
  obtain ⟨hac, hbd⟩ | hleft | hright := h
  · exact .inl ⟨hac.symm, hbd.symm⟩
  · exact .inr (.inr hleft)
  · exact .inr (.inl hright)

/-- What a longer part has more than the shorter one begins with the underscore. -/
theorem meet_of_front {a b c d more : List Char} (hc : c = a ++ more)
    (h : '_' :: b = more ++ '_' :: d) : Meet a b c d := by
  cases more with
  | nil =>
      rw [List.nil_append] at h
      cases h
      exact .inl ⟨by simpa using hc.symm, rfl⟩
  | cons x mid =>
      rw [List.cons_append] at h
      cases h
      exact .inr (.inl ⟨mid, hc, rfl⟩)

theorem append_underscore_inj {a b c d : List Char} :
    a ++ '_' :: b = c ++ '_' :: d ↔ Meet a b c d := by
  constructor
  · intro h
    obtain ⟨more, hc, hrest⟩ | ⟨more, ha, hrest⟩ := List.append_eq_append_iff.mp h
    · exact meet_of_front hc hrest
    · exact (meet_of_front ha hrest).symm
  · rintro (⟨rfl, rfl⟩ | ⟨mid, rfl, rfl⟩ | ⟨mid, rfl, rfl⟩)
    · rfl
    · simp
    · simp

theorem meet_same_stem {a b d : List Char} : Meet a b a d ↔ b = d := by
  rw [← append_underscore_inj]
  simp

/-- Parts behind the cut that hold no underscore leave one place for it. -/
theorem meet_of_not_mem {a b c d : List Char} (hb : '_' ∉ b) (hd : '_' ∉ d) :
    Meet a b c d ↔ a = c ∧ b = d := by
  constructor
  · rintro (h | ⟨mid, -, rfl⟩ | ⟨mid, -, rfl⟩)
    · exact h
    · simp at hb
    · simp at hd
  · exact .inl

/-! ### The name of a variable -/

/-- The name of the variable that stands for an output. -/
def variableFor (s : Step) (key : String) : String :=
  match s.runnable with
  | .command _ => stdoutVariable s.name
  | .func f => Func.variableName f.name key

/-- What the name of a variable begins with, before the underscore. -/
def stem (s : Step) : List Char :=
  match s.runnable with
  | .command _ => s.name.toList.map variableChar
  | .func f => upperChars f.name.toList

/-- What the name of a variable ends with, behind the underscore. -/
def ending (s : Step) (key : String) : List Char :=
  match s.runnable with
  | .command _ => "STDOUT".toList
  | .func _ => upperChars key.toList

theorem toList_variableFor (s : Step) (key : String) :
    (variableFor s key).toList = stem s ++ '_' :: ending s key := by
  unfold variableFor stem ending
  cases s.runnable with
  | command c => simp [stdoutVariable]
  | func f => simp [Func.variableName]

/-- Whether two characters are the same in the name of a step's variable: the same letter or digit,
or neither of them one. -/
def SameInName (a b : Char) : Prop :=
  (a.isAlphanum = true ∧ b.isAlphanum = true ∧ a.toUpper = b.toUpper) ∨
    (a.isAlphanum = false ∧ b.isAlphanum = false)

instance (a b : Char) : Decidable (SameInName a b) :=
  inferInstanceAs (Decidable ((a.isAlphanum = true ∧ b.isAlphanum = true ∧ a.toUpper = b.toUpper) ∨
    (a.isAlphanum = false ∧ b.isAlphanum = false)))

theorem toUpper_ne_underscore {c : Char} (h : c.isAlphanum = true) : c.toUpper ≠ '_' := by
  intro heq
  unfold Char.toUpper at heq
  split at heq
  · rename_i hc
    have hval : (c.val + ('A'.val - 'a'.val)).toNat = 95 := congrArg (·.val.toNat) heq
    have hlow : 97 ≤ c.val.toNat := UInt32.le_iff_toNat_le.mp hc.1
    have hhigh : c.val.toNat ≤ 122 := UInt32.le_iff_toNat_le.mp hc.2
    have hshift : ('A'.val - 'a'.val : UInt32).toNat = 2 ^ 32 - 32 := rfl
    rw [UInt32.toNat_add] at hval
    omega
  · rw [heq] at h
    revert h
    decide

theorem variableChar_eq_iff {a b : Char} : variableChar a = variableChar b ↔ SameInName a b := by
  unfold variableChar SameInName
  cases ha : a.isAlphanum <;> cases hb : b.isAlphanum
  · simp
  · simpa using (toUpper_ne_underscore hb).symm
  · simpa using toUpper_ne_underscore ha
  · simp

theorem stem_commands {s s' : Step} {c c' : Command} (hs : s.runnable = .command c)
    (hs' : s'.runnable = .command c') :
    stem s = stem s' ↔ List.Forall₂ SameInName s.name.toList s'.name.toList := by
  unfold stem
  rw [hs, hs', ← List.forall₂_eq_eq_eq, List.forall₂_map_left_iff, List.forall₂_map_right_iff]
  simp only [variableChar_eq_iff]

theorem meet_commands {s s' : Step} {c c' : Command} {key key' : String}
    (hs : s.runnable = .command c) (hs' : s'.runnable = .command c') :
    Meet (stem s) (ending s key) (stem s') (ending s' key') ↔ stem s = stem s' := by
  have hnone : '_' ∉ "STDOUT".toList := by decide
  unfold ending
  rw [hs, hs', meet_of_not_mem hnone hnone]
  exact and_iff_left rfl

theorem meet_functions {s s' : Step} {f f' : Func} {key key' : String}
    (hs : s.runnable = .func f) (hs' : s'.runnable = .func f')
    (hname : upper f.name = upper f'.name) :
    Meet (stem s) (ending s key) (stem s') (ending s' key') ↔ upper key = upper key' := by
  have hstem : upperChars f.name.toList = upperChars f'.name.toList := by
    rw [← toList_upper, ← toList_upper, hname]
  unfold stem ending
  rw [hs, hs']
  simp only [hstem, meet_same_stem]
  rw [← toList_upper, ← toList_upper, String.toList_inj]

/-! ### Placeholders -/

/-- The placeholder of an output. -/
def placeholderFor (s : Step) (key : String) : String := "$\x7b" ++ variableFor s key ++ "\x7d"

theorem placeholderFor_inj {s s' : Step} {key key' : String} :
    placeholderFor s key = placeholderFor s' key' ↔
      Meet (stem s) (ending s key) (stem s') (ending s' key') := by
  rw [← append_underscore_inj, ← toList_variableFor, ← toList_variableFor, String.toList_inj]
  unfold placeholderFor
  simp

theorem get?_placeholders {s : Step} {key : String} (hkey : key ∈ s.recordedKeys) :
    (placeholders s).get? key = some (placeholderFor s key) := by
  unfold Step.recordedKeys at hkey
  unfold placeholders placeholderFor variableFor
  cases hr : s.runnable with
  | command c =>
      rw [hr] at hkey
      simp [List.mem_singleton.mp hkey, stdoutPlaceholder]
  | func f =>
      rw [hr] at hkey
      simp [get?_ofList_map, hkey, Func.placeholder]

/-! ### The state in which a step is written -/

/-- What is recorded once the lines of some steps are written. -/
def placed (done : List Step) : RunState :=
  done.foldl (fun state s => state.record s.name (placeholders s)) .empty

theorem placed_append (done : List Step) (s : Step) :
    placed (done ++ [s]) = (placed done).record s.name (placeholders s) := by
  simp [placed]

theorem outputs?_placed {done : List Step} {s : Step} (hd : (done.map Step.name).Nodup)
    (hs : s ∈ done) : (placed done).outputs? s.name = some (placeholders s) := by
  induction done using List.reverseRecOn with
  | nil => cases hs
  | append_singleton done x ih =>
      rw [placed_append]
      rcases List.mem_append.mp hs with hs | hs
      · have hne : s.name ≠ x.name := name_ne_of_nodup hd hs List.mem_cons_self
        rw [RunState.outputs?_record_of_ne _ _ hne]
        exact ih (nodup_names_left hd) hs
      · rw [List.mem_singleton.mp hs]
        exact RunState.outputs?_record_self ..

theorem putSteps_append (o : Options) (inputs : Inputs) (before todo : List Step)
    (state : RunState) (w : Writer) :
    putSteps o inputs (before ++ todo) state w =
      Outline.onward (putSteps o inputs before state w) (putSteps o inputs todo
        (before.foldl (fun state s => state.record s.name (placeholders s)) state)) := by
  induction before generalizing state w with
  | nil => rfl
  | cons s before ih =>
      simp only [List.cons_append, putSteps, List.foldl_cons]
      cases stepLine o inputs state s with
      | error e => rfl
      | ok line =>
          cases hput : putLine w line with
          | mk r w₁ =>
              cases r with
              | error e => simp only [hput]; rfl
              | ok u =>
                  simp only [hput]
                  exact ih _ w₁

/-- What a script has before the lines of the steps. -/
def putFront (task : Task) (inputs : Inputs) (o : Options) (w : Writer) :
    Except CompileError Unit × Writer :=
  Outline.onward (putHeader o w) (putGuards inputs (guarded task))

theorem write_from {task : Task} {before todo : List Step} (inputs : Inputs) (o : Options)
    (hsplit : task.steps = before ++ todo) (w : Writer) :
    write task inputs o w =
      Outline.onward (Outline.onward (putFront task inputs o w) (putSteps o inputs before .empty))
        (putSteps o inputs todo (placed before)) := by
  have hsteps : putSteps o inputs task.steps .empty = fun w =>
      Outline.onward (putSteps o inputs before .empty w) (putSteps o inputs todo (placed before)) := by
    funext w
    rw [hsplit, putSteps_append]
    rfl
  rw [Outline.onward_assoc, ← hsteps]
  unfold write putFront Outline.onward
  cases putHeader o w with
  | mk r w₁ =>
      cases r with
      | error e => rfl
      | ok u =>
          cases hguards : putGuards inputs (guarded task) w₁ with
          | mk r w₂ => cases r <;> simp only [hguards]

/-- In a state, the text stands for an output: every reference to it is answered so, and where the
variable has the name of one, a shell reads that variable. -/
structure StandsFor (state : RunState) (s : Step) (key text : String) : Prop where
  resolved : ∀ reader inputs, resolve reader inputs state (.output s.name key) = .ok text
  read : Shell.isName (variableFor s key).toList = true → ∀ d : Shell.Dialect,
    Shell.IsWord d (Shell.Raw.ofText text) [.param false (variableFor s key) .plain [] []]

theorem standsFor_placeholder {done : List Step} {s : Step} {key : String}
    (hd : (done.map Step.name).Nodup) (hs : s ∈ done) (hkey : key ∈ s.recordedKeys) :
    StandsFor (placed done) s key (placeholderFor s key) where
  resolved reader inputs := by
    simp only [resolve, Ref.output, outputs?_placed hd hs, get?_placeholders hkey]
  read hname d := Shell.isWord_parameter d hname

/-- A step is written in a state in which each output of the steps before it is stood for by its
placeholder. Two outputs have one placeholder exactly if the names of their variables meet: for
commands, if the names of the steps are alike character by character; for functions of one name, if
the keys are alike in upper case. -/
theorem later_step_reads (task : Task) {before after : List Step} {x : Step}
    (hsplit : task.steps = before ++ x :: after) (inputs : Inputs) (o : Options) :
    (∀ w, write task inputs o w =
      Outline.onward (Outline.onward (putFront task inputs o w) (putSteps o inputs before .empty))
        (putSteps o inputs (x :: after) (placed before))) ∧
    ∀ s ∈ before, ∀ key ∈ s.recordedKeys,
      StandsFor (placed before) s key (placeholderFor s key) ∧
      ∀ s' ∈ before, ∀ key' ∈ s'.recordedKeys,
        (placeholderFor s key = placeholderFor s' key' ↔
          Meet (stem s) (ending s key) (stem s') (ending s' key')) ∧
        (∀ c c', s.runnable = .command c → s'.runnable = .command c' →
          (placeholderFor s key = placeholderFor s' key' ↔
            List.Forall₂ SameInName s.name.toList s'.name.toList)) ∧
        ∀ f f', s.runnable = .func f → s'.runnable = .func f' → upper f.name = upper f'.name →
          (placeholderFor s key = placeholderFor s' key' ↔ upper key = upper key') := by
  have hall : ((before ++ x :: after).map Step.name).Nodup := hsplit ▸ task.nodup_steps
  have hnames := nodup_names_left hall
  refine ⟨write_from inputs o hsplit, ?_⟩
  intro s hs key hkey
  refine ⟨standsFor_placeholder hnames hs hkey, ?_⟩
  intro s' hs' key' hkey'
  refine ⟨placeholderFor_inj, ?_, ?_⟩
  · intro c c' hc hc'
    rw [placeholderFor_inj, ← stem_commands hc hc']
    exact meet_commands hc hc'
  · intro f f' hf hf' hname
    rw [placeholderFor_inj]
    exact meet_functions hf hf' hname

def buildApp : Step := ⟨"build app", .command ⟨"make", [.literal "app"]⟩⟩

def buildImage : Step := ⟨"build-app", .command ⟨"make", [.literal "image"]⟩⟩

def pushBoth : Step := ⟨"push", .command ⟨"echo",
  [.ref (.output "build app" stdoutKey), .ref (.output "build-app" stdoutKey)]⟩⟩

/-- Two steps whose names differ in a blank and a hyphen, and one that refers to both. -/
def twoBuilds : Task where
  steps := [buildApp, buildImage, pushBoth]
  cleanup := []
  inputs := .forInputs
  distinct := by decide

/-- The task is built, and its last step reads one variable for two outputs. -/
theorem twoBuilds_share :
    (⟨twoBuilds.steps, [], .forInputs⟩ : Builder).build = .ok twoBuilds ∧
    buildApp.name ≠ buildImage.name ∧
    (∃ text, (placeholders buildApp).get? stdoutKey = some text ∧
      (placeholders buildImage).get? stdoutKey = some text) ∧
    compile twoBuilds .empty (.calling "tool") = .ok (unlines ["#!/usr/bin/env bash", "set -e",
      "make app", "make image",
      "echo $\x7bBUILD_APP_STDOUT\x7d $\x7bBUILD_APP_STDOUT\x7d"]) := by
  refine ⟨rfl, by decide, ⟨_, rfl, by decide⟩, ?_⟩
  rw [compile_eq]
  decide +kernel

theorem pushBoth_reads_alike : ∃ text,
    StandsFor (placed [buildApp, buildImage]) buildApp stdoutKey text ∧
    StandsFor (placed [buildApp, buildImage]) buildImage stdoutKey text := by
  have hsplit : twoBuilds.steps = [buildApp, buildImage] ++ pushBoth :: [] := rfl
  have happ : buildApp ∈ [buildApp, buildImage] := List.mem_cons_self
  have himage : buildImage ∈ [buildApp, buildImage] := List.mem_cons_of_mem _ List.mem_cons_self
  have hkey : stdoutKey ∈ [stdoutKey] := List.mem_cons_self
  obtain ⟨-, hreads⟩ := later_step_reads twoBuilds hsplit .empty (.calling "tool")
  obtain ⟨hstands, hothers⟩ := hreads buildApp happ stdoutKey hkey
  obtain ⟨-, hcommands, -⟩ := hothers buildImage himage stdoutKey hkey
  have halike : List.Forall₂ SameInName buildApp.name.toList buildImage.name.toList := by decide
  refine ⟨placeholderFor buildApp stdoutKey, hstands, ?_⟩
  rw [(hcommands _ _ rfl rfl).mpr halike]
  exact (hreads buildImage himage stdoutKey hkey).1

end Pipeline.Script
