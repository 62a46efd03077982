import Mathlib.Data.List.Nodup
import Pipeline.Proofs.Shell.Environment
import Pipeline.Proofs.Shell.Expansion
import Pipeline.Proofs.Shell.Spelling
import Pipeline.Shell.Invocation

/-!
# What a new shell finds in its environment

A new shell takes over what its environment holds under the name of a variable, apart from the
variables that it sets itself, and a parameter of such a name is expanded to just that
(`parameter_starting`). What the environment holds under any other name is no variable of the shell,
and no parameter reads it (`lookup_starting_of_not_name`).
-/

namespace Pipeline.Shell
open Sh

/-- The variables that a new shell sets itself, and the one that is its line. -/
def ownNames : List String :=
  ["IFS", "PWD", "PPID", "OPTIND", "PS4", levelVariable, "PATH", "UID", "EUID", "OLDPWD", "LINENO"]

theorem isName_ownNames : ∀ name ∈ ownNames, isName name.toList = true := by decide

theorem lookup_setVariable_of_ne {name other : String} (hne : name ≠ other) (v : Variable)
    (vars : List (String × Variable)) :
    (setVariable other v vars).lookup name = vars.lookup name := by
  have hother : (name == other) = false := beq_false_of_ne hne
  have hmap : (vars.map fun e => if e.1 = other then (other, v) else e).lookup name =
      vars.lookup name := by
    induction vars with
    | nil => rfl
    | cons e vars ih =>
        obtain ⟨k, u⟩ := e
        rw [List.map_cons]
        by_cases hk : k = other
        · subst hk
          rw [if_pos rfl, List.lookup_cons, List.lookup_cons, hother, ih]
        · rw [if_neg hk, List.lookup_cons, List.lookup_cons, ih]
  unfold setVariable
  split
  · exact hmap
  · rw [List.lookup_cons, hother]

/-- What a new shell takes over, its own variables among it. -/
def inherited (env : List (Raw × Raw)) : List (String × Variable) :=
  let named := (env.filter fun e => isName e.1).map fun e =>
    (String.ofList e.1, (⟨some e.2, true, false⟩ : Variable))
  let (path, others) := named.partition fun e => e.1 = "PATH"
  (path ++ others).reverse

theorem mem_inherited {env : List (Raw × Raw)} {name : String} {v : Variable} :
    (name, v) ∈ inherited env ↔
      ∃ value, (name.toList, value) ∈ env ∧ isName name.toList = true ∧
        v = ⟨some value, true, false⟩ := by
  unfold inherited
  simp only [List.partition_eq_filter_filter, List.mem_reverse, List.mem_append, List.mem_filter,
    Function.comp_apply]
  rw [← and_or_left]
  have hem : (decide (name = "PATH") = true ∨ (!decide (name = "PATH")) = true) := by
    cases decide (name = "PATH") <;> simp
  simp only [hem, and_true, List.mem_map, List.mem_filter, Prod.mk.injEq]
  constructor
  · rintro ⟨⟨k, value⟩, ⟨hmem, hname⟩, rfl, rfl⟩
    exact ⟨value, by simpa using hmem, by simpa using hname, rfl⟩
  · rintro ⟨value, hmem, hname, rfl⟩
    exact ⟨(name.toList, value), ⟨hmem, hname⟩, String.ofList_toList, rfl⟩

theorem lookup_startingVariables (d : Dialect) (here : Place) (env : List (Raw × Raw))
    {name : String} (hown : name ∉ ownNames) :
    (startingVariables d here env).lookup name = (inherited env).lookup name := by
  simp only [ownNames, List.mem_cons, List.not_mem_nil, or_false, not_or] at hown
  obtain ⟨hifs, hpwd, hppid, hoptind, hps4, hlevel, hpath, huid, heuid, holdpwd, -⟩ := hown
  have horElse (other : String) (hne : name ≠ other) (v : Variable) (vars : List (String × Variable)) :
      (if (vars.lookup other).isSome then vars else setVariable other v vars).lookup name =
        vars.lookup name := by
    split
    · rfl
    · exact lookup_setVariable_of_ne hne v vars
  unfold startingVariables
  cases d with
  | dash =>
      simp only [lookup_setVariable_of_ne hppid, lookup_setVariable_of_ne hoptind, horElse _ hps4,
        lookup_setVariable_of_ne hpwd, lookup_setVariable_of_ne hifs]
      rfl
  | bash =>
      simp only [lookup_setVariable_of_ne hppid, lookup_setVariable_of_ne hoptind, horElse _ hps4,
        lookup_setVariable_of_ne hpwd, lookup_setVariable_of_ne hifs,
        horElse _ holdpwd, lookup_setVariable_of_ne huid, lookup_setVariable_of_ne heuid,
        horElse _ hpath, lookup_setVariable_of_ne hlevel]
      rfl

/-- What a new shell takes over has the value that it has in the environment. -/
theorem lookup_inherited {env : List (Raw × Raw)} (hkeys : (env.map Prod.fst).Nodup)
    {name : String} (hname : isName name.toList = true) :
    (inherited env).lookup name =
      (env.lookup name.toList).map fun value => ⟨some value, true, false⟩ := by
  cases hfound : env.lookup name.toList with
  | none =>
      refine List.lookup_eq_none_iff.mpr fun e he => ?_
      obtain ⟨value, hmem, -, -⟩ := mem_inherited.mp he
      have hne : name.toList ≠ e.1.toList := by simpa using List.lookup_eq_none_iff.mp hfound _ hmem
      simpa [String.toList_inj] using hne
  | some value =>
      obtain ⟨before, after, hsplit, -⟩ := List.lookup_eq_some_iff.mp hfound
      have hmem : (name.toList, value) ∈ env := by simp [hsplit]
      have hholds : Holds (inherited env) name ⟨some value, true, false⟩ := by
        refine ⟨mem_inherited.mpr ⟨value, hmem, hname, rfl⟩, ?_⟩
        rintro ⟨k, v⟩ he rfl
        obtain ⟨other, hother, -, rfl⟩ := mem_inherited.mp he
        -- No name stands twice in the environment, so this is the same entry.
        have hsame := List.inj_on_of_nodup_map hkeys hother hmem rfl
        cases hsame
        rfl
      exact hholds.lookup

/-- Nothing is taken over under what is no name of a variable. -/
theorem lookup_starting_of_not_name (d : Dialect) (here : Place) (env : List (Raw × Raw))
    {name : String} (hname : isName name.toList = false) :
    (startingVariables d here env).lookup name = none := by
  have hown : name ∉ ownNames := fun hmem => by
    rw [isName_ownNames name hmem] at hname
    cases hname
  rw [lookup_startingVariables d here env hown]
  refine List.lookup_eq_none_iff.mpr fun e he => ?_
  obtain ⟨value, -, hyes, -⟩ := mem_inherited.mp he
  rw [bne_iff_ne]
  rintro rfl
  rw [hyes] at hname
  cases hname

/-- The value of a parameter that is a variable. -/
def Value.ofOption : Option Raw → Value
  | some text => .one text
  | none => .unset

theorem parameter_name {name : String} (hname : isName name.toList = true)
    (hline : name ≠ "LINENO") (w : Scene) :
    parameter name w =
      .ok (.ofOption ((w.shell.vars.lookup name).bind (·.value))) w := by
  have hdigits : name.toList.all Char.isDigit = false := by
    obtain ⟨c, cs, htext, hc, -⟩ := isName_cons hname
    simp [htext, isDigit_of_isNameStart hc]
  unfold parameter
  rw [bind_of_ok (shell_apply w)]
  split
  case h_9 =>
    rw [if_neg fun h => hline h.1, if_neg (by simp [hdigits]), bind_of_ok (lookup_apply name w)]
    cases (w.shell.vars.lookup name).bind (·.value) <;> rfl
  -- No special parameter has the name of a variable.
  all_goals exact absurd hname (by decide)

/-- A parameter with the name of a variable is what a new shell found under it, unless the shell
sets it itself. -/
theorem parameter_starting (d : Dialect) (process : ShellState) {env : List (Raw × Raw)}
    (hkeys : (env.map Prod.fst).Nodup) (origin : ScriptOrigin) (options : Options)
    (speaker : Raw) (args : List Raw) (m : MachineState) {name : String}
    (hname : isName name.toList = true) (hown : name ∉ ownNames) :
    let start : Scene := ⟨startingState d process env origin options speaker args, m⟩
    parameter name start = .ok (.ofOption (env.lookup name.toList)) start := by
  intro start
  have hline : name ≠ "LINENO" := by
    rintro rfl
    exact hown (by decide)
  have hvars : start.shell.vars.lookup name =
      (env.lookup name.toList).map fun value => ⟨some value, true, false⟩ := by
    rw [← lookup_inherited hkeys hname]
    exact lookup_startingVariables d process.here env hown
  rw [parameter_name hname hline, hvars]
  cases env.lookup name.toList <;> rfl

end Pipeline.Shell
