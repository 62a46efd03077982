import Pipeline.Proofs.Cli.Callback
import Pipeline.Proofs.Shell.Literal

/-!
# The name that a script calls back with

A function step is compiled to a line in which the program is called back with the name of the step
in quotes. The step is found under what a shell reads there only if this is the name
(`name_of_funcOf`), which it is for names of characters that stand for themselves
(`calledName_read`).
-/

namespace Pipeline.Cli
open Text Shell Script

/-- A name that finds a step is its name. -/
theorem name_of_funcOf {task : Task} {name : String} {s : Step} {f : Func}
    (h : funcOf task name = .ok (s, f)) : s.name = name := by
  unfold funcOf at h
  cases hfind : task.find? name with
  | none =>
      rw [hfind] at h
      cases h
  | some found =>
      rw [hfind] at h
      have hname : found.name = name := by simpa using List.find?_some hfind
      cases hr : found.runnable with
      | command c =>
          simp only [hr] at h
          cases h
      | func g =>
          simp only [hr] at h
          cases h
          exact hname

/-- A function step is compiled to a line that calls the program back with the name of the step in
quotes. By the rules for double quotes, what is quoted is read to the last quote and no further. It
is the name, so that the name finds the step, exactly if each character stands for itself; where it
is literal at all, both shells read it so. -/
theorem calledName_read (task : Task) {s : Step} {f : Func} (hs : s ∈ task.steps)
    (hf : s.runnable = .func f) (o : Script.Options) (inputs : Inputs) (state : RunState) :
    ∃ word, stepLine o inputs state s = .ok (o.selfInvocation ++ " run-task-step " ++ word) ∧
      ∃ inner text, word.toList = '"' :: inner ++ ['"'] ∧
        (∀ rest, readLiteral (inner ++ '"' :: rest) = some ⟨text, rest⟩) ∧
        (text = none ↔ '$' ∈ s.name.toList ∨ '\x60' ∈ s.name.toList) ∧
        (text = some s.name.toList ↔ ∀ c ∈ s.name.toList, Survives c) ∧
        ((∃ name, text = some name ∧ funcOf task (.ofList name) = .ok (s, f)) ↔
          ∀ c ∈ s.name.toList, Survives c) ∧
        ∀ name, text = some name → ∀ d,
          IsWord d (Raw.ofText word) [.quoted (Raw.ofText (.ofList name))] := by
  refine ⟨quoted s.name, by simp only [stepLine, hf], escape s.name.toList,
    heardText s.name.toList, toList_quoted s.name, readLiteral_escape _, heardText_eq_none_iff,
    heardText_eq_self_iff, ?_, ?_⟩
  · rw [← heardText_eq_self_iff]
    constructor
    · rintro ⟨name, htext, hfound⟩
      have hname : s.name.toList = name := by rw [name_of_funcOf hfound, String.toList_ofList]
      rw [htext, hname]
    · intro htext
      exact ⟨_, htext, by rw [String.ofList_toList]; exact funcOf_name hs hf⟩
  · intro name htext d
    exact isWord_quoted (by rw [String.toList_ofList]; exact htext)

/-- A step with quotes and backslashes in its name. -/
def noteStep : Step := ⟨"note \"C:\\\", \\", .func ⟨"note", [], .done⟩⟩

def noting : Task where
  steps := [noteStep]
  cleanup := []
  inputs := .forInputs
  distinct := by decide

theorem noteStep_read : ∃ inner,
    stepLine (.calling "tool") .empty .empty noteStep =
      .ok ("tool run-task-step " ++ .ofList ('"' :: inner ++ ['"'])) ∧
    (∀ rest, readLiteral (inner ++ '"' :: rest) = some ⟨some noteStep.name.toList, rest⟩) ∧
    funcOf noting noteStep.name = .ok (noteStep, ⟨"note", [], .done⟩) := by
  obtain ⟨word, hline, inner, text, hword, hread, -, hsame, hfound, -⟩ :=
    calledName_read noting (s := noteStep) List.mem_cons_self rfl (.calling "tool") .empty .empty
  have hall : noteStep.name.toList.all (fun c => decide (Survives c)) = true := by decide
  have hsurvives : ∀ c ∈ noteStep.name.toList, Survives c := by
    simpa only [List.all_eq_true, decide_eq_true_eq] using hall
  obtain ⟨name, hname, hfunc⟩ := hfound.mpr hsurvives
  have htext := hsame.mpr hsurvives
  rw [htext] at hread hname
  cases hname
  rw [String.ofList_toList] at hfunc
  refine ⟨inner, ?_, hread, hfunc⟩
  rw [hline, ← hword, String.ofList_toList]
  rfl

end Pipeline.Cli
