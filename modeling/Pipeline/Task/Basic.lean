import Pipeline.Task.Step

/-!
# Tasks

A task is a list of steps that run in order, a list of cleanup steps that never run with them, and
the keys of its inputs. No two of its steps have one name, so a name finds one step at most.
-/

namespace Pipeline

/-- Steps and cleanup steps with distinct names, and the inputs they may refer to. -/
structure Task where
  steps : List Step
  cleanup : List Step
  inputs : Registry
  distinct : ((steps ++ cleanup).map Step.name).Nodup

/-- Distinct names find the step they belong to. -/
theorem find?_name {steps : List Step} {s : Step} (hd : (steps.map Step.name).Nodup)
    (hs : s ∈ steps) : steps.find? (fun x => x.name == s.name) = some s := by
  induction steps with
  | nil => cases hs
  | cons x steps ih =>
      rw [List.map_cons, List.nodup_cons] at hd
      rcases List.mem_cons.mp hs with rfl | hmem
      · simp
      · have hne : x.name ≠ s.name := fun heq => hd.1 (heq ▸ List.mem_map_of_mem hmem)
        rw [List.find?_cons_of_neg (by simpa using hne)]
        exact ih hd.2 hmem

/-- Two steps of one name are the same step. -/
theorem eq_of_name {steps : List Step} {x y : Step} (hd : (steps.map Step.name).Nodup)
    (hx : x ∈ steps) (hy : y ∈ steps) (hname : x.name = y.name) : x = y := by
  have hfind := find?_name hd hx
  rw [hname, find?_name hd hy] at hfind
  exact (Option.some.inj hfind).symm

theorem nodup_names_left {xs ys : List Step} (hd : ((xs ++ ys).map Step.name).Nodup) :
    (xs.map Step.name).Nodup := by
  rw [List.map_append] at hd
  exact (List.nodup_append.mp hd).1

theorem name_ne_of_nodup {xs ys : List Step} {x y : Step}
    (hd : ((xs ++ ys).map Step.name).Nodup) (hx : x ∈ xs) (hy : y ∈ ys) : x.name ≠ y.name := by
  rw [List.map_append, List.nodup_append] at hd
  exact hd.2.2 x.name (List.mem_map_of_mem hx) y.name (List.mem_map_of_mem hy)

namespace Task

/-- The names of the steps, then those of the cleanup steps. -/
def names (t : Task) : List String := (t.steps ++ t.cleanup).map Step.name

/-- The step of a name, among the main and the cleanup steps. -/
def find? (t : Task) (name : String) : Option Step :=
  (t.steps ++ t.cleanup).find? fun s => s.name == name

theorem nodup_steps (t : Task) : (t.steps.map Step.name).Nodup := nodup_names_left t.distinct

end Task
end Pipeline
