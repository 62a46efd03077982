import Pipeline.Task.Basic

/-!
# Building tasks

A builder collects inputs, steps and cleanup steps in the order of their declaration. Declaring a
step gives a handle to its outputs. `Builder.build` makes a task of what was declared, unless two of
the steps have one name.
-/

namespace Pipeline

/-- The first name that occurred before, or was seen already. -/
def firstRepeat (seen : List String) : List String → Option String
  | [] => none
  | n :: ns => if n ∈ seen then some n else firstRepeat (n :: seen) ns

theorem firstRepeat_eq_none_iff {seen ns : List String} :
    firstRepeat seen ns = none ↔ ns.Nodup ∧ ∀ n ∈ ns, n ∉ seen := by
  induction ns generalizing seen with
  | nil => simp [firstRepeat]
  | cons n ns ih =>
    unfold firstRepeat
    split
    · rename_i h
      simp [h]
    · rename_i h
      rw [ih, List.nodup_cons]
      constructor
      · rintro ⟨hd, hs⟩
        exact ⟨⟨fun hn => (hs n hn) (by simp), hd⟩, fun m hm => by
          rcases List.mem_cons.1 hm with rfl | hm
          · exact h
          · exact fun hms => hs m hm (by simp [hms])⟩
      · rintro ⟨⟨hn, hd⟩, hs⟩
        refine ⟨hd, fun m hm hms => ?_⟩
        rcases List.mem_cons.1 hms with rfl | hms
        · exact hn hm
        · exact hs m (by simp [hm]) hms

/-- A declared step, as later declarations see it. -/
structure Handle where
  outputs : Registry

namespace Handle

/-- A reference to an output of the declared step. -/
def get (h : Handle) (key : String) : Except DefineError Ref := h.outputs.get key

/-- The name of the declared step. -/
def name (h : Handle) : String := h.outputs.owner.getD ""

end Handle

/-- What was declared so far. -/
structure Builder where
  steps : List Step
  cleanup : List Step
  inputs : Registry

namespace Builder

/-- Nothing is declared. -/
def empty : Builder := ⟨[], [], .forInputs⟩

/-- Declares an input; declaring it again changes nothing. -/
def declareInput (b : Builder) (key : String) : Builder := { b with inputs := b.inputs.define key }

/-- A reference to a declared input. -/
def input (b : Builder) (key : String) : Except DefineError Ref := b.inputs.get key

def step (b : Builder) (name : String) (runnable : Runnable) : Handle × Builder :=
  let s : Step := ⟨name, runnable⟩
  (⟨s.outputs⟩, { b with steps := b.steps ++ [s] })

/-- Appends a cleanup step. -/
def defer (b : Builder) (name : String) (runnable : Runnable) : Builder :=
  { b with cleanup := b.cleanup ++ [⟨name, runnable⟩] }

/-- The task that was declared, unless two of its steps have one name. -/
def build (b : Builder) : Except DefineError Task :=
  match h : firstRepeat [] ((b.steps ++ b.cleanup).map Step.name) with
  | some name => .error (.duplicateStep name)
  | none => .ok ⟨b.steps, b.cleanup, b.inputs, (firstRepeat_eq_none_iff.1 h).1⟩

end Builder
end Pipeline
