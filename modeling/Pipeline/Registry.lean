import Pipeline.Ref
import Pipeline.Text.Quoted

/-!
# Registries of keys

A registry lists the keys that a step, or the inputs of a task, promises, each once and in the order
of their first definition. It hands out references to those keys and to no other.
-/

namespace Pipeline
open Text

/-- What can be wrong with the definition of a task. -/
inductive DefineError where
  /-- A key was asked for that its owner never declared; no owner means the inputs. -/
  | notDefined (owner : Option String) (key : String)
  /-- Two steps have one name. -/
  | duplicateStep (name : String)
deriving DecidableEq, Repr

namespace DefineError

/-- The owner of a registry in messages. -/
def describeOwner : Option String → String
  | some step => "step " ++ quoted step
  | none => "task input list"

/-- The text of a definition error. -/
def message : DefineError → String
  | .notDefined owner key => describeOwner owner ++ " does not have " ++ quoted key ++ " defined"
  | .duplicateStep name => "step name " ++ quoted name ++ " is declared more than once"

end DefineError

/-- Keys in the order of their first definition, each once. -/
structure Registry where
  /-- The step whose outputs the keys are, or none for the inputs of a task. -/
  owner : Option String
  keys : List String
  distinct : keys.Nodup

namespace Registry

/-- The outputs of a step, none declared yet. -/
def forStep (step : String) : Registry := ⟨some step, [], .nil⟩

/-- The inputs of a task, none declared yet. -/
def forInputs : Registry := ⟨none, [], .nil⟩

/-- Whether a key was declared. -/
def contains (r : Registry) (key : String) : Bool := r.keys.contains key

/-- Declares a key. A key declared before keeps its place. -/
def define (r : Registry) (key : String) : Registry :=
  if h : key ∈ r.keys then r
  else ⟨r.owner, r.keys ++ [key], by
    refine List.nodup_append.2 ⟨r.distinct, by simp, fun a ha b hb => ?_⟩
    rintro rfl
    exact h (List.mem_singleton.1 hb ▸ ha)⟩

/-- Declares keys in turn. -/
def defineAll (r : Registry) (keys : List String) : Registry := keys.foldl define r

/-- A reference to a declared key. -/
def get (r : Registry) (key : String) : Except DefineError Ref :=
  if r.contains key then .ok ⟨r.owner, key⟩ else .error (.notDefined r.owner key)

/-- The number of declared keys. -/
def size (r : Registry) : Nat := r.keys.length
def isEmpty (r : Registry) : Bool := r.keys.isEmpty

theorem ext {r s : Registry} (ho : r.owner = s.owner) (hk : r.keys = s.keys) : r = s := by
  cases r; cases s; cases ho; cases hk; rfl

@[simp] theorem define_owner (r : Registry) (key : String) : (r.define key).owner = r.owner := by
  unfold define; split <;> rfl

theorem define_of_mem {r : Registry} {key : String} (h : key ∈ r.keys) : r.define key = r := by
  simp [define, h]

theorem define_keys_of_not_mem {r : Registry} {key : String} (h : key ∉ r.keys) :
    (r.define key).keys = r.keys ++ [key] := by simp [define, h]

@[simp] theorem mem_define {r : Registry} {key k : String} :
    k ∈ (r.define key).keys ↔ k ∈ r.keys ∨ k = key := by
  by_cases h : key ∈ r.keys
  · rw [define_of_mem h]
    exact ⟨.inl, fun hk => hk.elim id fun hk => hk ▸ h⟩
  · simp [define_keys_of_not_mem h]

@[simp] theorem owner_defineAll (r : Registry) (keys : List String) :
    (r.defineAll keys).owner = r.owner := by
  unfold defineAll
  induction keys generalizing r with
  | nil => rfl
  | cons key keys ih =>
      rw [List.foldl_cons, ih, define_owner]

theorem mem_defineAll {r : Registry} {keys : List String} {k : String} :
    k ∈ (r.defineAll keys).keys ↔ k ∈ r.keys ∨ k ∈ keys := by
  unfold defineAll
  induction keys generalizing r with
  | nil => simp
  | cons key keys ih =>
      rw [List.foldl_cons, ih, mem_define, List.mem_cons, or_assoc]

theorem defineAll_append (r : Registry) (keys : List String) (key : String) :
    r.defineAll (keys ++ [key]) = (r.defineAll keys).define key := by
  rw [defineAll, List.foldl_append]
  rfl

theorem get_eq_ok_iff {r : Registry} {key : String} {ref : Ref} :
    r.get key = .ok ref ↔ key ∈ r.keys ∧ ref = ⟨r.owner, key⟩ := by
  by_cases h : key ∈ r.keys <;> simp [get, contains, h, eq_comm]

theorem get_eq_error_iff {r : Registry} {key : String} {e : DefineError} :
    r.get key = .error e ↔ key ∉ r.keys ∧ e = .notDefined r.owner key := by
  by_cases h : key ∈ r.keys <;> simp [get, contains, h, eq_comm]

end Registry
end Pipeline
