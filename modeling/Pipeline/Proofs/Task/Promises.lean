import Mathlib.Data.List.Induction
import Mathlib.Data.List.Sort
import Pipeline.Proofs.Task.Declared

/-!
# The keys that a registry promises

A registry keeps a key where it was defined first, so its keys are those that were defined, each
once, in the order of their first definition (`Registry.inFirstOrder_defineAll`), and there is one
such list for a row of definitions (`InFirstOrder.unique`). It hands out references to these keys
in the name of its owner, and the references of no owner are those to inputs. A client that defines
keys and asks questions in turn is answered the same when it defines some of the keys again
(`Registry.answers_redefining`). The outputs of a step and the inputs of a task are such registries
(`Registry.definitions_kept`).
-/

namespace Pipeline

/-- The keys are those that were defined, each once, and of two keys the one that was defined first
stands first. -/
structure InFirstOrder (defined keys : List String) : Prop where
  distinct : keys.Nodup
  mem : ∀ key, key ∈ keys ↔ key ∈ defined
  order : keys.Pairwise fun a b => defined.idxOf a < defined.idxOf b

namespace InFirstOrder
variable {defined keys keys' : List String} {key : String}

theorem nil : InFirstOrder [] [] := ⟨.nil, fun _ => Iff.rfl, .nil⟩

theorem unique (h : InFirstOrder defined keys) (h' : InFirstOrder defined keys') :
    keys = keys' := by
  have hirrefl : Std.Irrefl fun a b => defined.idxOf a < defined.idxOf b :=
    ⟨fun a => Nat.lt_irrefl _⟩
  have hantisymm : Std.Antisymm fun a b => defined.idxOf a < defined.idxOf b :=
    ⟨fun a b hab hba => absurd hba (Nat.lt_asymm hab)⟩
  refine h.order.eq_of_mem_iff h'.order fun key => ?_
  rw [h.mem, h'.mem]

/-- Behind all that was defined, one more definition moves no key. -/
theorem order_concat (h : InFirstOrder defined keys) (key : String) :
    keys.Pairwise fun a b => (defined ++ [key]).idxOf a < (defined ++ [key]).idxOf b := by
  refine h.order.imp_of_mem fun {a b} ha hb hab => ?_
  rw [List.idxOf_append_of_mem ((h.mem a).mp ha), List.idxOf_append_of_mem ((h.mem b).mp hb)]
  exact hab

theorem again (h : InFirstOrder defined keys) (hkey : key ∈ keys) :
    InFirstOrder (defined ++ [key]) keys := by
  refine ⟨h.distinct, fun k => ?_, h.order_concat key⟩
  rw [h.mem, List.mem_append, List.mem_singleton]
  exact ⟨.inl, fun hk => hk.elim id fun hk => hk ▸ (h.mem key).mp hkey⟩

theorem concat (h : InFirstOrder defined keys) (hkey : key ∉ keys) :
    InFirstOrder (defined ++ [key]) (keys ++ [key]) := by
  have hnew : key ∉ defined := fun hmem => hkey ((h.mem key).mpr hmem)
  refine ⟨List.nodup_append.mpr ⟨h.distinct, List.nodup_singleton key, ?_⟩, fun k => ?_, ?_⟩
  · rintro a ha b hb rfl
    exact hkey (List.mem_singleton.mp hb ▸ ha)
  · rw [List.mem_append, List.mem_append, h.mem]
  · refine List.pairwise_append.mpr ⟨h.order_concat key, List.pairwise_singleton .., ?_⟩
    intro a ha b hb
    rw [List.mem_singleton.mp hb, List.idxOf_append_of_mem ((h.mem a).mp ha),
      List.idxOf_append_of_notMem hnew]
    exact Nat.lt_add_right _ (List.idxOf_lt_length_of_mem ((h.mem a).mp ha))

end InFirstOrder

namespace Registry

/-- A registry with no key: that of a step, or without an owner that of the inputs of a task. -/
def ofOwner : Option String → Registry
  | some step => forStep step
  | none => forInputs

/-- The registry of an owner after some definitions: which keys it has, which references it hands
out, and how it refuses. -/
structure Promises (r : Registry) (owner : Option String) (defined : List String) : Prop where
  keys : ∀ keys, r.keys = keys ↔ InFirstOrder defined keys
  get_ok : ∀ key ref, r.get key = .ok ref ↔ key ∈ defined ∧ ref = ⟨owner, key⟩
  get_error : ∀ key e, r.get key = .error e ↔ key ∉ defined ∧ e = .notDefined owner key
  isInput : ∀ key ref, r.get key = .ok ref → (ref.isInput = true ↔ owner = none)

theorem owner_ofOwner (owner : Option String) : (ofOwner owner).owner = owner := by
  cases owner <;> rfl

theorem keys_ofOwner (owner : Option String) : (ofOwner owner).keys = [] := by
  cases owner <;> rfl

theorem inFirstOrder_define {r : Registry} {defined : List String}
    (h : InFirstOrder defined r.keys) (key : String) :
    InFirstOrder (defined ++ [key]) (r.define key).keys := by
  by_cases hkey : key ∈ r.keys
  · rw [define_of_mem hkey]
    exact h.again hkey
  · rw [define_keys_of_not_mem hkey]
    exact h.concat hkey

theorem inFirstOrder_defineAll (owner : Option String) (defined : List String) :
    InFirstOrder defined ((ofOwner owner).defineAll defined).keys := by
  -- from the end, since the place of a key is counted from the first definition
  induction defined using List.reverseRecOn with
  | nil =>
      rw [defineAll, List.foldl_nil, keys_ofOwner]
      exact .nil
  | append_singleton defined key ih =>
      rw [defineAll_append]
      exact inFirstOrder_define ih key

theorem promises_of_inFirstOrder {r : Registry} {defined : List String}
    (h : InFirstOrder defined r.keys) : r.Promises r.owner defined where
  keys := fun keys => ⟨fun hkeys => hkeys ▸ h, h.unique⟩
  get_ok := fun key ref => by rw [get_eq_ok_iff, h.mem]
  get_error := fun key e => by rw [get_eq_error_iff, h.mem]
  isInput := fun key ref href => by
    obtain ⟨-, rfl⟩ := get_eq_ok_iff.mp href
    exact Option.isNone_iff_eq_none

theorem promises_defineAll (owner : Option String) (defined : List String) :
    ((ofOwner owner).defineAll defined).Promises owner defined := by
  have h := promises_of_inFirstOrder (inFirstOrder_defineAll owner defined)
  rw [owner_defineAll, owner_ofOwner] at h
  exact h

/-! ### Definitions among questions -/

/-- What a registry can be asked. -/
inductive Question where
  | get (key : String)
  | contains (key : String)
  | keys
  | owner
  | size
  | isEmpty

inductive Answer where
  | ref (result : Except DefineError Ref)
  | keys (keys : List String)
  | owner (owner : Option String)
  | size (n : Nat)
  | holds (b : Bool)

def answer (r : Registry) : Question → Answer
  | .get key => .ref (r.get key)
  | .contains key => .holds (r.contains key)
  | .keys => .keys r.keys
  | .owner => .owner r.owner
  | .size => .size r.size
  | .isEmpty => .holds r.isEmpty

/-- What a client does with a registry. -/
inductive Call where
  | define (key : String)
  | ask (q : Question)

/-- The answers to the questions among some calls, in turn. -/
def answers (r : Registry) : List Call → List Answer
  | [] => []
  | .define key :: calls => (r.define key).answers calls
  | .ask q :: calls => r.answer q :: r.answers calls

/-- The second calls are the first, with definitions put in of keys that are known where they
stand, be it from the beginning or since an earlier definition. -/
inductive Redefining : List String → List Call → List Call → Prop
  | nil {known : List String} : Redefining known [] []
  | define {known : List String} {calls calls' : List Call} (key : String) :
      Redefining (key :: known) calls calls' →
      Redefining known (.define key :: calls) (.define key :: calls')
  | ask {known : List String} {calls calls' : List Call} (q : Question) :
      Redefining known calls calls' → Redefining known (.ask q :: calls) (.ask q :: calls')
  | again {known : List String} {calls calls' : List Call} {key : String} : key ∈ known →
      Redefining known calls calls' → Redefining known calls (.define key :: calls')

/-- The registry has every known key, so a definition that was put in leaves it as it is. -/
theorem answers_redefining {known : List String} {calls calls' : List Call}
    (h : Redefining known calls calls') {r : Registry} (hknown : ∀ key ∈ known, key ∈ r.keys) :
    r.answers calls = r.answers calls' := by
  induction h generalizing r with
  | nil => rfl
  | define key _ ih =>
      refine ih (r := r.define key) fun k hk => mem_define.mpr ?_
      exact (List.mem_cons.mp hk).elim .inr fun hk => .inl (hknown k hk)
  | ask q _ ih => rw [answers, answers, ih hknown]
  | again hkey _ ih => rw [answers, define_of_mem (hknown _ hkey), ih hknown]

/-- A registry promises what was defined in it, whoever owns it: a step what its command or function
puts out, and the inputs of a task what was declared. A key that the registry has, or has by then,
can be defined again at any point and changes no answer. -/
theorem definitions_kept :
    (∀ owner defined, ((ofOwner owner).defineAll defined).Promises owner defined) ∧
    (∀ s : Step, s.outputs.Promises (some s.name) s.runnable.outputKeys) ∧
    (∀ declarations, (Builder.told declarations).inputs.Promises none
      (declarations.filterMap Declaration.key?)) ∧
    ∀ (r : Registry) calls calls', Redefining r.keys calls calls' →
      r.answers calls = r.answers calls' := by
  refine ⟨promises_defineAll, fun s => ?_, fun declarations => ?_, fun r calls calls' h => ?_⟩
  · exact promises_defineAll (some s.name) s.runnable.outputKeys
  · rw [Builder.told_inputs]
    exact promises_defineAll none _
  · exact answers_redefining h fun key hkey => hkey

end Registry

/-- Definitions and questions about the outputs of one step. -/
def pathCalls : List Registry.Call :=
  [.define "path", .ask .keys, .define "log", .ask (.get "path"), .ask (.get "stdout"), .ask .keys]

/-- The same with both keys defined again, one of them twice. -/
def pathCallsAgain : List Registry.Call :=
  [.define "path", .define "path", .ask .keys, .define "log", .define "path", .ask (.get "path"),
    .ask (.get "stdout"), .define "log", .ask .keys]

theorem pathCalls_kept :
    Registry.Redefining (Registry.forStep "generate").keys pathCalls pathCallsAgain ∧
    (Registry.forStep "generate").answers pathCallsAgain =
      [.keys ["path"], .ref (.ok (.output "generate" "path")),
        .ref (.error (.notDefined (some "generate") "stdout")), .keys ["path", "log"]] ∧
    (Step.outputs ⟨"generate", .func ⟨"gen", ["path", "log", "path"], .done⟩⟩).keys =
      ["path", "log"] := by
  obtain ⟨-, hstep, -, hagain⟩ := Registry.definitions_kept
  have hcalls : Registry.Redefining (Registry.forStep "generate").keys pathCalls pathCallsAgain :=
    .define "path" (.again (by decide) (.ask _ (.define "log" (.again (by decide)
      (.ask _ (.ask _ (.again (by decide) (.ask _ .nil))))))))
  refine ⟨hcalls, ?_, ?_⟩
  · exact (hagain (.forStep "generate") _ _ hcalls).symm
  · refine ((hstep _).keys _).mpr ⟨by decide, fun key => ?_, by decide⟩
    simp only [Runnable.outputKeys, List.mem_cons, List.not_mem_nil]
    tauto

end Pipeline
