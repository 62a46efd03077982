import Mathlib.Data.List.Sort
import Mathlib.Data.String.Basic
import Pipeline.Proofs.Script.Cut
import Pipeline.Proofs.Task.Declared
import Pipeline.Proofs.Text.ByteOrder

/-!
# The inputs of a script

A builder keeps an input in the place where it was declared first, but a script has the guards in
the order of the keys (`Script.guarded_eq`). So a script depends on the set of the declared inputs,
not on where and how often they were declared (`Script.write_same_inputs`). If some have no value,
the least of them is reported, behind the guards of all that are smaller.
-/

namespace Pipeline

/-- Calls that declare the same steps, of each kind in the same order, and the same set of
inputs. -/
structure SameTask (calls calls' : List Declaration) : Prop where
  main : calls.filterMap Declaration.main? = calls'.filterMap Declaration.main?
  cleanup : calls.filterMap Declaration.cleanup? = calls'.filterMap Declaration.cleanup?
  inputs : ∀ key, .input key ∈ calls ↔ .input key ∈ calls'

theorem Declaration.mem_filterMap_key {calls : List Declaration} {key : String} :
    key ∈ calls.filterMap key? ↔ .input key ∈ calls := by
  rw [List.mem_filterMap]
  constructor
  · rintro ⟨d, hd, hkey⟩
    cases d with
    | input k =>
        cases hkey
        exact hd
    | step => cases hkey
    | defer => cases hkey
  · exact fun h => ⟨_, h, rfl⟩

namespace Builder
variable {calls calls' : List Declaration}

theorem mem_told_inputs {key : String} : key ∈ (told calls).inputs.keys ↔ .input key ∈ calls := by
  rw [told_inputs, Registry.mem_defineAll, Declaration.mem_filterMap_key]
  simp [Registry.forInputs]

theorem build_error_of_same (h : SameTask calls calls') (e : DefineError) :
    (told calls).build = .error e ↔ (told calls').build = .error e := by
  rw [build_eq_error_iff, build_eq_error_iff, told_steps, told_steps, told_cleanup, told_cleanup,
    h.main, h.cleanup]

/-- What the other calls come to has the same main steps and the same set of inputs. -/
theorem build_of_same (h : SameTask calls calls') {task : Task}
    (hbuild : (told calls).build = .ok task) : ∃ task', (told calls').build = .ok task' ∧
      task.steps = task'.steps ∧ ∀ key, key ∈ task.inputs.keys ↔ key ∈ task'.inputs.keys := by
  cases hbuild' : (told calls').build with
  | error e =>
      rw [(build_error_of_same h e).mpr hbuild'] at hbuild
      cases hbuild
  | ok task' =>
      obtain ⟨hsteps, -, hinputs⟩ := build_ok hbuild
      obtain ⟨hsteps', -, hinputs'⟩ := build_ok hbuild'
      refine ⟨task', rfl, ?_, fun key => ?_⟩
      · rw [hsteps, hsteps', told_steps, told_steps, h.main]
      · rw [hinputs, hinputs', mem_told_inputs, mem_told_inputs]
        exact h.inputs key

end Builder

namespace Script
open Builder

section
variable {task task' : Task} {inputs : Inputs} {o : Options}

/-- Tasks with the same set of inputs have the same guards: the order is that of the keys. -/
theorem guarded_eq (h : ∀ key, key ∈ task.inputs.keys ↔ key ∈ task'.inputs.keys) :
    guarded task = guarded task' := by
  refine (pairwise_guarded task).eq_of_mem_iff (pairwise_guarded task') fun key => ?_
  rw [mem_guarded, mem_guarded, h key]

theorem write_eq_of_inputs (hsteps : task.steps = task'.steps)
    (hinputs : ∀ key, key ∈ task.inputs.keys ↔ key ∈ task'.inputs.keys) (w : Writer) :
    write task inputs o w = write task' inputs o w := by
  unfold write
  rw [guarded_eq hinputs, hsteps]

theorem get?_of_guards {keys guards : List String} (h : List.Forall₂ (IsGuard inputs) keys guards)
    {key : String} (hkey : key ∈ keys) : inputs.get? key ≠ none := by
  induction h with
  | nil => cases hkey
  | cons hguard _ ih =>
      rcases List.mem_cons.mp hkey with rfl | hkey
      · obtain ⟨value, hvalue, -⟩ := hguard
        simp [hvalue]
      · exact ih hkey

theorem guardsOutline_unbound {keys : List String} {key : String} (hkey : key ∈ keys)
    (hnone : inputs.get? key = none) : ∃ e, (guardsOutline inputs keys).fault = some e := by
  cases hfault : (guardsOutline inputs keys).fault with
  | some e => exact ⟨e, rfl⟩
  | none => exact absurd hnone (get?_of_guards (guardsOutline_lines hfault) hkey)

/-- A script with an input that has no value is its head and the guards before the error. -/
theorem write_of_guards_fault {e : ResolveError}
    (h : (guardsOutline inputs (guarded task)).fault = some e) (w : Writer) :
    write task inputs o w = concluded (.error (.resolve e)) (w.put (Utf8.encode (unlines
      ([o.shebang, "set -e"] ++ (guardsOutline inputs (guarded task)).lines)))) := by
  have houtline : outline task inputs o =
      ⟨[o.shebang, "set -e"] ++ (guardsOutline inputs (guarded task)).lines, some e⟩ := by
    simp only [outline, Outline.andThen, h]
  rw [write_eq_put, Outline.put_eq, houtline]
  rfl

end

/-! ### The input that is reported -/

variable {calls calls' : List Declaration} {inputs : Inputs}

/-- The key is declared and has no value, and all others of that kind have greater bytes. -/
structure LeastUnbound (inputs : Inputs) (calls : List Declaration) (key : String) : Prop where
  declared : .input key ∈ calls
  unbound : inputs.get? key = none
  least : ∀ k, .input k ∈ calls → inputs.get? k = none → k ≠ key → Utf8.encode key < Utf8.encode k

/-- The lines guard the declared inputs with smaller bytes than a key, in the order of the bytes. -/
def GuardsBelow (inputs : Inputs) (calls : List Declaration) (key : String)
    (guards : List String) : Prop :=
  ∃ smaller, (∀ k, k ∈ smaller ↔ .input k ∈ calls ∧ Utf8.encode k < Utf8.encode key) ∧
    smaller.Pairwise (fun a b => Utf8.encode a < Utf8.encode b) ∧
    List.Forall₂ (IsGuard inputs) smaller guards

theorem guards_of_split {task : Task} {smaller larger guards : List String} {key : String}
    (hdeclared : ∀ k, k ∈ task.inputs.keys ↔ .input k ∈ calls)
    (hsplit : guarded task = smaller ++ key :: larger)
    (hguards : List.Forall₂ (IsGuard inputs) smaller guards) :
    GuardsBelow inputs calls key guards := by
  have hsorted := pairwise_guarded task
  rw [hsplit, List.pairwise_append] at hsorted
  refine ⟨smaller, fun k => ?_, ?_, hguards⟩
  · rw [mem_smaller_iff hsplit, hdeclared, Utf8.encode_lt_encode_iff]
  · exact hsorted.1.imp Utf8.encode_lt_encode_iff.mpr

theorem least_of_split {task : Task} {smaller larger guards : List String} {key : String}
    (hdeclared : ∀ k, k ∈ task.inputs.keys ↔ .input k ∈ calls)
    (hsplit : guarded task = smaller ++ key :: larger)
    (hguards : List.Forall₂ (IsGuard inputs) smaller guards) (hnone : inputs.get? key = none) :
    LeastUnbound inputs calls key := by
  have hsorted := pairwise_guarded task
  have hmem : key ∈ guarded task := by
    rw [hsplit]
    exact List.mem_append_right _ List.mem_cons_self
  rw [hsplit, List.pairwise_append, List.pairwise_cons] at hsorted
  refine ⟨(hdeclared key).mp (mem_guarded.mp hmem), hnone, fun k hk hunbound hne => ?_⟩
  have hall : k ∈ smaller ++ key :: larger := by
    rw [← hsplit, mem_guarded, hdeclared]
    exact hk
  rw [Utf8.encode_lt_encode_iff]
  rcases List.mem_append.mp hall with hbelow | hrest
  · exact absurd hunbound (get?_of_guards hguards hbelow)
  · rcases List.mem_cons.mp hrest with rfl | habove
    · exact absurd rfl hne
    · exact hsorted.2.1.1 k habove

/-- Where and how often inputs are declared makes no difference: either no task comes of both rows
of calls, for the same reason, or the two tasks have the same script, whatever it is written to and
whatever breaks it off. If inputs have no value, the one that is reported is the least of them by
its bytes, and what is written before are the guards of those with smaller bytes. -/
theorem write_same_inputs (h : SameTask calls calls') :
    (∀ e, (told calls).build = .error e ↔ (told calls').build = .error e) ∧
    ∀ task, (told calls).build = .ok task → ∃ task', (told calls').build = .ok task' ∧
      ∀ inputs o, (∀ w, write task inputs o w = write task' inputs o w) ∧
        ((∃ key, .input key ∈ calls ∧ inputs.get? key = none) →
          ∃ key guards, LeastUnbound inputs calls key ∧ GuardsBelow inputs calls key guards ∧
            ∀ w, write task inputs o w =
              concluded (.error (.resolve (.missingInput inputsStep key)))
                (w.put (Utf8.encode (unlines ([o.shebang, "set -e"] ++ guards))))) := by
  refine ⟨build_error_of_same h, fun task hbuild => ?_⟩
  obtain ⟨task', hbuild', hsteps, hinputs⟩ := build_of_same h hbuild
  refine ⟨task', hbuild', fun inputs o => ⟨write_eq_of_inputs hsteps hinputs, ?_⟩⟩
  rintro ⟨unbound, hunbound, hnone⟩
  have hdeclared (k : String) : k ∈ task.inputs.keys ↔ .input k ∈ calls := by
    rw [(build_ok hbuild).2.2, mem_told_inputs]
  obtain ⟨e, hfault⟩ :=
    guardsOutline_unbound (mem_guarded.mpr ((hdeclared unbound).mpr hunbound)) hnone
  obtain ⟨smaller, key, larger, hsplit, hguards, hkey, rfl⟩ := guardsOutline_faulty hfault
  exact ⟨key, _, least_of_split hdeclared hsplit hguards hkey,
    guards_of_split hdeclared hsplit hguards, write_of_guards_fault hfault⟩

/-- Declarations with two inputs that have no value. Of these the second has the greater bytes,
although its sixteen-bit units come first. -/
def clefCalls : List Declaration :=
  [.input "seed", .input "～", .step generateStep.name generateStep.runnable, .input "𝄞"]

/-- The same inputs in other places, some of them again. -/
def clefCallsMoved : List Declaration :=
  [.input "𝄞", .step generateStep.name generateStep.runnable, .input "～", .input "𝄞",
    .input "seed"]

def clefTask : Task where
  steps := [generateStep]
  cleanup := []
  inputs := Registry.forInputs.defineAll ["seed", "～", "𝄞"]
  distinct := by decide

/-- What is written before the missing input is noticed. -/
def clefHead : String :=
  "#!/usr/bin/env bash\nset -e\n" ++
    "if [ -z \"7\" ]; then echo \"input seed is empty\" >&2; exit 1; fi\n"

theorem clefCalls_same_script :
    SameTask clefCalls clefCallsMoved ∧ (told clefCalls).build = .ok clefTask ∧
    ∃ task', (told clefCallsMoved).build = .ok task' ∧ LeastUnbound seeded clefCalls "～" ∧
      write task' seeded (.calling "tool") .unbounded =
        (.error (.resolve (.missingInput "task inputs" "～")), ⟨Utf8.encode clefHead, none⟩) := by
  have hsame : SameTask clefCalls clefCallsMoved := by
    refine ⟨rfl, rfl, fun key => ?_⟩
    simp only [clefCalls, clefCallsMoved, List.mem_cons, Declaration.input.injEq, reduceCtorEq,
      List.not_mem_nil]
    tauto
  have hbuild : (told clefCalls).build = .ok clefTask := rfl
  have hwritten : write clefTask seeded (.calling "tool") .unbounded =
      (.error (.resolve (.missingInput "task inputs" "～")), ⟨Utf8.encode clefHead, none⟩) := by
    have hguarded : guarded clefTask = ["seed", "～", "𝄞"] :=
      List.mergeSort_of_pairwise (by decide)
    unfold write
    rw [hguarded]
    decide +kernel
  obtain ⟨-, hscript⟩ := write_same_inputs hsame
  obtain ⟨task', hbuild', hscript⟩ := hscript clefTask hbuild
  obtain ⟨heq, hunbound⟩ := hscript seeded (.calling "tool")
  obtain ⟨key, guards, hleast, -, hbreak⟩ := hunbound ⟨"～", by simp [clefCalls], rfl⟩
  have hkey : key = "～" := by
    have hresult := congrArg Prod.fst ((hbreak .unbounded).symm.trans hwritten)
    cases hresult
    rfl
  subst hkey
  exact ⟨hsame, hbuild, task', hbuild', hleast, (heq .unbounded).symm.trans hwritten⟩

end Script
end Pipeline
