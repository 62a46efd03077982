import Pipeline.Proofs.Task.Scope
import Pipeline.Task.Builder

/-!
# Tasks made with a builder

A client calls a builder in any order. It comes to hold the handles that the builder returned, and
the references that it asked the builder or one of these handles for (`Drafted`). A reference goes
no further than what was declared when it was asked for, so the steps declared before it is placed
are its scope: as long as a client places no references from elsewhere, every task that it builds is
scoped (`Drafted.scoped`).
-/

namespace Pipeline

theorem Step.owner_outputs (s : Step) : s.outputs.owner = some s.name :=
  Registry.owner_defineAll ..

/-- The builders that a client can come to, with the handles and the references that it then
holds. The commands of the steps that it declares are made with references that it holds. -/
inductive Drafted : Builder → List Handle → List Ref → Prop
  | empty : Drafted .empty [] []
  | declareInput {b : Builder} {handles : List Handle} {refs : List Ref} (key : String) :
      Drafted b handles refs → Drafted (b.declareInput key) handles refs
  | input {b : Builder} {handles : List Handle} {refs : List Ref} (key : String) {r : Ref} :
      Drafted b handles refs → b.input key = .ok r → Drafted b handles (r :: refs)
  | get {b : Builder} {handles : List Handle} {refs : List Ref} {handle : Handle} (key : String)
      {r : Ref} : Drafted b handles refs → handle ∈ handles → handle.get key = .ok r →
      Drafted b handles (r :: refs)
  | step {b : Builder} {handles : List Handle} {refs : List Ref} (name : String)
      (runnable : Runnable) : Drafted b handles refs → (∀ r ∈ runnable.refs, r ∈ refs) →
      Drafted (b.step name runnable).2 ((b.step name runnable).1 :: handles) refs
  | defer {b : Builder} {handles : List Handle} {refs : List Ref} (name : String)
      (runnable : Runnable) : Drafted b handles refs → (∀ r ∈ runnable.refs, r ∈ refs) →
      Drafted (b.defer name runnable) handles refs

/-- What every call to a builder preserves: a handle is that of a declared step, a reference at
hand is in the scope of what is declared so far, and what is declared is scoped. -/
structure Builder.Sound (b : Builder) (handles : List Handle) (refs : List Ref) : Prop
    extends Scoped b.inputs b.steps b.cleanup where
  owner : b.inputs.owner = none
  handles : ∀ handle ∈ handles, ∃ s ∈ b.steps, handle.outputs = s.outputs
  refs : ∀ r ∈ refs, r.InScope b.inputs b.steps

namespace Builder
variable {b : Builder} {handles : List Handle} {refs : List Ref}

theorem sound_empty : empty.Sound [] [] where
  main := fun before s after h => by cases before <;> cases h
  cleanup := fun s hs => by cases hs
  owner := rfl
  handles := fun handle h => by cases h
  refs := fun r hr => by cases hr

theorem Sound.declareInput (h : b.Sound handles refs) (key : String) :
    (b.declareInput key).Sound handles refs := by
  have hmono : ∀ k ∈ b.inputs.keys, k ∈ (b.inputs.define key).keys := fun k hk =>
    Registry.mem_define.mpr (.inl hk)
  constructor
  · constructor
    · intro before s after hsplit r hr
      exact (h.main before s after hsplit r hr).mono hmono fun _ hx => hx
    · intro s hs r hr
      exact (h.cleanup s hs r hr).mono hmono fun _ hx => hx
  · exact (Registry.define_owner ..).trans h.owner
  · exact h.handles
  · intro r hr
    exact (h.refs r hr).mono hmono fun _ hx => hx

theorem Sound.hold (h : b.Sound handles refs) {r : Ref} (hr : r.InScope b.inputs b.steps) :
    b.Sound handles (r :: refs) := by
  refine { h with refs := fun x hx => ?_ }
  rcases List.mem_cons.mp hx with rfl | hx
  · exact hr
  · exact h.refs x hx

theorem Sound.input (h : b.Sound handles refs) {key : String} {r : Ref}
    (hr : b.input key = .ok r) : r.InScope b.inputs b.steps := by
  obtain ⟨hkey, rfl⟩ := Registry.get_eq_ok_iff.mp hr
  rw [h.owner]
  exact .inl ⟨key, hkey, rfl⟩

/-- A handle stays that of a declared step, so what it is asked for is an output of that step. -/
theorem Sound.get (h : b.Sound handles refs) {handle : Handle} {key : String} {r : Ref}
    (hmem : handle ∈ handles) (hr : handle.get key = .ok r) : r.InScope b.inputs b.steps := by
  obtain ⟨s, hs, houtputs⟩ := h.handles handle hmem
  obtain ⟨hkey, rfl⟩ := Registry.get_eq_ok_iff.mp hr
  rw [houtputs] at hkey ⊢
  rw [Step.owner_outputs]
  exact .inr ⟨s, hs, key, hkey, rfl⟩

/-- The steps before a new one are all that were declared when its references were placed. -/
theorem Sound.step (h : b.Sound handles refs) (name : String) {runnable : Runnable}
    (hrefs : ∀ r ∈ runnable.refs, r ∈ refs) :
    (b.step name runnable).2.Sound ((b.step name runnable).1 :: handles) refs := by
  have hmono : ∀ x ∈ b.steps, x ∈ b.steps ++ [⟨name, runnable⟩] := fun x hx =>
    List.mem_append_left _ hx
  constructor
  · constructor
    · intro before s after hsplit r hr
      rcases split_of_concat hsplit with ⟨rfl, rfl⟩ | ⟨rest, hold⟩
      · exact h.refs r (hrefs r hr)
      · exact h.main before s rest hold r hr
    · intro s hs r hr
      exact (h.cleanup s hs r hr).mono (fun _ hk => hk) hmono
  · exact h.owner
  · intro handle hmem
    rcases List.mem_cons.mp hmem with rfl | hmem
    · exact ⟨⟨name, runnable⟩, by simp [Builder.step], rfl⟩
    · obtain ⟨s, hs, houtputs⟩ := h.handles handle hmem
      exact ⟨s, hmono s hs, houtputs⟩
  · intro r hr
    exact (h.refs r hr).mono (fun _ hk => hk) hmono

theorem Sound.defer (h : b.Sound handles refs) (name : String) {runnable : Runnable}
    (hrefs : ∀ r ∈ runnable.refs, r ∈ refs) : (b.defer name runnable).Sound handles refs := by
  refine { h with cleanup := fun s hs r hr => ?_ }
  rcases List.mem_append.mp hs with hs | hs
  · exact h.cleanup s hs r hr
  · rw [List.mem_singleton.mp hs] at hr
    exact h.refs r (hrefs r hr)

theorem build_ok {task : Task} (h : b.build = .ok task) :
    task.steps = b.steps ∧ task.cleanup = b.cleanup ∧ task.inputs = b.inputs := by
  unfold build at h
  split at h
  · cases h
  · cases h
    exact ⟨rfl, rfl, rfl⟩

end Builder

theorem Drafted.sound {b : Builder} {handles : List Handle} {refs : List Ref}
    (h : Drafted b handles refs) : b.Sound handles refs := by
  -- one case for each call: what that call preserves
  induction h with
  | empty => exact Builder.sound_empty
  | declareInput key _ ih => exact ih.declareInput key
  | input key _ hr ih => exact ih.hold (ih.input hr)
  | get key _ hmem hr ih => exact ih.hold (ih.get hmem hr)
  | step name runnable _ hrefs ih => exact ih.step name hrefs
  | defer name runnable _ hrefs ih => exact ih.defer name hrefs

theorem Drafted.scoped {b : Builder} {handles : List Handle} {refs : List Ref}
    (h : Drafted b handles refs) {task : Task} (hbuild : b.build = .ok task) : task.Scoped := by
  obtain ⟨hsteps, hcleanup, hinputs⟩ := Builder.build_ok hbuild
  rw [Task.Scoped, hsteps, hcleanup, hinputs]
  exact h.sound.toScoped

/-- A task from a builder is scoped. When every input has a value, it compiles unless one of its
commands refers to the standard error of a command step, and then the first such reference is
refused. Running it and cleaning up after it are refused no other references. -/
theorem Drafted.build_sound {b : Builder} {handles : List Handle} {refs : List Ref}
    (h : Drafted b handles refs) {task : Task} (hbuild : b.build = .ok task) :
    task.Scoped ∧ ∀ inputs, Script.Bound task inputs →
      (∀ o, (task.firstUnrecorded = none → ∃ script, Script.compile task inputs o = .ok script) ∧
        ∀ step producer, task.firstUnrecorded = some (step, producer) →
          Script.compile task inputs o =
            .error (.resolve (.missingOutput step producer stderrKey))) ∧
      ∀ {σ : Type} (t : Target σ) (w : World σ),
        (∀ e, (runTask t inputs task w).1 = .error (.failed (.resolve e)) → e.OfStderr task) ∧
        ∀ state w₁, runTask t inputs task w = (.ok state, w₁) →
          ∀ {τ : Type} (t' : Target τ) (w' : World τ) (e : ResolveError),
            (runCleanup t' inputs task state w').1 = .error (.failed (.resolve e)) →
              e.OfStderr task := by
  have hscoped : task.Scoped := h.scoped hbuild
  refine ⟨hscoped, fun inputs hb => ⟨fun o => ⟨fun hnone => ?_, fun step producer hsome => ?_⟩, ?_⟩⟩
  · have herror := hscoped.errorOf_compile hb o
    rw [hnone] at herror
    exact errorOf_eq_none.mp herror
  · have herror := hscoped.errorOf_compile hb o
    rw [hsome] at herror
    exact errorOf_eq_some.mp herror
  · intro σ t w
    constructor
    · intro e he
      exact hscoped.runTask_error hb he
    · intro state w₁ hrun τ t' w' e he
      have hentered : task.Entered state := entered_of_runTask (congrArg Prod.fst hrun)
      exact hscoped.runCleanup_error hb hentered he

/-- Calls that declare `release`. -/
def releaseBuilder : Builder :=
  let b := Builder.empty.declareInput "seed"
  let (_, b) := b.step generateStep.name generateStep.runnable
  let (_, b) := b.step applyStep.name applyStep.runnable
  let b := b.defer stopStep.name stopStep.runnable
  (b.step reportStep.name reportStep.runnable).2

theorem drafted_releaseBuilder : ∃ handles refs, Drafted releaseBuilder handles refs ∧
    .output "apply" stderrKey ∈ refs := by
  have hseed : Drafted _ _ [.input "seed"] := (Drafted.empty.declareInput "seed").input "seed" rfl
  have hgenerate := hseed.step generateStep.name generateStep.runnable fun r hr => by cases hr
  have hpath : Drafted _ _ [.output "generate" "path", .input "seed"] :=
    hgenerate.get "path" List.mem_cons_self rfl
  have happly := hpath.step applyStep.name applyStep.runnable (by decide)
  have hout : Drafted _ _ (.output "apply" stdoutKey :: _) :=
    happly.get stdoutKey List.mem_cons_self rfl
  have herr : Drafted _ _ (.output "apply" stderrKey :: _) :=
    hout.get stderrKey List.mem_cons_self rfl
  have hstop := herr.defer stopStep.name stopStep.runnable (by decide)
  have hreport := hstop.step reportStep.name reportStep.runnable (by decide)
  exact ⟨_, _, hreport, List.mem_cons_self⟩

theorem release_built :
    (release.Scoped ∧ (∃ script, Script.compile release seeded (.calling "tool") = .ok script) ∧
      ∃ w e, runTask echoing seeded release ⟨.empty, []⟩ = (.ok released, w) ∧
        (runCleanup echoing seeded release released w).1 = .error (.failed (.resolve e)) ∧
        e.OfStderr release) ∧
    ∃ task, (releaseBuilder.step "inspect" stopStep.runnable).2.build = .ok task ∧
      Script.compile task seeded (.calling "tool") =
        .error (.resolve (.missingOutput "inspect" "apply" stderrKey)) := by
  obtain ⟨handles, refs, hdraft, hheld⟩ := drafted_releaseBuilder
  constructor
  · have hbuild : releaseBuilder.build = .ok release := rfl
    obtain ⟨hscoped, hbound⟩ := hdraft.build_sound hbuild
    obtain ⟨hcompile, hrun⟩ := hbound seeded Script.bound_release
    obtain ⟨w, hreleased⟩ := release_succeeds
    have hrefused : (runCleanup echoing seeded release released w).1 =
      .error (.failed (.resolve (.missingOutput "stop" "apply" stderrKey))) := rfl
    exact ⟨hscoped, (hcompile _).1 rfl, w, _, hreleased, hrefused,
      (hrun echoing ⟨.empty, []⟩).2 released w hreleased echoing w _ hrefused⟩
  · have hinspect := hdraft.step "inspect" stopStep.runnable fun r hr => by
      rw [List.mem_singleton.mp hr]
      exact hheld
    refine ⟨_, rfl, ?_⟩
    obtain ⟨-, hbound⟩ := hinspect.build_sound rfl
    obtain ⟨hcompile, -⟩ := hbound seeded Script.bound_release
    exact (hcompile _).2 "inspect" "apply" rfl

end Pipeline
