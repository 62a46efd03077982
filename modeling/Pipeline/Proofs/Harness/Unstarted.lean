import Mathlib.Data.List.Induction
import Pipeline.Proofs.Harness.Confined

/-!
# A harness that was only set up

Between setting a harness up and starting it there are no wrappers. What a stub comes to then is
told by the directory that was given last (`givenDir`): without one its command is refused with the
advice to start the harness, and with one a program of the stub's name in that directory is started,
whoever put it there. No other setting counts (`setUp_binDir`, `setUp_scratch`).
-/

namespace Pipeline

/-- The directory for wrappers that a call gives. -/
def Setting.dir? : Setting → Option String
  | .binDir dir => some dir
  | _ => none

namespace Harness

/-- The directory for wrappers that was given last. -/
def givenDir (settings : List Setting) : Option String := settings.reverse.findSome? Setting.dir?

theorem givenDir_append (settings : List Setting) (s : Setting) :
    givenDir (settings ++ [s]) = s.dir?.or (givenDir settings) := by
  unfold givenDir
  rw [List.reverse_append, List.findSome?_append]
  cases h : s.dir? <;> simp [h]

theorem givenDir_eq_none {settings : List Setting} :
    givenDir settings = none ↔ ∀ dir, Setting.binDir dir ∉ settings := by
  unfold givenDir
  rw [List.findSome?_eq_none_iff]
  constructor
  · intro hnone dir hmem
    cases hnone _ (List.mem_reverse.mpr hmem)
  · intro hnone s hs
    cases s with
    | binDir dir => exact absurd (List.mem_reverse.mp hs) (hnone dir)
    | _ => rfl

section
variable {settings : List Setting}

theorem setUp_append (launch : Launch) (settings : List Setting) (s : Setting) :
    setUp launch (settings ++ [s]) = (setUp launch settings).set s := by
  simp [setUp]

/-! What the calls leave, by induction on the calls from the last one. -/

theorem setUp_scratch (launch : Launch) (settings : List Setting) :
    (setUp launch settings).scratch = none := by
  induction settings using List.reverseRecOn with
  | nil => rfl
  | append_singleton settings s ih =>
      rw [setUp_append]
      cases s <;> exact ih

theorem setUp_binDir (launch : Launch) (settings : List Setting) :
    (setUp launch settings).binDir = givenDir settings := by
  induction settings using List.reverseRecOn with
  | nil => rfl
  | append_singleton settings s ih =>
      rw [setUp_append, givenDir_append]
      cases s with
      | binDir dir => rfl
      | _ => exact ih

theorem mem_stubs_setUp (launch : Launch) {s : Stub} :
    s ∈ (setUp launch settings).stubs ↔ Setting.stub s ∈ settings := by
  induction settings using List.reverseRecOn with
  | nil => simp [setUp, fresh]
  | append_singleton settings call ih =>
      rw [setUp_append]
      cases call with
      | stub other => simp [Harness.set, ih]
      | _ => simpa [Harness.set] using ih

/-- A harness that was only set up looks for wrappers where it was told to. -/
theorem setUp_looks (launch : Launch) (settings : List Setting) :
    (setUp launch settings).binDir? = givenDir settings := by
  unfold binDir?
  rw [setUp_scratch, setUp_binDir]
  rfl

/-- A stub that was added is found, or one before it that stands for the same program. -/
theorem findExpected_setUp (launch : Launch) {s : Stub} {path : String} {args : List String}
    (hstub : Setting.stub s ∈ settings) (hpath : s.command.path = path)
    (hargs : s.command.renderedArgs = args) :
    ∃ found, (setUp launch settings).findExpected path args = some found ∧
      found.binary = s.binary := by
  cases hfind : (setUp launch settings).findExpected path args with
  | none =>
      exact absurd ⟨s, (mem_stubs_setUp launch).mpr hstub, hpath, hargs⟩ (findExpected_none hfind)
  | some found =>
      obtain ⟨-, hfound, -⟩ := findExpected_some hfind
      refine ⟨found, rfl, ?_⟩
      unfold Stub.binary Command.program
      rw [hfound, hpath]

end

/-- Before it is started, a harness refuses the command of a stub exactly if no directory for
wrappers was given. Otherwise it starts what has the stub's name in the directory given last. -/
theorem setUp_stubbed (launch : Launch) {settings : List Setting} {s : Stub} {c : Command}
    {args : List String} (hstub : Setting.stub s ∈ settings) (hpath : s.command.path = c.path)
    (hargs : s.command.renderedArgs = args) (start : Starter) (here : Place) (host : Host) :
    let answer := ((setUp launch settings).target start here).execute c args host
    ((∀ dir, Setting.binDir dir ∉ settings) → answer = (.error (.harness .notStarted), host)) ∧
    ∀ dir, givenDir settings = some dir → ∃ p : Spawn,
      p.program = Path.join dir s.binary ∧ p.args = args ∧
      p.env.toList = [(searchVariable, dir), (Launch.invocationVariable, c.path)] ∧
      answer = host.answer start p p.program ∧ answer.2.spawned = host.spawned ++ [p] := by
  obtain ⟨found, hfind, hbinary⟩ := findExpected_setUp launch hstub hpath hargs
  intro answer
  constructor
  · intro hnone
    have hlooks := (setUp_looks launch settings).trans (givenDir_eq_none.mpr hnone)
    simp only [answer, target, Harness.decide, hfind, hlooks]
  · intro dir hdir
    have hlooks := (setUp_looks launch settings).trans hdir
    simp only [answer, target, Harness.decide, hfind, hlooks]
    exact ⟨_, by rw [hbinary], rfl, toList_announcing dir c.path, rfl, rfl⟩

def kindStub : Stub := .withOutput ⟨"kind", []⟩ ""

def testLaunch : Launch := ⟨["self"], .empty, "/tests/run"⟩

/-- The same stub without a directory and with one. -/
theorem kind_unstarted :
    ((setUp testLaunch [.stub kindStub]).target silent []).execute ⟨"kind", []⟩ []
      (.ofFiles .empty) = (.error (.harness .notStarted), .ofFiles .empty) ∧
    ∃ p : Spawn, p.program = "/opt/bin/kind" ∧
      (((setUp testLaunch [.stub kindStub, .binDir "/opt/bin"]).target silent []).execute
        ⟨"kind", []⟩ [] (.ofFiles .empty)).2.spawned = [p] := by
  have hstub (settings : List Setting) : Setting.stub kindStub ∈ .stub kindStub :: settings :=
    List.mem_cons_self
  have hwithout := setUp_stubbed testLaunch (hstub []) (c := ⟨"kind", []⟩) rfl rfl silent []
    (.ofFiles .empty)
  have hwith := setUp_stubbed testLaunch (hstub [.binDir "/opt/bin"]) (c := ⟨"kind", []⟩) rfl rfl
    silent [] (.ofFiles .empty)
  obtain ⟨p, hprogram, -, -, -, hspawned⟩ := hwith.2 "/opt/bin" rfl
  exact ⟨hwithout.1 (by simp), p, by rw [hprogram]; decide, hspawned⟩

/-- A directory that the harness never wrote to is taken for one with wrappers. -/
theorem kind_starts_unstarted :
    let h := setUp testLaunch [.stub kindStub, .binDir "/opt/bin"]
    (h.target silent []).execute ⟨"kind", []⟩ [] (.ofFiles .empty) ≠
        (.error (.harness .notStarted), .ofFiles .empty) ∧
    ((h.target silent []).execute ⟨"kind", []⟩ [] (.ofFiles .empty)).2.spawned.map
      Spawn.program = ["/opt/bin/kind"] := by
  intro h
  have hspawned : ((h.target silent []).execute ⟨"kind", []⟩ [] (.ofFiles .empty)).2.spawned.map
      Spawn.program = ["/opt/bin/kind"] := by decide
  refine ⟨fun heq => ?_, hspawned⟩
  rw [heq] at hspawned
  cases hspawned

end Harness
end Pipeline
