import Pipeline.Proofs.Harness.Confined
import Pipeline.Proofs.Text.Quoted

/-!
# The expectation of a refused command

A harness that refuses a command says how to expect it. What it prints is read back as the path and
the arguments of the command (`invocation?_stubDefinition`), whatever stands in them. A command is
refused as unexpected only where no stub stands for it (`refused_unexpected`), and a stub of what
was read back does (`findExpected_set`).
-/

namespace Pipeline
open Text

/-! ### What an expectation says -/

/-- The text behind the first place where a mark stands. -/
def behind? (mark : List Char) : List Char → Option (List Char)
  | [] => none
  | c :: cs =>
    if mark.isPrefixOf (c :: cs) then some ((c :: cs).drop mark.length) else behind? mark cs

/-- The invocation that an expectation is for: the literals in parentheses behind its command. -/
def invocation? (expectation : String) : Option (List String) :=
  ((behind? "cmd!(".toList expectation.toList).bind literals?).map (·.1)

/-- What stands in front of the literals. -/
def expectationFront : List Char := "ExecutionStub::new(cmd!(".toList

/-- What stands between the literals and the text that the handler prints. -/
def handlerFront : List Char := ", |ctx| \x7b\n    writeln!(ctx.stdout, ".toList

/-- What stands behind the text that the handler prints. -/
def handlerBack : List Char := ")\n\x7d)".toList

/-- The text between the quotes of the handler. -/
def successText (path : String) : String := Command.programName path ++ " succeeded."

theorem stubDefinition_handler (path : String) (args : List String) :
    (stubDefinition path args).toList = expectationFront ++ (quotedTexts (path :: args) ++
      ')' :: (handlerFront ++ '"' :: ((successText path).toList ++ '"' :: handlerBack))) := by
  unfold stubDefinition quotedInvocation expectationFront quotedTexts handlerFront handlerBack
    successText
  simp

theorem stubDefinition_eq (path : String) (args : List String) : ∃ back,
    (stubDefinition path args).toList =
      expectationFront ++ (quotedTexts (path :: args) ++ ')' :: back) :=
  ⟨_, stubDefinition_handler path args⟩

theorem invocation?_stubDefinition (path : String) (args : List String) :
    invocation? (stubDefinition path args) = some (path :: args) := by
  obtain ⟨back, hdef⟩ := stubDefinition_eq path args
  have hbehind : behind? "cmd!(".toList (stubDefinition path args).toList =
      some (quotedTexts (path :: args) ++ ')' :: back) := by
    rw [hdef]
    rfl
  rw [invocation?, hbehind, Option.bind_some, literals?_quotedTexts]
  rfl

theorem stubDefinition_inj {path path' : String} {args args' : List String}
    (h : stubDefinition path args = stubDefinition path' args') : path = path' ∧ args = args' := by
  have hsame := invocation?_stubDefinition path args
  rw [h, invocation?_stubDefinition] at hsame
  simpa using hsame.symm

/-! ### Refused commands -/

/-- An error of a program that was started, or could not be. -/
def OfProgram : TargetError → Prop
  | .unexpectedCommand .. => False
  | _ => True

theorem ofProgram_conclude {program : String} {f : Finished} {e : TargetError}
    (h : conclude program f = .error e) : OfProgram e := by
  unfold conclude at h
  simp only at h
  split at h
  · cases h
    trivial
  · cases h
    trivial
  · split at h
    · cases h
    · cases h
      trivial

theorem ofProgram_diagnose {e : TargetError} (h : OfProgram e) (invokedBy : String) :
    OfProgram (diagnose invokedBy e) := by
  unfold diagnose
  split
  · split <;> trivial
  · split <;> trivial
  · exact h

theorem ofProgram_run {start : Starter} {p : Spawn} {fs fs' : FileSystem} {e : TargetError}
    (h : start.run p fs = (.error e, fs')) : OfProgram e := by
  unfold Starter.run at h
  split at h
  · cases h
    trivial
  · obtain ⟨hconclude, -⟩ := Prod.mk.inj h
    exact ofProgram_conclude hconclude

theorem ofProgram_answer {start : Starter} {p : Spawn} {invokedBy : String} {host host' : Host}
    {e : TargetError} (h : host.answer start p invokedBy = (.error e, host')) : OfProgram e := by
  unfold Host.answer Starter.answer at h
  cases hrun : start.run p host.files with
  | mk result fs =>
      cases result with
      | ok outputs =>
          simp only [hrun] at h
          cases h
      | error e =>
          simp only [hrun] at h
          cases h
          exact ofProgram_diagnose (ofProgram_run hrun) invokedBy

namespace Harness
variable {h : Harness} {start : Starter} {here : Place} {host host' : Host} {c : Command}
  {args : List String} {rendered expectation : String}

/-- A command is refused as unexpected only if no stub stands for it. -/
theorem refused_unexpected
    (hrefused : (h.target start here).execute c args host =
      (.error (.unexpectedCommand rendered expectation), host')) :
    h.findExpected c.path args = none ∧ expectation = h.printer c.path args := by
  unfold target at hrefused
  simp only at hrefused
  cases hdecide : h.decide host.files here c args with
  | start p invokedBy =>
      -- Whatever becomes of a program that is started, its error is not this one.
      rw [hdecide] at hrefused
      exact (ofProgram_answer hrefused).elim
  | refuse e =>
      rw [hdecide] at hrefused
      cases hrefused
      unfold Harness.decide at hdecide
      cases hfind : h.findExpected c.path args with
      | some s =>
          simp only [hfind] at hdecide
          cases hdir : h.binDir? <;> simp [hdir] at hdecide
      | none =>
          simp only [hfind] at hdecide
          split at hdecide
          · split at hdecide <;> cases hdecide
          · cases hdecide
            exact ⟨rfl, rfl⟩

/-- A stub for a command of literals. -/
def literalStub (path : String) (args : List String) (deeds : List Deed) : Stub :=
  ⟨⟨path, args.map .literal⟩, deeds⟩

/-- A stub of the very literals is found, once it is added behind stubs that do not stand for the
invocation. -/
theorem findExpected_set {path : String} (hnone : h.findExpected path args = none)
    (deeds : List Deed) :
    (h.set (.stub (literalStub path args deeds))).findExpected path args =
      some (literalStub path args deeds) := by
  have hdisplay : (args.map Arg.literal).map Arg.display = args := by
    rw [List.map_map]
    exact List.map_id args
  have hstands : (literalStub path args deeds).standsFor path args = true := by
    simp [Stub.standsFor, literalStub, Command.renderedArgs, hdisplay]
  have hbefore : h.stubs.find? (fun s => s.standsFor path args) = none := hnone
  unfold findExpected Stub.find? set
  simp [List.find?_append, hbefore, hstands]

/-- The expectation that is printed for an invocation gives it back: what stands between the
parentheses of its command is the list of its texts as literals. So no two invocations have the same
expectation, and a command that a harness refuses is found as soon as a stub of these literals is
added. -/
theorem expectation_reproduces (path : String) (args : List String) :
    (∃ inner back, (stubDefinition path args).toList = expectationFront ++ (inner ++ ')' :: back) ∧
      ∀ rest, literals? (inner ++ ')' :: rest) = some (path :: args, rest)) ∧
    (∀ path' args', stubDefinition path args = stubDefinition path' args' →
      path = path' ∧ args = args') ∧
    ∀ (h : Harness) (start : Starter) (here : Place) (c : Command) (host host' : Host)
      (rendered expectation : String), h.printer = stubDefinition → c.path = path →
      (h.target start here).execute c args host =
        (.error (.unexpectedCommand rendered expectation), host') →
      h.findExpected path args = none ∧
      ∃ name values, invocation? expectation = some (name :: values) ∧ ∀ deeds,
        (h.set (.stub (literalStub name values deeds))).findExpected path args =
          some (literalStub name values deeds) := by
  refine ⟨?_, fun _ _ => stubDefinition_inj, ?_⟩
  · obtain ⟨back, hdef⟩ := stubDefinition_eq path args
    exact ⟨_, back, hdef, literals?_quotedTexts path args⟩
  · rintro h start here c host host' rendered expectation hprinter rfl hrefused
    obtain ⟨hnone, rfl⟩ := refused_unexpected hrefused
    refine ⟨hnone, c.path, args, ?_, findExpected_set hnone⟩
    rw [hprinter, invocation?_stubDefinition]

/-- Arguments with quotes, backslashes, commas, parentheses and a line feed in them. -/
def awkwardArgs : List String := ["get, set)", "say \"\\\n\"", ""]

theorem awkwardArgs_reproduced :
    let h := fresh ⟨["self"], .empty, "/tests/run"⟩
    ∃ rendered expectation,
      (h.target silent []).execute ⟨"kind", []⟩ awkwardArgs (.ofFiles .empty) =
        (.error (.unexpectedCommand rendered expectation), .ofFiles .empty) ∧
      (∃ name values, invocation? expectation = some (name :: values) ∧ ∀ deeds,
        (h.set (.stub (literalStub name values deeds))).findExpected "kind" awkwardArgs =
          some (literalStub name values deeds)) ∧
      stubDefinition "kind" awkwardArgs ≠ stubDefinition "kind" ["get, set)"] := by
  intro h
  obtain ⟨-, hinj, hrefuses⟩ := expectation_reproduces "kind" awkwardArgs
  have hrefused : (h.target silent []).execute ⟨"kind", []⟩ awkwardArgs (.ofFiles .empty) =
      (.error (.unexpectedCommand _ _), .ofFiles .empty) := rfl
  obtain ⟨-, hfound⟩ := hrefuses h silent [] ⟨"kind", []⟩ _ _ _ _ rfl rfl hrefused
  refine ⟨_, _, hrefused, hfound, fun hsame => ?_⟩
  obtain ⟨-, hargs⟩ := hinj _ _ hsame
  exact absurd hargs (by decide)

end Harness

end Pipeline
