import Pipeline.Proofs.Stream.Copying

/-!
# Two copies side by side

The copies of the two output streams take turns and share nothing. So each of them does, under every
schedule and beside any other copy, what it does on its own: it is never cut short by a failure or a
panic of the other one, and comes to the same end (`Unaffected`). Every schedule comes to that end
of both copies, which `copyStreams` gives, and of two failures that of standard output is reported
(`Isolated`).
-/

namespace Pipeline

/-- How a failure of the copy of a stream is reported. -/
def StreamError.ofFailure (stream : Stream) : IoError ⊕ Panic → StreamError
  | .inl e => .io stream e
  | .inr p => .panicked stream p.message

theorem Copied.settle_eq (c : Copied) (stream : Stream) : c.settle stream =
    match c.result with
    | .error e => .error (.ofFailure stream e)
    | .ok bytes => .ok (Utf8.decode bytes) := by
  unfold Copied.settle
  cases c.result with
  | error e => cases e <;> rfl
  | ok bytes => rfl

/-- What a copy has done at some time, of all that it does on its own. -/
def Unaffected (r : Reader) (k : Sink) (all done : List CopyOp) (now : Copying k) : Prop :=
  done <+: all ∧ (copyStep r.ending now = none → done = all ∧ now = .ended (copy r k))

theorem unaffected_of_runs {r : Reader} {k : Sink} {all done : List CopyOp} {now : Copying k}
    (hall : Runs (copyStep r.ending) (.start r k) all (.ended (copy r k)))
    (h : Runs (copyStep r.ending) (.start r k) done now) : Unaffected r k all done now := by
  have hend : copyStep r.ending (.ended (copy r k) : Copying k) = none := copyStep_ended _ _
  constructor
  · obtain ⟨later, hsplit, -⟩ := h.up_to_end hall hend
    exact ⟨later, hsplit.symm⟩
  · intro hnow
    exact h.end_unique hnow hall hend

section
variable (stdout stderr : Reader) (outSink errSink : Sink)

/-- Both copies before their first operations. -/
def Joint.copies : Joint (Copying outSink) (Copying errSink) Unit :=
  ⟨.start stdout outSink, .start stderr errSink, ()⟩

abbrev CopyTurns : Joint (Copying outSink) (Copying errSink) Unit → List (Stream × CopyOp) →
    Joint (Copying outSink) (Copying errSink) Unit → Prop :=
  Turns (copyStep stdout.ending) (copyStep stderr.ending) fun _ nothing => nothing

/-- What two copies do that work side by side. -/
structure Isolated : Prop where
  /-- The copy of standard output does these operations in this order, whatever is on the other
  stream, wherever that goes, and whoever has the turns. -/
  stdoutAlone : ∃ ops, CopiedBy stdout ops (copy stdout outSink) ∧
    ∀ other otherSink turns j,
      CopyTurns stdout other outSink otherSink (.copies stdout other outSink otherSink) turns j →
      Unaffected stdout outSink ops (turnsOf .stdout turns) j.stdout
  /-- So does the copy of standard error. -/
  stderrAlone : ∃ ops, CopiedBy stderr ops (copy stderr errSink) ∧
    ∀ other otherSink turns j,
      CopyTurns other stderr otherSink errSink (.copies other stderr otherSink errSink) turns j →
      Unaffected stderr errSink ops (turnsOf .stderr turns) j.stderr
  /-- No schedule goes on for ever, and none keeps a copy from its end. -/
  ends : ∃ most, ∀ turns j,
    CopyTurns stdout stderr outSink errSink (.copies stdout stderr outSink errSink) turns j →
    turns.length ≤ most ∧ ∃ later j', CopyTurns stdout stderr outSink errSink j later j' ∧
      j'.Ended (copyStep stdout.ending) (copyStep stderr.ending)
  /-- The end is the same for all schedules. -/
  outcome : ∀ turns j,
    CopyTurns stdout stderr outSink errSink (.copies stdout stderr outSink errSink) turns j →
    j.Ended (copyStep stdout.ending) (copyStep stderr.ending) →
    j = ⟨.ended (copyStreams stdout stderr outSink errSink).stdout,
      .ended (copyStreams stdout stderr outSink errSink).stderr, ()⟩
  /-- The failure of standard output is reported before that of standard error. -/
  report : (copyStreams stdout stderr outSink errSink).settle =
    match (copy stdout outSink).result with
    | .error e => .error (.ofFailure .stdout e)
    | .ok out =>
      match (copy stderr errSink).result with
      | .error e => .error (.ofFailure .stderr e)
      | .ok err => .ok ⟨Utf8.decode out, Utf8.decode err⟩

/-- Whatever the readers and the sinks do, neither copy shows in the other. -/
theorem copyStreams_isolated : Isolated stdout stderr outSink errSink := by
  obtain ⟨outs, houts⟩ := copies stdout outSink
  obtain ⟨errs, herrs⟩ := copies stderr errSink
  have hout : copyStep stdout.ending (.ended (copy stdout outSink) : Copying outSink) = none :=
    copyStep_ended _ _
  have herr : copyStep stderr.ending (.ended (copy stderr errSink) : Copying errSink) = none :=
    copyStep_ended _ _
  constructor
  case stdoutAlone =>
    refine ⟨outs, houts.sound, ?_⟩
    intro other otherSink turns j h
    exact unaffected_of_runs houts h.runs.1
  case stderrAlone =>
    refine ⟨errs, herrs.sound, ?_⟩
    intro other otherSink turns j h
    exact unaffected_of_runs herrs h.runs.2
  case ends =>
    refine ⟨outs.length + errs.length, ?_⟩
    intro turns j h
    obtain ⟨later, s, hlater⟩ := h.ends houts hout herrs herr
    exact ⟨h.bounded houts hout herrs herr, later, _, hlater, hout, herr⟩
  case outcome =>
    intro turns j h hend
    obtain ⟨⟨-, hstdout⟩, -, hstderr⟩ := h.at_end hend houts hout herrs herr
    obtain ⟨a, b, u⟩ := j
    cases hstdout
    cases hstderr
    rfl
  case report =>
    simp only [CopiedStreams.settle, copyStreams, Copied.settle_eq]
    cases (copy stdout outSink).result with
    | error e => rfl
    | ok out => cases (copy stderr errSink).result <;> rfl

end

/-- Panics after its second chunk. -/
def startled : Reader := ⟨[[111, 110], [101, 10]], some (.inr (.text "pipe gone"))⟩

/-- Takes two bytes and fails. -/
def narrow : Sink := .faulty { capacity := some 2, error := .other "full" }

/-- Both copies fail, each in its own way: the bytes for the narrow sink are cut, and those before
the panic are all there. -/
theorem narrow_startled_isolated :
    (copyStreams (.ofBytes [97, 98, 99]) startled narrow .buffer).settle =
      .error (.io .stdout (.other "full")) ∧
    ∀ turns j, CopyTurns (.ofBytes [97, 98, 99]) startled narrow .buffer
        (.copies (.ofBytes [97, 98, 99]) startled narrow .buffer) turns j →
      j.Ended (copyStep none) (copyStep startled.ending) →
      j = ⟨.ended ⟨[97, 98], .error (.inl (.other "full"))⟩,
        .ended ⟨[111, 110, 101, 10], .error (.inr (.text "pipe gone"))⟩, ()⟩ := by
  have hisolated := copyStreams_isolated (.ofBytes [97, 98, 99]) startled narrow .buffer
  have hnarrow : copy (.ofBytes [97, 98, 99]) narrow =
      ⟨[97, 98], .error (.inl (.other "full"))⟩ := by
    simp [copy, copyPieces, Reader.reads, Reader.readsFrom, Reader.read, Reader.ofBytes, chunkSize,
      narrow, Sink.faulty, Sink.writeAll]
  have hstartled : copy startled .buffer =
      ⟨[111, 110, 101, 10], .error (.inr (.text "pipe gone"))⟩ := by
    simp [copy, copyPieces, Reader.reads, Reader.readsFrom, Reader.read, chunkSize, startled,
      Sink.buffer, Sink.writeAll]
  constructor
  · rw [hisolated.report, hnarrow]
    rfl
  · intro turns j h hend
    rw [hisolated.outcome turns j h hend]
    unfold copyStreams
    rw [hnarrow, hstartled]

end Pipeline
