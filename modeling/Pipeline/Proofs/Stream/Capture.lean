import Pipeline.Proofs.Run.Recorded

/-!
# What is captured of a command

The output of a command is read in two ways. A step copies it to the sinks of its target, in pieces
of bounded size, and keeps what it read; the body of a function reads it to the end into a buffer
that grows. Neither the chunks of a reader, nor the buffers, nor how much a sink takes at once show
in what is captured (`Captures`): it is decoded as a whole, so that a character that was cut between
two chunks is read as one.
-/

namespace Pipeline

theorem Reader.readToEnd_of_ending {r : Reader} (hr : r.ending = none) :
    r.readToEnd = .ok r.bytes := by
  have hroom : ∀ n, 0 < doubling n := fun n => by
    unfold doubling
    omega
  unfold readToEnd
  rw [hr, flatten_reads hroom]

theorem readAll_of_ending {stdout stderr : Reader} (hout : stdout.ending = none)
    (herr : stderr.ending = none) :
    readAll stdout stderr = .ok ⟨Utf8.decode stdout.bytes, Utf8.decode stderr.bytes⟩ := by
  unfold readAll
  rw [Reader.readToEnd_of_ending hout, Reader.readToEnd_of_ending herr]
  rfl

theorem copyStreams_of_steady {stdout stderr : Reader} {outSink errSink : Sink}
    (hout : stdout.ending = none) (herr : stderr.ending = none) (hos : outSink.Steady)
    (hes : errSink.Steady) :
    copyStreams stdout stderr outSink errSink =
      ⟨⟨stdout.bytes, .ok stdout.bytes⟩, ⟨stderr.bytes, .ok stderr.bytes⟩⟩ := by
  unfold copyStreams
  rw [copy_of_steady hout hos, copy_of_steady herr hes]

/-- Whoever reads the two streams captures these texts, and no byte is lost on the way. -/
structure Captures (stdout stderr : Reader) (captured : Captured) : Prop where
  /-- Sinks that do not fail take each stream as it is, -/
  taken : ∀ outSink errSink : Sink, outSink.Steady → errSink.Steady →
    (copyStreams stdout stderr outSink errSink).stdout.taken = stdout.bytes ∧
    (copyStreams stdout stderr outSink errSink).stderr.taken = stderr.bytes
  /-- and the copies succeed. -/
  copied : ∀ outSink errSink : Sink, outSink.Steady → errSink.Steady →
    (copyStreams stdout stderr outSink errSink).settle = .ok captured
  /-- Reading to the end gives the same texts. -/
  read : readAll stdout stderr = .ok captured
  /-- So a step whose command has this output records what -/
  step : ∀ {σ : Type} (t : Target σ) (inputs : Inputs) (name : String) (c : Command)
    (state : RunState) (args : List String) (w w' : World σ),
    resolveArgs name inputs state c.args = .ok args →
    call t name c args w = (.streams stdout stderr, w') →
    (∀ stream, (t.sink stream w'.target).Steady) →
    (runCommand t inputs name c state w).1 = .ok (Dict.empty.insert stdoutKey captured.stdout)
  /-- a body that executes the command goes on with. -/
  body : ∀ {σ : Type} (t : Target σ) (inputs : Inputs) (name : String) (c : Command)
    (state : RunState) (args : List String) (w w' : World σ)
    (next : Except ContextError Captured → Body) (set : Dict String),
    resolveArgs name inputs state c.args = .ok args →
    call t name c args w = (.streams stdout stderr, w') →
    runBody t inputs name state (.exec c next) set w =
      runBody t inputs name state (next (.ok captured)) set w'

theorem captures_of_ending {stdout stderr : Reader} (hout : stdout.ending = none)
    (herr : stderr.ending = none) :
    Captures stdout stderr ⟨Utf8.decode stdout.bytes, Utf8.decode stderr.bytes⟩ := by
  have hread := readAll_of_ending hout herr
  constructor
  case taken =>
    intro outSink errSink hos hes
    rw [copyStreams_of_steady hout herr hos hes]
    exact ⟨rfl, rfl⟩
  case copied =>
    intro outSink errSink hos hes
    rw [copyStreams_of_steady hout herr hos hes]
    rfl
  case read => exact hread
  case step =>
    intro σ t inputs name c state args w w' hargs hcall hs
    exact runCommand_of_steady hargs hcall hout herr hs
  case body =>
    intro σ t inputs name c state args w w' next set hargs hcall
    rw [runBody]
    simp only [hargs, hcall, hread]

/-- What is captured is the text of all bytes of a stream. It is the same for all readers that
deliver these bytes, and if the bytes are those of a text, it is this text. -/
theorem capture_exact {stdout stderr : Reader} (hout : stdout.ending = none)
    (herr : stderr.ending = none) :
    Captures stdout stderr ⟨Utf8.decode stdout.bytes, Utf8.decode stderr.bytes⟩ ∧
    (∀ stdout' stderr' : Reader, stdout'.ending = none → stderr'.ending = none →
      stdout'.bytes = stdout.bytes → stderr'.bytes = stderr.bytes →
      Captures stdout' stderr' ⟨Utf8.decode stdout.bytes, Utf8.decode stderr.bytes⟩) ∧
    ∀ out err, stdout.bytes = Utf8.encode out → stderr.bytes = Utf8.encode err →
      Captures stdout stderr ⟨out, err⟩ := by
  have hcaptures := captures_of_ending hout herr
  refine ⟨hcaptures, ?_, ?_⟩
  · intro stdout' stderr' hout' herr' houtBytes herrBytes
    rw [← houtBytes, ← herrBytes]
    exact captures_of_ending hout' herr'
  · intro out err houtBytes herrBytes
    rw [houtBytes, herrBytes, Utf8.decode_encode, Utf8.decode_encode] at hcaptures
    exact hcaptures

theorem Sink.steady_mostPerWrite {most : Nat} (h : 0 < most) :
    (faulty { mostPerWrite := some most }).Steady := by
  refine ⟨fun _ => True, trivial, ?_, fun _ _ => rfl⟩
  intro t offered _ hne
  have hpos : 0 < offered.length := List.length_pos_iff.mpr hne
  exact ⟨min offered.length most, _, rfl, by omega, trivial⟩

/-- A reader that cuts a character in two, after a chunk that no buffer of a copy holds. -/
def cutReader : Reader := ⟨[List.replicate 9000 65, [], [0xC3], [0xA9, 10]], none⟩

/-- Its bytes go whole into a sink that takes three of them at once, and are read as one text. -/
theorem cutReader_captured :
    Captures cutReader .empty ⟨String.ofList (List.replicate 9000 'A') ++ "é\n", ""⟩ ∧
    (copyStreams cutReader .empty (.faulty { mostPerWrite := some 3 }) .buffer).stdout.taken =
      List.replicate 9000 65 ++ [0xC3, 0xA9, 10] := by
  have hout : cutReader.ending = none := rfl
  have herr : Reader.empty.ending = none := rfl
  obtain ⟨hcaptures, -, hexact⟩ := capture_exact hout herr
  have hbytes : cutReader.bytes = List.replicate 9000 65 ++ [0xC3, 0xA9, 10] := rfl
  refine ⟨hexact _ _ ?_ rfl, ?_⟩
  · have hletters (n : Nat) : Utf8.encode (String.ofList (List.replicate n 'A')) =
        List.replicate n 65 := by
      induction n with
      | zero => rfl
      | succ n ih =>
          simp only [Utf8.encode, String.toList_ofList, List.replicate_succ,
            List.flatMap_cons] at ih ⊢
          rw [ih]
          rfl
    rw [hbytes, Utf8.encode_append, hletters]
    rfl
  · rw [← hbytes]
    exact (hcaptures.taken _ _ (Sink.steady_mostPerWrite (by decide)) Sink.steady_buffer).1

end Pipeline
