import Pipeline.Stream.Reader
import Pipeline.Stream.Sink

/-!
# Copying the output of a command

The two output streams of a command are copied to two sinks and kept. Each stream is copied on its
own: read a piece, write all of it, read again, and flush the sink when the reader has ended. The
copies never see each other, so a failure of one leaves the other as it would have been. When both
fail the failure of standard output is reported.
-/

namespace Pipeline

/-- What can go wrong while a stream is copied. -/
inductive StreamError where
  | io (stream : Stream) (error : IoError)
  | panicked (stream : Stream) (message : String)
deriving DecidableEq, Repr

namespace StreamError

/-- The text of an error, with the stream in front. -/
def message : StreamError → String
  | .io stream error => stream.name ++ ": " ++ error.message
  | .panicked stream message => stream.name ++ ": copy task panicked: " ++ message

/-- The texts of the errors behind an error. -/
def causes : StreamError → List String
  | .io _ error => [error.message]
  | .panicked .. => []

end StreamError

/-- How the copy of one stream ended: the bytes the sink took, and the bytes read or what broke the
copy off. -/
structure Copied where
  taken : Bytes
  result : Except (IoError ⊕ Panic) Bytes

/-- The most bytes that one read returns. -/
def chunkSize : Nat := 8192

/-- Copies pieces in turn: each is written whole, and then kept. What was taken and what was kept so
far stand in front. -/
def copyPieces (k : Sink) (taken kept : Bytes) (s : k.State) :
    List Bytes → Bytes × Except (IoError ⊕ Panic) (Bytes × k.State)
  | [] => (taken, .ok (kept, s))
  | p :: ps =>
    let w := k.writeAll s p
    match w.failure with
    | some e => (taken ++ w.taken, .error e)
    | none => copyPieces k (taken ++ w.taken) (kept ++ p) w.state ps

/-- Copies a reader into a sink. -/
def copy (r : Reader) (k : Sink) : Copied :=
  match copyPieces k [] [] k.start (r.reads fun _ => chunkSize) with
  | (taken, .error e) => ⟨taken, .error e⟩
  | (taken, .ok (kept, s)) =>
    match r.ending with
    | some e => ⟨taken, .error e⟩
    | none =>
      match k.flush s with
      | some e => ⟨taken, .error e⟩
      | none => ⟨taken, .ok kept⟩

/-- The text of a copied stream, or its error. -/
def Copied.settle (c : Copied) (stream : Stream) : Except StreamError String :=
  match c.result with
  | .ok bytes => .ok (Utf8.decode bytes)
  | .error (.inl e) => .error (.io stream e)
  | .error (.inr p) => .error (.panicked stream p.message)

/-- How the copies of both streams ended. -/
structure CopiedStreams where
  stdout : Copied
  stderr : Copied

/-- Copies both streams, each to its own sink. -/
def copyStreams (stdout stderr : Reader) (stdoutSink stderrSink : Sink) : CopiedStreams :=
  ⟨copy stdout stdoutSink, copy stderr stderrSink⟩

/-- Both texts, or the error to report. -/
def CopiedStreams.settle (c : CopiedStreams) : Except StreamError Captured := do
  let out ← c.stdout.settle .stdout
  let err ← c.stderr.settle .stderr
  return ⟨out, err⟩

end Pipeline
