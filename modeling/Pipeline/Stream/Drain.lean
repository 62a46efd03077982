import Pipeline.Stream.Reader

/-!
# Draining two pipes

A program that runs delivers pieces of output on two pipes in some order. Each piece is appended to
what its own pipe has delivered and, at the same moment, to what both have. In the end the pieces
are sorted by pipe, and none is lost.
-/

namespace Pipeline

/-- Pieces of output in the order of their arrival. -/
abbrev Pieces := List (Stream × Bytes)

/-- What has arrived: on each pipe, and on both. -/
structure Drained where
  stdout : Bytes
  stderr : Bytes
  combined : Bytes
deriving DecidableEq, Repr

/-- All pieces of one pipe, put together. -/
def Pieces.on (stream : Stream) (pieces : Pieces) : Bytes :=
  (pieces.filter fun p => p.1 = stream).flatMap (·.2)

/-- What has arrived when all pieces have. -/
def drain (pieces : Pieces) : Drained :=
  ⟨pieces.on .stdout, pieces.on .stderr, pieces.flatMap (·.2)⟩

end Pipeline
