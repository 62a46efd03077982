import Pipeline.Fault
import Pipeline.Text.Utf8

/-!
# Bounded writers

A writer takes text up to the room it has. The write that does not fit is cut at the end of the room
and fails, and every later write that writes anything fails too.
-/

namespace Pipeline

/-- What was written, and the room that is left. -/
structure Writer where
  written : Bytes
  /-- How many more bytes fit, if there is a bound. -/
  room : Option Nat
deriving DecidableEq, Repr

namespace Writer

/-- A writer that everything fits. -/
def unbounded : Writer := ⟨[], none⟩

/-- A writer with room for so many bytes. -/
def bounded (room : Nat) : Writer := ⟨[], some room⟩

/-- What a writer without room answers. -/
def full : IoError := .other "writer is full"

/-- Writes bytes, as far as they fit. -/
def put (w : Writer) (bytes : Bytes) : Option IoError × Writer :=
  match w.room with
  | none => (none, ⟨w.written ++ bytes, none⟩)
  | some n =>
    if bytes.length ≤ n then (none, ⟨w.written ++ bytes, some (n - bytes.length)⟩)
    else (some full, ⟨w.written ++ bytes.take n, some 0⟩)

/-- Writes a text as its encoding. -/
def putText (w : Writer) (text : String) : Option IoError × Writer := w.put (Utf8.encode text)

end Writer
end Pipeline
