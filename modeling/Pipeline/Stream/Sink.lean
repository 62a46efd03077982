import Pipeline.Fault
import Pipeline.Text.Utf8

/-!
# Sinks

A sink is a machine that answers each write: it takes some bytes from the front of what it is
offered, or fails, or panics. `Sink.writeAll` offers what is left until everything is taken. A sink
that takes nothing of a non-empty offer ends the writing with an error, so the loop is bounded by
the bytes still to write.
-/

namespace Pipeline

/-- The answer of a sink to one write. -/
inductive Response where
  /-- Took that many bytes, or all of them if they were fewer. -/
  | took (count : Nat)
  | failed (error : IoError)
  | panicked (payload : Panic)
deriving DecidableEq, Repr

/-- A machine that bytes are written to, and the state it starts in. -/
structure Sink where
  State : Type
  start : State
  write : State → Bytes → Response × State
  flush : State → Option (IoError ⊕ Panic)

namespace Sink

/-- A sink that takes everything. -/
def buffer : Sink where
  State := Unit
  start := ()
  write _ offered := (.took offered.length, ())
  flush _ := none

/-- How writing a whole piece ended: what was taken, what broke it off, and the sink after it. -/
structure Written (k : Sink) where
  taken : Bytes
  failure : Option (IoError ⊕ Panic)
  state : k.State

/-- Writes a whole piece. -/
def writeAll (k : Sink) (s : k.State) (piece : Bytes) : Written k :=
  if _h : piece = [] then ⟨[], none, s⟩
  else
    match k.write s piece with
    | (.failed e, s) => ⟨[], some (.inl e), s⟩
    | (.panicked p, s) => ⟨[], some (.inr p), s⟩
    | (.took n, s) =>
      if n = 0 then ⟨[], some (.inl .writeZero), s⟩
      else
        let rest := k.writeAll s (piece.drop n)
        ⟨piece.take n ++ rest.taken, rest.failure, rest.state⟩
termination_by piece.length
decreasing_by
  have : 0 < piece.length := List.length_pos_iff.mpr _h
  simp only [List.length_drop]
  omega

/-- Faults that a sink can be given, in the order in which a write looks for them. -/
structure Faults where
  panic : Option Panic := none
  /-- Takes nothing of any write. -/
  takesNothing : Bool := false
  /-- The write, counted from one, that fails. -/
  failingWrite : Option Nat := none
  /-- The most bytes that one write takes. -/
  mostPerWrite : Option Nat := none
  /-- The most bytes taken altogether. -/
  capacity : Option Nat := none
  failsToFlush : Bool := false
  error : IoError := .other ""

/-- Writes seen and bytes taken so far. -/
structure Tally where
  writes : Nat
  taken : Nat
deriving DecidableEq, Repr

/-- A sink that takes everything but for its faults. -/
def faulty (f : Faults) : Sink where
  State := Tally
  start := ⟨0, 0⟩
  write t offered :=
    let t : Tally := ⟨t.writes + 1, t.taken⟩
    match f.panic with
    | some p => (.panicked p, t)
    | none =>
      if f.takesNothing then (.took 0, t)
      else if f.failingWrite = some t.writes then (.failed f.error, t)
      else
        let count := (f.mostPerWrite.map (min offered.length)).getD offered.length
        match f.capacity with
        | none => (.took count, ⟨t.writes, t.taken + count⟩)
        | some c =>
          if c ≤ t.taken then (.failed f.error, t)
          else
            let count := min count (c - t.taken)
            (.took count, ⟨t.writes, t.taken + count⟩)
  flush _ := if f.failsToFlush then some (.inl f.error) else none

end Sink
end Pipeline
