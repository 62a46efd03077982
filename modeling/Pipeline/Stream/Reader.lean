import Pipeline.Fault
import Pipeline.Text.Utf8

/-!
# Readers

A reader delivers a finite sequence of chunks and then ends, fails or panics. A read returns what is
left of one chunk, as far as the buffer has room; empty chunks are passed over, so that nothing is
returned only when no byte is left. `Reader.reads` lists what successive reads return, and loses
nothing, whatever the buffers (`flatten_reads`).
-/

namespace Pipeline

/-- One of the two output streams of a command. -/
inductive Stream where
  | stdout
  | stderr
deriving DecidableEq, Repr

def Stream.name : Stream → String
  | .stdout => "stdout"
  | .stderr => "stderr"

/-- A finite source of bytes and how it ends. -/
structure Reader where
  chunks : List Bytes
  /-- What breaks the reader off after its last chunk, if anything does. -/
  ending : Option (IoError ⊕ Panic)
deriving DecidableEq, Repr

namespace Reader

/-- A reader of bytes that are there already. -/
def ofBytes (bytes : Bytes) : Reader := ⟨[bytes], none⟩

/-- A reader without a byte. -/
def empty : Reader := ofBytes []

/-- Everything the reader delivers. -/
def bytes (r : Reader) : Bytes := r.chunks.flatten

/-- One read into a buffer with room for `size` bytes: what it returns, and the chunks that are
left. -/
def read (size : Nat) : List Bytes → Bytes × List Bytes
  | [] => ([], [])
  | c :: cs => if c = [] then read size cs else (c.take size, c.drop size :: cs)

theorem read_append (size : Nat) (left : List Bytes) :
    (read size left).1 ++ (read size left).2.flatten = left.flatten := by
  induction left with
  | nil => rfl
  | cons c cs ih =>
    unfold read
    split
    · rename_i hempty
      rw [ih, hempty]
      rfl
    · rw [List.flatten_cons, List.flatten_cons, ← List.append_assoc, List.take_append_drop]

/-- A buffer with any room is left empty only when no byte is left. -/
theorem flatten_of_read_nil {size : Nat} (hsize : 0 < size) {left : List Bytes}
    (h : (read size left).1 = []) : left.flatten = [] := by
  induction left with
  | nil => rfl
  | cons c cs ih =>
    unfold read at h
    split at h
    · rename_i hempty
      rw [List.flatten_cons, hempty, ih h]
      rfl
    · rename_i hsome
      exact absurd h (by simp [hsome, Nat.ne_of_gt hsize])

/-- What successive reads return until one returns nothing. Once `kept` bytes were read the buffer
has room for `room kept` bytes. -/
def readsFrom (room : Nat → Nat) (kept : Nat) (left : List Bytes) : List Bytes :=
  let next := read (room kept) left
  if _h : next.1 = [] then []
  else next.1 :: readsFrom room (kept + next.1.length) next.2
termination_by left.flatten.length
decreasing_by
  have hlength := congrArg List.length (read_append (room kept) left)
  have hpos : 0 < (read (room kept) left).1.length := List.length_pos_iff.mpr _h
  simp only [List.length_append] at hlength
  omega

/-- What successive reads of a reader return before it ends. -/
def reads (room : Nat → Nat) (r : Reader) : List Bytes := readsFrom room 0 r.chunks

theorem flatten_readsFrom {room : Nat → Nat} (hroom : ∀ n, 0 < room n) (kept : Nat)
    (left : List Bytes) : (readsFrom room kept left).flatten = left.flatten := by
  fun_induction readsFrom room kept left with
  | case1 kept left next h =>
    rw [flatten_of_read_nil (hroom kept) h]
    rfl
  | case2 kept left next h ih =>
    rw [List.flatten_cons, ih]
    exact read_append (room kept) left

theorem flatten_reads {room : Nat → Nat} (hroom : ∀ n, 0 < room n) (r : Reader) :
    (r.reads room).flatten = r.bytes := flatten_readsFrom hroom 0 r.chunks

/-- The room for the next read when so many bytes are kept in a buffer that doubles. -/
def doubling (kept : Nat) : Nat := max 32 kept

/-- Reads to the end, and keeps what was read. -/
def readToEnd (r : Reader) : Except (IoError ⊕ Panic) Bytes :=
  match r.ending with
  | none => .ok (r.reads doubling).flatten
  | some e => .error e

end Reader

/-- The output of a command, read as text. -/
structure Captured where
  stdout : String
  stderr : String
deriving DecidableEq, Repr

/-- Reads both streams to the end, standard output first. -/
def readAll (stdout stderr : Reader) : Except (IoError ⊕ Panic) Captured := do
  let out ← stdout.readToEnd
  let err ← stderr.readToEnd
  return ⟨Utf8.decode out, Utf8.decode err⟩

end Pipeline
