/-!
# Bytes and text

`Utf8.encode` writes text as bytes. `Utf8.decode` reads any bytes as text: each character that the
bytes spell stands for itself, and each maximal ill-formed piece becomes one replacement character.
The reader is a machine with one state between two bytes, so that how the bytes were cut into pieces
before they were put together cannot matter. Overlong forms, surrogates and values above the last
code point are ill-formed: the range of the byte after the first excludes them.
-/

namespace Pipeline

abbrev Bytes := List UInt8

namespace Utf8

/-- The bytes of a text, character by character. -/
def encode (text : String) : Bytes := text.toList.flatMap String.utf8EncodeChar

/-- Written for a piece of input that is no character. -/
def replacement : Char := '\uFFFD'

/-- Where the reader stands between two bytes. -/
inductive State where
  /-- Between two characters. -/
  | ready
  /-- Inside a character: `owed` more bytes after the next one, which must lie from `low` to `high`;
  `value` holds the bits read so far. -/
  | inside (owed low high value : Nat)
deriving DecidableEq, Repr

/-- The characters and the state after a byte that begins a character. -/
def first (b : Nat) : List Char × State :=
  if b < 0x80 then ([Char.ofNat b], .ready)
  else if b < 0xC2 then ([replacement], .ready)
  else if b < 0xE0 then ([], .inside 0 0x80 0xBF (b - 0xC0))
  else if b = 0xE0 then ([], .inside 1 0xA0 0xBF 0)
  else if b = 0xED then ([], .inside 1 0x80 0x9F 0xD)
  else if b < 0xF0 then ([], .inside 1 0x80 0xBF (b - 0xE0))
  else if b = 0xF0 then ([], .inside 2 0x90 0xBF 0)
  else if b < 0xF4 then ([], .inside 2 0x80 0xBF (b - 0xF0))
  else if b = 0xF4 then ([], .inside 2 0x80 0x8F 4)
  else ([replacement], .ready)

/-- A byte that cannot go on with the character in progress ends it and begins another. -/
def step : State → UInt8 → List Char × State
  | .ready, b => first b.toNat
  | .inside owed low high value, b =>
    if low ≤ b.toNat ∧ b.toNat ≤ high then
      let value := value * 64 + (b.toNat - 0x80)
      match owed with
      | 0 => ([Char.ofNat value], .ready)
      | owed + 1 => ([], .inside owed 0x80 0xBF value)
    else
      let next := first b.toNat
      (replacement :: next.1, next.2)

/-- What is left to write when the input ends. -/
def State.finish : State → List Char
  | .ready => []
  | .inside .. => [replacement]

/-- The characters that `bytes` spell from a state. -/
def read : State → Bytes → List Char
  | s, [] => s.finish
  | s, b :: bs => (step s b).1 ++ read (step s b).2 bs

/-- `read` with the characters so far collected in front, latest first. -/
def readOnto (done : List Char) : State → Bytes → List Char
  | s, [] => (s.finish.reverse ++ done).reverse
  | s, b :: bs => readOnto ((step s b).1.reverse ++ done) (step s b).2 bs

theorem readOnto_eq (done : List Char) (s : State) (bs : Bytes) :
    readOnto done s bs = done.reverse ++ read s bs := by
  induction bs generalizing done s with
  | nil => simp [readOnto, read]
  | cons b bs ih => simp [readOnto, read, ih]

/-- The text of any bytes. -/
def decode (bytes : Bytes) : String := .ofList (readOnto [] .ready bytes)

theorem toList_decode (bytes : Bytes) : (decode bytes).toList = read .ready bytes := by
  simp [decode, readOnto_eq]

end Utf8
end Pipeline
