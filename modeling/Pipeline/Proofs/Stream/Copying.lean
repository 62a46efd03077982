import Pipeline.Proofs.Stream.Copy
import Pipeline.Proofs.Stream.Turns

/-!
# One copy, operation by operation

The task that copies a stream reads a piece, offers what is left of it to the sink until all of it
is taken, reads again, and flushes the sink once the reader has ended. `copyStep` does one of these
operations, and `copies` says that a task which does one after the other comes to what `copy` gives.
What a copy has done at any time is told by its operations (`Copying.Sound`). When it ends, the sink
has a prefix of what was read, and the last operation tells whether and how it failed (`CopiedBy`).
-/

namespace Pipeline

/-- What a copy does in one turn. -/
inductive CopyOp where
  /-- A read returned some bytes, -/
  | read (piece : Bytes)
  /-- or none, -/
  | ended
  /-- or the reader failed or panicked. -/
  | broke (e : IoError ⊕ Panic)
  | wrote (offered : Bytes) (answer : Response)
  | flushed (failure : Option (IoError ⊕ Panic))
deriving DecidableEq, Repr

namespace CopyOp

/-- What an operation breaks the copy off with. -/
def failure : CopyOp → Option (IoError ⊕ Panic)
  | .read _ => none
  | .ended => none
  | .broke e => some e
  | .wrote _ (.took n) => if n = 0 then some (.inl .writeZero) else none
  | .wrote _ (.failed e) => some (.inl e)
  | .wrote _ (.panicked p) => some (.inr p)
  | .flushed failure => failure

/-- The bytes that an operation had from the reader. -/
def piece : CopyOp → Bytes
  | .read piece => piece
  | _ => []

/-- The bytes that the sink took in an operation. -/
def taken : CopyOp → Bytes
  | .wrote offered (.took n) => offered.take n
  | _ => []

/-- A read that returned bytes, or a write that was not refused. -/
def Plain (op : CopyOp) : Prop :=
  op.failure = none ∧ op ≠ .ended ∧ ∀ failure, op ≠ .flushed failure

end CopyOp

/-- The bytes that a copy had from its reader. -/
def delivered (ops : List CopyOp) : Bytes := ops.flatMap CopyOp.piece

/-- The bytes that the sink of a copy took. -/
def accepted (ops : List CopyOp) : Bytes := ops.flatMap CopyOp.taken

@[simp] theorem delivered_concat (ops : List CopyOp) (op : CopyOp) :
    delivered (ops ++ [op]) = delivered ops ++ op.piece := by simp [delivered]

@[simp] theorem accepted_concat (ops : List CopyOp) (op : CopyOp) :
    accepted (ops ++ [op]) = accepted ops ++ op.taken := by simp [accepted]

/-- Where a copy stands between two operations: what its sink took so far, what it keeps, and the
sink. -/
inductive Copying (k : Sink) where
  | reading (left : List Bytes) (taken kept : Bytes) (s : k.State)
  /-- `rest` is what is still to write of `piece`. -/
  | writing (piece rest : Bytes) (left : List Bytes) (taken kept : Bytes) (s : k.State)
  | flushing (taken kept : Bytes) (s : k.State)
  | ended (c : Copied)

section
variable {k : Sink} (ending : Option (IoError ⊕ Panic))

/-- The next operation of a copy whose reader ends in that way. -/
def copyStep : Copying k → Option (CopyOp × Copying k)
  | .reading left taken kept s =>
    let next := Reader.read chunkSize left
    if next.1 = [] then
      match ending with
      | some e => some (.broke e, .ended ⟨taken, .error e⟩)
      | none => some (.ended, .flushing taken kept s)
    else some (.read next.1, .writing next.1 next.1 next.2 taken kept s)
  | .writing piece rest left taken kept s =>
    match k.write s rest with
    | (.failed e, _) => some (.wrote rest (.failed e), .ended ⟨taken, .error (.inl e)⟩)
    | (.panicked p, _) => some (.wrote rest (.panicked p), .ended ⟨taken, .error (.inr p)⟩)
    | (.took n, s) =>
      some (.wrote rest (.took n),
        if n = 0 then .ended ⟨taken, .error (.inl .writeZero)⟩
        else if rest.drop n = [] then .reading left (taken ++ rest.take n) (kept ++ piece) s
        else .writing piece (rest.drop n) left (taken ++ rest.take n) kept s)
  | .flushing taken kept s =>
    some (.flushed (k.flush s),
      match k.flush s with
      | some e => .ended ⟨taken, .error e⟩
      | none => .ended ⟨taken, .ok kept⟩)
  | .ended _ => none

def Copying.start (r : Reader) (k : Sink) : Copying k := .reading r.chunks [] [] k.start

theorem copyStep_ended (c : Copied) : copyStep ending (.ended c : Copying k) = none := rfl

variable {ending}

/-- Writing operation by operation comes to what writing the whole piece comes to. -/
theorem runs_writing {piece rest : Bytes} {left : List Bytes} {taken kept : Bytes} {s : k.State}
    (hrest : rest ≠ []) :
    ∃ ops, Runs (copyStep ending) (.writing piece rest left taken kept s) ops
      (match (k.writeAll s rest).failure with
        | some e => .ended ⟨taken ++ (k.writeAll s rest).taken, .error e⟩
        | none => .reading left (taken ++ (k.writeAll s rest).taken) (kept ++ piece)
            (k.writeAll s rest).state) := by
  -- one case for each answer of the sink to the first of the writes
  fun_induction k.writeAll s rest generalizing taken with
  | case1 s => exact absurd rfl hrest
  | case2 s rest hne e s' hw =>
      have hstep : copyStep ending (.writing piece rest left taken kept s) =
          some (.wrote rest (.failed e), .ended ⟨taken, .error (.inl e)⟩) := by
        simp only [copyStep, hw]
      exact ⟨_, by simpa using Runs.one hstep⟩
  | case3 s rest hne p s' hw =>
      have hstep : copyStep ending (.writing piece rest left taken kept s) =
          some (.wrote rest (.panicked p), .ended ⟨taken, .error (.inr p)⟩) := by
        simp only [copyStep, hw]
      exact ⟨_, by simpa using Runs.one hstep⟩
  | case4 s rest hne s' hw =>
      have hstep : copyStep ending (.writing piece rest left taken kept s) =
          some (.wrote rest (.took 0), .ended ⟨taken, .error (.inl .writeZero)⟩) := by
        simp only [copyStep, hw, if_true]
      exact ⟨_, by simpa using Runs.one hstep⟩
  | case5 s rest hne n s' hw hn others =>
      rename_i ih
      by_cases hmore : rest.drop n = []
      · have hothers : others = ⟨[], none, s'⟩ := by
          unfold others
          rw [hmore]
          unfold Sink.writeAll
          rfl
        have hstep : copyStep ending (.writing piece rest left taken kept s) = some
            (.wrote rest (.took n), .reading left (taken ++ rest.take n) (kept ++ piece) s') := by
          simp only [copyStep, hw, hn, hmore, if_true, if_false]
        exact ⟨_, by simpa [hothers] using Runs.one hstep⟩
      · have hstep : copyStep ending (.writing piece rest left taken kept s) = some
            (.wrote rest (.took n),
              .writing piece (rest.drop n) left (taken ++ rest.take n) kept s') := by
          simp only [copyStep, hw, hn, hmore, if_false]
        obtain ⟨ops, hops⟩ := @ih (taken ++ rest.take n) hmore
        simp only [List.append_assoc] at hops
        exact ⟨_, .work hstep hops⟩

/-- What a copy comes to that has still to read. -/
def copied (ending : Option (IoError ⊕ Panic)) (k : Sink)
    (pieces : Bytes × Except (IoError ⊕ Panic) (Bytes × k.State)) : Copied :=
  match pieces with
  | (taken, .error e) => ⟨taken, .error e⟩
  | (taken, .ok (kept, s)) =>
    match ending with
    | some e => ⟨taken, .error e⟩
    | none =>
      match k.flush s with
      | some e => ⟨taken, .error e⟩
      | none => ⟨taken, .ok kept⟩

theorem runs_reading {left : List Bytes} {taken kept : Bytes} {s : k.State} (count : Nat) :
    ∃ ops, Runs (copyStep ending) (.reading left taken kept s) ops (.ended (copied ending k
      (copyPieces k taken kept s (Reader.readsFrom (fun _ => chunkSize) count left)))) := by
  fun_induction Reader.readsFrom (fun _ => chunkSize) count left generalizing taken kept s with
  | case1 count left next =>
      rename_i hnil
      cases ending with
      | some e =>
          have hread : copyStep (some e) (.reading left taken kept s : Copying k) =
              some (.broke e, .ended ⟨taken, .error e⟩) := by
            simp only [copyStep, next, hnil, if_true]
          exact ⟨_, .one hread⟩
      | none =>
          have hread : copyStep none (.reading left taken kept s : Copying k) =
              some (.ended, .flushing taken kept s) := by
            simp only [copyStep, next, hnil, if_true]
          have hflush : copyStep none (.flushing taken kept s : Copying k) =
              some (.flushed (k.flush s), .ended (copied none k (taken, .ok (kept, s)))) := by
            simp only [copyStep, copied]
            cases k.flush s <;> rfl
          exact ⟨_, .work hread (.one hflush)⟩
  | case2 count left next hsome =>
      rename_i ih
      have hread : copyStep ending (.reading left taken kept s : Copying k) =
          some (.read next.1, .writing next.1 next.1 next.2 taken kept s) := by
        simp only [copyStep, next, hsome, if_false]
      obtain ⟨writes, hwrites⟩ : ∃ writes, Runs (copyStep ending)
          (.writing next.1 next.1 next.2 taken kept s) writes _ := runs_writing hsome
      rw [copyPieces]
      cases hfailure : (k.writeAll s next.1).failure with
      | some e =>
          simp only [hfailure] at hwrites
          exact ⟨_, .work hread hwrites⟩
      | none =>
          simp only [hfailure] at hwrites
          obtain ⟨later, hlater⟩ := @ih (taken ++ (k.writeAll s next.1).taken) (kept ++ next.1)
            (k.writeAll s next.1).state
          exact ⟨_, .work hread (hwrites.trans hlater)⟩

end

/-- One operation after the other, a copy comes to its end and has copied the stream. -/
theorem copies (r : Reader) (k : Sink) :
    ∃ ops, Runs (copyStep r.ending) (.start r k) ops (.ended (copy r k)) := by
  obtain ⟨ops, hruns⟩ : ∃ ops, Runs (copyStep r.ending) (.start r k) ops _ := runs_reading 0
  refine ⟨ops, ?_⟩
  have hcopy : copy r k = copied r.ending k (copyPieces k [] [] k.start
      (Reader.readsFrom (fun _ => chunkSize) 0 r.chunks)) := by
    unfold copy copied Reader.reads
    cases copyPieces k [] [] k.start (Reader.readsFrom (fun _ => chunkSize) 0 r.chunks) with
    | mk taken result => cases result <;> rfl
  rw [hcopy]
  exact hruns

/-- The ways in which a copy of the reader ends, by what it did until then: its operations, and what
came of it. Before the end there are only reads, and writes that were not refused. -/
inductive CopiedBy (r : Reader) : List CopyOp → Copied → Prop
  /-- The reader fails or panics, and the sink has all that it delivered. -/
  | broke {before : List CopyOp} {e : IoError ⊕ Panic} :
      (∀ op ∈ before, op.Plain) → delivered before = r.bytes → accepted before = r.bytes →
      r.ending = some e → CopiedBy r (before ++ [.broke e]) ⟨r.bytes, .error e⟩
  /-- The sink refuses what is left of a piece, and has what was delivered up to there. -/
  | refused {before : List CopyOp} {offered : Bytes} {answer : Response} {e : IoError ⊕ Panic} :
      (∀ op ∈ before, op.Plain) → delivered before <+: r.bytes →
      accepted before ++ offered = delivered before →
      (CopyOp.wrote offered answer).failure = some e →
      CopiedBy r (before ++ [.wrote offered answer]) ⟨accepted before, .error e⟩
  /-- The reader has ended, and the sink cannot be flushed, -/
  | unflushed {before : List CopyOp} {e : IoError ⊕ Panic} :
      (∀ op ∈ before, op.Plain) → delivered before = r.bytes → accepted before = r.bytes →
      r.ending = none → CopiedBy r (before ++ [.ended, .flushed (some e)]) ⟨r.bytes, .error e⟩
  /-- or can. -/
  | done {before : List CopyOp} :
      (∀ op ∈ before, op.Plain) → delivered before = r.bytes → accepted before = r.bytes →
      r.ending = none → CopiedBy r (before ++ [.ended, .flushed none]) ⟨r.bytes, .ok r.bytes⟩

theorem CopiedBy.taken_prefix {r : Reader} {ops : List CopyOp} {c : Copied}
    (h : CopiedBy r ops c) : c.taken <+: r.bytes := by
  cases h with
  | broke _ _ _ _ => exact List.prefix_rfl
  | refused _ hdelivered haccepted _ =>
      have hfront : accepted _ <+: delivered _ := ⟨_, haccepted⟩
      exact hfront.trans hdelivered
  | unflushed _ _ _ _ => exact List.prefix_rfl
  | done _ _ _ _ => exact List.prefix_rfl

/-- What a copy has done so far, and what it has still to do with the bytes that the reader has. -/
def Copying.Sound {k : Sink} (r : Reader) (ops : List CopyOp) : Copying k → Prop
  | .reading left taken kept _ =>
    (∀ op ∈ ops, op.Plain) ∧ delivered ops ++ left.flatten = r.bytes ∧
      accepted ops = delivered ops ∧ taken = accepted ops ∧ kept = delivered ops
  | .writing piece rest left taken kept _ =>
    (∀ op ∈ ops, op.Plain) ∧ delivered ops ++ left.flatten = r.bytes ∧
      accepted ops ++ rest = delivered ops ∧ taken = accepted ops ∧ kept ++ piece = delivered ops
  | .flushing taken kept _ => ∃ before, ops = before ++ [.ended] ∧ (∀ op ∈ before, op.Plain) ∧
    delivered before = r.bytes ∧ accepted before = r.bytes ∧ r.ending = none ∧
      taken = r.bytes ∧ kept = r.bytes
  | .ended c => CopiedBy r ops c

theorem plain_read (piece : Bytes) : (CopyOp.read piece).Plain :=
  ⟨rfl, by simp, by simp⟩

theorem plain_wrote {n : Nat} (h : n ≠ 0) (offered : Bytes) :
    (CopyOp.wrote offered (.took n)).Plain := ⟨if_neg h, by simp, by simp⟩

theorem plain_concat {ops : List CopyOp} {op : CopyOp} (h : ∀ op ∈ ops, op.Plain)
    (hop : op.Plain) : ∀ x ∈ ops ++ [op], x.Plain := by
  intro x hx
  rcases List.mem_append.mp hx with hx | hx
  · exact h x hx
  · rwa [List.mem_singleton.mp hx]

section
variable {k : Sink} {r : Reader} {ops : List CopyOp} {op : CopyOp} {next : Copying k}

theorem sound_after_read {left : List Bytes} {taken kept : Bytes} {s : k.State}
    (h : (Copying.reading left taken kept s).Sound r ops)
    (hs : copyStep r.ending (.reading left taken kept s) = some (op, next)) :
    next.Sound r (ops ++ [op]) := by
  obtain ⟨hplain, hdelivered, haccepted, rfl, rfl⟩ := h
  have hsplit := Reader.read_append chunkSize left
  simp only [copyStep] at hs
  split at hs
  · -- nothing is left to read
    rename_i hnil
    have hleft : left.flatten = [] := Reader.flatten_of_read_nil (by decide) hnil
    rw [hleft, List.append_nil] at hdelivered
    split at hs
    · rename_i e he
      cases hs
      simp only [Copying.Sound, haccepted, hdelivered]
      exact .broke hplain hdelivered (haccepted.trans hdelivered) he
    · rename_i he
      cases hs
      exact ⟨ops, rfl, hplain, hdelivered, haccepted.trans hdelivered, he,
        haccepted.trans hdelivered, hdelivered⟩
  · -- a piece was read, and is now to write
    cases hs
    refine ⟨plain_concat hplain (plain_read _), ?_, ?_, ?_, ?_⟩
    · rw [delivered_concat, List.append_assoc, CopyOp.piece, hsplit, hdelivered]
    · rw [accepted_concat, delivered_concat, haccepted]
      simp [CopyOp.piece, CopyOp.taken]
    · simp [CopyOp.taken]
    · simp [CopyOp.piece]

theorem sound_after_write {piece rest : Bytes} {left : List Bytes} {taken kept : Bytes}
    {s : k.State} (h : (Copying.writing piece rest left taken kept s).Sound r ops)
    (hs : copyStep r.ending (.writing piece rest left taken kept s) = some (op, next)) :
    next.Sound r (ops ++ [op]) := by
  obtain ⟨hplain, hdelivered, haccepted, rfl, hkept⟩ := h
  have hfront : delivered ops <+: r.bytes := ⟨_, hdelivered⟩
  simp only [copyStep] at hs
  split at hs
  · cases hs
    exact .refused hplain hfront haccepted rfl
  · cases hs
    exact .refused hplain hfront haccepted rfl
  · rename_i n s' hw
    cases hs
    by_cases hzero : n = 0
    · simp only [hzero, if_true]
      exact .refused hplain hfront haccepted rfl
    · have hplain' := plain_concat hplain (plain_wrote hzero rest)
      have htaken : accepted ops ++ rest.take n =
          accepted (ops ++ [.wrote rest (.took n)]) := by
        simp [CopyOp.taken]
      have hpiece : delivered (ops ++ [.wrote rest (.took n)]) = delivered ops := by
        simp [CopyOp.piece]
      simp only [hzero, if_false]
      split
      · rename_i hnil
        have hall : rest.take n = rest := by
          have hboth := List.take_append_drop n rest
          rwa [hnil, List.append_nil] at hboth
        refine ⟨hplain', ?_, ?_, htaken, ?_⟩
        · rw [hpiece, hdelivered]
        · rw [hpiece, ← htaken, hall, haccepted]
        · rw [hpiece, hkept]
      · refine ⟨hplain', ?_, ?_, htaken, ?_⟩
        · rw [hpiece, hdelivered]
        · rw [hpiece, ← htaken, List.append_assoc, List.take_append_drop, haccepted]
        · rw [hpiece, hkept]

/-- What a copy has done stays sound with every operation. -/
theorem sound_after {now : Copying k} (h : now.Sound r ops)
    (hs : copyStep r.ending now = some (op, next)) : next.Sound r (ops ++ [op]) := by
  cases now with
  | reading left taken kept s => exact sound_after_read h hs
  | writing piece rest left taken kept s => exact sound_after_write h hs
  | flushing taken kept s =>
      obtain ⟨before, rfl, hplain, hdelivered, haccepted, hending, rfl, rfl⟩ := h
      cases hs
      rw [List.append_assoc]
      cases hflush : k.flush s with
      | some e => exact .unflushed hplain hdelivered haccepted hending
      | none => exact .done hplain hdelivered haccepted hending
  | ended c => cases hs

theorem sound_start (r : Reader) (k : Sink) : (Copying.start r k).Sound r [] :=
  ⟨by simp, rfl, rfl, rfl, rfl⟩

theorem Runs.sound {now : Copying k} (h : Runs (copyStep r.ending) (.start r k) ops now) :
    now.Sound r ops :=
  h.keeps (P := fun done now => now.Sound r done) (sound_start r k)
    fun _ _ _ _ hsound hs => sound_after hsound hs

end

end Pipeline
