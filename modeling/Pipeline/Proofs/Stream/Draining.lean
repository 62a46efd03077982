import Pipeline.Proofs.Stream.Copy
import Pipeline.Proofs.Stream.Turns
import Pipeline.Target.Process

/-!
# Draining a program under every schedule

The two pipes of a program are drained by two tasks side by side. A task reads a piece, puts it
behind what it has of its own pipe, and appends it to the buffer that both share; between the two
the other task may have any number of turns. `arrivals` are the appended pieces in the order of
their arrival. At any time the shared buffer is made of them, and those of one pipe are the first of
its pieces (`DrainTurns.shared`, `DrainTurns.chunks_prefix`). At the end they are a merge of the
pieces of both pipes, every merge occurs, and running the program comes to what the buffers say
(`LosesNothing`).
-/

namespace Pipeline

/-- What a drain does in one turn. -/
inductive DrainOp where
  | read (piece : Bytes)
  | append (piece : Bytes)
  /-- The reader ended, failed or panicked. -/
  | finish
deriving DecidableEq, Repr

/-- The piece that an operation appends to the shared buffer. -/
def DrainOp.appended? : DrainOp → Option Bytes
  | .append piece => some piece
  | _ => none

def DrainOp.act (op : DrainOp) (combined : Bytes) : Bytes := combined ++ op.appended?.getD []

/-- Where a drain stands between two operations. -/
inductive Draining where
  | reading (left : List Bytes) (own : Bytes)
  /-- The piece is in its own buffer and not yet in the shared one. -/
  | appending (piece : Bytes) (left : List Bytes) (own : Bytes)
  | ended (own : Bytes)
deriving DecidableEq, Repr

def drainStep : Draining → Option (DrainOp × Draining)
  | .reading left own =>
    let next := Reader.read chunkSize left
    if next.1 = [] then some (.finish, .ended own)
    else some (.read next.1, .appending next.1 next.2 (own ++ next.1))
  | .appending piece left own => some (.append piece, .reading left own)
  | .ended _ => none

/-- The pieces that a task reads of a pipe. -/
def Reader.pieces (r : Reader) : List Bytes := r.reads fun _ => chunkSize

/-- All that a task does which drains these pieces. -/
def drainOps (pieces : List Bytes) : List DrainOp :=
  pieces.flatMap (fun piece => [.read piece, .append piece]) ++ [.finish]

theorem runs_draining (left : List Bytes) (own : Bytes) (count : Nat) :
    Runs drainStep (.reading left own)
      (drainOps (Reader.readsFrom (fun _ => chunkSize) count left))
      (.ended (own ++ (Reader.readsFrom (fun _ => chunkSize) count left).flatten)) := by
  fun_induction Reader.readsFrom (fun _ => chunkSize) count left generalizing own with
  | case1 count left next =>
      rename_i hnil
      refine .one ?_
      simp [drainStep, next, hnil]
  | case2 count left next hsome =>
      rename_i ih
      have hread : drainStep (.reading left own) =
          some (.read next.1, .appending next.1 next.2 (own ++ next.1)) := by
        simp [drainStep, next, hsome]
      have happend : drainStep (.appending next.1 next.2 (own ++ next.1)) =
          some (.append next.1, .reading next.2 (own ++ next.1)) := rfl
      have hrest := ih (own ++ next.1)
      rw [List.append_assoc] at hrest
      exact .work hread (.work happend hrest)

def Draining.start (r : Reader) : Draining := .reading r.chunks []

theorem drains (r : Reader) :
    Runs drainStep (.start r) (drainOps r.pieces) (.ended r.bytes) := by
  have hruns := runs_draining r.chunks [] 0
  rwa [List.nil_append, show (Reader.readsFrom _ 0 r.chunks).flatten = r.bytes from
    flatten_pieces r] at hruns

/-- The pieces of one pipe, in order. -/
def Pieces.chunks (stream : Stream) (pieces : Pieces) : List Bytes :=
  (pieces.filter fun p => p.1 = stream).map (·.2)

theorem Pieces.on_eq (stream : Stream) (pieces : Pieces) :
    pieces.on stream = (pieces.chunks stream).flatten := rfl

theorem Pieces.length_flatMap (pieces : Pieces) :
    (pieces.flatMap (·.2)).length = (pieces.on .stdout).length + (pieces.on .stderr).length := by
  induction pieces with
  | nil => rfl
  | cons p pieces ih =>
      obtain ⟨stream, bytes⟩ := p
      simp only [List.flatMap_cons, List.length_append, ih, Pieces.on]
      cases stream <;> simp <;> omega

/-- The pieces that were appended, in the order of their arrival. -/
def arrivals (turns : List (Stream × DrainOp)) : Pieces :=
  turns.filterMap fun p => p.2.appended?.map fun piece => (p.1, piece)

theorem chunks_arrivals (stream : Stream) (turns : List (Stream × DrainOp)) :
    (arrivals turns).chunks stream = (turnsOf stream turns).filterMap DrainOp.appended? := by
  induction turns with
  | nil => rfl
  | cons p turns ih =>
      obtain ⟨source, op⟩ := p
      simp only [arrivals, turnsOf, Pieces.chunks] at ih ⊢
      cases hop : op.appended? <;> by_cases hfrom : source = stream <;>
        simp [hop, hfrom, ih]

theorem appended_drainOps (pieces : List Bytes) :
    (drainOps pieces).filterMap DrainOp.appended? = pieces := by
  induction pieces with
  | nil => rfl
  | cons piece pieces ih => simpa [drainOps, List.filterMap_cons, DrainOp.appended?] using ih

abbrev DrainTurns : Joint Draining Draining Bytes → List (Stream × DrainOp) →
    Joint Draining Draining Bytes → Prop := Turns drainStep drainStep DrainOp.act

/-- Both drains before their first operations, and nothing in the buffer that they share. -/
def Joint.drains (stdout stderr : Reader) : Joint Draining Draining Bytes :=
  ⟨.start stdout, .start stderr, []⟩

theorem foldl_act (turns : List (Stream × DrainOp)) (combined : Bytes) :
    turns.foldl (fun s p => p.2.act s) combined = combined ++ (arrivals turns).flatMap (·.2) := by
  induction turns generalizing combined with
  | nil => simp [arrivals]
  | cons p turns ih =>
      rw [List.foldl_cons, ih]
      cases hop : p.2.appended? <;> simp [arrivals, DrainOp.act, hop]

section
variable {stdout stderr : Reader} {turns : List (Stream × DrainOp)}
  {j : Joint Draining Draining Bytes}

/-- At any time the shared buffer holds the pieces that have arrived, in that order. -/
theorem DrainTurns.shared (h : DrainTurns (.drains stdout stderr) turns j) :
    j.shared = (arrivals turns).flatMap (·.2) := by
  have hfold := h.shared_eq
  rwa [foldl_act] at hfold

/-- At any time the pieces of one pipe that have arrived are the first of those that it delivers. -/
theorem DrainTurns.chunks_prefix (h : DrainTurns (.drains stdout stderr) turns j) :
    (arrivals turns).chunks .stdout <+: stdout.pieces ∧
      (arrivals turns).chunks .stderr <+: stderr.pieces := by
  obtain ⟨hout, herr⟩ := h.runs
  obtain ⟨moreOut, houts, -⟩ := hout.up_to_end (drains stdout) rfl
  obtain ⟨moreErr, herrs, -⟩ := herr.up_to_end (drains stderr) rfl
  have houtPrefix : turnsOf .stdout turns <+: drainOps stdout.pieces := ⟨_, houts.symm⟩
  have herrPrefix : turnsOf .stderr turns <+: drainOps stderr.pieces := ⟨_, herrs.symm⟩
  rw [chunks_arrivals, chunks_arrivals]
  constructor
  · simpa [appended_drainOps] using houtPrefix.filterMap DrainOp.appended?
  · simpa [appended_drainOps] using herrPrefix.filterMap DrainOp.appended?

end

/-- A schedule by which pieces arrive in this order. -/
def scheduleOf (pieces : Pieces) : List (Stream × DrainOp) :=
  pieces.flatMap (fun p => [(p.1, .read p.2), (p.1, .append p.2)]) ++
    [(.stdout, .finish), (.stderr, .finish)]

theorem turnsOf_scheduleOf (stream : Stream) (pieces : Pieces) :
    turnsOf stream (scheduleOf pieces) = drainOps (pieces.chunks stream) := by
  induction pieces with
  | nil => cases stream <;> rfl
  | cons p pieces ih =>
      obtain ⟨source, piece⟩ := p
      simp only [scheduleOf, turnsOf, drainOps, Pieces.chunks] at ih ⊢
      by_cases h : source = stream <;> simp [h] <;> simpa using ih

theorem arrivals_scheduleOf (pieces : Pieces) : arrivals (scheduleOf pieces) = pieces := by
  induction pieces with
  | nil => rfl
  | cons p pieces ih =>
      simp only [scheduleOf, arrivals] at ih ⊢
      simpa [DrainOp.appended?] using ih

/-- The error that a failed drain comes to; `text` says what there is to say of a panic. -/
def drainError (text : Panic → String) : IoError ⊕ Panic → IoError
  | .inl e => e
  | .inr p => .other (text p)

/-- What becomes of the output of a program, under every schedule of its two drains. -/
structure LosesNothing (stdout stderr : Reader) : Prop where
  /-- At any time the shared buffer is what has arrived, the pieces of each pipe in order. -/
  always : ∀ turns j, DrainTurns (.drains stdout stderr) turns j →
    j.shared = (arrivals turns).flatMap (·.2) ∧
    (arrivals turns).chunks .stdout <+: stdout.pieces ∧
    (arrivals turns).chunks .stderr <+: stderr.pieces
  /-- No schedule goes on for ever, and none keeps a drain from its end. -/
  ends : ∃ most, ∀ turns j, DrainTurns (.drains stdout stderr) turns j →
    turns.length ≤ most ∧ ∃ later j', DrainTurns j later j' ∧ j'.Ended drainStep drainStep
  /-- At the end each buffer has its pipe, and the shared one all pieces of both, whole and once. -/
  whole : ∀ turns j, DrainTurns (.drains stdout stderr) turns j → j.Ended drainStep drainStep →
    j.stdout = .ended stdout.bytes ∧ j.stderr = .ended stderr.bytes ∧
    j.shared = (arrivals turns).flatMap (·.2) ∧
    (arrivals turns).chunks .stdout = stdout.pieces ∧
    (arrivals turns).chunks .stderr = stderr.pieces ∧
    j.shared.length = stdout.bytes.length + stderr.bytes.length
  /-- There is a schedule for every merge of the pieces. -/
  occurs : ∀ pieces : Pieces, pieces.chunks .stdout = stdout.pieces →
    pieces.chunks .stderr = stderr.pieces → ∃ turns j,
      DrainTurns (.drains stdout stderr) turns j ∧ j.Ended drainStep drainStep ∧
      arrivals turns = pieces
  /-- The program then comes to the failure of a drain, that of standard output first, or to its
  exit with the shared buffer, or to both of its outputs. -/
  answer : ∀ turns j, DrainTurns (.drains stdout stderr) turns j → j.Ended drainStep drainStep →
    ∀ text exit (start : Starter) s fs fs',
      start s fs = (.ok ⟨arrivals turns, exit, stdout.ending.map (drainError text),
        stderr.ending.map (drainError text)⟩, fs') →
      start.run s fs = (
        match stdout.ending with
        | some e => .error (.io s.shown (drainError text e))
        | none =>
          match stderr.ending with
          | some e => .error (.io s.shown (drainError text e))
          | none =>
            if exit.isSuccess then .ok (stdout.bytes, stderr.bytes)
            else .error (.exit ⟨s.shown, exit.code?, Utf8.decode j.shared⟩), fs')

section
variable {stdout stderr : Reader} {turns : List (Stream × DrainOp)}
  {j : Joint Draining Draining Bytes}

theorem DrainTurns.chunks_eq (h : DrainTurns (.drains stdout stderr) turns j)
    (hend : j.Ended drainStep drainStep) :
    (arrivals turns).chunks .stdout = stdout.pieces ∧
      (arrivals turns).chunks .stderr = stderr.pieces := by
  obtain ⟨⟨houts, -⟩, herrs, -⟩ := h.at_end hend (drains stdout) rfl (drains stderr) rfl
  rw [chunks_arrivals, chunks_arrivals, houts, herrs]
  exact ⟨appended_drainOps _, appended_drainOps _⟩

theorem DrainTurns.on_eq (h : DrainTurns (.drains stdout stderr) turns j)
    (hend : j.Ended drainStep drainStep) :
    (arrivals turns).on .stdout = stdout.bytes ∧ (arrivals turns).on .stderr = stderr.bytes := by
  obtain ⟨hout, herr⟩ := h.chunks_eq hend
  rw [Pieces.on_eq, Pieces.on_eq, hout, herr]
  exact ⟨flatten_pieces stdout, flatten_pieces stderr⟩

end

/-- Nothing of the output of a program is lost, in whatever order its pieces come. -/
theorem drains_lose_nothing (stdout stderr : Reader) : LosesNothing stdout stderr := by
  have hout := drains stdout
  have herr := drains stderr
  constructor
  case always =>
    intro turns j h
    exact ⟨h.shared, h.chunks_prefix⟩
  case ends =>
    refine ⟨(drainOps stdout.pieces).length + (drainOps stderr.pieces).length, ?_⟩
    intro turns j h
    obtain ⟨later, s, hlater⟩ := h.ends hout rfl herr rfl
    exact ⟨h.bounded hout rfl herr rfl, later, _, hlater, rfl, rfl⟩
  case whole =>
    intro turns j h hend
    obtain ⟨⟨-, hstdout⟩, -, hstderr⟩ := h.at_end hend hout rfl herr rfl
    obtain ⟨houts, herrs⟩ := h.chunks_eq hend
    obtain ⟨houtBytes, herrBytes⟩ := h.on_eq hend
    refine ⟨hstdout, hstderr, h.shared, houts, herrs, ?_⟩
    rw [h.shared, Pieces.length_flatMap, houtBytes, herrBytes]
  case occurs =>
    intro pieces houts herrs
    rw [← houts, ← turnsOf_scheduleOf] at hout
    rw [← herrs, ← turnsOf_scheduleOf] at herr
    obtain ⟨s, hturns⟩ : ∃ s, DrainTurns (.drains stdout stderr) (scheduleOf pieces) ⟨_, _, s⟩ :=
      turns_of_merge _ hout herr
    exact ⟨_, _, hturns, ⟨rfl, rfl⟩, arrivals_scheduleOf pieces⟩
  case answer =>
    intro turns j h hend text exit start s fs fs' hstart
    obtain ⟨houtBytes, herrBytes⟩ := h.on_eq hend
    have hdrain : drain (arrivals turns) = ⟨stdout.bytes, stderr.bytes, j.shared⟩ := by
      unfold drain
      rw [houtBytes, herrBytes, h.shared]
    unfold Starter.run
    simp only [hstart, conclude, hdrain]
    cases stdout.ending with
    | some e => rfl
    | none => cases stderr.ending <;> rfl

def letters : Reader := ⟨[[97], [98]], none⟩

/-- A mark that arrives between two letters stands there in the output of the failed program. -/
theorem mark_between_letters : ∃ turns j, DrainTurns (.drains letters (.ofBytes [33])) turns j ∧
    j.Ended drainStep drainStep ∧ j.shared = [97, 33, 98] ∧
    ∀ (start : Starter) s fs fs',
      start s fs = (.ok ⟨arrivals turns, .code 3, none, none⟩, fs') →
      start.run s fs = (.error (.exit ⟨s.shown, some 3, "a!b"⟩), fs') := by
  have hall := drains_lose_nothing letters (.ofBytes [33])
  obtain ⟨turns, j, hturns, hend, harrivals⟩ :=
    hall.occurs [(.stdout, [97]), (.stderr, [33]), (.stdout, [98])] (by decide +kernel)
      (by decide +kernel)
  obtain ⟨-, -, hshared, -⟩ := hall.whole turns j hturns hend
  have hcombined : j.shared = [97, 33, 98] := by
    rw [hshared, harrivals]
    rfl
  refine ⟨turns, j, hturns, hend, hcombined, ?_⟩
  intro start s fs fs' hstart
  rw [hall.answer turns j hturns hend Panic.message (.code 3) start s fs fs' hstart, hcombined]
  rfl

end Pipeline
