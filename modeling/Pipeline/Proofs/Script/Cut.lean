import Pipeline.Proofs.Run.Recorded
import Pipeline.Proofs.Script.Outline

/-!
# A script on a writer without enough room

A writer does not see in which pieces it is given a text (`Writer.putPieces_eq`), so a script goes
out like one text, whatever the pieces of its lines (`putCut_eq`). What breaks the script off stands
behind that text, and shows only if there is room for all of it. What the text is, and what breaks
it off, is said by `Emitted`, without the writer.
-/

namespace Pipeline

namespace Writer

theorem put_nil (w : Writer) : w.put [] = (none, w) := by
  obtain ⟨written, room⟩ := w
  cases room <;> simp [put]

theorem put_append (w : Writer) (xs ys : Bytes) :
    w.put (xs ++ ys) = match w.put xs with
      | (none, w) => w.put ys
      | (some e, w) => (some e, w) := by
  obtain ⟨written, room⟩ := w
  cases room with
  | none => simp [put]
  | some n =>
      -- either the cut is in what comes behind `xs`, or nothing of that is taken
      by_cases hxs : xs.length ≤ n
      · have hfits : (xs ++ ys).length ≤ n ↔ ys.length ≤ n - xs.length := by
          rw [List.length_append]
          omega
        have hroom : n - (xs ++ ys).length = n - xs.length - ys.length := by
          rw [List.length_append]
          omega
        have htake : (xs ++ ys).take n = xs ++ ys.take (n - xs.length) := by
          rw [List.take_append, List.take_of_length_le hxs]
        simp only [put, hxs, if_true, hfits, hroom, htake, List.append_assoc]
      · have hlonger : ¬ (xs ++ ys).length ≤ n := by
          rw [List.length_append]
          omega
        have htake : (xs ++ ys).take n = xs.take n :=
          List.take_append_of_le_length (by omega)
        simp only [put, hxs, hlonger, if_false, htake]

/-- Writes pieces in turn, up to the first that fails. -/
def putPieces : List Bytes → Writer → Option IoError × Writer
  | [], w => (none, w)
  | p :: ps, w =>
    match w.put p with
    | (none, w) => putPieces ps w
    | (some e, w) => (some e, w)

theorem putPieces_eq (pieces : List Bytes) (w : Writer) :
    putPieces pieces w = w.put pieces.flatten := by
  induction pieces generalizing w with
  | nil => exact w.put_nil.symm
  | cons p ps ih =>
      rw [List.flatten_cons, put_append, putPieces]
      split
      · rw [ih]
      · rfl

theorem put_bounded (n : Nat) (bytes : Bytes) :
    (bounded n).put bytes = (if n < bytes.length then some full else none,
      ⟨bytes.take n, some (n - bytes.length)⟩) := by
  by_cases h : bytes.length ≤ n
  · simp [put, bounded, h, Nat.not_lt.mpr h, List.take_of_length_le]
  · have hroom : n - bytes.length = 0 := by omega
    simp [put, bounded, h, Nat.not_le.mp h, hroom]

end Writer

namespace Script

/-- What a script comes to once its text was written, or could not be. -/
def concluded (result : Except CompileError Unit) :
    Option IoError × Writer → Except CompileError Unit × Writer
  | (none, w) => (result, w)
  | (some e, w) => (.error (.io e), w)

/-- Writes lines, each in the pieces it is cut into, and comes to a result behind the last. -/
def putCut (result : Except CompileError Unit) :
    List (List Bytes) → Writer → Except CompileError Unit × Writer
  | [], w => (result, w)
  | pieces :: cuts, w =>
    match w.putPieces pieces with
    | (none, w) => putCut result cuts w
    | (some e, w) => (.error (.io e), w)

/-- Lines that go out in pieces go out like one text. -/
theorem putCut_eq (result : Except CompileError Unit) (cuts : List (List Bytes)) (w : Writer) :
    putCut result cuts w = concluded result (w.put (cuts.map List.flatten).flatten) := by
  induction cuts generalizing w with
  | nil => rw [List.map_nil, List.flatten_nil, Writer.put_nil, putCut, concluded]
  | cons pieces cuts ih =>
      rw [List.map_cons, List.flatten_cons, Writer.put_append, putCut, Writer.putPieces_eq]
      split
      · rw [ih]
      · rfl

def Outline.result (a : Outline) : Except CompileError Unit :=
  match a.fault with
  | none => .ok ()
  | some e => .error (.resolve e)

def lineBytes (line : String) : Bytes := Utf8.encode (line ++ "\n")

theorem encode_unlines (lines : List String) :
    Utf8.encode (unlines lines) = (lines.map lineBytes).flatten := by
  induction lines with
  | nil => rfl
  | cons line lines ih =>
      rw [unlines_cons, Utf8.encode_append, ih, List.map_cons, List.flatten_cons, lineBytes]

/-- An outline is written with each line in one piece. -/
theorem Outline.put_eq_putCut (a : Outline) (w : Writer) :
    a.put w = putCut a.result (a.lines.map fun line => [lineBytes line]) w := by
  obtain ⟨lines, fault⟩ := a
  unfold Outline.put
  induction lines generalizing w with
  | nil => cases fault <;> rfl
  | cons line lines ih =>
      have hpiece : w.putPieces [lineBytes line] = w.put (lineBytes line) := by
        rw [Writer.putPieces_eq, List.flatten_singleton]
      have hline : putLine w line = concluded (.ok ()) (w.put (lineBytes line)) := by
        unfold putLine Writer.putText lineBytes
        split <;> rename_i h <;> rw [h] <;> rfl
      rw [Outline.putAll, hline, List.map_cons, putCut, hpiece]
      cases w.put (lineBytes line) with
      | mk failure w' =>
          cases failure with
          | none => exact ih w'
          | some e => rfl

/-- An outline goes out like one text. -/
theorem Outline.put_eq (a : Outline) (w : Writer) :
    a.put w = concluded a.result (w.put (Utf8.encode (unlines a.lines))) := by
  have hcuts : (a.lines.map fun line => [lineBytes line]).map List.flatten =
      a.lines.map lineBytes := by simp
  rw [Outline.put_eq_putCut, putCut_eq, hcuts, encode_unlines]

/-! ### The text of a script -/

def IsGuard (inputs : Inputs) (key line : String) : Prop :=
  ∃ value, inputs.get? key = some value ∧ line = guardLine key value

/-- The entries of steps, and the state that they leave to the entries behind them. -/
inductive Entries (o : Options) (inputs : Inputs) : List Step → RunState → List String → Prop
  | none : Entries o inputs [] .empty []
  | next {done : List Step} {s : Step} {state : RunState} {lines : List String} {line : String} :
      Entries o inputs done state lines → stepLine o inputs state s = .ok line →
      Entries o inputs (done ++ [s]) (state.record s.name (placeholders s)) (lines ++ [line])

/-- The lines of a script that are written to a writer with room for everything, and the result. -/
inductive Emitted (task : Task) (inputs : Inputs) (o : Options) :
    List String → Except CompileError Unit → Prop
  | whole {guards entries : List String} {state : RunState} :
      List.Forall₂ (IsGuard inputs) (guarded task) guards →
      Entries o inputs task.steps state entries →
      Emitted task inputs o ([o.shebang, "set -e"] ++ (guards ++ entries)) (.ok ())
  /-- The entries stop before the step that refers to what is not there. -/
  | refused {before after : List Step} {s : Step} {guards entries : List String}
      {state : RunState} {e : ResolveError} :
      task.steps = before ++ s :: after →
      List.Forall₂ (IsGuard inputs) (guarded task) guards →
      Entries o inputs before state entries → stepLine o inputs state s = .error e →
      Emitted task inputs o ([o.shebang, "set -e"] ++ (guards ++ entries)) (.error (.resolve e))
  /-- The guards stop before the least key without a value. -/
  | unbound {smaller larger guards : List String} {key : String} :
      guarded task = smaller ++ key :: larger →
      (∀ k, k ∈ smaller ↔ k ∈ task.inputs.keys ∧ k < key) →
      List.Forall₂ (IsGuard inputs) smaller guards → inputs.get? key = none →
      Emitted task inputs o ([o.shebang, "set -e"] ++ guards)
        (.error (.resolve (.missingInput inputsStep key)))

variable {o : Options} {inputs : Inputs}

theorem guardsOutline_faulty {keys : List String} {e : ResolveError}
    (h : (guardsOutline inputs keys).fault = some e) :
    ∃ smaller key larger, keys = smaller ++ key :: larger ∧
      List.Forall₂ (IsGuard inputs) smaller (guardsOutline inputs keys).lines ∧
      inputs.get? key = none ∧ e = .missingInput inputsStep key := by
  induction keys with
  | nil => cases h
  | cons key keys ih =>
      unfold guardsOutline at h ⊢
      cases hget : inputs.get? key with
      | none =>
          rw [hget] at h
          cases h
          exact ⟨[], key, keys, rfl, .nil, hget, rfl⟩
      | some value =>
          rw [hget] at h
          obtain ⟨smaller, k, larger, hkeys, hguards, hnone, he⟩ := ih h
          exact ⟨key :: smaller, k, larger, by rw [hkeys]; rfl, .cons ⟨value, hget, rfl⟩ hguards,
            hnone, he⟩

theorem stepsOutline_entries {done : List Step} {state : RunState} {lines : List String}
    (h : Entries o inputs done state lines) (todo : List Step) :
    match (stepsOutline o inputs todo state).fault with
    | none => ∃ state', Entries o inputs (done ++ todo) state'
        (lines ++ (stepsOutline o inputs todo state).lines)
    | some e => ∃ before s after state', todo = before ++ s :: after ∧
        Entries o inputs (done ++ before) state' (lines ++ (stepsOutline o inputs todo state).lines) ∧
        stepLine o inputs state' s = .error e := by
  induction todo generalizing done state lines with
  | nil => exact ⟨state, by simpa [stepsOutline] using h⟩
  | cons s todo ih =>
      unfold stepsOutline
      cases hline : stepLine o inputs state s with
      | error e => exact ⟨[], s, todo, state, rfl, by simpa using h, hline⟩
      | ok line =>
          have hrest := ih (h.next hline)
          simp only [Outline.cons]
          split at hrest
          · obtain ⟨state', hentries⟩ := hrest
            exact ⟨state', by simpa using hentries⟩
          · obtain ⟨before, x, after, state', hsplit, hentries, herror⟩ := hrest
            exact ⟨s :: before, x, after, state', by rw [hsplit]; rfl, by simpa using hentries, herror⟩

theorem mem_smaller_iff {task : Task} {smaller larger : List String} {key : String}
    (h : guarded task = smaller ++ key :: larger) (k : String) :
    k ∈ smaller ↔ k ∈ task.inputs.keys ∧ k < key := by
  have hsorted := pairwise_guarded task
  rw [h, List.pairwise_append, List.pairwise_cons] at hsorted
  obtain ⟨-, ⟨hlarger, -⟩, hsmaller⟩ := hsorted
  rw [← mem_guarded, h]
  constructor
  · intro hk
    exact ⟨List.mem_append_left _ hk, hsmaller k hk key List.mem_cons_self⟩
  · rintro ⟨hk, hlt⟩
    rcases List.mem_append.mp hk with hk | hk
    · exact hk
    · rcases List.mem_cons.mp hk with rfl | hk
      · exact absurd hlt (String.lt_irrefl k)
      · exact absurd hlt (String.lt_asymm (hlarger k hk))

theorem emitted_outline (task : Task) (inputs : Inputs) (o : Options) :
    Emitted task inputs o (outline task inputs o).lines (outline task inputs o).result := by
  have hstart : Entries o inputs [] .empty [] := .none
  have hentries := stepsOutline_entries hstart task.steps
  unfold outline Outline.result Outline.andThen
  cases hguards : (guardsOutline inputs (guarded task)).fault with
  | some e =>
      obtain ⟨smaller, key, larger, hkeys, hlines, hnone, rfl⟩ := guardsOutline_faulty hguards
      simp only [hguards]
      exact .unbound hkeys (mem_smaller_iff hkeys) hlines hnone
  | none =>
      have hlines := guardsOutline_lines hguards
      simp only
      split at hentries
      · obtain ⟨state, hentries⟩ := hentries
        exact .whole hlines hentries
      · obtain ⟨before, s, after, state, hsplit, hentries, herror⟩ := hentries
        exact .refused hsplit hlines hentries herror

/-- With room for so many bytes, exactly that many of the bytes that would be written are written,
or all of them. The writer's error is the result if some are left, and the result is as with room
for everything if none is. The pieces in which the lines go out make no difference. -/
theorem write_cut (task : Task) (inputs : Inputs) (o : Options) :
    ∃ lines result full, Emitted task inputs o lines result ∧ full = Utf8.encode (unlines lines) ∧
      write task inputs o .unbounded = (result, ⟨full, none⟩) ∧
      (∀ n, write task inputs o (.bounded n) =
        (if n < full.length then .error (.io Writer.full) else result,
          ⟨full.take n, some (n - full.length)⟩)) ∧
      ∀ cuts, cuts.map List.flatten = lines.map lineBytes →
        ∀ w, putCut result cuts w = write task inputs o w := by
  have hwrite : ∀ w, write task inputs o w = concluded (outline task inputs o).result
      (w.put (Utf8.encode (unlines (outline task inputs o).lines))) := by
    intro w
    rw [write_eq_put, Outline.put_eq]
  refine ⟨_, _, _, emitted_outline task inputs o, rfl, hwrite .unbounded, ?_, ?_⟩
  · intro n
    rw [hwrite, Writer.put_bounded]
    split <;> rfl
  · intro cuts hcuts w
    rw [putCut_eq, hcuts, ← encode_unlines, hwrite]

/-- An input without a value is noticed as soon as the two lines before its guard fit. -/
theorem release_cut_at_its_guard :
    write release .empty (.calling "tool") (.bounded 26) =
      (.error (.io Writer.full), ⟨Utf8.encode "#!/usr/bin/env bash\nset -e", some 0⟩) ∧
    write release .empty (.calling "tool") (.bounded 27) =
      (.error (.resolve (.missingInput inputsStep "seed")),
        ⟨Utf8.encode "#!/usr/bin/env bash\nset -e\n", some 0⟩) := by
  obtain ⟨lines, result, full, -, -, hall, hcut, -⟩ :=
    write_cut release .empty (.calling "tool")
  have hwritten : write release .empty (.calling "tool") .unbounded =
      (.error (.resolve (.missingInput inputsStep "seed")),
        ⟨Utf8.encode "#!/usr/bin/env bash\nset -e\n", none⟩) := by decide +kernel
  rw [hwritten] at hall
  cases hall
  rw [hcut, hcut]
  constructor <;> rfl

end Script
end Pipeline
