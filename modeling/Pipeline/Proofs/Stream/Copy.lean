import Pipeline.Stream.Copy

/-!
# Copying to sinks that never fail

A sink that never fails may still take a piece in many writes. Whatever it does, copying a reader
that ends gives it exactly the bytes of the reader and keeps the same bytes (`copy_of_steady`). What
a copy keeps is what was read, with any sink (`copy_ok`).
-/

namespace Pipeline

/-- From a good state every write takes something and leads to a good state, and so does flushing
not fail. -/
structure Sink.Keeps (k : Sink) (Good : k.State → Prop) : Prop where
  start : Good k.start
  write : ∀ s offered, Good s → offered ≠ [] → ∃ count s',
    k.write s offered = (.took count, s') ∧ 0 < count ∧ Good s'
  flush : ∀ s, Good s → k.flush s = none

/-- A sink that never fails, in no state that it can come to. -/
def Sink.Steady (k : Sink) : Prop := ∃ Good, k.Keeps Good

theorem Sink.steady_buffer : buffer.Steady := by
  refine ⟨fun _ => True, trivial, ?_, fun _ _ => rfl⟩
  intro s offered _ hne
  exact ⟨offered.length, (), rfl, List.length_pos_iff.mpr hne, trivial⟩

theorem Sink.Keeps.writeAll {k : Sink} {Good : k.State → Prop} (h : k.Keeps Good) {s : k.State}
    (hs : Good s) (piece : Bytes) : (k.writeAll s piece).taken = piece ∧
      (k.writeAll s piece).failure = none ∧ Good (k.writeAll s piece).state := by
  -- each write takes something from the front of what is left
  fun_induction k.writeAll s piece with
  | case1 s => exact ⟨rfl, rfl, hs⟩
  | case2 s piece hne e s' hw =>
      obtain ⟨count, s₁, hw₁, -⟩ := h.write s piece hs hne
      rw [hw] at hw₁
      cases hw₁
  | case3 s piece hne p s' hw =>
      obtain ⟨count, s₁, hw₁, -⟩ := h.write s piece hs hne
      rw [hw] at hw₁
      cases hw₁
  | case4 s piece hne s' hw =>
      obtain ⟨count, s₁, hw₁, hpos, -⟩ := h.write s piece hs hne
      rw [hw] at hw₁
      cases hw₁
      omega
  | case5 s piece hne n s' hw hn rest ih =>
      obtain ⟨count, s₁, hw₁, hpos, hgood⟩ := h.write s piece hs hne
      rw [hw] at hw₁
      cases hw₁
      obtain ⟨htaken, hfailure, hstate⟩ := ih hgood
      refine ⟨?_, hfailure, hstate⟩
      rw [htaken, List.take_append_drop]

theorem Sink.Keeps.copyPieces {k : Sink} {Good : k.State → Prop} (h : k.Keeps Good) {s : k.State}
    (hs : Good s) (pieces : List Bytes) (taken kept : Bytes) : ∃ s', Good s' ∧
      Pipeline.copyPieces k taken kept s pieces =
        (taken ++ pieces.flatten, .ok (kept ++ pieces.flatten, s')) := by
  induction pieces generalizing s taken kept with
  | nil => exact ⟨s, hs, by simp [Pipeline.copyPieces]⟩
  | cons piece pieces ih =>
      obtain ⟨htaken, hfailure, hgood⟩ := h.writeAll hs piece
      obtain ⟨s', hs', hrest⟩ := ih hgood (taken ++ piece) (kept ++ piece)
      refine ⟨s', hs', ?_⟩
      rw [Pipeline.copyPieces]
      simp only [hfailure, htaken]
      rw [hrest, List.flatten_cons, List.append_assoc, List.append_assoc]

/-- Whatever the sink does, a copy that gets past some pieces has kept them. -/
theorem copyPieces_kept {k : Sink} {s s' : k.State} {pieces : List Bytes}
    {taken taken' kept kept' : Bytes}
    (h : copyPieces k taken kept s pieces = (taken', .ok (kept', s'))) :
    kept' = kept ++ pieces.flatten := by
  induction pieces generalizing s taken kept with
  | nil =>
      cases h
      simp
  | cons piece pieces ih =>
      rw [copyPieces] at h
      split at h
      · cases h
      · rw [ih h, List.flatten_cons, List.append_assoc]

theorem flatten_pieces (r : Reader) : (r.reads fun _ => chunkSize).flatten = r.bytes :=
  Reader.flatten_reads (fun _ => by decide) r

/-- A steady sink takes exactly what is read, however it is cut. -/
theorem copy_of_steady {r : Reader} {k : Sink} (hr : r.ending = none) (hk : k.Steady) :
    copy r k = ⟨r.bytes, .ok r.bytes⟩ := by
  obtain ⟨Good, h⟩ := hk
  obtain ⟨s, hs, hpieces⟩ := h.copyPieces h.start (r.reads fun _ => chunkSize) [] []
  unfold copy
  rw [hpieces]
  simp only [hr, h.flush s hs, List.nil_append, flatten_pieces]

/-- What is read of a stream is what its copy keeps. -/
theorem copy_ok {r : Reader} {k : Sink} {bytes : Bytes} (h : (copy r k).result = .ok bytes) :
    bytes = r.bytes := by
  unfold copy at h
  split at h
  · cases h
  · rename_i taken kept s hpieces
    split at h
    · cases h
    · split at h <;> cases h
      rw [copyPieces_kept hpieces, List.nil_append, flatten_pieces]

theorem Copied.settle_ok {c : Copied} {stream : Stream} {text : String}
    (h : c.settle stream = .ok text) : ∃ bytes, c.result = .ok bytes ∧ text = Utf8.decode bytes := by
  unfold Copied.settle at h
  split at h
  · rename_i bytes hbytes
    cases h
    exact ⟨bytes, hbytes, rfl⟩
  · cases h
  · cases h

/-- Texts are returned only if both copies succeeded. -/
theorem CopiedStreams.settle_ok {c : CopiedStreams} {captured : Captured}
    (h : c.settle = .ok captured) : ∃ out err, c.stdout.result = .ok out ∧
      c.stderr.result = .ok err ∧ captured = ⟨Utf8.decode out, Utf8.decode err⟩ := by
  simp only [CopiedStreams.settle, bind, Except.bind] at h
  split at h
  · cases h
  · rename_i out hout
    split at h
    · cases h
    · rename_i err herr
      cases h
      obtain ⟨outBytes, hstdout, rfl⟩ := Copied.settle_ok hout
      obtain ⟨errBytes, hstderr, rfl⟩ := Copied.settle_ok herr
      exact ⟨outBytes, errBytes, hstdout, hstderr, rfl⟩

end Pipeline
