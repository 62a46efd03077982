/-!
# Cutting text at a character

`split sep cs` lists the pieces of `cs` between the occurrences of `sep`, empty ones included, so
that the pieces with `sep` put between them are `cs` again (`join_split`).
-/

namespace Pipeline.Text

/-- Puts a character in front of the first piece. -/
def consFirst (c : Char) : List (List Char) → List (List Char)
  | [] => [[c]]
  | p :: ps => (c :: p) :: ps

def split (sep : Char) (cs : List Char) : List (List Char) :=
  cs.foldr (fun c ps => if c = sep then [] :: ps else consFirst c ps) [[]]

/-- The pieces with a separator between each two. -/
def join (sep : Char) : List (List Char) → List Char
  | [] => []
  | [p] => p
  | p :: ps => p ++ sep :: join sep ps

theorem split_ne_nil (sep : Char) (cs : List Char) : split sep cs ≠ [] := by
  cases cs with
  | nil => simp [split]
  | cons c cs =>
    simp only [split, List.foldr_cons]
    split
    · simp
    · unfold consFirst; split <;> simp

theorem split_cons_self (sep : Char) (cs : List Char) :
    split sep (sep :: cs) = [] :: split sep cs := by simp [split]

theorem split_cons_of_ne {sep c : Char} (h : c ≠ sep) (cs : List Char) :
    split sep (c :: cs) = consFirst c (split sep cs) := by simp [split, h]

theorem join_consFirst (sep c : Char) (ps : List (List Char)) (h : ps ≠ []) :
    join sep (consFirst c ps) = c :: join sep ps := by
  match ps with
  | [p] => rfl
  | p :: q :: ps => rfl

theorem join_split (sep : Char) (cs : List Char) : join sep (split sep cs) = cs := by
  induction cs with
  | nil => rfl
  | cons c cs ih =>
    by_cases h : c = sep
    · subst h
      rw [split_cons_self]
      cases hs : split c cs with
      | nil => exact absurd hs (split_ne_nil c cs)
      | cons p ps => simpa [join, hs] using ih
    · rw [split_cons_of_ne h, join_consFirst _ _ _ (split_ne_nil sep cs), ih]

/-- The parts of a text before and after its first `sep`. -/
def splitOnce (sep : Char) : List Char → Option (List Char × List Char)
  | [] => none
  | c :: cs => if c = sep then some ([], cs) else (splitOnce sep cs).map fun p => (c :: p.1, p.2)

/-- The first part holds no separator, and the two parts with one between them are the text. -/
theorem splitOnce_eq_some_iff {sep : Char} {cs xs ys : List Char} :
    splitOnce sep cs = some (xs, ys) ↔ cs = xs ++ sep :: ys ∧ sep ∉ xs := by
  induction cs generalizing xs with
  | nil => simp [splitOnce]
  | cons c cs ih =>
    by_cases h : c = sep
    · rw [splitOnce, if_pos h]
      cases xs with
      | nil => simp [h, eq_comm]
      | cons x xs => simp +contextual [h, eq_comm]
    · rw [splitOnce, if_neg h, Option.map_eq_some_iff]
      constructor
      · rintro ⟨⟨front, back⟩, hsplit, heq⟩
        cases heq
        obtain ⟨rfl, hnone⟩ := ih.1 hsplit
        exact ⟨rfl, by simp [hnone, Ne.symm h]⟩
      · rintro ⟨hcs, hnone⟩
        cases xs with
        | nil => exact absurd (List.cons.inj hcs).1 h
        | cons x xs =>
          obtain ⟨rfl, rfl⟩ := List.cons.inj hcs
          exact ⟨(xs, ys), ih.2 ⟨rfl, fun hx => hnone (List.mem_cons_of_mem c hx)⟩, rfl⟩

/-- `splitOnce` on strings. -/
def cutOnce (sep : Char) (text : String) : Option (String × String) :=
  (splitOnce sep text.toList).map fun p => (.ofList p.1, .ofList p.2)

theorem cutOnce_eq_some_iff {sep : Char} {text first second : String} :
    cutOnce sep text = some (first, second) ↔
      text = first ++ String.singleton sep ++ second ∧ sep ∉ first.toList := by
  have htext : text = first ++ String.singleton sep ++ second ↔
      text.toList = first.toList ++ sep :: second.toList := by
    rw [← String.toList_inj]
    simp
  rw [cutOnce, htext, ← splitOnce_eq_some_iff, Option.map_eq_some_iff]
  constructor
  · rintro ⟨⟨xs, ys⟩, hsplit, heq⟩
    cases heq
    simpa using hsplit
  · intro hsplit
    exact ⟨_, hsplit, by simp⟩

def pieces (sep : Char) (text : String) : List String := (split sep text.toList).map .ofList

end Pipeline.Text
