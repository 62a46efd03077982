import Mathlib.Data.List.Forall2
import Pipeline.Shell.Expansion

/-!
# Expanding quoted words

What stands in quotes is one argument whatever it holds: it is not split, and no pattern for names
of files. Plain text without special characters is one argument as well, and the arguments of the
shell between double quotes are all of them, the empty ones too. None of this changes anything.
-/

namespace Pipeline.Shell
open Sh

namespace Sh
variable {α β : Type}

theorem bind_of_ok {m : Sh α} {f : α → Sh β} {w w' : Scene} {a : α} (h : m w = .ok a w') :
    (m >>= f) w = f a w' := by
  simp only [bind, EStateM.bind, h]

theorem pure_apply (a : α) (w : Scene) : (pure a : Sh α) w = .ok a w := rfl

theorem shell_apply (w : Scene) : shell w = .ok w.shell w := rfl

theorem files_apply (w : Scene) : files w = .ok w.machine.files w := rfl

theorem modifyShell_apply (f : ShellState → ShellState) (w : Scene) :
    modifyShell f w = .ok () { w with shell := f w.shell } := rfl

theorem lookup_apply (name : String) (w : Scene) :
    lookup name w = .ok ((w.shell.vars.lookup name).bind (·.value)) w := rfl

end Sh

theorem separators_apply (w : Scene) : ∃ seps, separators w = .ok seps w := ⟨_, rfl⟩

/-! ### Splitting -/

/-- The marks of a quoted text. -/
def quotedMarks (text : Raw) : Marked := text.map (⟨·, true⟩)

/-- Characters that are not split run on into one field. -/
theorem splitItems_chars (seps : Raw) (done : List Marked) (current : Marked) (gap : Gap)
    (text : Raw) (quoted : Bool) (rest : List Item) :
    splitItems seps done (some current) gap (text.map (.char · quoted false) ++ rest) =
      splitItems seps done (some ((text.map (⟨·, quoted⟩)).reverse ++ current)) gap rest := by
  induction text generalizing current with
  | nil => rfl
  | cons c text ih =>
      rw [List.map_cons, List.cons_append, splitItems, if_neg (by simp), Option.getD_some, ih]
      simp

theorem splitItems_quoted (seps : Raw) (done : List Marked) (gap : Gap) (text : Raw)
    (rest : List Item) :
    splitItems seps done none gap (Item.quotedText text ++ rest) =
      splitItems seps done (some (quotedMarks text).reverse) gap rest := by
  unfold Item.quotedText
  rw [List.cons_append, splitItems, splitItems_chars]
  simp [quotedMarks]

/-- Quoted texts with borders between them are fields, the empty ones too. -/
theorem fields_quoted (seps : Raw) (texts : List Raw) :
    fields seps (List.intercalate [.border] (texts.map Item.quotedText)) =
      texts.map quotedMarks := by
  have hall (done : List Marked) (gap : Gap) :
      splitItems seps done none gap (List.intercalate [.border] (texts.map Item.quotedText)) =
        done.reverse ++ texts.map quotedMarks := by
    induction texts generalizing done gap with
    | nil => simp [splitItems]
    | cons text texts ih =>
        cases texts with
        | nil =>
            have hlast := splitItems_quoted seps done gap text []
            rw [List.append_nil] at hlast
            simp [hlast, splitItems]
        | cons next texts =>
            rw [List.map_cons, List.map_cons, List.intercalate_cons_cons, List.append_assoc,
              splitItems_quoted, List.singleton_append, splitItems, ← List.map_cons, ih]
            simp
  exact hall [] .start

theorem fields_plain (seps : Raw) {text : Raw} (h : text ≠ []) :
    fields seps (Item.plainText false text) = [text.map (⟨·, false⟩)] := by
  cases text with
  | nil => exact absurd rfl h
  | cons c text =>
      have hrun := splitItems_chars seps [] [⟨c, false⟩] .start text false []
      rw [List.append_nil] at hrun
      unfold fields Item.plainText
      rw [List.map_cons, splitItems, if_neg (by simp), Option.getD_none, hrun, splitItems]
      simp

theorem text_marks (text : Raw) (quoted : Bool) :
    Marked.text (text.map (⟨·, quoted⟩)) = text := by
  unfold Marked.text
  rw [List.map_map]
  exact List.map_id text

theorem isWild_quotedMarks (text : Raw) : Pattern.isWild (quotedMarks text) = false := by
  simp [Pattern.isWild, quotedMarks]

theorem flatMap_glob {fs : List Marked} (h : ∀ f ∈ fs, Pattern.isWild f = false) (d : Dialect)
    (files : FileSystem) (here : Place) :
    fs.flatMap (glob d files here) = fs.map Marked.text := by
  induction fs with
  | nil => rfl
  | cons f fs ih =>
      rw [List.flatMap_cons, glob, h f (by simp), ih fun g hg => h g (by simp [hg])]
      rfl

section
variable {sub : Substitution} {w : Scene}

/-- A word that is not taken apart becomes its fields. -/
theorem expandWord_of_fields {word : Word} {items : List Item} {fs : List Marked}
    (hbraces : expandBraces word = [word]) (htilde : expandTilde word w = .ok word w)
    (hitems : expandPieces sub false word w = .ok items w)
    (hfields : ∀ seps, fields seps items = fs) (hwild : ∀ f ∈ fs, Pattern.isWild f = false) :
    expandWord sub word w = .ok (fs.map Marked.text) w := by
  unfold expandWord
  rw [bind_of_ok (shell_apply w)]
  simp only [hbraces, ite_self, List.forIn_cons, List.forIn_nil]
  obtain ⟨seps, hseps⟩ := separators_apply w
  cases hno : w.shell.options.noGlob with
  | true =>
      simp [bind, EStateM.bind, pure, EStateM.pure, htilde, hitems, hseps, hfields]
  | false =>
      simp [bind, EStateM.bind, pure, EStateM.pure, htilde, hitems, hseps, hfields, files_apply,
        flatMap_glob hwild]

theorem expandPieces_one {p : Piece} {items : List Item}
    (h : expandPiece sub false p w = .ok items w) :
    expandPieces sub false [p] w = .ok items w := by
  rw [expandPieces, bind_of_ok h]
  simp [expandPieces, bind, EStateM.bind, pure, EStateM.pure]

theorem expandWord_quoted (text : Raw) : expandWord sub [.quoted text] w = .ok [text] w := by
  have hfields (seps : Raw) : fields seps (Item.quotedText text) = [quotedMarks text] := by
    simpa using fields_quoted seps [text]
  rw [expandWord_of_fields rfl rfl (expandPieces_one rfl) hfields (by simp [isWild_quotedMarks])]
  simp [quotedMarks, text_marks]

/-- Characters that begin a brace, a tilde or a pattern where no quotes are. -/
def isExpanded (c : Char) : Bool := "\x7b~*?[".toList.contains c

theorem expandBraces_plain {text : Raw} (h : ∀ c ∈ text, isExpanded c = false) :
    expandBraces [.plain text] = [[.plain text]] := by
  have hatoms : Atom.ofWord [.plain text] = text.map .char := by
    simp [Atom.ofWord]
  unfold expandBraces
  rw [hatoms, if_neg]
  simp only [List.any_map, List.any_eq_true, Function.comp_apply, not_exists, not_and]
  intro c hc
  have hbrace : c ≠ '\x7b' := by
    rintro rfl
    exact absurd (h _ hc) (by decide)
  simp [hbrace]

theorem expandTilde_plain {text : Raw} (h : ∀ c ∈ text, isExpanded c = false) :
    expandTilde [.plain text] w = .ok [.plain text] w := by
  cases text with
  | nil => rfl
  | cons c text =>
      have htilde : c ≠ '~' := by
        rintro rfl
        exact absurd (h '~' (by simp)) (by decide)
      simp [expandTilde, htilde, pure_apply]

theorem expandWord_plain {text : Raw} (hne : text ≠ [])
    (hall : (text.all fun c => !isExpanded c) = true) :
    expandWord sub [.plain text] w = .ok [text] w := by
  have h : ∀ c ∈ text, isExpanded c = false := by simpa using hall
  have hwild : Pattern.isWild (text.map (⟨·, false⟩)) = false := by
    unfold Pattern.isWild
    rw [List.any_map, List.any_eq_false]
    intro c hc
    have hnone := h c hc
    simp [isExpanded] at hnone
    simp [hnone]
  rw [expandWord_of_fields (expandBraces_plain h) (expandTilde_plain h) (expandPieces_one rfl)
    (fun seps => fields_plain seps hne) (by simpa using hwild)]
  simp [text_marks]

theorem expandWord_arguments :
    expandWord sub [.param true "@" .plain [] []] w = .ok w.shell.args w := by
  have hpiece : expandPiece sub false (.param true "@" .plain [] []) w =
      .ok (List.intercalate [.border] (w.shell.args.map Item.quotedText)) w := by
    have hvalue : parameter "@" w = .ok (.many w.shell.args false) w := rfl
    obtain ⟨seps, hseps⟩ := separators_apply w
    rw [expandPiece]
    simp [bind, EStateM.bind, hseps, hvalue, shell_apply, pure_apply, Value.items]
  have htexts : (w.shell.args.map quotedMarks).map Marked.text = w.shell.args := by
    rw [List.map_map]
    exact (List.map_congr_left fun text _ => text_marks text true).trans (List.map_id _)
  rw [expandWord_of_fields rfl rfl (expandPieces_one hpiece) (fun seps => fields_quoted seps _)
    (by simp [isWild_quotedMarks]), htexts]

/-- The words become their arguments one after the other. -/
theorem expandWords_of_forall₂ {ws : List Word} {args : List (List Raw)}
    (h : List.Forall₂ (fun word arg => expandWord sub word w = .ok arg w) ws args) :
    expandWords sub ws w = .ok args.flatten w := by
  have hall : ws.mapM (expandWord sub) w = .ok args w := by
    induction h with
    | nil => rfl
    | cons hword _ ih =>
        rw [List.mapM_cons, bind_of_ok hword, bind_of_ok ih]
        rfl
  unfold expandWords
  rw [bind_of_ok hall]
  rfl

/-- A quoted text is the value of an assignment as it stands. -/
theorem expandText_quoted (text : Raw) : expandText sub [.quoted text] w = .ok text w := by
  have hitems : expandPieces sub false [.quoted text] w = .ok (Item.quotedText text) w :=
    expandPieces_one rfl
  have htext : Item.text (Item.quotedText text) = text := by
    have hmarks : Item.marks (Item.quotedText text) = quotedMarks text := by
      simp [Item.marks, Item.quotedText, quotedMarks, List.filterMap_map]
    rw [Item.text, hmarks]
    exact text_marks text true
  have htilde : expandTilde [.quoted text] w = .ok [.quoted text] w := rfl
  unfold expandText
  rw [bind_of_ok htilde, bind_of_ok hitems, htext]
  rfl

end

end Pipeline.Shell
