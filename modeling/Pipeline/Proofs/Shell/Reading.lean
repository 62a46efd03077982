import Mathlib.Data.List.Forall2
import Pipeline.Proofs.Shell.Spelling

/-!
# Reading simple commands

How a line of the script is read that holds one simple command: words, and redirections before or
between them, with one blank in front of each. The command ends with the line (`readLine_simple`).
-/

namespace Pipeline.Shell
open Reader

/-- A character that a word may begin with, and that begins nothing else. -/
def StartsWord (c : Char) : Prop := isMeta c = false ∧ c ≠ '#' ∧ c ≠ '\\'

instance (c : Char) : Decidable (StartsWord c) :=
  inferInstanceAs (Decidable (isMeta c = false ∧ c ≠ '#' ∧ c ≠ '\\'))

/-- A text that is read as a word where it comes to its end. No digit is in front, so it is not
taken for the number of a redirection. -/
structure IsWord (d : Dialect) (text : Raw) (w : Word) : Prop where
  starts : ∃ c cs, text = c :: cs ∧ StartsWord c ∧ c.isDigit = false
  read : ∀ rest line, EndsWord rest →
    readWord d ⟨text ++ rest, line⟩ = .ok (w, ⟨rest, line + text.count '\n'⟩)

theorem Spells.isWord {d : Dialect} {text : Raw} {add : Word → Word} (h : Spells d text add)
    (hstart : (text.head?.any fun c => StartsWord c && !c.isDigit) = true) :
    IsWord d text (add []).reverse := by
  refine ⟨?_, fun _ line hend => h.readWord hend line⟩
  cases text with
  | nil => cases hstart
  | cons c cs => exact ⟨c, cs, rfl, by simpa using hstart⟩

/-! ### Between the words -/

/-- A place at which there is nothing to pass over: a word, or the end of a line. -/
def AtWord (rest : Raw) : Prop := ∃ c cs, rest = c :: cs ∧ (StartsWord c ∨ c = '\n')

theorem IsWord.atWord {d : Dialect} {text : Raw} {w : Word} (h : IsWord d text w) (rest : Raw) :
    AtWord (text ++ rest) := by
  obtain ⟨c, cs, rfl, hc, -⟩ := h.starts
  exact ⟨c, cs ++ rest, rfl, .inl hc⟩

theorem count_atWord {rest : Raw} (h : AtWord rest) : skipBlanks.count rest = 0 := by
  obtain ⟨c, cs, rfl, ⟨hm, hhash, hback⟩ | rfl⟩ := h
  · have hblank : isBlank c = false := by
      unfold isMeta at hm
      exact (Bool.or_eq_false_iff.mp hm).1
    rw [skipBlanks.count, hblank, if_neg (by simp), if_neg hhash]
    intro _ h
    exact absurd h hback
  · rfl

theorem skipBlanks_apply (s : Source) : skipBlanks s = skip (skipBlanks.count s.rest) s := rfl

theorem skipBlanks_atWord {rest : Raw} (h : AtWord rest) (line : Nat) :
    skipBlanks ⟨rest, line⟩ = .ok ((), ⟨rest, line⟩) := by
  rw [skipBlanks_apply, count_atWord h]
  rfl

theorem skipBlanks_blank {rest : Raw} (h : AtWord rest) (line : Nat) :
    skipBlanks ⟨' ' :: rest, line⟩ = .ok ((), ⟨rest, line⟩) := by
  have hcount : skipBlanks.count (' ' :: rest) = 1 := by
    change 1 + skipBlanks.count rest = 1
    rw [count_atWord h]
  rw [skipBlanks_apply, hcount]
  rfl

/-- Every operator begins with a character that ends words and is no end of line. -/
theorem operators_head {o : String} (h : o ∈ operators) :
    ∃ c cs, o.toList = c :: cs ∧ isMeta c = true ∧ c ≠ '\n' ∧ c.isDigit = false := by
  have hall : ∀ o ∈ operators,
      (o.toList.head?.any fun c => isMeta c && c != '\n' && !c.isDigit) = true := by
    decide
  have hhead := hall o h
  cases htext : o.toList with
  | nil => simp [htext] at hhead
  | cons c cs => exact ⟨c, cs, rfl, by simpa [htext, and_assoc] using hhead⟩

theorem operator?_apply (s : Source) :
    operator? s = .ok (operators.find? (fun o => o.toList.isPrefixOf s.rest), s) := rfl

theorem operator?_atWord {rest : Raw} (h : AtWord rest) (line : Nat) :
    operator? ⟨rest, line⟩ = .ok (none, ⟨rest, line⟩) := by
  have hnone : operators.find? (fun o => o.toList.isPrefixOf rest) = none := by
    rw [List.find?_eq_none]
    intro o ho hprefix
    obtain ⟨x, xs, htext, hmeta, hline, -⟩ := operators_head ho
    obtain ⟨c, cs, rfl, hc⟩ := h
    rw [htext, List.isPrefixOf_cons_cons, Bool.and_eq_true, beq_iff_eq] at hprefix
    obtain ⟨rfl, -⟩ := hprefix
    rcases hc with hstart | hend
    · exact absurd hmeta (by simp [hstart.1])
    · exact hline hend
  rw [operator?_apply, hnone]

/-- No redirection begins where a word does, unless a number stands there. -/
theorem readRedirect_atWord {d : Dialect} {rest : Raw} (h : AtWord rest)
    (hdigit : ∀ c ∈ rest.head?, c.isDigit = false) (line : Nat) :
    readRedirect d ⟨rest, line⟩ = .ok (none, ⟨rest, line⟩) := by
  have hnone : rest.takeWhile Char.isDigit = [] := by
    obtain ⟨c, cs, rfl, -⟩ := h
    rw [List.takeWhile_cons, hdigit c rfl]
    rfl
  have hskip : skip 0 ⟨rest, line⟩ = .ok ((), ⟨rest, line⟩) := rfl
  unfold readRedirect
  simp only [bind_apply, get_apply, ok_bind, hnone, List.length_nil, hskip, operator?_atWord h,
    set_apply, pure_apply]

section
variable {d : Dialect} {fuel line at_ : Nat} {assignments : List Assignment} {words : List Word}
  {redirects : List Redirect}

theorem readSimple_blank {rest : Raw} (h : AtWord rest) :
    readSimple d at_ fuel assignments words redirects ⟨' ' :: rest, line⟩ =
      readSimple d at_ fuel assignments words redirects ⟨rest, line⟩ := by
  cases fuel with
  | zero => rfl
  | succ fuel =>
      unfold readSimple
      rw [bind_apply, skipBlanks_blank h, bind_apply, skipBlanks_atWord h]

theorem readSimple_word {text rest : Raw} {w : Word} (hw : IsWord d text w)
    (hend : EndsWord rest) :
    readSimple d at_ (fuel + 1) assignments words redirects ⟨text ++ rest, line⟩ =
      (match words, assignment? w with
      | [], some a =>
        if a.append ∧ d = Dialect.dash then readSimple d at_ fuel assignments (w :: words) redirects
        else readSimple d at_ fuel (a :: assignments) words redirects
      | _, _ => readSimple d at_ fuel assignments (w :: words) redirects)
        ⟨rest, line + text.count '\n'⟩ := by
  obtain ⟨c, cs, rfl, hc, hdigit⟩ := hw.starts
  have hat : AtWord (c :: (cs ++ rest)) := hw.atWord rest
  have hread : readWord d ⟨c :: (cs ++ rest), line⟩ = _ := hw.read rest line hend
  rw [List.cons_append, readSimple]
  simp only [bind_apply, skipBlanks_atWord hat, ok_bind, readRedirect_atWord hat (by simp [hdigit]),
    rest_apply, hc.1]
  rw [if_neg (by simp), bind_apply, hread]
  rfl

theorem readSimple_operand {text rest : Raw} {w : Word} (hw : IsWord d text w)
    (hend : EndsWord rest) (hoperand : words ≠ [] ∨ assignment? w = none) :
    readSimple d at_ (fuel + 1) assignments words redirects ⟨text ++ rest, line⟩ =
      readSimple d at_ fuel assignments (w :: words) redirects
        ⟨rest, line + text.count '\n'⟩ := by
  rw [readSimple_word hw hend]
  cases words with
  | nil =>
      have hnone : assignment? w = none := by simpa using hoperand
      simp only [hnone]
  | cons first words => rfl

theorem readSimple_assignment {text rest : Raw} {w : Word} {a : Assignment} (hw : IsWord d text w)
    (hend : EndsWord rest) (ha : assignment? w = some a) (hset : a.append = false) :
    readSimple d at_ (fuel + 1) assignments [] redirects ⟨text ++ rest, line⟩ =
      readSimple d at_ fuel (a :: assignments) [] redirects ⟨rest, line + text.count '\n'⟩ := by
  rw [readSimple_word hw hend, ha]
  simp [hset]

theorem readSimple_end {rest : Raw} (hsome : ¬(assignments = [] ∧ words = [] ∧ redirects = [])) :
    readSimple d at_ (fuel + 1) assignments words redirects ⟨'\n' :: rest, line⟩ =
      .ok (.simple at_ assignments.reverse words.reverse redirects.reverse,
        ⟨'\n' :: rest, line⟩) := by
  have hat : AtWord ('\n' :: rest) := ⟨'\n', rest, rfl, .inr rfl⟩
  have hmeta : isMeta '\n' = true := rfl
  rw [readSimple]
  simp only [bind_apply, skipBlanks_atWord hat, ok_bind,
    readRedirect_atWord hat (by simp), rest_apply, hmeta, if_true]
  simp only [List.isEmpty_iff]
  rw [if_neg hsome]
  rfl

theorem operators_count : ∀ o ∈ operators, o.toList.count '\n' = 0 := by decide

/-- A redirection of a numbered descriptor to a word. -/
theorem readRedirect_some {digits target rest : Raw} {op : String} {kind : RedirectKind} {w : Word}
    {line' : Nat} (hdigits : ∀ c ∈ digits, c.isDigit = true) (hsome : digits ≠ [])
    (hop : operators.find? (fun o => o.toList.isPrefixOf (op.toList ++ target)) = some op)
    (hkind : redirectKind op = some kind) (hone : kind ≠ .both ∧ kind ≠ .bothAppend)
    (hstart : ∃ c cs, target = c :: cs ∧ StartsWord c)
    (hread : readWord d ⟨target, line⟩ = .ok (w, ⟨rest, line'⟩)) :
    readRedirect d ⟨digits ++ (op.toList ++ target), line⟩ =
      .ok (some ⟨some (digitsValue digits), kind, w⟩, ⟨rest, line'⟩) := by
  have hmem := List.mem_of_find?_eq_some hop
  have hdigitline : digits.count '\n' = 0 :=
    List.count_eq_zero.mpr fun hmem => absurd (hdigits _ hmem) (by decide)
  have htake : (digits ++ (op.toList ++ target)).takeWhile Char.isDigit = digits := by
    obtain ⟨x, xs, htext, -, -, hxdigit⟩ := operators_head hmem
    rw [List.takeWhile_append_of_pos hdigits, htext, List.cons_append, List.takeWhile_cons, hxdigit]
    simp
  have hfound : operator? ⟨op.toList ++ target, line⟩ =
      .ok (some op, ⟨op.toList ++ target, line⟩) := by
    rw [operator?_apply, hop]
  have hskip : skip op.length ⟨op.toList ++ target, line⟩ = .ok ((), ⟨target, line⟩) := by
    have h := skip_append op.toList target line
    rw [operators_count op hmem, String.length_toList] at h
    exact h
  have hdocument : ¬(op = "<<" ∨ op = "<<-") := by
    rintro (rfl | rfl) <;> simp [redirectKind] at hkind
  have hstring : ¬(op = "<<<" ∧ d = .bash) := by
    rintro ⟨rfl, -⟩
    simp [redirectKind] at hkind
  obtain ⟨c, cs, rfl, hc⟩ := hstart
  have hat : AtWord (c :: cs) := ⟨c, cs, rfl, .inl hc⟩
  unfold readRedirect
  simp only [bind_apply, get_apply, ok_bind, htake, skip_append, hdigitline, Nat.add_zero, hfound,
    hkind, if_neg hdocument, if_neg hstring]
  rw [if_neg (by simp [hone])]
  simp only [bind_apply, hskip, ok_bind, skipBlanks_atWord hat, rest_apply, hc.1]
  rw [if_neg (by simp), bind_apply, hread]
  simp only [ok_bind, pure_apply, List.isEmpty_iff, if_neg hsome]

theorem readSimple_redirect {rest after : Raw} {r : Redirect} {line' : Nat} (hat : AtWord rest)
    (hread : readRedirect d ⟨rest, line⟩ = .ok (some r, ⟨after, line'⟩)) :
    readSimple d at_ (fuel + 1) assignments words redirects ⟨rest, line⟩ =
      readSimple d at_ fuel assignments words (r :: redirects) ⟨after, line'⟩ := by
  rw [readSimple]
  simp only [bind_apply, skipBlanks_atWord hat, ok_bind, hread]

/-- Words of a line with a blank in front of each. -/
def spaced (texts : List Raw) : Raw := texts.flatMap (' ' :: ·)

theorem endsWord_spaced (texts : List Raw) {rest : Raw} (h : EndsWord rest) :
    EndsWord (spaced texts ++ rest) := by
  cases texts with
  | nil => exact h
  | cons text texts => exact endsWord_cons rfl

theorem length_le_spaced (texts : List Raw) : texts.length ≤ (spaced texts).length := by
  induction texts with
  | nil => exact Nat.le_refl 0
  | cons text texts ih =>
      rw [spaced, List.flatMap_cons, ← spaced, List.length_append, List.length_cons,
        List.length_cons]
      omega

/-- The words of a command, after its first, up to the end of the line. -/
theorem readSimple_words {texts : List Raw} {ws : List Word}
    (h : List.Forall₂ (IsWord d) texts ws) (hwords : words ≠ []) {rest : Raw} :
    readSimple d at_ (fuel + texts.length + 1) assignments words redirects
        ⟨spaced texts ++ '\n' :: rest, line⟩ =
      .ok (.simple at_ assignments.reverse (words.reverse ++ ws) redirects.reverse,
        ⟨'\n' :: rest, line + (spaced texts).count '\n'⟩) := by
  have hline : EndsWord ('\n' :: rest) := endsWord_cons rfl
  induction h generalizing words line with
  | nil =>
      change readSimple d at_ (fuel + 1) assignments words redirects ⟨'\n' :: rest, line⟩ = _
      rw [readSimple_end fun hnone => hwords hnone.2.1]
      simp [spaced]
  | @cons text w texts ws hw _ ih =>
      have hsplit : spaced (text :: texts) ++ '\n' :: rest =
          ' ' :: (text ++ (spaced texts ++ '\n' :: rest)) := by
        simp [spaced]
      have hfuel : fuel + (text :: texts).length + 1 = fuel + texts.length + 1 + 1 := rfl
      rw [hsplit, readSimple_blank (hw.atWord _), hfuel,
        readSimple_operand hw (endsWord_spaced _ hline) (.inl hwords), ih (by simp)]
      simp [spaced, Nat.add_assoc]

end

/-! ### A command on its line -/

theorem plainWord_apply (s : Source) :
    plainWord s = .ok (.ofList (s.rest.takeWhile fun c => !isMeta c), s) := rfl

theorem lookingAt_apply (text : String) (s : Source) :
    lookingAt text s = .ok (text.toList.isPrefixOf s.rest, s) := rfl

section
variable {d : Dialect} {fuel line : Nat}

/-- What is written in the place of a command begins no compound command and no function. -/
structure StartsSimple (rest : Raw) (word : String) : Prop where
  starts : ∃ c cs, rest = c :: cs ∧ StartsWord c
  taken : .ofList (rest.takeWhile fun c => !isMeta c) = word
  keyword : word ∉ closers ++ openers ++ bashOpeners
  name : isName word.toList = true → ∃ c cs, rest.drop word.length = ' ' :: c :: cs ∧ StartsWord c

theorem StartsWord.ne_paren {c : Char} (h : StartsWord c) : c ≠ '(' := by
  rintro rfl
  exact absurd h.1 (by decide)

/-- Whatever follows the word, it is not read as the name of a function. -/
theorem StartsSimple.no_function {rest : Raw} {word : String} (h : StartsSimple rest word) :
    let after := rest.drop word.length
    ¬(isName word.toList = true ∧
      "(".toList.isPrefixOf (after.drop (skipBlanks.count after)) = true) := by
  intro after
  rintro ⟨hname, hparen⟩
  obtain ⟨c, cs, hafter, hc⟩ := h.name hname
  have hcount : skipBlanks.count (' ' :: c :: cs) = 1 := by
    change 1 + skipBlanks.count (c :: cs) = 1
    rw [count_atWord ⟨c, cs, rfl, .inl hc⟩]
  rw [show after = ' ' :: c :: cs from hafter, hcount] at hparen
  simp [List.isPrefixOf, hc.ne_paren.symm] at hparen

/-- No keyword and no name has an equality sign in it. -/
theorem startsSimple_of_equality {c : Char} {cs : Raw} (hc : StartsWord c)
    (heq : '=' ∈ (c :: cs).takeWhile fun c => !isMeta c) :
    StartsSimple (c :: cs) (.ofList ((c :: cs).takeWhile fun c => !isMeta c)) where
  starts := ⟨c, cs, rfl, hc⟩
  taken := rfl
  keyword hmem := by
    have hnone : ∀ word ∈ closers ++ openers ++ bashOpeners, '=' ∉ word.toList := by decide
    exact hnone _ hmem (by rwa [String.toList_ofList])
  name hname := by
    rw [String.toList_ofList] at hname
    exact absurd (isNameChar_of_isName hname _ heq) (by decide)

theorem readCommand_simple {rest : Raw} {word : String} (h : StartsSimple rest word) :
    readCommand d (fuel + 1) ⟨rest, line⟩ =
      readSimple d line (4 * rest.length + 8) [] [] [] ⟨rest, line⟩ := by
  have hfunction := h.no_function
  obtain ⟨⟨c, cs, rfl, hc⟩, hword, hkeyword, -⟩ := h
  have hat : AtWord (c :: cs) := ⟨c, cs, rfl, .inl hc⟩
  have hparen : c ≠ '(' := hc.ne_paren
  have hnot : word ≠ "\x7b" ∧ word ≠ "if" ∧ word ≠ "while" ∧ word ≠ "until" ∧ word ≠ "for" ∧
      word ≠ "case" ∧ word ≠ "[[" ∧ word ≠ "function" := by
    refine ⟨?_, ?_, ?_, ?_, ?_, ?_, ?_, ?_⟩ <;> rintro rfl <;> exact hkeyword (by decide)
  have hcloser : word ∉ closers := fun hmem => hkeyword (by simp [hmem])
  obtain ⟨h₁, h₂, h₃, h₄, h₅, h₆, h₇, h₈⟩ := hnot
  rw [readCommand]
  simp only [bind_apply, skipBlanks_atWord hat, ok_bind, get_apply, plainWord_apply, rest_apply,
    hword, List.contains_iff_mem, hcloser, if_false, List.cons.injEq, hparen, false_and,
    false_implies, implies_true]
  simp only [bind_apply, skip_apply, skipBlanks_apply, lookingAt_apply, ok_bind,
    if_neg hfunction, set_apply]

theorem atWord_line (rest : Raw) : AtWord ('\n' :: rest) := ⟨'\n', rest, rfl, .inr rfl⟩

/-- No operator that connects commands stands in front of a word or at the end of a line. -/
theorem lookingAt_atWord (text : String) {rest : Raw} (h : AtWord rest) (line : Nat)
    (htext : (text.toList.head?.any fun c => isMeta c && c != '\n') = true) :
    lookingAt text ⟨rest, line⟩ = .ok (false, ⟨rest, line⟩) := by
  rw [lookingAt_apply]
  obtain ⟨c, cs, rfl, hc⟩ := h
  cases hlist : text.toList with
  | nil => simp [hlist] at htext
  | cons x xs =>
      have hx : isMeta x = true ∧ x ≠ '\n' := by simpa [hlist] using htext
      have hne : x ≠ c := by
        rintro rfl
        rcases hc with hstart | hline
        · exact absurd hx.1 (by simp [hstart.1])
        · exact hx.2 hline
      simp [List.isPrefixOf, hne]

theorem readStages_line (c : Command) (rest : Raw) :
    readStages d (fuel + 1) [c] ⟨'\n' :: rest, line⟩ = .ok ([c], ⟨'\n' :: rest, line⟩) := by
  have hat := atWord_line rest
  rw [readStages]
  simp [bind_apply, skipBlanks_atWord hat, ok_bind, lookingAt_atWord "||" hat line rfl,
    lookingAt_atWord "|&" hat line rfl, lookingAt_atWord "|" hat line rfl, pure_apply]

theorem readAndOrRest_line (c : Command) (rest : Raw) :
    readAndOrRest d (fuel + 1) c ⟨'\n' :: rest, line⟩ = .ok (c, ⟨'\n' :: rest, line⟩) := by
  have hat := atWord_line rest
  rw [readAndOrRest]
  simp [bind_apply, skipBlanks_atWord hat, ok_bind, lookingAt_atWord "||" hat line rfl,
    lookingAt_atWord "&&" hat line rfl, pure_apply]

/-- A simple command that ends with its line, read where any number of commands may stand. -/
theorem readList_simple {rest after : Raw} {word : String} {c : Command} {line' : Nat}
    (h : StartsSimple rest word)
    (hread : readSimple d line (4 * rest.length + 8) [] [] [] ⟨rest, line⟩ =
      .ok (c, ⟨'\n' :: after, line'⟩)) :
    readList d false (fuel + 4) [] ⟨rest, line⟩ = .ok ([c], ⟨'\n' :: after, line'⟩) := by
  have hcommand (fuel : Nat) : readCommand d (fuel + 1) ⟨rest, line⟩ = _ :=
    (readCommand_simple h).trans hread
  obtain ⟨⟨x, xs, rfl, hx⟩, hword, hkeyword, -⟩ := h
  have hat : AtWord (x :: xs) := ⟨x, xs, rfl, .inl hx⟩
  have hbang : word ≠ "!" := by
    rintro rfl
    exact hkeyword (by decide)
  have hpipeline : readPipeline d (fuel + 2) ⟨x :: xs, line⟩ = .ok (c, ⟨'\n' :: after, line'⟩) := by
    rw [readPipeline]
    simp only [bind_apply, skipBlanks_atWord hat, ok_bind, plainWord_apply, hword, if_neg hbang,
      hcommand, readStages_line, pure_apply]
  have handOr : readAndOr d (fuel + 3) ⟨x :: xs, line⟩ = .ok (c, ⟨'\n' :: after, line'⟩) := by
    rw [readAndOr, bind_apply, hpipeline]
    exact readAndOrRest_line c after
  have hparen : x ≠ ')' := by
    rintro rfl
    exact absurd hx.1 (by decide)
  have hline : x ≠ '\n' := by
    rintro rfl
    exact absurd hx.1 (by decide)
  rw [readList]
  simp [bind_apply, skipBlanks_atWord hat, skipBlanks_atWord (atWord_line after), ok_bind,
    plainWord_apply, rest_apply, hparen, lookingAt_atWord ";;" hat line rfl,
    lookingAt_atWord ";&" hat line rfl, handOr, pure_apply]

theorem skipLines_atWord {c : Char} {rest : Raw} (hc : StartsWord c) :
    skipLines fuel ⟨c :: rest, line⟩ = .ok ((), ⟨c :: rest, line⟩) := by
  cases fuel with
  | zero => rfl
  | succ fuel =>
      have hat : AtWord (c :: rest) := ⟨c, rest, rfl, .inl hc⟩
      have hline : c ≠ '\n' := by
        rintro rfl
        exact absurd hc.1 (by decide)
      rw [skipLines]
      simp [bind_apply, skipBlanks_atWord hat, ok_bind, rest_apply, hline, pure_apply]

/-- A comment is passed over with its line. -/
theorem skipLines_comment {comment rest : Raw} {c : Char} (h : '\n' ∉ comment)
    (hc : StartsWord c) :
    skipLines (fuel + 1) ⟨'#' :: comment ++ '\n' :: c :: rest, line⟩ =
      .ok ((), ⟨c :: rest, line + 1⟩) := by
  have hplain : ∀ x ∈ comment, decide (x ≠ '\n') = true := by
    intro x hx
    simp only [decide_eq_true_eq]
    rintro rfl
    exact h hx
  have hcount : skipBlanks.count ('#' :: comment ++ '\n' :: c :: rest) =
      ('#' :: comment).length := by
    have htake : (comment ++ '\n' :: c :: rest).takeWhile (· ≠ '\n') = comment := by
      rw [List.takeWhile_append_of_pos hplain]
      simp
    change 1 + ((comment ++ '\n' :: c :: rest).takeWhile (· ≠ '\n')).length = _
    rw [htake, List.length_cons, Nat.add_comm]
  have hlines : ('#' :: comment).count '\n' = 0 := List.count_eq_zero.mpr (by simp [h])
  have hend : skip 1 ⟨'\n' :: c :: rest, line⟩ = .ok ((), ⟨c :: rest, line + 1⟩) := rfl
  rw [skipLines]
  simp only [bind_apply, skipBlanks_apply, hcount, skip_append, hlines, Nat.add_zero, ok_bind,
    rest_apply, hend, skipLines_atWord hc]

/-- A line of one simple command, with comments above it or without, is read with its end. -/
theorem readLine_simple {text rest after : Raw} {word : String} {c : Command} {at_ line' : Nat}
    (hskip : ∀ fuel, skipLines (fuel + 1) ⟨text, line⟩ = .ok ((), ⟨rest, at_⟩))
    (h : StartsSimple rest word)
    (hread : readSimple d at_ (4 * rest.length + 8) [] [] [] ⟨rest, at_⟩ =
      .ok (c, ⟨'\n' :: after, line'⟩)) :
    readLine d ⟨text, line⟩ = .ok (some (.sequence [c]), ⟨after, line' + 1⟩) := by
  have hlist : readList d false (8 * text.length + 16) [] ⟨rest, at_⟩ =
      .ok ([c], ⟨'\n' :: after, line'⟩) := readList_simple h hread
  obtain ⟨x, xs, rfl, hx⟩ := h.starts
  unfold readLine
  simp only [bind_apply, rest_apply, ok_bind, hskip, hlist, skipBlanks_atWord (atWord_line after)]
  rfl

end

/-- What is left of a script is read as these lines, and then it is at its end. -/
inductive ReadsAs (d : Dialect) : Source → List Command → Prop
  | nothing {s s' : Source} : readLine d s = .ok (none, s') → ReadsAs d s []
  | line {s s' : Source} {c : Command} {cs : List Command} : readLine d s = .ok (some c, s') →
      ReadsAs d s' cs → ReadsAs d s (c :: cs)

theorem readsAs_end (d : Dialect) (line : Nat) : ReadsAs d ⟨[], line⟩ [] := by
  have hend : readLine d ⟨[], line⟩ = .ok (none, ⟨[], line⟩) := rfl
  exact .nothing hend

end Pipeline.Shell
