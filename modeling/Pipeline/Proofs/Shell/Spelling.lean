import Pipeline.Proofs.Shell.Raw
import Pipeline.Shell.Parser

/-!
# Reading spelled words

A text spells pieces of a word if the reader passes over it and adds them, whatever comes before and
behind it (`Spells`). What spells pieces one after the other spells them together, so the spelling
of a word is put together from those of its parts: plain characters, quoted texts, the arguments of
the shell, and parameters between braces. Reading a quoted text leaves and enters the quotes once
for each quote in it; the induction for it is on their number. A word that is spelled is read as
soon as its end is in sight (`Spells.readWord`).
-/

namespace Pipeline.Shell

namespace Reader
variable {α β : Type}

theorem bind_apply (m : Reader α) (f : α → Reader β) (s : Source) :
    (m >>= f) s = (m s).bind fun r => f r.1 r.2 := rfl

theorem pure_apply (a : α) (s : Source) : (pure a : Reader α) s = .ok (a, s) := rfl

theorem get_apply (s : Source) : (get : Reader Source) s = .ok (s, s) := rfl

theorem set_apply (s s' : Source) : (set s' : Reader Unit) s = .ok ((), s') := rfl

theorem rest_apply (s : Source) : rest s = .ok (s.rest, s) := rfl

theorem skip_apply (n : Nat) (s : Source) :
    skip n s = .ok ((), ⟨s.rest.drop n, s.line + (s.rest.take n).count '\n'⟩) := rfl

theorem skip_append (text rest : Raw) (line : Nat) :
    skip text.length ⟨text ++ rest, line⟩ = .ok ((), ⟨rest, line + text.count '\n'⟩) := by
  rw [skip_apply]
  simp

theorem ok_bind {ε γ δ : Type} (a : γ) (f : γ → Except ε δ) : (Except.ok a).bind f = f a := rfl

end Reader

open Reader

/-! ### Between single quotes -/

theorem closing_single_quote (n : Nat) (rest : Raw) :
    closing n [.single] ('\'' :: rest) = some n := by
  rw [closing.eq_def]
  simp

/-- Between single quotes every other character is passed over, the ones that are special elsewhere
among them. -/
theorem closing_single_cons {c : Char} (h : c ≠ '\'') (n : Nat) (cs : Raw) :
    closing n [.single] (c :: cs) = closing (n + 1) [.single] cs := by
  rw [closing.eq_def]
  split
  · rename_i heq
    cases heq
  · rename_i heq
    cases heq
    rfl
  · -- a dollar sign takes the bracket after it along, which is as good as passing over both
    rename_i heq
    cases heq
    rw [closing.eq_def (n + 1)]
    simp
  · rename_i heq
    cases heq
    rw [closing.eq_def (n + 1)]
    simp
  · rename_i heq
    cases heq
    simp

theorem closing_single {text : Raw} (h : '\'' ∉ text) (rest : Raw) (n : Nat) :
    closing n [.single] (text ++ '\'' :: rest) = some (n + text.length) := by
  induction text generalizing n with
  | nil => exact closing_single_quote n rest
  | cons c text ih =>
      have hc : c ≠ '\'' := by rintro rfl; exact h (by simp)
      rw [List.cons_append, closing_single_cons hc, ih fun hmem => h (by simp [hmem])]
      simp [Nat.add_comm, Nat.add_left_comm]

theorem fenced_single {text : Raw} (h : '\'' ∉ text) (rest : Raw) (line : Nat) :
    fenced .single '\'' ⟨text ++ '\'' :: rest, line⟩ =
      .ok (text, ⟨rest, line + text.count '\n'⟩) := by
  unfold fenced
  simp only [bind_apply, rest_apply, ok_bind, closing_single h, Nat.zero_add, skip_apply,
    pure_apply]
  have hsplit : text ++ '\'' :: rest = (text ++ ['\'']) ++ rest := by simp
  have hlength : text.length + 1 = (text ++ ['\'']).length := by simp
  rw [List.take_left, hsplit, hlength, List.drop_left, List.take_left]
  simp

/-! ### Steps of the reader -/

/-- Characters that stand for themselves in a word. -/
def IsPlain (c : Char) : Prop :=
  isMeta c = false ∧ c ≠ '\\' ∧ c ≠ '\'' ∧ c ≠ '"' ∧ c ≠ '\x60' ∧ c ≠ '$'

instance (c : Char) : Decidable (IsPlain c) :=
  inferInstanceAs (Decidable (isMeta c = false ∧ c ≠ '\\' ∧ c ≠ '\'' ∧ c ≠ '"' ∧ c ≠ '\x60' ∧
    c ≠ '$'))

/-- Whether a word cannot go on: at the end of all text, or at a character that ends words. -/
def EndsWord (rest : Raw) : Prop := ∀ c ∈ rest.head?, isMeta c = true

theorem endsWord_cons {c : Char} {rest : Raw} (h : isMeta c = true) : EndsWord (c :: rest) := by
  intro x hx
  cases hx
  exact h

section
variable {d : Dialect} {fuel line : Nat} {done : Word} {rest : Raw}

/-- What the reader of a word does at a character. -/
theorem readPieces_cons (c : Char) :
    readPieces d .word (fuel + 1) done ⟨c :: rest, line⟩ =
      (if isMeta c then (pure done.reverse : Reader Word)
        else if c = '\\' then readBackslash d .word fuel rest done
        else readMarked d .word fuel c rest done) ⟨c :: rest, line⟩ := rfl

theorem readPieces_end (h : EndsWord rest) :
    readPieces d .word (fuel + 1) done ⟨rest, line⟩ = .ok (done.reverse, ⟨rest, line⟩) := by
  cases rest with
  | nil => rfl
  | cons c cs =>
      have hc : isMeta c = true := h c rfl
      rw [readPieces_cons, if_pos hc, pure_apply]

theorem readPieces_marked {c : Char} (hm : isMeta c = false) (hb : c ≠ '\\') :
    readPieces d .word (fuel + 1) done ⟨c :: rest, line⟩ =
      readMarked d .word fuel c rest done ⟨c :: rest, line⟩ := by
  rw [readPieces_cons, hm, if_neg Bool.false_ne_true, if_neg hb]

theorem readPieces_plain {c : Char} (h : IsPlain c) :
    readPieces d .word (fuel + 2) done ⟨c :: rest, line⟩ =
      readPieces d .word fuel (addText false [c] done) ⟨rest, line⟩ := by
  obtain ⟨hm, hb, hs, hd, hq, hv⟩ := h
  have hline : c ≠ '\n' := by rintro rfl; exact absurd hm (by decide)
  rw [readPieces_marked hm hb, readMarked]
  · simp [bind_apply, ok_bind, skip_apply, Site.isQuoted, hline]
  · exact hs
  · exact hd
  · exact hq
  · exact hv

theorem readPieces_backslash {c : Char} (h : c ≠ '\n') :
    readPieces d .word (fuel + 2) done ⟨'\\' :: c :: rest, line⟩ =
      readPieces d .word fuel (addText true [c] done) ⟨rest, line⟩ := by
  have hm : isMeta '\\' = false := rfl
  rw [readPieces_cons, hm, if_neg Bool.false_ne_true, if_pos rfl, readBackslash]
  · simp [bind_apply, ok_bind, skip_apply, h]
  · exact h

theorem readPieces_single {text : Raw} (h : '\'' ∉ text) :
    readPieces d .word (fuel + 2) done ⟨'\'' :: text ++ '\'' :: rest, line⟩ =
      readPieces d .word fuel (addText true text done) ⟨rest, line + text.count '\n'⟩ := by
  rw [List.cons_append, readPieces_marked rfl (by decide), readMarked]
  change (fenced .single '\'' ⟨text ++ '\'' :: rest, line⟩).bind
    (fun r => readPieces d .word fuel (addText true r.1 done) r.2) = _
  rw [fenced_single h]
  rfl

/-- The arguments of the shell, between double quotes. -/
theorem readPieces_arguments :
    readPieces d .word (fuel + 4 + 2) done ⟨'"' :: '$' :: '@' :: '"' :: rest, line⟩ =
      readPieces d .word (fuel + 4) (.param true "@" .plain [] [] :: done) ⟨rest, line⟩ :=
  rfl

end

/-! ### Parameters between braces -/

theorem bounds_of_isAlpha {c : Char} (h : c.isAlpha = true) : 65 ≤ c.toNat ∧ c.toNat ≤ 122 := by
  have hletter : (c.isUpper || c.isLower) = true := h
  rcases Bool.or_eq_true_iff.mp hletter with hupper | hlower
  · have hbounds : 65 ≤ c.toNat ∧ c.toNat ≤ 90 := of_decide_eq_true hupper
    omega
  · obtain ⟨hlow, hhigh⟩ := Bool.and_eq_true_iff.mp hlower
    have hfrom : 97 ≤ c.toNat := of_decide_eq_true hlow
    have hto : c.toNat ≤ 122 := of_decide_eq_true hhigh
    omega

theorem bounds_of_isDigit {c : Char} (h : c.isDigit = true) : 48 ≤ c.toNat ∧ c.toNat ≤ 57 := by
  obtain ⟨hlow, hhigh⟩ := Bool.and_eq_true_iff.mp h
  exact ⟨of_decide_eq_true hlow, of_decide_eq_true hhigh⟩

theorem isDigit_of_isNameStart {c : Char} (h : isNameStart c = true) : c.isDigit = false := by
  simp only [isNameStart, Bool.or_eq_true, decide_eq_true_eq] at h
  rcases h with h | rfl
  · have halpha := bounds_of_isAlpha h
    refine Bool.eq_false_iff.mpr fun hdigit => ?_
    have := bounds_of_isDigit hdigit
    omega
  · rfl

theorem isNameChar_of_isNameStart {c : Char} (h : isNameStart c = true) : isNameChar c = true := by
  simp only [isNameStart, isNameChar, Char.isAlphanum, Bool.or_eq_true] at h ⊢
  exact h.imp_left .inl

theorem toNat_isNameChar {c : Char} (h : isNameChar c = true) : c.toNat < 128 := by
  simp only [isNameChar, Char.isAlphanum, Bool.or_eq_true, decide_eq_true_eq] at h
  rcases h with (h | h) | rfl
  · have := bounds_of_isAlpha h
    omega
  · have := bounds_of_isDigit h
    omega
  · decide

theorem isName_cons {name : Raw} (h : isName name = true) :
    ∃ c cs, name = c :: cs ∧ isNameStart c = true ∧ cs.all isNameChar = true := by
  cases name with
  | nil => cases h
  | cons c cs => exact ⟨c, cs, rfl, Bool.and_eq_true_iff.mp h⟩

theorem isNameChar_of_isName {name : Raw} (h : isName name = true) :
    ∀ c ∈ name, isNameChar c = true := by
  obtain ⟨c, cs, rfl, hc, hcs⟩ := isName_cons h
  exact List.forall_mem_cons.mpr ⟨isNameChar_of_isNameStart hc, List.all_eq_true.mp hcs⟩

theorem count_isName {name : Raw} (h : isName name = true) : name.count '\n' = 0 := by
  refine List.count_eq_zero.mpr fun hmem => ?_
  cases isNameChar_of_isName h _ hmem

theorem bracedName_name {name : Raw} (h : isName name = true) {x : Char}
    (hx : isNameChar x = false) (rest : Raw) :
    bracedName (name ++ x :: rest) = some (.ofList name, name.length) := by
  have hname := isNameChar_of_isName h
  obtain ⟨c, cs, rfl, hc, -⟩ := isName_cons h
  have htake : (c :: cs ++ x :: rest).takeWhile isNameChar = c :: cs := by
    rw [List.takeWhile_append_of_pos hname]
    simp [hx]
  have hdigits : (c :: cs ++ x :: rest).takeWhile Char.isDigit = [] := by
    simp [isDigit_of_isNameStart hc]
  unfold bracedName
  rw [hdigits]
  simp only [List.cons_append] at htake ⊢
  simp only [paramName, hc, if_true, htake]

theorem readBraced_name (d : Dialect) (quoted : Bool) (fuel : Nat) {name : Raw}
    (h : isName name = true) (rest : Raw) (line : Nat) :
    readBraced d quoted (fuel + 1) (name ++ '\x7d' :: rest) ⟨name ++ '\x7d' :: rest, line⟩ =
      .ok (.param quoted (.ofList name) .plain [] [], ⟨rest, line⟩) := by
  have hbraced := bracedName_name h (x := '\x7d') rfl rest
  have hop : readOperator d ((name ++ '\x7d' :: rest).drop name.length) =
      some (.plain, 0, 0) := by
    rw [List.drop_left]
    rfl
  have hskip : Reader.skip (name.length + 0) ⟨name ++ '\x7d' :: rest, line⟩ =
      .ok ((), ⟨'\x7d' :: rest, line⟩) := by
    rw [Nat.add_zero, skip_append, count_isName h, Nat.add_zero]
  have hhash : ∀ cs, name ++ '\x7d' :: rest ≠ '#' :: cs := by
    obtain ⟨c, cs, rfl, hc, -⟩ := isName_cons h
    rintro cs heq
    cases heq
    revert hc
    decide
  rw [readBraced]
  · simp only [hbraced, hop]
    rw [if_neg Bool.false_ne_true, bind_apply, hskip]
    rfl
  · exact fun cs heq => hhash _ heq
  · exact fun c cs heq => hhash _ heq

/-! ### Spelling -/

theorem addText_addText (quoted : Bool) (a b : Raw) (done : Word) :
    addText quoted b (addText quoted a done) = addText quoted (a ++ b) done := by
  cases quoted <;> unfold addText <;> cases done with
  | nil => rfl
  | cons p ps => cases p <;> simp

/-- Reading the text at the front of any other passes over it and adds to the pieces so far. It
takes no more steps than the reader has. -/
def Spells (d : Dialect) (text : Raw) (add : Word → Word) : Prop :=
  ∃ cost ≤ 4 * text.length, ∀ fuel done rest line, 4 ≤ fuel →
    readPieces d .word (fuel + cost) done ⟨text ++ rest, line⟩ =
      readPieces d .word fuel (add done) ⟨rest, line + text.count '\n'⟩

section
variable {d : Dialect}

theorem Spells.append {a b : Raw} {f g : Word → Word} (ha : Spells d a f) (hb : Spells d b g) :
    Spells d (a ++ b) (g ∘ f) := by
  obtain ⟨m, hm, hfront⟩ := ha
  obtain ⟨n, hn, hback⟩ := hb
  refine ⟨n + m, by simp; omega, fun fuel done rest line hfuel => ?_⟩
  rw [← Nat.add_assoc, List.append_assoc, hfront _ _ _ _ (by omega), hback _ _ _ _ hfuel,
    List.count_append, Nat.add_assoc]
  rfl

theorem spells_plainChar {c : Char} (h : IsPlain c) : Spells d [c] (addText false [c]) := by
  have hline : c ≠ '\n' := by rintro rfl; exact absurd h.1 (by decide)
  refine ⟨2, by simp, fun fuel done rest line _ => ?_⟩
  rw [List.singleton_append, readPieces_plain h]
  simp [hline]

/-- Plain text spells itself. -/
theorem spells_plain {text : Raw} (hne : text ≠ []) (h : (text.all fun c => IsPlain c) = true) :
    Spells d text (addText false text) := by
  induction text with
  | nil => exact absurd rfl hne
  | cons c text ih =>
      obtain ⟨hplain, hrest⟩ := Bool.and_eq_true_iff.mp h
      have hc := spells_plainChar (d := d) (of_decide_eq_true hplain)
      by_cases hlast : text = []
      · subst hlast
        exact hc
      · have hboth := hc.append (ih hlast hrest)
        have hadd : addText false text ∘ addText false [c] = addText false (c :: text) :=
          funext fun done => addText_addText false [c] text done
        rw [hadd] at hboth
        exact hboth

theorem spells_single {text : Raw} (h : '\'' ∉ text) :
    Spells d ('\'' :: text ++ ['\'']) (addText true text) := by
  refine ⟨2, by simp; omega, fun fuel done rest line _ => ?_⟩
  rw [List.append_assoc, List.singleton_append, readPieces_single h]
  simp

theorem spells_backslash {c : Char} (h : c ≠ '\n') : Spells d ['\\', c] (addText true [c]) := by
  refine ⟨2, by simp, fun fuel done rest line _ => ?_⟩
  rw [List.cons_append, List.cons_append, List.nil_append, readPieces_backslash h]
  simp [h]

/-- A quoted text spells the text: the induction is on the number of quotes in it, each of which
closes the quotes, stands after a backslash, and opens them again. -/
theorem spells_quoteChars (text : Raw) : Spells d (quoteChars text) (addText true text) := by
  induction hcount : text.count '\'' generalizing text with
  | zero =>
      have hnone : '\'' ∉ text := List.count_eq_zero.mp hcount
      rw [quoteChars, flatMap_quoteChar hnone]
      exact spells_single hnone
  | succ n ih =>
      have hmem : '\'' ∈ text := List.count_pos_iff.mp (by omega)
      obtain ⟨front, back, rfl, hnone⟩ := List.eq_append_cons_of_mem hmem
      have hback : back.count '\'' = n := by
        rw [List.count_append, List.count_eq_zero.mpr hnone, List.count_cons_self] at hcount
        omega
      have hspell : quoteChars (front ++ '\'' :: back) =
          ('\'' :: front ++ ['\'']) ++ ['\\', '\''] ++ quoteChars back := by
        simp [quoteChars, quoteChar, flatMap_quoteChar hnone]
      have hadd : addText true back ∘ addText true ['\''] ∘ addText true front =
          addText true (front ++ '\'' :: back) := by
        funext done
        simp [addText_addText]
      rw [hspell, ← hadd]
      exact ((spells_single hnone).append (spells_backslash (by decide))).append (ih back hback)

theorem spells_arguments :
    Spells d ['"', '$', '@', '"'] (.param true "@" .plain [] [] :: ·) := by
  refine ⟨2, by simp, fun fuel done rest line hfuel => ?_⟩
  obtain ⟨fuel, rfl⟩ := Nat.exists_eq_add_of_le' hfuel
  exact readPieces_arguments

/-- A name between braces, after a dollar sign, spells the parameter of that name. -/
theorem spells_param {name : Raw} (h : isName name = true) :
    Spells d ('$' :: '\x7b' :: name ++ ['\x7d'])
      (.param false (.ofList name) .plain [] [] :: ·) := by
  refine ⟨3, by simp; omega, fun fuel done rest line hfuel => ?_⟩
  obtain ⟨fuel, rfl⟩ := Nat.exists_eq_add_of_le' hfuel
  have hline : ('$' :: '\x7b' :: name ++ ['\x7d']).count '\n' = 0 := by
    simp [count_isName h]
  have hread := readBraced_name d false (fuel + 3) h rest line
  have hskip : Reader.skip 2 ⟨'$' :: '\x7b' :: (name ++ '\x7d' :: rest), line⟩ =
      .ok ((), ⟨name ++ '\x7d' :: rest, line⟩) := rfl
  have htext : '$' :: '\x7b' :: name ++ ['\x7d'] ++ rest =
      '$' :: '\x7b' :: (name ++ '\x7d' :: rest) := by simp
  rw [hline, htext, readPieces_marked rfl (by decide), readMarked, readDollar]
  rw [bind_apply, hskip, ok_bind, bind_apply]
  exact congrArg (Except.bind · _) hread
theorem readWord_apply (s : Source) :
    readWord d s = readPieces d .word (4 * s.rest.length + 8) [] s := by
  unfold readWord
  rw [bind_apply, rest_apply, ok_bind]

/-- A spelled word that has come to its end is read. -/
theorem Spells.readWord {text rest : Raw} {add : Word → Word} (h : Spells d text add)
    (hend : EndsWord rest) (line : Nat) :
    readWord d ⟨text ++ rest, line⟩ =
      .ok ((add []).reverse, ⟨rest, line + text.count '\n'⟩) := by
  obtain ⟨cost, hcost, hread⟩ := h
  obtain ⟨fuel, hfuel⟩ : ∃ fuel, 4 * (text ++ rest).length + 8 = fuel + 4 + cost :=
    ⟨4 * (text ++ rest).length + 4 - cost, by simp; omega⟩
  rw [readWord_apply, hfuel, hread _ _ _ _ (by omega)]
  exact readPieces_end hend

/-- What a quoted text is read as tells it from every other. -/
theorem quote_inj {text other : String} (h : quote text = quote other) : text = other := by
  have hend : EndsWord [] := fun _ hc => by cases hc
  have hread (text : String) :=
    (spells_quoteChars (d := .bash) (Raw.ofText text)).readWord hend 1
  have hsame := hread text
  rw [← ofText_quote, h, ofText_quote, hread other] at hsame
  have hraw : Raw.ofText other = Raw.ofText text := by
    have hword := congrArg Prod.fst (Except.ok.inj hsame)
    simpa [addText] using hword
  rw [← Raw.toText_ofText text, ← hraw, Raw.toText_ofText]

end

end Pipeline.Shell
