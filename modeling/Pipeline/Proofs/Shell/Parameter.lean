import Pipeline.Proofs.Shell.DoubleQuotes

/-!
# Reading parameters between braces

A name between braces, after a dollar sign, is read as the parameter of that name, by itself
(`isWord_parameter`) and between double quotes (`isWord_quotedParameter`). With a hyphen in it the
text is still read, as another parameter: the hyphen is an operator, and what follows it is the text
for a variable that is not set (`isWord_default`).
-/

namespace Pipeline.Shell
open Reader

/-- The text of a parameter between braces. -/
def parameterText (name : String) : String := "$\x7b" ++ name ++ "\x7d"

theorem toList_parameterText (name : String) :
    (parameterText name).toList = '$' :: '\x7b' :: name.toList ++ ['\x7d'] := by
  simp [parameterText]

theorem ofText_parameterText {name : String} (h : isName name.toList = true) :
    Raw.ofText (parameterText name) = '$' :: '\x7b' :: name.toList ++ ['\x7d'] := by
  have hascii : ∀ c ∈ (parameterText name).toList, c.toNat < 128 := by
    intro c hc
    simp only [toList_parameterText, List.cons_append, List.mem_cons, List.mem_append,
      List.not_mem_nil, or_false] at hc
    rcases hc with rfl | rfl | hc | rfl
    · decide
    · decide
    · exact toNat_isNameChar (isNameChar_of_isName h c hc)
    · decide
  rw [Raw.ofText_of_ascii hascii, toList_parameterText]

/-- A name between braces, after a dollar sign, is the parameter of that name. -/
theorem isWord_parameter (d : Dialect) {name : String} (h : isName name.toList = true) :
    IsWord d (Raw.ofText (parameterText name)) [.param false name .plain [] []] := by
  have hword := (spells_param (d := d) h).isWord rfl
  rwa [String.ofList_toList, ← ofText_parameterText h] at hword

section
variable {d : Dialect}

/-- A name between braces, after a dollar sign, spells the parameter of that name. -/
theorem spellsQuoted_param {name : Raw} (h : isName name = true) :
    SpellsQuoted d ('$' :: '\x7b' :: name ++ ['\x7d'])
      (.param true (.ofList name) .plain [] [] :: ·) := by
  refine ⟨3, by simp; omega, fun fuel done rest line hfuel => ?_⟩
  obtain ⟨fuel, rfl⟩ := Nat.exists_eq_add_of_le' hfuel
  have hline : ('$' :: '\x7b' :: name ++ ['\x7d']).count '\n' = 0 := by
    simp [count_isName h]
  have hread := readBraced_name d true (fuel + 3) h rest line
  have hskip : Reader.skip 2 ⟨'$' :: '\x7b' :: (name ++ '\x7d' :: rest), line⟩ =
      .ok ((), ⟨name ++ '\x7d' :: rest, line⟩) := rfl
  have htext : '$' :: '\x7b' :: name ++ ['\x7d'] ++ rest =
      '$' :: '\x7b' :: (name ++ '\x7d' :: rest) := by simp
  rw [hline, htext, readQuoted_cons (by decide) (by decide), readMarked, readDollar]
  rw [bind_apply, hskip, ok_bind, bind_apply]
  exact congrArg (Except.bind · _) hread

/-- The same text between double quotes is the parameter as well, in quotes. -/
theorem isWord_quotedParameter {name : String} (h : isName name.toList = true) :
    IsWord d (Raw.ofText ("\"" ++ parameterText name ++ "\"")) [.param true name .plain [] []] := by
  have hquote : Raw.ofText "\"" = ['"'] := rfl
  have hword := (spellsQuoted_param (d := d) h).isWord
  rw [String.ofList_toList, ← ofText_parameterText h] at hword
  rw [Raw.ofText_append, Raw.ofText_append, hquote]
  exact hword

end

/-! ### Text for a variable that is not set -/

section
variable {d : Dialect} {fuel line : Nat} {done : Word} {rest : Raw}

/-- A character of a name stands for itself behind an operator. -/
theorem readBrace_nameChar {c : Char} (h : isNameChar c = true) :
    readPieces d (.brace false none) (fuel + 2) done ⟨c :: rest, line⟩ =
      readPieces d (.brace false none) fuel (addText false [c] done) ⟨rest, line⟩ := by
  have hne (x : Char) (hx : isNameChar x = false) : c ≠ x := by
    rintro rfl
    rw [h] at hx
    cases hx
  have hline : c ≠ '\n' := hne '\n' rfl
  have hback : c ≠ '\\' := hne _ rfl
  have hbrace : c ≠ '\x7d' := hne _ rfl
  have hmarked : readPieces d (.brace false none) (fuel + 2) done ⟨c :: rest, line⟩ =
      readMarked d (.brace false none) (fuel + 1) c rest done ⟨c :: rest, line⟩ := by
    rw [readPieces]
    simp only [bind_apply, rest_apply, ok_bind, Site.isQuoted, if_neg Bool.false_ne_true]
    simp [hbrace, Site.ending?]
  rw [hmarked, readMarked]
  · simp [bind_apply, ok_bind, skip_apply, Site.isQuoted, hline]
  · exact hne _ rfl
  · exact hne _ rfl
  · exact hne _ rfl
  · exact hne _ rfl

theorem readBrace_name {word : Raw} (hne : word ≠ []) (h : ∀ c ∈ word, isNameChar c = true) :
    readPieces d (.brace false none) (fuel + 2 * word.length + 1) done
        ⟨word ++ '\x7d' :: rest, line⟩ =
      .ok ((addText false word done).reverse, ⟨'\x7d' :: rest, line⟩) := by
  induction word generalizing done with
  | nil => exact absurd rfl hne
  | cons c word ih =>
      obtain ⟨hc, hword⟩ := List.forall_mem_cons.mp h
      have hfuel : fuel + 2 * (c :: word).length + 1 = fuel + 2 * word.length + 1 + 2 := by
        simp; omega
      rw [hfuel, List.cons_append, readBrace_nameChar hc]
      by_cases hlast : word = []
      · subst hlast
        rfl
      · rw [ih hlast hword, addText_addText, List.singleton_append]

end

/-- A hyphen behind a name between braces is an operator: what follows it is the text for a variable
that is not set. -/
theorem readBraced_default (d : Dialect) {fuel : Nat} {name word : Raw} (h : isName name = true)
    (rest : Raw) (line : Nat)
    (hword : readPieces d (.brace false none) fuel [] ⟨word ++ '\x7d' :: rest, line⟩ =
      .ok ([.plain word], ⟨'\x7d' :: rest, line⟩)) :
    readBraced d false (fuel + 1) (name ++ '-' :: (word ++ '\x7d' :: rest))
        ⟨name ++ '-' :: (word ++ '\x7d' :: rest), line⟩ =
      .ok (.param false (.ofList name) (.default false) [.plain word] [], ⟨rest, line⟩) := by
  have hbraced := bracedName_name h (x := '-') rfl (word ++ '\x7d' :: rest)
  have hop : readOperator d ((name ++ '-' :: (word ++ '\x7d' :: rest)).drop name.length) =
      some (.default false, 1, 1) := by
    rw [List.drop_left]
    rfl
  have hskip : Reader.skip (name.length + 1) ⟨name ++ '-' :: (word ++ '\x7d' :: rest), line⟩ =
      .ok ((), ⟨word ++ '\x7d' :: rest, line⟩) := by
    have hsplit : name ++ '-' :: (word ++ '\x7d' :: rest) =
      (name ++ ['-']) ++ (word ++ '\x7d' :: rest) := by simp
    have hlength : name.length + 1 = (name ++ ['-']).length := by simp
    rw [hsplit, hlength, skip_append]
    simp [count_isName h]
  have hhash : ∀ cs, name ++ '-' :: (word ++ '\x7d' :: rest) ≠ '#' :: cs := by
    obtain ⟨c, cs, rfl, hc, -⟩ := isName_cons h
    rintro cs heq
    cases heq
    revert hc
    decide
  rw [readBraced]
  · simp only [hbraced, hop]
    rw [if_neg Bool.false_ne_true, bind_apply, hskip]
    simp only [ok_bind]
    rw [if_neg (by decide), bind_apply, hword]
    rfl
  · exact fun cs heq => hhash _ heq
  · exact fun c cs heq => hhash _ heq

/-- So what stands there is the parameter of the name in front of the hyphen. -/
theorem isWord_default (d : Dialect) {name word : Raw} (h : isName name = true) (hne : word ≠ [])
    (hword : ∀ c ∈ word, isNameChar c = true) :
    IsWord d ('$' :: '\x7b' :: name ++ '-' :: word ++ ['\x7d'])
      [.param false (.ofList name) (.default false) [.plain word] []] := by
  refine ⟨⟨'$', _, rfl, by decide, by decide⟩, fun rest line hend => ?_⟩
  have htext : '$' :: '\x7b' :: name ++ '-' :: word ++ ['\x7d'] ++ rest =
      '$' :: '\x7b' :: (name ++ '-' :: (word ++ '\x7d' :: rest)) := by simp
  have hlines : ('$' :: '\x7b' :: name ++ '-' :: word ++ ['\x7d']).count '\n' = 0 := by
    have hnone : '\n' ∉ word := fun hmem => absurd (hword _ hmem) (by decide)
    simp [count_isName h, List.count_eq_zero.mpr hnone]
  obtain ⟨fuel, hfuel⟩ : ∃ fuel, 4 * ('$' :: '\x7b' :: name ++ '-' :: word ++ ['\x7d'] ++ rest).length + 8 =
      fuel + 2 * word.length + 1 + 1 + 3 :=
    ⟨4 * ('$' :: '\x7b' :: name ++ '-' :: word ++ ['\x7d'] ++ rest).length + 3 - 2 * word.length,
      by simp; omega⟩
  have hskip : Reader.skip 2 ⟨'$' :: '\x7b' :: (name ++ '-' :: (word ++ '\x7d' :: rest)), line⟩ =
      .ok ((), ⟨name ++ '-' :: (word ++ '\x7d' :: rest), line⟩) := rfl
  have hinner : readPieces d (.brace false none) (fuel + 2 * word.length + 1) []
      ⟨word ++ '\x7d' :: rest, line⟩ = .ok ([.plain word], ⟨'\x7d' :: rest, line⟩) :=
    readBrace_name hne hword
  have hread := readBraced_default d h rest line hinner
  rw [readWord_apply, hfuel, hlines, htext, readPieces_marked rfl (by decide), readMarked, readDollar]
  rw [bind_apply, hskip, ok_bind, bind_apply]
  exact (congrArg (Except.bind · _) hread).trans (readPieces_end hend)

end Pipeline.Shell
