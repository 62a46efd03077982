import Pipeline.Diagnosis
import Pipeline.Proofs.Machine.Path
import Pipeline.Proofs.Text.Regex

/-!
# Lines that report a missing program

What a shell writes about a missing program is a matter of single lines (`Reports`), although the
expression that an output is searched for knows no lines but for their starts and ends, and the
blanks behind a report may go on over any number of them. A match lies on one line up to its blanks,
and it does not matter where on the line it starts: the line reports the name (`reports_of_places`),
a line that reports a name has a match (`places_of_reports`), and it reports no other name
(`Reports.unique`). So the first match is on the first line that reports anything.
-/

namespace Pipeline
open Text Regex

/-! ### Lines -/

/-- A text that a shell can report as the name of a program. -/
structure IsReportable (name : List Char) : Prop where
  notEmpty : name ≠ []
  chars : ∀ c ∈ name, isBlank c = false ∧ c ≠ ':' ∧ c ≠ '"'

theorem isReportChar_iff {c : Char} :
    isReportChar c = true ↔ isBlank c = false ∧ c ≠ ':' ∧ c ≠ '"' := by
  simp [isReportChar, and_comm, and_assoc]

theorem isReportable_iff {name : List Char} :
    IsReportable name ↔ name ≠ [] ∧ ∀ c ∈ name, isReportChar c = true := by
  simp only [isReportChar_iff]
  exact ⟨fun h => ⟨h.notEmpty, h.chars⟩, fun h => ⟨h.1, h.2⟩⟩

/-- A double quote that may be missing. -/
def MaybeQuote (cs : List Char) : Prop := cs = [] ∨ cs = ['"']

/-- What is written behind the name of a program that was not found. -/
def absencePhrases : List (List Char) :=
  [": command not found".toList, ": executable file not found in $PATH".toList]

def shells : List (List Char) := ["sh".toList, "bash".toList, "dash".toList]

/-- A line, without the blanks at its end, reports the name of a program that was not found. -/
inductive Reports : List Char → List Char → Prop where
  | byPhrase {front opening name closing phrase : List Char} :
      (front = [] ∨ ": ".toList <:+ front) → MaybeQuote opening → IsReportable name →
      MaybeQuote closing → phrase ∈ absencePhrases →
      Reports (front ++ opening ++ name ++ closing ++ phrase) name
  | byShell {dir shell word number name : List Char} :
      (dir = [] ∨ ['/'] <:+ dir ∧ ∀ c ∈ dir, isBlank c = false) → shell ∈ shells →
      (word = [] ∨ word = "line ".toList) → number ≠ [] → (∀ c ∈ number, isDigit c = true) →
      IsReportable name →
      Reports (dir ++ shell ++ ": ".toList ++ word ++ number ++ ": ".toList ++ name ++
        ": not found".toList) name

/-- The first of the lines that report anything reports the name. -/
def FirstReport (lines : List (List Char)) (name : List Char) : Prop :=
  ∃ before line after, lines = before ++ line :: after ∧ Reports (trimEnd line) name ∧
    ∀ earlier ∈ before, ∀ other, ¬Reports (trimEnd earlier) other

/-! ### Blanks at the end -/

theorem trimEnd_append_blanks {cs blanks : List Char} (h : ∀ c ∈ blanks, isBlank c = true) :
    trimEnd (cs ++ blanks) = trimEnd cs := by
  unfold trimEnd
  rw [List.reverse_append, List.dropWhile_append_of_pos (by simpa using h)]

theorem trimEnd_concat {c : Char} (h : isBlank c = false) (cs : List Char) :
    trimEnd (cs ++ [c]) = cs ++ [c] := by
  simp [trimEnd, h]

theorem trimEnd_blanks (cs : List Char) :
    ∃ blanks, cs = trimEnd cs ++ blanks ∧ ∀ c ∈ blanks, isBlank c = true := by
  refine ⟨(cs.reverse.takeWhile isBlank).reverse, ?_, ?_⟩
  · unfold trimEnd
    rw [← List.reverse_append, List.takeWhile_append_dropWhile, List.reverse_reverse]
  · intro c hc
    exact List.all_eq_true.mp List.all_takeWhile c (List.mem_reverse.mp hc)

/-! ### One name for a line -/

/-- A name is all of the characters of names at its end, if none stands before it. -/
theorem eq_of_ends {front front' name name' : List Char}
    (hname : ∀ c ∈ name, isReportChar c = true) (hname' : ∀ c ∈ name', isReportChar c = true)
    (hfront : ∀ c ∈ front.getLast?, isReportChar c = false)
    (hfront' : ∀ c ∈ front'.getLast?, isReportChar c = false)
    (h : front ++ name = front' ++ name') : name = name' := by
  have htake {front name : List Char} (hname : ∀ c ∈ name, isReportChar c = true)
      (hfront : ∀ c ∈ front.getLast?, isReportChar c = false) :
      (front ++ name).reverse.takeWhile isReportChar = name.reverse := by
    rw [List.reverse_append, List.takeWhile_append_of_pos (by simpa using hname)]
    cases hback : front.reverse with
    | nil => simp
    | cons c cs =>
        have hlast : front.getLast? = some c := by
          rw [← List.head?_reverse, hback]
          rfl
        rw [List.takeWhile_cons, hfront c (by simp [hlast])]
        simp
  have hsame := htake hname hfront
  rw [h, htake hname' hfront'] at hsame
  exact (List.reverse_inj.mp hsame).symm

/-- A line that reports a name has it behind a character of no name, and a phrase behind it. -/
theorem Reports.ends {line name : List Char} (h : Reports line name) :
    ∃ front closing phrase, line = front ++ name ++ closing ++ phrase ∧ IsReportable name ∧
      MaybeQuote closing ∧ phrase ∈ ": not found".toList :: absencePhrases ∧
      ∀ c ∈ front.getLast?, isReportChar c = false := by
  cases h with
  | @byPhrase front opening name closing phrase hfront hopening hname hclosing hphrase =>
      refine ⟨front ++ opening, closing, phrase, rfl, hname, hclosing,
        List.mem_cons_of_mem _ hphrase, ?_⟩
      intro c hc
      rw [List.getLast?_append] at hc
      rcases hopening with rfl | rfl
      · rcases hfront with rfl | ⟨before, rfl⟩
        · cases hc
        · rw [List.getLast?_append] at hc
          cases hc
          decide
      · cases hc
        decide
  | @byShell dir shell word number name =>
      refine ⟨dir ++ shell ++ ": ".toList ++ word ++ number ++ ": ".toList, [], _,
        by simp only [List.append_nil], by assumption, .inl rfl, List.mem_cons_self, ?_⟩
      intro c hc
      rw [List.getLast?_append] at hc
      cases hc
      decide

theorem phrase_of_suffix : ∀ p ∈ ": not found".toList :: absencePhrases,
    ∀ q ∈ ": not found".toList :: absencePhrases, p <:+ q → p = q := by
  decide

/-- No name ends in a quote, so a quote in front of the phrase closes the name. -/
theorem closing_unique {front front' name name' closing closing' : List Char}
    (hname : IsReportable name) (hname' : IsReportable name') (hclosing : MaybeQuote closing)
    (hclosing' : MaybeQuote closing') (h : front ++ name ++ closing = front' ++ name' ++ closing') :
    closing = closing' := by
  have hlast {front name : List Char} (hname : IsReportable name) (rest : List Char)
      (h : front ++ name = rest ++ ['"']) : False := by
    obtain ⟨most, c, rfl⟩ := List.eq_nil_or_concat name |>.resolve_left hname.notEmpty
    rw [List.concat_eq_append, ← List.append_assoc] at h
    obtain ⟨-, hc⟩ := List.append_inj' h rfl
    cases hc
    exact (hname.chars '"' (by simp)).2.2 rfl
  rcases hclosing with rfl | rfl <;> rcases hclosing' with rfl | rfl
  · rfl
  · rw [List.append_nil] at h
    exact (hlast hname _ h).elim
  · rw [List.append_nil] at h
    exact (hlast hname' _ h.symm).elim
  · rfl

theorem Reports.unique {line name other : List Char} (h : Reports line name)
    (h' : Reports line other) : name = other := by
  obtain ⟨front, closing, phrase, rfl, hname, hclosing, hphrase, hfront⟩ := h.ends
  obtain ⟨front', closing', phrase', hline, hother, hclosing', hphrase', hfront'⟩ := h'.ends
  -- Both phrases end the line, and none of them ends another.
  have hphrases : phrase = phrase' := by
    have hsuffix : phrase <:+ front ++ name ++ closing ++ phrase := List.suffix_append ..
    have hsuffix' : phrase' <:+ front ++ name ++ closing ++ phrase := hline ▸ List.suffix_append ..
    rcases List.suffix_or_suffix_of_suffix hsuffix hsuffix' with hle | hle
    · exact phrase_of_suffix _ hphrase _ hphrase' hle
    · exact (phrase_of_suffix _ hphrase' _ hphrase hle).symm
  subst hphrases
  have hcut := List.append_cancel_right hline
  have hclosings := closing_unique hname hother hclosing hclosing' hcut
  subst hclosings
  exact eq_of_ends (isReportable_iff.mp hname).2 (isReportable_iff.mp hother).2 hfront hfront'
    (List.append_cancel_right hcut)

/-! ### What the expression takes -/

/-- A line can begin behind this character. -/
def StartsLine (last : Option Char) : Prop := last = none ∨ last = some '\n'

/-- A line can end before this text. -/
def EndsLine (rest : List Char) : Prop := rest.head? = none ∨ rest.head? = some '\n'

section
variable {last : Option Char} {word rest : List Char} {captures : List Capture}

theorem takes_reportedName {number : Nat} {as : List Regex}
    (hothers : (inTurn as).isQuiet = true) :
    (inTurn (reportedName number :: as)).Takes last word rest captures ↔ ∃ name back,
      word = name ++ back ∧ IsReportable name ∧
      (inTurn as).Takes (lastOf last name) back rest [] ∧
      captures = [⟨number, name ++ (back ++ rest), back ++ rest⟩] := by
  unfold reportedName
  rw [takes_inTurn_group rfl hothers]
  simp only [takes_atLeastOne, isReportable_iff, and_true]

theorem mem_absencePhrases {phrase : List Char} : phrase ∈ absencePhrases ↔ ∃ message,
    (message = "command not found".toList ∨
      message = "executable file not found in $PATH".toList) ∧
    phrase = ": ".toList ++ message := by
  simp only [absencePhrases, List.mem_cons, List.not_mem_nil, or_false]
  constructor
  · rintro (rfl | rfl)
    · exact ⟨_, .inl rfl, rfl⟩
    · exact ⟨_, .inr rfl, rfl⟩
  · rintro ⟨_, rfl | rfl, rfl⟩
    · exact .inl rfl
    · exact .inr rfl

theorem takes_byPhrase : absenceByPhrase.Takes last word rest captures ↔
    ∃ front opening name closing phrase blanks,
      word = front ++ opening ++ name ++ closing ++ phrase ++ blanks ∧
      (front = [] ∧ StartsLine last ∨ front = ": ".toList) ∧ MaybeQuote opening ∧
      IsReportable name ∧ MaybeQuote closing ∧ phrase ∈ absencePhrases ∧
      (∀ c ∈ blanks, isBlank c = true) ∧ EndsLine rest ∧
      captures = [⟨1, name ++ (closing ++ phrase ++ blanks ++ rest),
        closing ++ phrase ++ blanks ++ rest⟩] := by
  unfold absenceByPhrase optionalQuote
  simp (disch := decide) only [takes_inTurn_cons, takes_reportedName, takes_optional, Takes,
    takes_inTurn_nil, and_true]
  constructor
  · rintro ⟨front, _, rfl, hfront, opening, _, rfl, hopening, name, _, rfl, hname,
      ⟨closing, _, rfl, hclosing, _, _, rfl, rfl, message, _, rfl, hmessage, blanks, _, rfl,
        hblanks, _, _, rfl, ⟨rfl, hend⟩, rfl⟩, rfl⟩
    refine ⟨front, opening, name, closing, _, blanks, ?_, hfront, hopening.symm, hname,
      hclosing.symm, mem_absencePhrases.mpr ⟨message, hmessage, rfl⟩, hblanks, hend, ?_⟩
    · simp
    · simp
  · rintro ⟨front, opening, name, closing, _, blanks, rfl, hfront, hopening, hname, hclosing,
      hphrase, hblanks, hend, rfl⟩
    obtain ⟨message, hmessage, rfl⟩ := mem_absencePhrases.mp hphrase
    refine ⟨front, opening ++ name ++ closing ++ ": ".toList ++ message ++ blanks, ?_, hfront,
      opening, name ++ closing ++ ": ".toList ++ message ++ blanks, ?_, hopening.symm,
      name, closing ++ ": ".toList ++ message ++ blanks, ?_, hname,
      ⟨closing, ": ".toList ++ message ++ blanks, ?_, hclosing.symm,
        ": ".toList, message ++ blanks, ?_, rfl, message, blanks, rfl, hmessage,
        blanks, [], ?_, hblanks, [], [], rfl, ⟨rfl, hend⟩, rfl⟩, ?_⟩
    all_goals simp

theorem takes_optionalDirectory {dir : List Char} :
    optionalDirectory.Takes last dir rest [] ↔
      dir = [] ∨ ['/'] <:+ dir ∧ ∀ c ∈ dir, isBlank c = false := by
  have hslash : isBlank '/' = false := by decide
  unfold optionalDirectory
  simp (disch := decide) only [takes_inTurn_cons, takes_optional, Takes, takes_inTurn_nil,
    and_true, Bool.not_eq_true']
  rw [or_comm]
  refine or_congr_right ?_
  constructor
  · rintro ⟨front, _, rfl, hfront, _, _, rfl, rfl, rfl⟩
    refine ⟨⟨front, by simp⟩, ?_⟩
    simpa [or_imp, forall_and, hslash] using hfront
  · rintro ⟨⟨front, rfl⟩, hall⟩
    exact ⟨front, _, rfl, fun c hc => hall c (by simp [hc]), _, _, rfl, rfl, rfl⟩

theorem mem_shells {shell : List Char} : shell ∈ shells ↔ ∃ kind,
    ((kind = "ba".toList ∨ kind = "da".toList) ∨ kind = []) ∧ shell = kind ++ "sh".toList := by
  simp only [shells, List.mem_cons, List.not_mem_nil, or_false]
  constructor
  · rintro (rfl | rfl | rfl)
    · exact ⟨_, .inr rfl, rfl⟩
    · exact ⟨_, .inl (.inl rfl), rfl⟩
    · exact ⟨_, .inl (.inr rfl), rfl⟩
  · rintro ⟨_, (rfl | rfl) | rfl, rfl⟩
    · exact .inr (.inl rfl)
    · exact .inr (.inr rfl)
    · exact .inl rfl

theorem takes_byShell : absenceByShell.Takes last word rest captures ↔
    ∃ dir shell line number name blanks,
      word = dir ++ shell ++ ": ".toList ++ line ++ number ++ ": ".toList ++ name ++
        ": not found".toList ++ blanks ∧
      StartsLine last ∧ (dir = [] ∨ ['/'] <:+ dir ∧ ∀ c ∈ dir, isBlank c = false) ∧
      shell ∈ shells ∧ (line = [] ∨ line = "line ".toList) ∧ number ≠ [] ∧
      (∀ c ∈ number, isDigit c = true) ∧ IsReportable name ∧
      (∀ c ∈ blanks, isBlank c = true) ∧ EndsLine rest ∧
      captures = [⟨2, name ++ (": not found".toList ++ blanks ++ rest),
        ": not found".toList ++ blanks ++ rest⟩] := by
  unfold absenceByShell
  simp (disch := decide) only [takes_inTurn_cons, takes_reportedName, takes_optionalDirectory,
    takes_optional, takes_atLeastOne, Takes, takes_inTurn_nil, and_true]
  constructor
  · rintro ⟨_, _, rfl, ⟨rfl, hstart⟩, dir, _, rfl, hdir, kind, _, rfl, hkind, _, _, rfl, rfl, line,
      _, rfl, hline, number, _, rfl, ⟨hnumber, hdigits⟩, _, _, rfl, rfl, name, _, rfl, hname,
      ⟨_, _, rfl, rfl, blanks, _, rfl, hblanks, _, _, rfl, ⟨rfl, hend⟩, rfl⟩, rfl⟩
    refine ⟨dir, _, line, number, name, blanks, ?_, hstart, hdir,
      mem_shells.mpr ⟨kind, hkind, rfl⟩, hline.symm, hnumber, hdigits, hname, hblanks, hend, ?_⟩
    · simp
    · simp
  · rintro ⟨dir, _, line, number, name, blanks, rfl, hstart, hdir, hshell, hline, hnumber, hdigits,
      hname, hblanks, hend, rfl⟩
    obtain ⟨kind, hkind, rfl⟩ := mem_shells.mp hshell
    refine ⟨[], _, rfl, ⟨rfl, hstart⟩, dir, _, ?_, hdir, kind, "sh: ".toList ++ _, rfl, hkind,
      "sh: ".toList, _, rfl, rfl, line, _, rfl, hline.symm, number, _, rfl, ⟨hnumber, hdigits⟩,
      ": ".toList, _, rfl, rfl, name, ": not found".toList ++ blanks, rfl, hname,
      ⟨": not found".toList, blanks, rfl, rfl, blanks, [], ?_, hblanks, [], [], rfl, ⟨rfl, hend⟩,
        rfl⟩, ?_⟩
    all_goals simp

end

/-! ### Matches on a line -/

theorem phrase_solid : ∀ phrase ∈ ": not found".toList :: absencePhrases,
    ∃ most c, phrase = most ++ [c] ∧ isBlank c = false ∧ '\n' ∉ phrase := by
  intro phrase hphrase
  simp only [absencePhrases, List.mem_cons, List.not_mem_nil, or_false] at hphrase
  rcases hphrase with rfl | rfl | rfl
  · exact ⟨": not foun".toList, 'd', by decide⟩
  · exact ⟨": command not foun".toList, 'd', by decide⟩
  · exact ⟨": executable file not found in $PAT".toList, 'H', by decide⟩

/-- No report ends in a blank. -/
theorem Reports.trimEnd_eq {line name : List Char} (h : Reports line name) :
    trimEnd line = line := by
  obtain ⟨front, closing, phrase, rfl, -, -, hphrase, -⟩ := h.ends
  obtain ⟨most, c, rfl, hc, -⟩ := phrase_solid phrase hphrase
  rw [← List.append_assoc, trimEnd_concat hc]

theorem eq_nil_of_startsLine {last : Option Char} {before : List Char}
    (h : StartsLine (lastOf last before)) (hline : '\n' ∉ before) : before = [] := by
  obtain rfl | ⟨most, c, rfl⟩ := List.eq_nil_or_concat before
  · rfl
  · have hlast : lastOf last (most.concat c) = some c := by simp [lastOf]
    rw [hlast] at h
    rcases h with h | h
    · cases h
    · cases h
      exact absurd (by simp) hline

theorem reported?_of_captures {s : Spot} {number : Nat} {name behind : List Char}
    (hnumber : number = 1 ∨ number = 2)
    (h : s.captures = [⟨number, name ++ behind, behind⟩]) : s.reported? = some name := by
  rcases hnumber with rfl | rfl <;> simp [Spot.reported?, Spot.group?, h, Capture.text_mk]

theorem IsReportable.noFeed {name : List Char} (h : IsReportable name) : '\n' ∉ name :=
  fun hmem => absurd (h.chars _ hmem).1 (by decide)

/-- What the expression takes is a report with what stands before it on its line, and blanks. -/
theorem reports_of_takes {last : Option Char} {before word rest : List Char}
    {captures : List Capture} (hbefore : '\n' ∉ before)
    (h : absence.Takes (lastOf last before) word rest captures) :
    ∃ name report blanks number behind, word = report ++ blanks ∧ '\n' ∉ report ∧
      (∀ c ∈ blanks, isBlank c = true) ∧ EndsLine rest ∧ Reports (before ++ report) name ∧
      (number = 1 ∨ number = 2) ∧ captures = [⟨number, name ++ behind, behind⟩] := by
  rcases h with h | h
  · obtain ⟨front, opening, name, closing, phrase, blanks, rfl, hfront, hopening, hname, hclosing,
      hphrase, hblanks, hend, rfl⟩ := takes_byPhrase.mp h
    refine ⟨name, _, blanks, 1, _, rfl, ?_, hblanks, hend, ?_, .inl rfl, rfl⟩
    · obtain ⟨-, -, -, -, hsolid⟩ := phrase_solid phrase (List.mem_cons_of_mem _ hphrase)
      have hfeed := hname.noFeed
      rcases hfront with ⟨rfl, -⟩ | rfl <;> rcases hopening with rfl | rfl <;>
        rcases hclosing with rfl | rfl <;> simp [hfeed, hsolid]
    · have hreport : Reports ((before ++ front) ++ opening ++ name ++ closing ++ phrase) name := by
        refine .byPhrase ?_ hopening hname hclosing hphrase
        rcases hfront with ⟨rfl, hstart⟩ | rfl
        · exact .inl (by rw [eq_nil_of_startsLine hstart hbefore, List.append_nil])
        · exact .inr (List.suffix_append ..)
      simpa using hreport
  · obtain ⟨dir, shell, line, number, name, blanks, rfl, hstart, hdir, hshell, hline, hnumber,
      hdigits, hname, hblanks, hend, rfl⟩ := takes_byShell.mp h
    cases eq_nil_of_startsLine hstart hbefore
    refine ⟨name, _, blanks, 2, _, rfl, ?_, hblanks, hend,
      .byShell hdir hshell hline hnumber hdigits hname, .inr rfl, rfl⟩
    have hdirFeed : '\n' ∉ dir := by
      rcases hdir with rfl | ⟨-, hsolid⟩
      · simp
      · exact fun hmem => absurd (hsolid _ hmem) (by decide)
    have hshellFeed : '\n' ∉ shell := by
      simp only [shells, List.mem_cons, List.not_mem_nil, or_false] at hshell
      rcases hshell with rfl | rfl | rfl <;> decide
    have hnumberFeed : '\n' ∉ number := fun hmem => absurd (hdigits _ hmem) (by decide)
    rcases hline with rfl | rfl <;> simp [hdirFeed, hshellFeed, hnumberFeed, hname.noFeed]

/-- What is taken on a line, and holds no line feed, ends on the line. -/
theorem front_of_line {line tail front more : List Char} (htail : EndsLine tail)
    (hfront : '\n' ∉ front) (h : line ++ tail = front ++ more) :
    ∃ back, line = front ++ back ∧ more = back ++ tail := by
  obtain ⟨beyond, hover, rfl⟩ | ⟨back, hback, hmore⟩ := List.append_eq_append_iff.mp h
  · cases beyond with
    | nil => exact ⟨[], by simpa using hover.symm, rfl⟩
    | cons c beyond =>
        rcases htail with htail | htail
        · cases htail
        · cases htail
          exact absurd (by simp [hover]) hfront
  · exact ⟨back, hback, hmore⟩

/-- Blanks that go on to the end of some line are blanks to the end of this one. -/
theorem blanks_of_line {back tail blanks rest : List Char} (hback : '\n' ∉ back)
    (hrest : EndsLine rest) (hblanks : ∀ c ∈ blanks, isBlank c = true)
    (h : blanks ++ rest = back ++ tail) : ∀ c ∈ back, isBlank c = true := by
  obtain ⟨beyond, rfl, hover⟩ | ⟨more, rfl, -⟩ := List.append_eq_append_iff.mp h
  · cases beyond with
    | nil => simpa using hblanks
    | cons c beyond =>
        rw [hover] at hrest
        rcases hrest with hrest | hrest
        · cases hrest
        · cases hrest
          exact absurd (by simp) hback
  · exact fun c hc => hblanks c (by simp [hc])

/-- A match on a line remembers a name that the line reports. -/
theorem reports_of_places {last : Option Char} {before after tail : List Char} {s : Spot}
    (hline : '\n' ∉ before ++ after) (htail : EndsLine tail)
    (h : s ∈ absence.places ⟨lastOf last before, after ++ tail, []⟩) :
    ∃ name, s.reported? = some name ∧ Reports (trimEnd (before ++ after)) name := by
  obtain ⟨word, captures, hrest, htakes, -, hcaptures⟩ := mem_places.mp h
  rw [List.mem_append, not_or] at hline
  obtain ⟨name, report, blanks, number, behind, rfl, hreport, hblanks, hend, hreports, hnumber,
    rfl⟩ := reports_of_takes hline.1 htakes
  rw [List.append_assoc] at hrest
  -- The report is on the line. Its blanks may go on over other lines, so only what is left of this
  -- one is known to be blank.
  obtain ⟨back, rfl, hback⟩ := front_of_line htail hreport hrest
  have hall : ∀ c ∈ back, isBlank c = true :=
    blanks_of_line (fun hmem => hline.2 (by simp [hmem])) hend hblanks hback
  refine ⟨name, reported?_of_captures hnumber hcaptures, ?_⟩
  rw [← List.append_assoc, trimEnd_append_blanks hall, hreports.trimEnd_eq]
  exact hreports

/-- A line that reports a name has a match. -/
theorem places_of_reports {last : Option Char} {line tail name : List Char}
    (hstart : StartsLine last) (htail : EndsLine tail) (h : Reports (trimEnd line) name) :
    ∃ before after, line = before ++ after ∧
      absence.places ⟨lastOf last before, after ++ tail, []⟩ ≠ [] := by
  have hplaces {before after : List Char} {captures : List Capture}
      (htakes : absence.Takes (lastOf last before) after tail captures) :
      absence.places ⟨lastOf last before, after ++ tail, []⟩ ≠ [] := by
    have hmem : ⟨lastOf (lastOf last before) after, tail, captures⟩ ∈
        absence.places ⟨lastOf last before, after ++ tail, []⟩ :=
      mem_places.mpr ⟨after, captures, rfl, htakes, rfl, by simp⟩
    exact List.ne_nil_of_mem hmem
  obtain ⟨blanks, hline, hblanks⟩ := trimEnd_blanks line
  generalize trimEnd line = solid at h hline
  subst hline
  cases h with
  | @byPhrase front opening name closing phrase hfront hopening hname hclosing hphrase =>
      rcases hfront with rfl | ⟨before, rfl⟩
      · exact ⟨[], _, rfl, hplaces (.inl (takes_byPhrase.mpr ⟨[], opening, name, closing, phrase,
          blanks, rfl, .inl ⟨rfl, hstart⟩, hopening, hname, hclosing, hphrase, hblanks, htail,
          rfl⟩))⟩
      · refine ⟨before, _, ?_, hplaces (.inl (takes_byPhrase.mpr ⟨_, opening, name, closing, phrase,
          blanks, rfl, .inr rfl, hopening, hname, hclosing, hphrase, hblanks, htail, rfl⟩))⟩
        simp
  | @byShell dir shell word number name hdir hshell hword hnumber hdigits hname =>
      exact ⟨[], _, rfl, hplaces (.inr (takes_byShell.mpr ⟨dir, shell, word, number, name, blanks,
        rfl, hstart, hdir, hshell, hword, hnumber, hdigits, hname, hblanks, htail, rfl⟩))⟩

/-! ### Searching line by line -/

theorem not_firstReport_nil {name : List Char} : ¬FirstReport [] name := by
  rintro ⟨before, line, after, hlines, -⟩
  simp at hlines

theorem firstReport_of_reports {line name : List Char} (lines : List (List Char))
    (h : Reports (trimEnd line) name) (other : List Char) :
    FirstReport (line :: lines) other ↔ name = other := by
  constructor
  · rintro ⟨before, found, after, hlines, hfound, hbefore⟩
    cases before with
    | nil =>
        cases hlines
        exact h.unique hfound
    | cons first before =>
        cases hlines
        exact absurd h (hbefore line List.mem_cons_self name)
  · rintro rfl
    exact ⟨[], line, lines, rfl, h, by simp⟩

theorem firstReport_of_silent {line : List Char} (lines : List (List Char))
    (h : ∀ name, ¬Reports (trimEnd line) name) (other : List Char) :
    FirstReport (line :: lines) other ↔ FirstReport lines other := by
  constructor
  · rintro ⟨before, found, after, hlines, hfound, hbefore⟩
    cases before with
    | nil =>
        cases hlines
        exact absurd hfound (h other)
    | cons first before =>
        cases hlines
        exact ⟨before, found, after, rfl, hfound, fun earlier hmem =>
          hbefore earlier (List.mem_cons_of_mem _ hmem)⟩
  · rintro ⟨before, found, after, rfl, hfound, hbefore⟩
    exact ⟨line :: before, found, after, rfl, hfound, List.forall_mem_cons.mpr ⟨h, hbefore⟩⟩

section
variable {last : Option Char} {line tail : List Char}

/-- The first match on a line that reports a name remembers this name. -/
theorem found_of_reports {name : List Char} (hstart : StartsLine last) (hline : '\n' ∉ line)
    (htail : EndsLine tail) (h : Reports (trimEnd line) name) :
    (absence.findFrom last (line ++ tail)).bind (·.reported?) = some name := by
  obtain ⟨before, after, rfl, hplaces⟩ := places_of_reports hstart htail h
  obtain ⟨front, back, s, rfl, hs, hfind⟩ := findFrom_of_places hplaces
  rw [List.append_assoc] at h hline
  rw [← List.append_assoc] at hs
  obtain ⟨other, hother, hreports⟩ := reports_of_places hline htail hs
  rw [List.append_assoc, hfind, h.unique hreports]
  exact hother

theorem places_of_silent (hline : '\n' ∉ line) (htail : EndsLine tail)
    (h : ∀ name, ¬Reports (trimEnd line) name) {before after : List Char}
    (hsplit : line = before ++ after) :
    absence.places ⟨lastOf last before, after ++ tail, []⟩ = [] := by
  refine List.eq_nil_iff_forall_not_mem.mpr fun s hs => ?_
  subst hsplit
  obtain ⟨name, -, hreports⟩ := reports_of_places hline htail hs
  exact h name hreports

/-- The search goes past a line that reports nothing, and past the line feed behind it. -/
theorem findFrom_of_silent (hline : '\n' ∉ line) (h : ∀ name, ¬Reports (trimEnd line) name)
    (more : List Char) :
    absence.findFrom last (line ++ '\n' :: more) = absence.findFrom (some '\n') more := by
  have hlast : lastOf last (line ++ ['\n']) = some '\n' := by simp [lastOf]
  have hsplit : line ++ '\n' :: more = (line ++ ['\n']) ++ more := by simp
  rw [hsplit, findFrom_append, hlast]
  intro front back hcut hne
  obtain ⟨after, c, rfl⟩ := (List.eq_nil_or_concat back).resolve_left hne
  rw [List.concat_eq_append, ← List.append_assoc] at hcut
  obtain ⟨hfront, hc⟩ := List.append_inj' hcut rfl
  cases hc
  rw [List.concat_eq_append, List.append_assoc]
  exact places_of_silent hline (.inr rfl) h hfront

theorem findFrom_last_of_silent (hline : '\n' ∉ line) (h : ∀ name, ¬Reports (trimEnd line) name) :
    absence.findFrom last line = none := by
  have hsilent {before after : List Char} (hsplit : line = before ++ after) :
      absence.places ⟨lastOf last before, after ++ [], []⟩ = [] :=
    places_of_silent hline (.inl rfl) h hsplit
  have hend := hsilent (List.append_nil line).symm
  have hpast := findFrom_append fun front back hsplit _ => hsilent hsplit
  rw [List.append_nil] at hpast hend
  rw [hpast, findFrom.eq_def, hend]

end

/-- The first match in lines remembers the first name that they report. -/
theorem found_iff_firstReport {lines : List (List Char)} (hne : lines ≠ [])
    (hlines : ∀ line ∈ lines, '\n' ∉ line) {last : Option Char} (hstart : StartsLine last)
    (name : List Char) :
    (absence.findFrom last (join '\n' lines)).bind (·.reported?) = some name ↔
      FirstReport lines name := by
  induction lines generalizing last with
  | nil => exact absurd rfl hne
  | cons line lines ih =>
      obtain ⟨hline, hrest⟩ := List.forall_mem_cons.mp hlines
      have htext : ∃ tail, join '\n' (line :: lines) = line ++ tail ∧ EndsLine tail := by
        cases lines with
        | nil => exact ⟨[], by simp [join], .inl rfl⟩
        | cons next lines => exact ⟨_, rfl, .inr rfl⟩
      -- The search stops on a line that reports a name, and passes any other with its line feed.
      by_cases hreports : ∃ other, Reports (trimEnd line) other
      · obtain ⟨other, hother⟩ := hreports
        obtain ⟨tail, htext, htail⟩ := htext
        rw [htext, found_of_reports hstart hline htail hother,
          firstReport_of_reports lines hother name, Option.some_inj]
      · rw [not_exists] at hreports
        rw [firstReport_of_silent lines hreports name]
        cases lines with
        | nil =>
            simp only [join, findFrom_last_of_silent hline hreports]
            constructor
            · rintro ⟨⟩
            · intro h
              exact absurd h not_firstReport_nil
        | cons next lines =>
            rw [← ih (by simp) hrest (.inr rfl)]
            simp only [join, findFrom_of_silent hline hreports]

theorem missingBinary_eq_some {output binary : String} : missingBinary output = some binary ↔
    FirstReport (split '\n' output.toList) binary.toList := by
  have hfound := found_iff_firstReport (split_ne_nil '\n' output.toList)
    (fun _ => not_mem_of_mem_split) (.inl rfl) binary.toList
  rw [join_split] at hfound
  rw [← hfound, missingBinary, find?, Option.map_eq_some_iff]
  constructor
  · rintro ⟨name, hname, rfl⟩
    rw [hname, String.toList_ofList]
  · intro hname
    exact ⟨_, hname, String.ofList_toList⟩

/-- Some line reports a name exactly if one is the first to do so. -/
theorem exists_firstReport {lines : List (List Char)} :
    (∃ name, FirstReport lines name) ↔ ∃ line ∈ lines, ∃ name, Reports (trimEnd line) name := by
  constructor
  · rintro ⟨name, before, line, after, rfl, hreports, -⟩
    exact ⟨line, by simp, name, hreports⟩
  · intro h
    induction lines with
    | nil => simp at h
    | cons line lines ih =>
        by_cases hreports : ∃ other, Reports (trimEnd line) other
        · obtain ⟨other, hother⟩ := hreports
          exact ⟨other, (firstReport_of_reports lines hother other).mpr rfl⟩
        · obtain ⟨found, hfound, name, hname⟩ := h
          rcases List.mem_cons.mp hfound with rfl | hmem
          · exact absurd ⟨name, hname⟩ hreports
          · obtain ⟨first, hfirst⟩ := ih ⟨found, hmem, name, hname⟩
            exact ⟨first, (firstReport_of_silent lines (not_exists.mp hreports) first).mpr hfirst⟩

/-- The program said to be missing is the one that the first reporting line names; a line reports no
two names. An unsuccessful exit is diagnosed as a missing program exactly if a line of its combined
output reports one, and else stays what it is. -/
theorem missing_by_lines (output : String) :
    (∀ binary, missingBinary output = some binary ↔
      FirstReport (split '\n' output.toList) binary.toList) ∧
    (∀ line name other, Reports line name → Reports line other → name = other) ∧
    ∀ invokedBy program code,
      let diagnosed := diagnose invokedBy (.exit ⟨program, code, output⟩)
      (∀ binary, diagnosed = .binaryNotFound binary invokedBy ↔
        FirstReport (split '\n' output.toList) binary.toList) ∧
      ((∃ binary starter, diagnosed = .binaryNotFound binary starter) ↔
        ∃ line ∈ split '\n' output.toList, ∃ name, Reports (trimEnd line) name) ∧
      (diagnosed = .exit ⟨program, code, output⟩ ↔
        ¬∃ line ∈ split '\n' output.toList, ∃ name, Reports (trimEnd line) name) := by
  have hfirst (binary : String) : missingBinary output = some binary ↔
      FirstReport (split '\n' output.toList) binary.toList := missingBinary_eq_some
  refine ⟨hfirst, fun _ _ _ => Reports.unique, ?_⟩
  intro invokedBy program code diagnosed
  have hsome : (∃ line ∈ split '\n' output.toList, ∃ name, Reports (trimEnd line) name) ↔
      ∃ binary, missingBinary output = some binary := by
    rw [← exists_firstReport]
    constructor
    · rintro ⟨name, hname⟩
      exact ⟨.ofList name, (hfirst _).mpr (by rwa [String.toList_ofList])⟩
    · rintro ⟨binary, hbinary⟩
      exact ⟨_, (hfirst binary).mp hbinary⟩
  rw [hsome]
  simp only [← hfirst, diagnosed, diagnose]
  cases missingBinary output with
  | none => simp
  | some binary => simp

/-- A tool that ends its own error like a shell, a shell with a blank at the end of its report, and
another report. -/
def toolAndShells : String :=
  "Error: foo: release: not found\nsh: 1: helmx: not found \nbash: kubectl: command not found\n"

theorem helmx_by_lines :
    FirstReport (split '\n' toolAndShells.toList) "helmx".toList ∧
    (∀ name, Reports "sh: 1: helmx: not found".toList name → name = "helmx".toList) ∧
    diagnose "helm" (.exit ⟨"sh", some 127, toolAndShells⟩) = .binaryNotFound "helmx" "helm" := by
  have hfound : missingBinary toolAndShells = some "helmx" := by decide +kernel
  have hname : IsReportable "helmx".toList :=
    isReportable_iff.mpr ⟨by decide, List.all_eq_true.mp rfl⟩
  have hreports : Reports "sh: 1: helmx: not found".toList "helmx".toList :=
    @Reports.byShell [] "sh".toList [] ['1'] "helmx".toList (.inl rfl) (by decide) (.inl rfl)
      (by decide) (List.all_eq_true.mp rfl) hname
  obtain ⟨hfirst, hunique, hdiagnosed⟩ := missing_by_lines toolAndShells
  have hline := (hfirst "helmx").mp hfound
  exact ⟨hline, fun name h => hunique _ _ _ h hreports,
    ((hdiagnosed "helm" "sh" (some 127)).1 "helmx").mpr hline⟩

end Pipeline
