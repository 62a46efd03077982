import Std.Data.String.ToInt
import Pipeline.Run.Error
import Pipeline.Proofs.Machine.Path
import Pipeline.Proofs.Text.Quoted

/-!
# Reading the report of a failed command

The report of a command that exited with a failure is for programs as well: one line has the exit
code behind a tag, and what is behind the other tag is the output, to the end of the text. A step
may have any name and a command any output, so either may imitate the tags. The name is quoted and
stays on the first line (`newline_not_mem_quoted`), which starts with no tag, and the output comes
last. So the first line with a tag is the right one (`exit_report_scraped`).
-/

namespace Pipeline
open Text

/-! ### Lines with tags -/

/-- What is behind the tag on the first line that starts with it, and the lines below. -/
def tagged? (tag : List Char) : List (List Char) → Option (List Char × List (List Char))
  | [] => none
  | line :: lines => match line.dropPrefix? tag with
    | some rest => some (rest, lines)
    | none => tagged? tag lines

theorem dropPrefix?_eq_none_iff {tag line : List Char} :
    line.dropPrefix? tag = none ↔ ¬tag <+: line := by
  rw [Option.eq_none_iff_forall_ne_some]
  constructor
  · rintro hnone ⟨rest, rfl⟩
    exact hnone rest (List.dropPrefix?_eq_some_iff.mpr ⟨tag, rfl, by simp⟩)
  · rintro htag rest hrest
    obtain ⟨front, rfl, hfront⟩ := List.dropPrefix?_eq_some_iff.mp hrest
    rw [eq_of_beq hfront] at htag
    exact htag ⟨rest, rfl⟩

theorem tagged?_self (tag rest : List Char) (lines : List (List Char)) :
    tagged? tag ((tag ++ rest) :: lines) = some (rest, lines) := by
  have hdrop : (tag ++ rest).dropPrefix? tag = some rest :=
    List.dropPrefix?_eq_some_iff.mpr ⟨tag, rfl, by simp⟩
  rw [tagged?, hdrop]

theorem tagged?_cons {tag line : List Char} (h : ¬tag <+: line) (lines : List (List Char)) :
    tagged? tag (line :: lines) = tagged? tag lines := by
  rw [tagged?, dropPrefix?_eq_none_iff.mpr h]

/-- The line that is found starts with the tag, and no line above it does. -/
theorem tagged?_eq_some_iff {tag rest : List Char} {lines below : List (List Char)} :
    tagged? tag lines = some (rest, below) ↔
      ∃ above, lines = above ++ (tag ++ rest) :: below ∧ ∀ line ∈ above, ¬tag <+: line := by
  induction lines with
  | nil => simp [tagged?]
  | cons line lines ih =>
      by_cases htag : tag <+: line
      · obtain ⟨behind, rfl⟩ := htag
        rw [tagged?_self]
        constructor
        · intro hfound
          cases hfound
          exact ⟨[], rfl, by simp⟩
        · rintro ⟨above, hlines, habove⟩
          cases above with
          | nil => simp_all
          | cons first above =>
              cases hlines
              exact absurd (List.prefix_append tag behind) (habove _ List.mem_cons_self)
      · rw [tagged?_cons htag, ih]
        constructor
        · rintro ⟨above, rfl, habove⟩
          exact ⟨line :: above, rfl, List.forall_mem_cons.mpr ⟨htag, habove⟩⟩
        · rintro ⟨above, hlines, habove⟩
          cases above with
          | nil =>
              cases hlines
              exact absurd (List.prefix_append tag rest) htag
          | cons first above =>
              cases hlines
              exact ⟨above, rfl, fun line hline => habove line (List.mem_cons_of_mem _ hline)⟩

def exitCodeTag : String := logTag ++ " exit code: "

def outputTag : String := logTag ++ " combined output: "

/-- The number behind the tag of the exit code, on the first line that starts with this tag. -/
def scrapedCode? (text : String) : Option Int :=
  (tagged? exitCodeTag.toList (split '\n' text.toList)).bind fun (rest, _) =>
    (String.ofList rest).toInt?

/-- All that is behind the tag of the output, from the first line that starts with this tag. -/
def scrapedOutput? (text : String) : Option String :=
  (tagged? outputTag.toList (split '\n' text.toList)).map fun (rest, below) =>
    .ofList (join '\n' (rest :: below))

/-! ### Texts on one line -/

theorem newline_not_mem_quoted (text : String) : '\n' ∉ (quoted text).toList := by
  intro hmem
  rw [toList_quoted] at hmem
  exact absurd (isHidden_of_mem_quoteChars hmem) (by decide)

theorem newline_not_mem_decimal (n : Int) : '\n' ∉ (toString n).toList := by
  have hdigits (m : Nat) : '\n' ∉ m.repr.toList := by
    intro hmem
    rw [Nat.toList_repr] at hmem
    exact absurd (Nat.isDigit_of_mem_toDigits (by decide) (by decide) hmem) (by decide)
  cases n with
  | ofNat m => exact hdigits m
  | negSucc m =>
      have hminus : (toString (Int.negSucc m)).toList = '-' :: m.succ.repr.toList :=
        String.toList_append
      rw [hminus, List.mem_cons, not_or]
      exact ⟨by decide, hdigits m.succ⟩

theorem newline_not_mem_tagged (code : Int) : '\n' ∉ (exitCodeTag ++ toString code).toList := by
  rw [String.toList_append, List.mem_append, not_or]
  exact ⟨by decide, newline_not_mem_decimal code⟩

theorem split_line {line : List Char} (h : '\n' ∉ line) (rest : List Char) :
    split '\n' (line ++ '\n' :: rest) = line :: split '\n' rest := by
  rw [split_append, split_of_not_mem h]
  rfl

/-- What is written in front of a text is written in front of its first line. -/
theorem split_front {front : List Char} (h : '\n' ∉ front) (rest : List Char) :
    ∃ line below, split '\n' rest = line :: below ∧
      split '\n' (front ++ rest) = (front ++ line) :: below := by
  induction front with
  | nil =>
      obtain ⟨line, below, hlines⟩ := List.exists_cons_of_ne_nil (split_ne_nil '\n' rest)
      exact ⟨line, below, hlines, hlines⟩
  | cons c front ih =>
      rw [List.mem_cons, not_or] at h
      obtain ⟨line, below, hlines, hfront⟩ := ih h.2
      refine ⟨line, below, hlines, ?_⟩
      rw [List.cons_append, split_cons_of_ne (Ne.symm h.1), hfront]
      rfl

/-! ### The report -/

/-- The first line of the report: which step failed, and in which program. -/
def exitHeading (step program : String) : String :=
  "step " ++ quoted step ++ ": " ++ program ++ " exited unsuccessfully"

theorem newline_not_mem_exitHeading (step : String) {program : String}
    (h : '\n' ∉ program.toList) : '\n' ∉ (exitHeading step program).toList := by
  have hquoted := newline_not_mem_quoted step
  simp only [exitHeading, String.toList_append, List.mem_append]
  rintro ((((hmem | hmem) | hmem) | hmem) | hmem)
  · exact absurd hmem (by decide)
  · exact hquoted hmem
  · exact absurd hmem (by decide)
  · exact h hmem
  · exact absurd hmem (by decide)

/-- The heading starts with a letter that no tag starts with. -/
theorem not_prefix_exitHeading (step program : String) :
    ¬logTag.toList <+: (exitHeading step program).toList := by
  have hhead : ∃ more, (exitHeading step program).toList = 's' :: more := by
    simp only [exitHeading, String.toList_append, List.append_assoc]
    exact ⟨_, rfl⟩
  obtain ⟨more, hmore⟩ := hhead
  rw [hmore]
  exact fun h => absurd (List.cons_prefix_cons.mp h).1 (by decide)

/-- A heading, with the exit code and the output behind their tags below it. -/
def exitReport (heading : String) (code : Int) (output : String) : String :=
  heading ++ "\n" ++ (exitCodeTag ++ toString code) ++ "\n" ++ (outputTag ++ output)

theorem exit_message (step : String) (e : ExitError) :
    (RunError.execution step (.exit e)).message =
      exitReport (exitHeading step e.program) (e.code.getD (-1)) e.combinedOutput := by
  have hbreak : " exited unsuccessfully\n" = " exited unsuccessfully" ++ "\n" := by simp
  unfold RunError.message TargetError.message ExitError.message exitReport exitHeading exitCodeTag
    outputTag
  rw [hbreak]
  simp only [String.append_assoc]

theorem exitCodeTag_tagged : logTag.toList <+: exitCodeTag.toList := by decide

theorem outputTag_tagged : logTag.toList <+: outputTag.toList := by decide

/-- No line starts with both tags. -/
theorem not_outputTag_prefix (rest : List Char) :
    ¬outputTag.toList <+: exitCodeTag.toList ++ rest := by
  intro h
  have hboth : exitCodeTag.toList <+: outputTag.toList :=
    List.prefix_of_prefix_length_le (List.prefix_append _ rest) h (by decide)
  exact absurd hboth (by decide)

section
variable {heading : String} (hline : '\n' ∉ heading.toList) (code : Int) (output : String)
include hline

/-- The lines of a report are two and those of the output, the first of these with a tag. -/
theorem split_exitReport : ∃ line below, split '\n' output.toList = line :: below ∧
    split '\n' (exitReport heading code output).toList = heading.toList ::
      (exitCodeTag.toList ++ (toString code).toList) :: (outputTag.toList ++ line) :: below := by
  obtain ⟨line, below, hlines, hfront⟩ :=
    split_front (by decide : '\n' ∉ outputTag.toList) output.toList
  have htext : (exitReport heading code output).toList =
      heading.toList ++ '\n' :: (exitCodeTag ++ toString code).toList ++
        '\n' :: (outputTag.toList ++ output.toList) := by
    simp [exitReport]
  refine ⟨line, below, hlines, ?_⟩
  rw [htext, List.append_assoc, List.cons_append, split_line hline,
    split_line (newline_not_mem_tagged code), hfront, String.toList_append]

variable (htag : ¬logTag.toList <+: heading.toList)
include htag

theorem scrapedCode?_exitReport : scrapedCode? (exitReport heading code output) = some code := by
  have hnone : ¬exitCodeTag.toList <+: heading.toList := fun h => htag (exitCodeTag_tagged.trans h)
  obtain ⟨line, below, -, hsplit⟩ := split_exitReport hline code output
  have hfound : tagged? exitCodeTag.toList (split '\n' (exitReport heading code output).toList) =
      some ((toString code).toList, (outputTag.toList ++ line) :: below) := by
    rw [hsplit]
    exact tagged?_eq_some_iff.mpr ⟨[heading.toList], rfl, by simpa using hnone⟩
  unfold scrapedCode?
  rw [hfound]
  simp only [Option.bind_some, String.ofList_toList]
  exact Int.toInt?_repr code

theorem scrapedOutput?_exitReport :
    scrapedOutput? (exitReport heading code output) = some output := by
  have hnone : ¬outputTag.toList <+: heading.toList := fun h => htag (outputTag_tagged.trans h)
  have hother := not_outputTag_prefix (toString code).toList
  obtain ⟨line, below, hlines, hsplit⟩ := split_exitReport hline code output
  have hfound : tagged? outputTag.toList (split '\n' (exitReport heading code output).toList) =
      some (line, below) := by
    rw [hsplit]
    exact tagged?_eq_some_iff.mpr ⟨[heading.toList, _], rfl, by simpa using ⟨hnone, hother⟩⟩
  unfold scrapedOutput?
  rw [hfound]
  simp only [Option.map_some, ← hlines, join_split, String.ofList_toList]

end

/-- Whatever the name of the step and the output, the report of a failed exit has three parts: a
line that starts with no tag, a line with the tag of the exit code and nothing but the code behind
it, and the tag of the output with the output behind it, to the end. So the first line with the one
tag has the code, and what is behind the first of the other tag at the start of a line is the
output. -/
theorem exit_report_scraped (step : String) (e : ExitError) (hprogram : '\n' ∉ e.program.toList) :
    (∃ first, '\n' ∉ first.toList ∧ ¬"StepforgeInvocation".toList <+: first.toList ∧
      '\n' ∉ (toString (e.code.getD (-1))).toList ∧
      (RunError.execution step (.exit e)).message = first ++ "\n" ++
        ("StepforgeInvocation exit code: " ++ toString (e.code.getD (-1))) ++ "\n" ++
        ("StepforgeInvocation combined output: " ++ e.combinedOutput)) ∧
    scrapedCode? (RunError.execution step (.exit e)).message = some (e.code.getD (-1)) ∧
    scrapedOutput? (RunError.execution step (.exit e)).message = some e.combinedOutput := by
  have hline := newline_not_mem_exitHeading step hprogram
  have htag := not_prefix_exitHeading step e.program
  have hexit : exitCodeTag = "StepforgeInvocation exit code: " := by simp [exitCodeTag, logTag]
  have houtput : outputTag = "StepforgeInvocation combined output: " := by simp [outputTag, logTag]
  refine ⟨⟨exitHeading step e.program, hline, htag, newline_not_mem_decimal _, ?_⟩, ?_, ?_⟩
  · rw [exit_message, exitReport, hexit, houtput]
  · rw [exit_message]
    exact scrapedCode?_exitReport hline _ _ htag
  · rw [exit_message]
    exact scrapedOutput?_exitReport hline _ _ htag

/-- A step whose name imitates the line of the exit code. -/
def imitatingStep : String := "\"\nStepforgeInvocation exit code: 0\n"

/-- A command that was killed, with output that imitates both tags. -/
def killedExit : ExitError where
  program := "make"
  code := none
  combinedOutput :=
    "\nStepforgeInvocation exit code: 0\nStepforgeInvocation combined output: done\n"

theorem killedExit_scraped :
    '\n' ∉ killedExit.program.toList ∧
    (RunError.execution imitatingStep (.exit killedExit)).message =
      "step \"\\\"\\nStepforgeInvocation exit code: 0\\n\": make exited unsuccessfully\n" ++
        "StepforgeInvocation exit code: -1\n" ++
        "StepforgeInvocation combined output: \nStepforgeInvocation exit code: 0\n" ++
        "StepforgeInvocation combined output: done\n" ∧
    scrapedCode? (RunError.execution imitatingStep (.exit killedExit)).message = some (-1) ∧
    scrapedOutput? (RunError.execution imitatingStep (.exit killedExit)).message =
      some killedExit.combinedOutput := by
  have hprogram : '\n' ∉ killedExit.program.toList := by decide
  obtain ⟨-, hcode, houtput⟩ := exit_report_scraped imitatingStep killedExit hprogram
  exact ⟨hprogram, by decide +kernel, hcode, houtput⟩

end Pipeline
