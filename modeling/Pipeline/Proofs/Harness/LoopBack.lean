import Pipeline.Harness.Wrapper
import Pipeline.Proofs.Shell.Exec
import Pipeline.Proofs.Shell.Reading

/-!
# From a wrapper back to the harness

A wrapper is read as two commands. The first silences it; the second sets the variable that names
the program stood in for, and becomes the process that serves it. That process gets the arguments of
the wrapper after a separator, and takes them from behind the first separator, which is that one
unless the name of a test looks like it. So it stands in for the program with the very arguments
that the wrapper was called with (`LoopsBack`).
-/

namespace Pipeline
open Shell (Raw Dialect Word IsWord Spells)

namespace Wrapper

/-- What makes a test runner run one test only. -/
def runnerArgs : Option String → List String
  | some name => [name, "--exact"]
  | none => []

/-- The arguments of the process that a wrapper becomes, the name of its program first. -/
def serverArgs (selfExe : String) (testName : Option String) (args : List String) : List String :=
  selfExe :: runnerArgs testName ++ Launch.separator :: args

/-! ### The script -/

/-- The first command: the standard output is kept at a third descriptor, and silenced. -/
def silence : Shell.Command :=
  .simple 2 [] [[.plain "exec".toList]]
    [⟨some 3, .dupOutput, [.plain ['1']]⟩, ⟨some 1, .output, [.plain "/dev/null".toList]⟩]

def runnerWords : Option String → List Word
  | some name => [[.quoted (Raw.ofText name)], [.plain "--exact".toList]]
  | none => []

/-- The words that follow `exec`. -/
def callWords (selfExe : String) (testName : Option String) : List Word :=
  [.quoted (Raw.ofText selfExe)] ::
    (runnerWords testName ++ [[.plain ['-', '-']], [.param true "@" .plain [] []]])

def announcement (stubPath : String) : Shell.Assignment :=
  ⟨Launch.invocationVariable, false, [.quoted (Raw.ofText stubPath)]⟩

/-- The second command. -/
def call (stubPath selfExe : String) (testName : Option String) : Shell.Command :=
  .simple 3 [announcement stubPath] ([.plain "exec".toList] :: callWords selfExe testName) []

def runnerTexts : Option String → List Raw
  | some name => [Shell.quoteChars (Raw.ofText name), "--exact".toList]
  | none => []

/-- How the words after `exec` are written. -/
def callTexts (selfExe : String) (testName : Option String) : List Raw :=
  Shell.quoteChars (Raw.ofText selfExe) ::
    (runnerTexts testName ++ [['-', '-'], ['"', '$', '@', '"']])

def announced : Raw := "STEPFORGE_INVOCATION=".toList

section
variable {d : Dialect}

theorem isWord_quoted (text : Raw) : IsWord d (Shell.quoteChars text) [.quoted text] :=
  (Shell.spells_quoteChars text).isWord rfl

theorem isWord_plain {text : Raw} (hne : text ≠ [])
    (h : (text.all fun c => Shell.IsPlain c) = true)
    (hstart : (text.head?.any fun c => Shell.StartsWord c && !c.isDigit) = true) :
    IsWord d text [.plain text] :=
  (Shell.spells_plain hne h).isWord hstart

theorem isWord_arguments :
    IsWord d ['"', '$', '@', '"'] [.param true "@" .plain [] []] :=
  Shell.spells_arguments.isWord rfl

theorem callTexts_words (selfExe : String) (testName : Option String) :
    List.Forall₂ (IsWord d) (callTexts selfExe testName) (callWords selfExe testName) := by
  have hlast : List.Forall₂ (IsWord d) [['-', '-'], ['"', '$', '@', '"']]
      [[.plain ['-', '-']], [.param true "@" .plain [] []]] :=
    .cons (isWord_plain (by decide) rfl rfl) (.cons isWord_arguments .nil)
  refine .cons (isWord_quoted _) ?_
  cases testName with
  | none => exact hlast
  | some name =>
      exact .cons (isWord_quoted _) (.cons (isWord_plain (by decide) rfl rfl) hlast)

theorem isWord_announcement (stubPath : String) :
    IsWord d (announced ++ Shell.quoteChars (Raw.ofText stubPath))
      [.plain announced, .quoted (Raw.ofText stubPath)] := by
  have hfront : Spells d announced (Shell.addText false announced) :=
    Shell.spells_plain (by decide) rfl
  exact (hfront.append (Shell.spells_quoteChars (Raw.ofText stubPath))).isWord rfl

/-- The last line of a wrapper, as bytes. -/
theorem ofText_callLine (stubPath selfExe : String) (testName : Option String) :
    Raw.ofText (callLine stubPath selfExe testName) =
      announced ++ Shell.quoteChars (Raw.ofText stubPath) ++
        Shell.spaced ("exec".toList :: callTexts selfExe testName) := by
  have hannounced : Raw.ofText (Launch.invocationVariable ++ "=") = announced := rfl
  have hexec : Raw.ofText " exec " = ' ' :: "exec".toList ++ [' '] := rfl
  have hspace : Raw.ofText " " = [' '] := rfl
  have hexact : Raw.ofText " --exact " = ' ' :: "--exact".toList ++ [' '] := rfl
  have hseparator : Raw.ofText Launch.separator = ['-', '-'] := rfl
  have harguments : Raw.ofText " \"$@\"" = [' ', '"', '$', '@', '"'] := rfl
  unfold callLine
  simp only [Raw.ofText_append] at hannounced ⊢
  rw [hannounced, hexec, hspace, hseparator, harguments, Shell.ofText_quote, Shell.ofText_quote]
  cases testName with
  | none => simp [testFilter, Raw.ofText_nil, callTexts, runnerTexts, Shell.spaced]
  | some name =>
      simp [testFilter, Raw.ofText_append, Shell.ofText_quote, hexact, callTexts, runnerTexts,
        Shell.spaced]

/-! ### Reading it -/

theorem isWord_exec : IsWord d "exec".toList [.plain "exec".toList] :=
  isWord_plain (by decide) rfl rfl

/-- The line that silences the wrapper, taken apart as the reader takes it. -/
def silenceText (rest : Raw) : Raw :=
  "exec".toList ++ ' ' :: (['3'] ++ (">&".toList ++ (['1'] ++ ' ' ::
    (['1'] ++ (">".toList ++ ("/dev/null".toList ++ '\n' :: rest))))))

theorem startsSimple_silence (rest : Raw) : Shell.StartsSimple (silenceText rest) "exec" where
  starts := ⟨_, _, rfl, by decide⟩
  taken := rfl
  keyword := by decide
  name _ := ⟨'3', _, rfl, by decide⟩

theorem readRedirect_three {rest : Raw} (h : Shell.EndsWord rest) (line : Nat) :
    Shell.readRedirect d ⟨['3'] ++ (">&".toList ++ (['1'] ++ rest)), line⟩ =
      .ok (some ⟨some 3, .dupOutput, [.plain ['1']]⟩, ⟨rest, line⟩) := by
  have hone : Spells d ['1'] (Shell.addText false ['1']) :=
    Shell.spells_plain (by decide) rfl
  exact Shell.readRedirect_some (List.all_eq_true.mp rfl) (by decide) rfl rfl (by decide)
    ⟨'1', rest, rfl, by decide⟩ (hone.readWord h line)

theorem readRedirect_one {rest : Raw} (h : Shell.EndsWord rest) (line : Nat) :
    Shell.readRedirect d ⟨['1'] ++ (">".toList ++ ("/dev/null".toList ++ rest)), line⟩ =
      .ok (some ⟨some 1, .output, [.plain "/dev/null".toList]⟩, ⟨rest, line⟩) := by
  have hdevice : Spells d "/dev/null".toList (Shell.addText false "/dev/null".toList) :=
    Shell.spells_plain (by decide) rfl
  exact Shell.readRedirect_some (List.all_eq_true.mp rfl) (by decide) rfl rfl (by decide)
    ⟨'/', _, rfl, by decide⟩ (hdevice.readWord h line)

theorem readSimple_silence (fuel : Nat) (rest : Raw) :
    Shell.readSimple d 2 (fuel + 4) [] [] [] ⟨silenceText rest, 2⟩ =
      .ok (silence, ⟨'\n' :: rest, 2⟩) := by
  have hexecline : 2 + "exec".toList.count '\n' = 2 := rfl
  have hthree (after : Raw) : Shell.AtWord (['3'] ++ after) := ⟨'3', after, rfl, .inl (by decide)⟩
  have hone (after : Raw) : Shell.AtWord (['1'] ++ after) := ⟨'1', after, rfl, .inl (by decide)⟩
  unfold silenceText
  rw [Shell.readSimple_operand isWord_exec (Shell.endsWord_cons rfl) (.inr rfl), hexecline,
    Shell.readSimple_blank (hthree _),
    Shell.readSimple_redirect (hthree _) (readRedirect_three (Shell.endsWord_cons rfl) _),
    Shell.readSimple_blank (hone _),
    Shell.readSimple_redirect (hone _) (readRedirect_one (Shell.endsWord_cons rfl) _),
    Shell.readSimple_end (by simp)]
  rfl

theorem readLine_silence {comment : Raw} (h : '\n' ∉ comment) (rest : Raw) :
    Shell.readLine d ⟨'#' :: comment ++ '\n' :: silenceText rest, 1⟩ =
      .ok (some (.sequence [silence]), ⟨rest, 3⟩) := by
  have hskip (fuel : Nat) :
      Shell.Reader.skipLines (fuel + 1) ⟨'#' :: comment ++ '\n' :: silenceText rest, 1⟩ = _ :=
    Shell.skipLines_comment (c := 'e') h (by decide)
  exact Shell.readLine_simple hskip (startsSimple_silence rest) (readSimple_silence _ rest)

theorem readSimple_call (stubPath selfExe : String) (testName : Option String) :
    let text := announced ++ Shell.quoteChars (Raw.ofText stubPath) ++
      (Shell.spaced ("exec".toList :: callTexts selfExe testName) ++ ['\n'])
    ∃ line, Shell.readSimple d 3 (4 * text.length + 8) [] [] [] ⟨text, 3⟩ =
      .ok (call stubPath selfExe testName, ⟨['\n'], line⟩) := by
  intro text
  have hline : Shell.EndsWord ['\n'] := Shell.endsWord_cons rfl
  have hlength := Shell.length_le_spaced (callTexts selfExe testName)
  obtain ⟨fuel, hfuel⟩ : ∃ fuel, 4 * text.length + 8 =
      fuel + (callTexts selfExe testName).length + 1 + 1 + 1 :=
    ⟨4 * text.length + 5 - (callTexts selfExe testName).length, by
      simp only [text, Shell.spaced, List.flatMap_cons, List.length_append,
        List.length_cons] at hlength ⊢
      omega⟩
  have hsplit : Shell.spaced ("exec".toList :: callTexts selfExe testName) ++ ['\n'] =
      ' ' :: ("exec".toList ++ (Shell.spaced (callTexts selfExe testName) ++ ['\n'])) := by
    simp [Shell.spaced]
  rw [hfuel]
  simp only [text]
  rw [Shell.readSimple_assignment (isWord_announcement stubPath) (Shell.endsWord_spaced _ hline)
      (a := announcement stubPath) rfl rfl, hsplit,
    Shell.readSimple_blank (isWord_exec.atWord (d := d) _),
    Shell.readSimple_operand isWord_exec (Shell.endsWord_spaced _ hline) (.inr rfl),
    Shell.readSimple_words (callTexts_words selfExe testName) (by simp)]
  exact ⟨_, rfl⟩

theorem readLine_call (stubPath selfExe : String) (testName : Option String) :
    ∃ line, Shell.readLine d ⟨Raw.ofText (callLine stubPath selfExe testName) ++ ['\n'], 3⟩ =
      .ok (some (.sequence [call stubPath selfExe testName]), ⟨[], line⟩) := by
  obtain ⟨line, hread⟩ := readSimple_call (d := d) stubPath selfExe testName
  have hannounced : ∀ c ∈ announced, (!Shell.isMeta c) = true := List.all_eq_true.mp rfl
  have heq : '=' ∈ (announced ++ Shell.quoteChars (Raw.ofText stubPath) ++
      (Shell.spaced ("exec".toList :: callTexts selfExe testName) ++ ['\n'])).takeWhile
        fun c => !Shell.isMeta c := by
    rw [List.append_assoc, List.takeWhile_append_of_pos hannounced]
    exact List.mem_append_left _ (by decide)
  rw [ofText_callLine, List.append_assoc]
  exact ⟨line + 1, Shell.readLine_simple (fun _ => Shell.skipLines_atWord (by decide))
    (Shell.startsSimple_of_equality (by decide) heq) hread⟩

theorem ofText_script (bash stubPath selfExe : String) (testName : Option String) :
    Raw.ofText (script bash stubPath selfExe testName) =
      '#' :: Raw.ofText ("!" ++ bash ++ " -e") ++ '\n' ::
        silenceText (Raw.ofText (callLine stubPath selfExe testName) ++ ['\n']) := by
  have hmark : Raw.ofText "#!" = ['#', '!'] := rfl
  have hbang : Raw.ofText "!" = ['!'] := rfl
  have hline : Raw.ofText "\n" = ['\n'] := rfl
  have hoption : Raw.ofText " -e" = [' ', '-', 'e'] := rfl
  have hsilence : Raw.ofText " -e\nexec 3>&1 1>/dev/null\n" =
      [' ', '-', 'e', '\n'] ++ silenceText [] := rfl
  unfold script
  simp only [Raw.ofText_append, hmark, hbang, hline, hoption, hsilence]
  simp [silenceText]

/-- A wrapper is read as its two commands, on lines of their own. -/
theorem readsAs_script {bash : String} (hbash : '\n' ∉ bash.toList) (stubPath selfExe : String)
    (testName : Option String) :
    Shell.ReadsAs d ⟨Raw.ofText (script bash stubPath selfExe testName), 1⟩
      [.sequence [silence], .sequence [call stubPath selfExe testName]] := by
  have hcomment : '\n' ∉ Raw.ofText ("!" ++ bash ++ " -e") := by
    rw [Raw.mem_ofText (by decide)]
    simp [hbash]
  obtain ⟨line, hcall⟩ := readLine_call (d := d) stubPath selfExe testName
  rw [ofText_script]
  exact .line (readLine_silence hcomment _) (.line hcall (Shell.readsAs_end d line))

end

/-! ### Running it -/

section
variable {w : Shell.Scene} {args : List String}

/-- What the words after `exec` become, word by word. -/
def callArguments (selfExe : String) (testName : Option String) (args : List String) :
    List (List Raw) :=
  [Raw.ofText selfExe] :: ((runnerArgs testName).map fun a => [Raw.ofText a]) ++
    [[['-', '-']], args.map Raw.ofText]

theorem callWords_expand (run : Shell.Runner) (selfExe : String) (testName : Option String)
    (hargs : w.shell.args = args.map Raw.ofText) :
    List.Forall₂ (fun word arg => Shell.expandWord (Shell.substitute? run) word w = .ok arg w)
      (callWords selfExe testName) (callArguments selfExe testName args) := by
  have hseparator : Shell.expandWord (Shell.substitute? run) [.plain ['-', '-']] w =
      .ok [['-', '-']] w := Shell.expandWord_plain (by decide) rfl
  have harguments : Shell.expandWord (Shell.substitute? run) [.param true "@" .plain [] []] w =
      .ok (args.map Raw.ofText) w := by
    rw [← hargs]
    exact Shell.expandWord_arguments
  have hlast : List.Forall₂
      (fun word arg => Shell.expandWord (Shell.substitute? run) word w = .ok arg w)
      [[.plain ['-', '-']], [.param true "@" .plain [] []]]
      [[['-', '-']], args.map Raw.ofText] := .cons hseparator (.cons harguments .nil)
  refine .cons (Shell.expandWord_quoted _) ?_
  cases testName with
  | none => exact hlast
  | some name =>
      have hexact : Shell.expandWord (Shell.substitute? run) [.plain "--exact".toList] w =
          .ok ["--exact".toList] w := Shell.expandWord_plain (by decide) rfl
      exact .cons (Shell.expandWord_quoted _) (.cons hexact hlast)

theorem flatten_callArguments (selfExe : String) (testName : Option String) (args : List String) :
    (callArguments selfExe testName args).flatten =
      (serverArgs selfExe testName args).map Raw.ofText := by
  have hseparator : Raw.ofText Launch.separator = ['-', '-'] := rfl
  cases testName <;> simp [callArguments, serverArgs, runnerArgs, hseparator]

/-- The second command sets the one variable, and replaces the shell by the server. -/
theorem execs_call {selfExe : String} (hself : selfExe.toList.head? ≠ some '-') (stubPath : String)
    (testName : Option String) (args : List String) :
    Shell.Execs (call stubPath selfExe testName) (args.map Raw.ofText) Launch.invocationVariable
      (Raw.ofText stubPath) (Raw.ofText selfExe)
      ((runnerArgs testName ++ Launch.separator :: args).map Raw.ofText) := by
  have hoption : (Raw.ofText selfExe).head? ≠ some '-' := by
    rw [ne_eq, Raw.head?_ofText (by decide)]
    exact hself
  refine ⟨3, fun run w hplain hargs => ?_⟩
  have hexec := Shell.runSimple_exec run (w := w.busy) ⟨hplain.functions, hplain.trace⟩
    w.shell.last 3 (a := announcement stubPath) rfl (Shell.expandText_quoted _)
    (callWords_expand run selfExe testName hargs)
    (flatten_callArguments selfExe testName args) hoption
  unfold call
  rw [Shell.runCommand_simple]
  simp only [bind, EStateM.bind, hexec]
  rfl

end

end Wrapper

namespace Launch

/-- The arguments behind the first separator, if none stands before it. -/
theorem afterSeparator_append {front : List String} (h : separator ∉ front) (args : List String) :
    afterSeparator (front ++ separator :: args) = args := by
  have hdrop : (front ++ separator :: args).dropWhile (fun a => a ≠ separator) =
      separator :: args := by
    rw [List.dropWhile_append_of_pos]
    · simp
    · intro a ha
      have hne : a ≠ separator := fun heq => h (heq ▸ ha)
      simpa using hne
  unfold afterSeparator
  rw [hdrop]

/-- A process with the arguments of a server stands in for the announced program, with the arguments
of the wrapper. -/
theorem mode_of_serverArgs {l : Launch} {stubPath selfExe : String} {testName : Option String}
    {args : List String} (hargs : l.args = Wrapper.serverArgs selfExe testName args)
    (henv : l.env.get? invocationVariable = some stubPath) (hpath : stubPath ≠ "")
    (htest : testName ≠ some separator) : l.mode = .standIn stubPath args := by
  have hnone : separator ∉ Wrapper.runnerArgs testName := by
    cases testName with
    | none => simp [Wrapper.runnerArgs]
    | some name =>
        have hname : separator ≠ name := fun heq => htest (heq ▸ rfl)
        simp [Wrapper.runnerArgs, hname]
        decide
  have hforwarded : l.forwardedArgs = args := by
    unfold forwardedArgs
    rw [hargs]
    exact afterSeparator_append hnone args
  have hinvocation : l.invocation = some stubPath := by
    unfold invocation
    rw [henv]
    simp [hpath]
  unfold mode
  rw [hinvocation, hforwarded]

end Launch
namespace Wrapper

/-- What a wrapper for `stubPath` comes to when it is called with `args`. -/
structure LoopsBack (d : Dialect) (bash stubPath selfExe : String) (testName : Option String)
    (args : List String) (last : Shell.Command) : Prop where
  /-- It is read as two commands, each on a line of its own. -/
  reads : Shell.ReadsAs d ⟨Raw.ofText (script bash stubPath selfExe testName), 1⟩
    [.sequence [silence], .sequence [last]]
  /-- The last one makes a single setting and replaces the shell by a single program. -/
  execs : Shell.Execs last (args.map Raw.ofText) Launch.invocationVariable (Raw.ofText stubPath)
    (Raw.ofText selfExe) ((runnerArgs testName ++ Launch.separator :: args).map Raw.ofText)
  /-- So the program is run with the arguments of a server, and finds the path of the stub. -/
  becomes : Shell.Becomes last (args.map Raw.ofText) Launch.invocationVariable
    (Raw.ofText stubPath) ((serverArgs selfExe testName args).map Raw.ofText)
  /-- With them it stands in for that path, with the arguments of the wrapper. -/
  mode : ∀ l : Launch, l.args = serverArgs selfExe testName args →
    l.env.get? Launch.invocationVariable = some stubPath → l.mode = .standIn stubPath args

/-- A wrapper becomes the process that stands in for its path, with the very arguments that it was
called with. -/
theorem wrapper_loops_back (d : Dialect) {bash stubPath selfExe : String}
    {testName : Option String} (hpath : stubPath ≠ "") (hself : Path.isAbsolute selfExe = true)
    (htest : testName ≠ some Launch.separator) (hbash : '\n' ∉ bash.toList)
    (args : List String) :
    LoopsBack d bash stubPath selfExe testName args (call stubPath selfExe testName) := by
  have hslash : selfExe.toList.head? = some '/' := by
    unfold Path.isAbsolute at hself
    simpa using hself
  have habsolute : (Raw.ofText selfExe).head? = some '/' :=
    (Raw.head?_ofText (by decide) selfExe).mpr hslash
  have hexecs := execs_call (by rw [hslash]; decide) stubPath testName args
  exact ⟨readsAs_script hbash stubPath selfExe testName, hexecs,
    hexecs.becomes (by decide) habsolute,
    fun l hargs henv => Launch.mode_of_serverArgs hargs henv hpath htest⟩

/-- Quotes, blanks and ends of lines in the texts, and arguments that are empty or look like those
of a test runner. -/
theorem quotes_loop_back :
    let args := ["", "--", "--exact", "say \"it's\"", "two\nlines"]
    LoopsBack .bash "/usr/bin/bash" "./it's" "/tests/run me" (some "suite::case") args
        (call "./it's" "/tests/run me" (some "suite::case")) ∧
      Launch.mode ⟨serverArgs "/tests/run me" (some "suite::case") args,
        Dict.empty.insert Launch.invocationVariable "./it's", "/tests/run me"⟩ =
          .standIn "./it's" args := by
  intro args
  have hloop : LoopsBack .bash "/usr/bin/bash" "./it's" "/tests/run me" (some "suite::case") args
      (call "./it's" "/tests/run me" (some "suite::case")) :=
    wrapper_loops_back .bash (by decide) rfl (by decide) (by decide) args
  exact ⟨hloop, hloop.mode _ rfl rfl⟩

end Wrapper
end Pipeline
