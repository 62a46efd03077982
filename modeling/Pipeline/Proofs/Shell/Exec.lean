import Pipeline.Proofs.Machine.Path
import Pipeline.Proofs.Shell.Environment
import Pipeline.Proofs.Shell.Expansion
import Pipeline.Proofs.Shell.Raw
import Pipeline.Shell.Invocation

/-!
# Becoming a program

A command that sets a variable for a program and replaces the shell by it (`Execs`). The words of
such a command reach the program as they are expanded. If the program is one of the machine, it is
run with its name and these words as its arguments, it finds the variable in its environment, and
the shell ends as the program does (`Execs.becomes`).
-/

namespace Pipeline.Shell
open Sh

/-- A shell in which words mean what they say: it has no functions and does not show its
commands. -/
structure ShellState.Plain (s : ShellState) : Prop where
  functions : s.functions = []
  trace : s.options.trace = false

section
variable {run : Runner} {w : Scene}

/-- The scene in which the words of a simple command are expanded. -/
def Scene.atLine (w : Scene) (line : Nat) : Scene :=
  { w with shell := { w.shell with line, substituted := none } }

/-- A scene in which the shell does not count on the command at hand being the last. -/
def Scene.busy (w : Scene) : Scene := { w with shell := { w.shell with last := false } }

theorem runCommand_simple (line : Nat) (assignments : List Assignment) (words : List Word)
    (redirects : List Redirect) :
    runCommand run (.simple line assignments words redirects) w =
      (runSimple run w.shell.last line assignments words redirects >>= settle) w.busy := by
  unfold runCommand
  rw [bind_of_ok (shell_apply w), bind_of_ok (modifyShell_apply _ w)]
  rfl

theorem trace_of_quiet (h : w.shell.options.trace = false) (words : List Raw) :
    trace words w = .ok () w := by
  unfold trace
  rw [bind_of_ok (shell_apply w), h]
  rfl

/-- `exec` with a program, which is none of its own options. -/
theorem runNamed_exec {program : Raw} (hoption : program.head? ≠ some '-') (last : Bool)
    (settings : List (String × Raw)) (fuel : Nat) (operands : List Raw) :
    runNamed run last settings [] (fuel + 1) ("exec".toList :: program :: operands) w =
      withSettings settings (replaceShell run (settings.map (·.1)) none program operands) w := by
  unfold runNamed
  rw [bind_of_ok (shell_apply _)]
  simp only [String.ofList_toList]
  split
  · rename_i heq
    cases heq
    exact absurd rfl hoption
  · rename_i heq
    cases heq
    exact absurd rfl hoption
  · rfl

/-- `exec` after an assignment: the variable is set, and the program gets what the other words
expand to. -/
theorem runSimple_exec (run : Runner) (h : w.shell.Plain) (last : Bool) (line : Nat)
    {a : Assignment} {value : Raw} {words : List Word} {args : List (List Raw)} {program : Raw}
    {operands : List Raw} (hset : a.append = false)
    (hvalue : expandText (substitute? run) a.value (w.atLine line) = .ok value (w.atLine line))
    (hwords : List.Forall₂ (fun word arg => expandWord (substitute? run) word (w.atLine line) =
      .ok arg (w.atLine line)) words args)
    (hargs : args.flatten = program :: operands) (hoption : program.head? ≠ some '-') :
    runSimple run last line [a] ([.plain "exec".toList] :: words) [] w =
      withSettings [(a.name, value)] (replaceShell run [a.name] none program operands)
        (w.atLine line) := by
  have hexec : expandWord (substitute? run) [.plain "exec".toList] (w.atLine line) =
      .ok ["exec".toList] (w.atLine line) := expandWord_plain (by decide) rfl
  have harguments : expandArguments run ([.plain "exec".toList] :: words) (w.atLine line) =
      .ok ("exec".toList :: program :: operands) (w.atLine line) := by
    have hall := expandWords_of_forall₂ (List.Forall₂.cons hexec hwords)
    rw [List.flatten_cons, hargs] at hall
    exact hall
  have hsettings : [a].mapM (assignedValue run) (w.atLine line) =
      .ok [(a.name, value)] (w.atLine line) := by
    have hone : assignedValue run a (w.atLine line) = .ok (a.name, value) (w.atLine line) := by
      unfold assignedValue
      rw [bind_of_ok hvalue, hset]
      rfl
    rw [List.mapM_cons, bind_of_ok hone]
    rfl
  have hquiet : (w.atLine line).shell.options.trace = false := h.trace
  have hfunction : (w.atLine line).shell.functions.lookup (.ofList "exec".toList) = none := by
    rw [show (w.atLine line).shell.functions = [] from h.functions]
    rfl
  unfold runSimple
  rw [bind_of_ok (modifyShell_apply _ w)]
  change (expandArguments run _ >>= _) (w.atLine line) = _
  rw [bind_of_ok harguments]
  simp only
  rw [bind_of_ok hsettings, bind_of_ok (shell_apply _)]
  rw [bind_of_ok (trace_of_quiet hquiet _), bind_of_ok (shell_apply _), hfunction]
  exact runNamed_exec hoption _ _ _ _

/-! ### The program and its environment -/

/-- A bare name leads to the file of that name in the only directory of the search list. -/
theorem findProgram_only {dir name : String} (hname : Path.IsName name) (hdir : dir ≠ "")
    (hcolon : ':' ∉ dir.toList)
    (hlist : (w.shell.vars.lookup "PATH").bind (·.value) = some (Raw.ofText dir))
    (hfile : w.machine.files.isExecutable w.shell.here (Path.join dir name) = true) :
    findProgram (Raw.ofText name) w = .ok (some (Raw.ofText (Path.join dir name))) w := by
  have hslash : (Raw.ofText name).contains '/' = false := by
    have hnot : '/' ∉ Raw.ofText name := by
      rw [Raw.mem_ofText (by decide)]
      exact hname.noSlash
    simpa using hnot
  have hempty (text : String) (h : text ≠ "") : Raw.ofText text ≠ [] := fun hnil => h <| by
    rw [← Raw.toText_ofText text, hnil]
    rfl
  have hlookup : lookup "PATH" w = .ok (some (Raw.ofText dir)) w := by rw [lookup_apply, hlist]
  have hpaths : ((Path.searchList (Raw.toText (Raw.ofText dir))).map fun dir =>
      Path.join (if dir = "" then "." else dir) (Raw.toText (Raw.ofText name))) =
        [Path.join dir name] := by
    rw [Raw.toText_ofText, Raw.toText_ofText, Path.searchList_of_not_mem hcolon,
      List.map_singleton, if_neg hdir]
  unfold findProgram
  rw [bind_of_ok (shell_apply w), hslash]
  have hbare : (Raw.ofText name).isEmpty = false := by simpa using hempty name hname.notEmpty
  simp only [Bool.false_eq_true, if_false, hbare]
  rw [bind_of_ok hlookup]
  obtain ⟨c, cs, hchars⟩ := List.exists_cons_of_ne_nil (hempty dir hdir)
  rw [hchars]
  dsimp only
  rw [bind_of_ok (files_apply w), ← hchars, hpaths, List.find?_cons_of_pos hfile]
  rfl

/-- Run by a shell with these arguments, the command sets one variable for a program and replaces
the shell by it. -/
def Execs (c : Command) (args : List Raw) (name : String) (value program : Raw)
    (operands : List Raw) : Prop :=
  ∃ line, ∀ run w, w.shell.Plain → w.shell.args = args →
    runCommand run c w =
      (withSettings [(name, value)] (replaceShell run [name] none program operands) >>= settle)
        (w.busy.atLine line)

/-- Runs a program in the place of the shell, which ends with it. -/
def endWith (run : Runner) (image : Image) (env : List (Raw × Raw)) : Sh Nat := do
  let code ← run (.program image env)
  throw (.exit code)

theorem replaceShell_tool (run : Runner) {program : Raw} {tool : String}
    (habsolute : program.head? = some '/')
    (hfind : w.machine.files.find w.shell.here (Raw.toText program) = .ok (.tool tool))
    (settings : List String) (operands : List Raw) :
    replaceShell run settings none program operands w =
      endWith run ⟨tool, program :: operands⟩ (environmentOf (givenUp w.shell) settings) w := by
  obtain ⟨rest, rfl⟩ : ∃ rest, program = '/' :: rest := by
    cases program with
    | nil => cases habsolute
    | cons c rest =>
        cases habsolute
        exact ⟨rest, rfl⟩
  have hpath : findProgram ('/' :: rest) w = .ok (some ('/' :: rest)) w := by
    unfold findProgram
    rw [bind_of_ok (shell_apply w)]
    simp [pure_apply]
  have hload (path : Raw) (hsame : path = '/' :: rest) :
      loadProgram path ('/' :: rest) operands w =
        .ok (.ok ⟨tool, ('/' :: rest) :: operands⟩) w := by
    subst hsame
    unfold loadProgram
    rw [bind_of_ok (shell_apply w), bind_of_ok (files_apply w)]
    have himage : Image.load w.machine.files w.shell.here (Raw.toText ('/' :: rest))
        (('/' :: rest) :: operands) = .ok ⟨tool, ('/' :: rest) :: operands⟩ := by
      unfold Image.load Image.loadWithin Image.interpreterDepth
      simp only [hfind]
    rw [himage]
    rfl
  unfold replaceShell
  rw [bind_of_ok (shell_apply w), bind_of_ok hpath]
  simp only
  rw [bind_of_ok (hload _ (by simp [fromHere]))]
  rfl

/-- A scene in which a variable was set for the programs that are started. -/
def Scene.setting (w : Scene) (name : String) (value : Raw) : Scene :=
  { w with shell := w.shell.put name ⟨some value, true, false⟩ }

theorem withSettings_one {name : String} (value : Raw)
    (hfree : ∀ v ∈ w.shell.vars.lookup name, v.readOnly = false) (act : Sh Nat) :
    ∃ restore, withSettings [(name, value)] act w =
      within id (fun _ => restore) act (w.setting name value) := by
  unfold withSettings
  rw [if_neg (by simp), bind_of_ok (shell_apply w)]
  refine ⟨_, bind_of_ok (a := ()) ?_⟩
  have hset : modifyShell (·.put name ⟨some value, true, false⟩) w =
      .ok () (w.setting name value) := rfl
  cases hlookup : w.shell.vars.lookup name with
  | none => simpa [List.forM, hlookup] using hset
  | some v =>
      have hv : v.readOnly = false := hfree v hlookup
      simpa [List.forM, hlookup, hv] using hset

/-- How a shell ends with the program in its place, its own state put back as `restore` says. -/
def ended (restore : ShellState → ShellState) :
    EStateM.Result Stop Scene Nat → EStateM.Result Stop Scene Nat
  | .ok code w => .error (.exit code) { w with shell := restore w.shell }
  | .error e w => .error e { w with shell := restore w.shell }

theorem within_endWith (restore : ShellState → ShellState) {act : Sh Nat} {image : Image}
    {env : List (Raw × Raw)} (h : act w = endWith run image env w) :
    within id (fun _ => restore) act w = ended restore (run (.program image env) w) := by
  have henter : setShell (id w.shell) w = .ok () w := rfl
  unfold within
  rw [bind_of_ok (shell_apply w), bind_of_ok henter]
  simp only [tryCatch, tryCatchThe, MonadExceptOf.tryCatch, EStateM.tryCatch, bind, EStateM.bind, h,
    endWith]
  cases run (.program image env) w <;> rfl

theorem ended_bind (restore : ShellState → ShellState) (result : EStateM.Result Stop Scene Nat)
    {act : Sh Nat} (f : Nat → Sh Nat) (h : act w = ended restore result) :
    (act >>= f) w = ended restore result := by
  simp only [bind, EStateM.bind, h]
  cases result <;> rfl

/-- Run by a shell with these arguments, the command sets a variable and becomes the program that
`argv` begins with, if that is one of the machine. -/
def Becomes (c : Command) (args : List Raw) (name : String) (value : Raw) (argv : List Raw) :
    Prop :=
  ∀ run w tool, w.shell.Plain → w.shell.args = args →
    (∀ v ∈ w.shell.vars.lookup name, v.readOnly = false) →
    w.machine.files.find w.shell.here (Raw.toText (argv.headD [])) = .ok (.tool tool) →
    ∃ env inside restore, env.lookup name.toList = some value ∧ inside.machine = w.machine ∧
      runCommand run c w = ended restore (run (.program ⟨tool, argv⟩ env) inside)

theorem Execs.becomes {c : Command} {args : List Raw} {name : String} {value program : Raw}
    {operands : List Raw} (h : Execs c args name value program operands)
    (hlevel : name ≠ levelVariable) (habsolute : program.head? = some '/') :
    Becomes c args name value (program :: operands) := by
  obtain ⟨line, hrun⟩ := h
  intro run w tool hplain hargs hfree hfind
  obtain ⟨restore, hset⟩ := withSettings_one (w := w.busy.atLine line) value hfree
    (replaceShell run [name] none program operands)
  have hprogram := replaceShell_tool run (w := (w.busy.atLine line).setting name value) habsolute
    hfind [name] operands
  rw [within_endWith restore hprogram] at hset
  refine ⟨_, _, restore, lookup_environmentOf (w.busy.atLine line).shell value hlevel [name], ?_,
    (hrun run w hplain hargs).trans (ended_bind restore _ settle hset)⟩
  rfl

end

end Pipeline.Shell
