import Pipeline.Cli.Inputs
import Pipeline.Proofs.Script.VariableName
import Pipeline.Proofs.Shell.Inherited
import Pipeline.Proofs.Shell.Parameter

/-!
# Placeholders as shell variables

A script reads what stands for an input or an output as a variable of its environment if the name in
it is that of a variable (`ReadsVariable`), and cannot read it otherwise (`FitExactlyIf`).
Collecting makes up a placeholder for each input that is found nowhere, and asks for the variable in
it; whether this is the name of one depends on the key (`placeholder_fit`). A key with a hyphen in
it makes the script read another variable (`hyphen_unfit`).
-/

namespace Pipeline.Cli
open Text Shell Script

/-! ### Reading -/

/-- A script reads the text as a variable: by itself and between double quotes it is the plain
parameter of that name, and a new shell has under this name what its environment has. -/
structure ReadsVariable (text name : String) : Prop where
  word : ∀ d, IsWord d (Raw.ofText text) [.param false name .plain [] []]
  quoted : ∀ d, IsWord d (Raw.ofText ("\"" ++ text ++ "\"")) [.param true name .plain [] []]
  value : ∀ d process env origin options speaker args m, (env.map Prod.fst).Nodup →
    name ∉ ownNames →
    let start : Scene := ⟨startingState d process env origin options speaker args, m⟩
    parameter name start = .ok (.ofOption (env.lookup name.toList)) start

theorem readsVariable {name : String} (h : isName name.toList = true) :
    ReadsVariable ("$\x7b" ++ name ++ "\x7d") name where
  word d := isWord_parameter d h
  quoted _ := isWord_quotedParameter h
  value d process _ origin options speaker args m hkeys hown :=
    parameter_starting d process hkeys origin options speaker args m h hown

/-- A placeholder is fit for a script exactly under a condition. Otherwise no shell has a variable
of the name in it, whatever the environment. -/
structure FitExactlyIf (condition : Prop) (text name : String) : Prop where
  text_eq : text = "$\x7b" ++ name ++ "\x7d"
  isName_iff : isName name.toList = true ↔ condition
  reads : condition → ReadsVariable text name
  unread : ¬condition → ∀ d here env, (startingVariables d here env).lookup name = none

theorem fitExactlyIf {condition : Prop} {name : String}
    (h : isName name.toList = true ↔ condition) :
    FitExactlyIf condition ("$\x7b" ++ name ++ "\x7d") name where
  text_eq := rfl
  isName_iff := h
  reads hyes := readsVariable (h.mpr hyes)
  unread hno d here env := lookup_starting_of_not_name d here env
    (Bool.eq_false_iff.mpr fun hname => hno (h.mp hname))

/-! ### Collecting -/

section
variable (flags : List (String × String)) (file : Dict String) (env : String → Option String)
  (placeholders : Bool)

/-- The value for a key among flags and in a file. -/
def given? (key : String) : Option String := lastFlag flags key <|> file.get? key

/-- The value that a key gets. -/
def valueOf? (key : String) : Option String :=
  given? flags file key <|> env (upper key) <|>
    if placeholders then some (inputPlaceholder key) else none

theorem collectOne_eq (c : Collected) (key : String) :
    collectOne flags file env placeholders c key =
      ⟨match valueOf? flags file env placeholders key with
        | some value => c.inputs.insert key value
        | none => c.inputs,
      if (given? flags file key).isSome then c.asked else c.asked ++ [upper key]⟩ := by
  unfold collectOne valueOf? given?
  cases lastFlag flags key <|> file.get? key with
  | some value => rfl
  | none =>
      cases env (upper key) with
      | some value => rfl
      | none => cases placeholders <;> rfl

theorem collect_append (keys : List String) (key : String) :
    collect flags file env placeholders (keys ++ [key]) =
      collectOne flags file env placeholders (collect flags file env placeholders keys) key := by
  simp [collect]

/-- Every declared key gets its value, and no other key gets any. -/
theorem get?_collect (keys : List String) (key : String) :
    (collect flags file env placeholders keys).inputs.get? key =
      if key ∈ keys then valueOf? flags file env placeholders key else none := by
  induction keys using List.reverseRecOn with
  | nil => simp [collect]
  | append_singleton keys last ih =>
      rw [collect_append, collectOne_eq]
      by_cases hlast : key = last
      · subst hlast
        cases hvalue : valueOf? flags file env placeholders key <;> simp [ih, hvalue]
      · cases valueOf? flags file env placeholders last <;> simp [ih, hlast]

/-- The variables that are asked for are those of the keys that nothing else has a value for, in the
order of the keys. -/
theorem asked_collect (keys : List String) :
    (collect flags file env placeholders keys).asked =
      (keys.filter fun key => (given? flags file key).isNone).map upper := by
  induction keys using List.reverseRecOn with
  | nil => rfl
  | append_singleton keys last ih =>
      rw [collect_append, collectOne_eq]
      cases hgiven : given? flags file last <;> simp [ih, hgiven]

theorem mem_asked {keys : List String} {name : String} :
    name ∈ (collect flags file env placeholders keys).asked ↔
      ∃ key ∈ keys, given? flags file key = none ∧ upper key = name := by
  rw [asked_collect]
  simp [and_assoc]

end

/-- A value is made up for a key that has none in the flags, the file and the environment. -/
structure MadeUp (flags : List (String × String)) (file : Dict String)
    (env : String → Option String) (key : String) : Prop where
  notGiven : given? flags file key = none
  notInEnvironment : env (upper key) = none

/-- What stands for an input that was found nowhere, and for the output of a command, is a parameter
of a variable, and for an input of the one that was asked for. It is fit for a script exactly if the
key is plain in upper case and the name of the step does not begin with a digit. -/
theorem placeholder_fit (task : Task) (flags : List (String × String)) (file : Dict String)
    (env : String → Option String) :
    let collected := collect flags file env true task.inputs.keys
    (∀ key ∈ task.inputs.keys, MadeUp flags file env key →
      (∀ reader state, resolve reader collected.inputs state (.input key) =
        .ok (inputPlaceholder key)) ∧
      upper key ∈ collected.asked ∧
      FitExactlyIf (NamesVariable key) (inputPlaceholder key) (upper key)) ∧
    ∀ s ∈ task.steps, ∀ c, s.runnable = .command c →
      (placeholders s).get? stdoutKey = some (stdoutPlaceholder s.name) ∧
      FitExactlyIf (startsWithDigit s.name.toList = false) (stdoutPlaceholder s.name)
        (stdoutVariable s.name) := by
  intro collected
  constructor
  · rintro key hkey ⟨hgiven, henv⟩
    have hvalue : collected.inputs.get? key = some (inputPlaceholder key) := by
      rw [get?_collect, if_pos hkey]
      simp [valueOf?, hgiven, henv]
    refine ⟨fun reader state => ?_, (mem_asked ..).mpr ⟨key, hkey, hgiven, rfl⟩,
      fitExactlyIf isName_upper_iff⟩
    simp only [resolve, Ref.input, hvalue]
  · intro s hs c hc
    refine ⟨?_, fitExactlyIf isName_stdoutVariable_iff⟩
    simp [placeholders, hc]

/-- A task with an input, and a step that refers to the output of another. -/
def tagging : Task where
  steps := [⟨"build app", .command ⟨"make", [.ref (.input "image_tag")]⟩⟩,
    ⟨"push", .command ⟨"push", [.ref (.output "build app" stdoutKey)]⟩⟩]
  cleanup := []
  inputs := Registry.forInputs.define "image_tag"
  distinct := by decide

theorem imageTag_fit :
    ReadsVariable "$\x7bIMAGE_TAG\x7d" "IMAGE_TAG" ∧
    "IMAGE_TAG" ∈ (collect [] .empty (fun _ => none) true ["image_tag"]).asked ∧
    ReadsVariable "$\x7bBUILD_APP_STDOUT\x7d" "BUILD_APP_STDOUT" := by
  obtain ⟨hinputs, hsteps⟩ := placeholder_fit tagging [] .empty fun _ => none
  obtain ⟨-, hasked, hinput⟩ := hinputs "image_tag" (by decide) ⟨rfl, rfl⟩
  obtain ⟨-, hstep⟩ := hsteps _ List.mem_cons_self _ rfl
  have hkey : NamesVariable "image_tag" := isName_upper_iff.mp (by decide)
  have hplaceholder : inputPlaceholder "image_tag" = "$\x7bIMAGE_TAG\x7d" := by decide
  have hupper : upper "image_tag" = "IMAGE_TAG" := by decide
  have hread := hinput.reads hkey
  rw [hplaceholder, hupper] at hread
  exact ⟨hread, hasked, hstep.reads (by decide)⟩

/-- What is made up for a key with a hyphen is read as another variable with a text in its place,
and for a step that begins with a digit there is no variable. -/
theorem hyphen_unfit :
    MadeUp [] .empty (fun _ => none) "cluster-name" ∧
    collect [] .empty (fun _ => none) true ["cluster-name"] =
      ⟨Dict.empty.insert "cluster-name" "$\x7bCLUSTER-NAME\x7d", ["CLUSTER-NAME"]⟩ ∧
    isName "CLUSTER-NAME".toList = false ∧
    (∀ d, IsWord d "$\x7bCLUSTER-NAME\x7d".toList
      [.param false "CLUSTER" (.default false) [.plain "NAME".toList] []]) ∧
    stdoutPlaceholder "1st" = "$\x7b1ST_STDOUT\x7d" ∧ isName "1ST_STDOUT".toList = false := by
  refine ⟨⟨rfl, rfl⟩, by decide, by decide, fun d => ?_, by decide, by decide⟩
  have hname : isName "CLUSTER".toList = true := by decide
  exact isWord_default d hname (by decide : "NAME".toList ≠ []) (List.all_eq_true.mp rfl)

end Pipeline.Cli
