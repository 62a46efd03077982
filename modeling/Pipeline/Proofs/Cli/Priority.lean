import Pipeline.Proofs.Cli.Placeholders
import Pipeline.Proofs.Script.Agreement

/-!
# Where inputs take their values from

A declared input takes its value from the last flag for its key, else from the file, else from the
environment, and else it has the placeholder, if one is wanted (`Source`). The environment is asked
for the keys that the first two have nothing for, and for no others (`asked_collect`). Of the flags
only those for a key and their order count for that key (`collect_congr`), so flags for other keys
and the places of flags among those for other keys do not matter. With placeholders wanted every
input has a value, and no script lacks one (`compile_of_bound`).
-/

namespace Pipeline.Cli
open Text

/-! ### Flags -/

/-- A word gives a key a value if it is the two with the first equals sign of the word between
them. -/
theorem keyValue_eq_some_iff {word key value : String} :
    keyValue word = some (key, value) ↔
      word = key ++ "=" ++ value ∧ key ≠ "" ∧ '=' ∉ key.toList := by
  have hcut : keyValue word = some (key, value) ↔
      cutOnce '=' word = some (key, value) ∧ key ≠ "" := by
    unfold keyValue
    cases cutOnce '=' word with
    | none => simp
    | some parts => grind
  rw [hcut, cutOnce_eq_some_iff, show String.singleton '=' = "=" from rfl]
  exact ⟨fun ⟨⟨hword, hnone⟩, hkey⟩ => ⟨hword, hkey, hnone⟩,
    fun ⟨hword, hkey, hnone⟩ => ⟨⟨hword, hnone⟩, hkey⟩⟩

/-- The words that give a key a value, in order. -/
def wordsFor (words : List String) (key : String) : List String :=
  words.filter fun word => (keyValue word).map Prod.fst = some key

theorem wordsFor_append (xs ys : List String) (key : String) :
    wordsFor (xs ++ ys) key = wordsFor xs key ++ wordsFor ys key := List.filter_append xs ys

theorem wordsFor_singleton {word : String} {flag : String × String}
    (h : keyValue word = some flag) (key : String) :
    wordsFor [word] key = if flag.1 = key then [word] else [] := by
  by_cases hkey : flag.1 = key <;> simp [wordsFor, h, hkey]

/-- The value of the last flag for a key is the value of the last word for it. -/
theorem lastFlag_eq {words : List String} {flags : List (String × String)}
    (h : words.map keyValue = flags.map some) (key : String) :
    lastFlag flags key = ((wordsFor words key).getLast?.bind keyValue).map Prod.snd := by
  induction flags using List.reverseRecOn generalizing words with
  | nil =>
      rw [List.map_nil, List.map_eq_nil_iff] at h
      subst h
      rfl
  | append_singleton flags flag ih =>
      rw [List.map_append, List.map_eq_append_iff] at h
      obtain ⟨before, last, rfl, hbefore, hlast⟩ := h
      obtain ⟨word, rfl, hword⟩ := List.map_eq_singleton_iff.mp hlast
      rw [wordsFor_append, wordsFor_singleton hword, lastFlag, List.reverse_append,
        List.reverse_singleton, List.singleton_append, Dict.lookup_cons_eq]
      by_cases hkey : key = flag.1
      · simp [hkey, hword]
      · rw [if_neg hkey, if_neg (Ne.symm hkey), List.append_nil]
        exact ih hbefore

/-- The value of the last flag for a key is the one in the last word for it, if there is any. -/
theorem lastFlag_cases {words : List String} {flags : List (String × String)}
    (h : words.map keyValue = flags.map some) (key : String) :
    wordsFor words key = [] ∧ lastFlag flags key = none ∨
      ∃ before value, wordsFor words key = before ++ [key ++ "=" ++ value] ∧
        lastFlag flags key = some value := by
  rw [lastFlag_eq h]
  rcases List.eq_nil_or_concat' (wordsFor words key) with hnil | ⟨before, word, hconcat⟩
  · exact .inl ⟨hnil, by rw [hnil]; rfl⟩
  · have hmem : word ∈ wordsFor words key := by simp [hconcat]
    have hfor : (keyValue word).map Prod.fst = some key :=
      of_decide_eq_true (List.mem_filter.mp hmem).2
    obtain ⟨⟨k, value⟩, hword, rfl⟩ := Option.map_eq_some_iff.mp hfor
    obtain ⟨rfl, -⟩ := keyValue_eq_some_iff.mp hword
    exact .inr ⟨before, value, hconcat, by simp [hconcat, hword]⟩

/-- Nothing is given for a key by the words or in the file. -/
structure NotGiven (words : List String) (file : Dict String) (key : String) : Prop where
  noWord : wordsFor words key = []
  notInFile : file.get? key = none

/-- Where the value of a key comes from. -/
inductive Source (words : List String) (file : Dict String) (env : String → Option String)
    (placeholders : Bool) (key : String) : Option String → Prop
  | flag {before : List String} {value : String} :
      wordsFor words key = before ++ [key ++ "=" ++ value] →
      Source words file env placeholders key (some value)
  | file {value : String} : wordsFor words key = [] → file.get? key = some value →
      Source words file env placeholders key (some value)
  | environment {value : String} : NotGiven words file key → env (upper key) = some value →
      Source words file env placeholders key (some value)
  | placeholder : NotGiven words file key → env (upper key) = none → placeholders = true →
      Source words file env placeholders key (some ("$\x7b" ++ upper key ++ "\x7d"))
  | unbound : NotGiven words file key → env (upper key) = none → placeholders = false →
      Source words file env placeholders key none

section
variable {words : List String} {flags : List (String × String)} {file : Dict String}
  {env : String → Option String} {placeholders : Bool}

theorem given?_eq_none_iff (h : words.map keyValue = flags.map some) (key : String) :
    given? flags file key = none ↔ NotGiven words file key := by
  unfold given?
  rcases lastFlag_cases h key with ⟨hwords, hflag⟩ | ⟨before, value, hwords, hflag⟩
  · rw [hflag]
    exact ⟨fun hfile => ⟨hwords, hfile⟩, fun hnone => hnone.notInFile⟩
  · rw [hflag]
    constructor
    · intro hsome
      cases hsome
    · rintro ⟨hnone, -⟩
      exact absurd (hwords.symm.trans hnone) (by simp)

theorem source_valueOf? (h : words.map keyValue = flags.map some) (key : String) :
    Source words file env placeholders key (valueOf? flags file env placeholders key) := by
  rcases lastFlag_cases h key with ⟨hwords, hflag⟩ | ⟨before, value, hwords, hflag⟩
  · cases hfile : file.get? key with
    | some value =>
        simp only [valueOf?, given?, hflag, hfile]
        exact .file hwords hfile
    | none =>
        have hnone : NotGiven words file key := ⟨hwords, hfile⟩
        cases henv : env (upper key) with
        | some value =>
            simp only [valueOf?, given?, hflag, hfile, henv]
            exact .environment hnone henv
        | none =>
            simp only [valueOf?, given?, hflag, hfile, henv]
            cases placeholders with
            | true => exact .placeholder hnone henv rfl
            | false => exact .unbound hnone henv rfl
  · simp only [valueOf?, given?, hflag]
    exact .flag hwords

/-- What is collected for keys from words and a file, in an environment. -/
structure ByPriority (keys words : List String) (file : Dict String)
    (env : String → Option String) (placeholders : Bool) (c : Collected) : Prop where
  bound : ∀ key ∈ keys, Source words file env placeholders key (c.inputs.get? key)
  only : ∀ key, key ∉ keys → c.inputs.get? key = none
  /-- The environment is asked once for each key that nothing is given for, in the order of the
  keys. -/
  asked : ∃ missing : List String, missing.Sublist keys ∧ missing.Nodup ∧
    (∀ key ∈ keys, key ∈ missing ↔ NotGiven words file key) ∧ c.asked = missing.map upper

theorem byPriority_collect (h : words.map keyValue = flags.map some) {keys : List String}
    (hkeys : keys.Nodup) :
    ByPriority keys words file env placeholders (collect flags file env placeholders keys) where
  bound key hkey := by
    rw [get?_collect, if_pos hkey]
    exact source_valueOf? h key
  only key hkey := by rw [get?_collect, if_neg hkey]
  asked := by
    refine ⟨_, List.filter_sublist, hkeys.sublist List.filter_sublist, fun key hkey => ?_,
      asked_collect flags file env placeholders keys⟩
    rw [List.mem_filter, Option.isNone_iff_eq_none, given?_eq_none_iff h]
    exact and_iff_right hkey

/-- Two collections agree if the same is given for each key. -/
theorem collect_congr {flags' : List (String × String)} {file' : Dict String} {keys : List String}
    (h : ∀ key ∈ keys, given? flags' file' key = given? flags file key) :
    collect flags' file' env placeholders keys = collect flags file env placeholders keys := by
  induction keys using List.reverseRecOn with
  | nil => rfl
  | append_singleton keys last ih =>
      have hlast := h last (by simp)
      rw [collect_append, collect_append, ih fun key hkey => h key (List.mem_append_left _ hkey),
        collectOne_eq, collectOne_eq]
      simp only [valueOf?, hlast]

theorem given?_congr {words' : List String} {flags' : List (String × String)}
    {file' : Dict String} {key : String} (h : words.map keyValue = flags.map some)
    (h' : words'.map keyValue = flags'.map some) (hwords : wordsFor words' key = wordsFor words key)
    (hfile : file'.get? key = file.get? key) :
    given? flags' file' key = given? flags file key := by
  unfold given?
  rw [lastFlag_eq h, lastFlag_eq h', hwords, hfile]

/-- With placeholders wanted, every key has a value. -/
theorem contains_collect {keys : List String} {key : String} (hkey : key ∈ keys) :
    (collect flags file env true keys).inputs.contains key = true := by
  rw [Dict.contains_eq_isSome, get?_collect, if_pos hkey, valueOf?]
  cases given? flags file key <;> cases env (upper key) <;> rfl

end

/-! ### Scripts -/

/-- An input is said to be missing only if it has no value. -/
theorem missing_of_resolve {reader step key : String} {inputs : Inputs} {state : RunState} {r : Ref}
    (h : resolve reader inputs state r = .error (.missingInput step key)) :
    inputs.get? key = none := by
  unfold resolve at h
  split at h
  · split at h
    · cases h
    · rename_i hget
      cases h
      exact hget
  · split at h
    · cases h
    · split at h <;> cases h

theorem stepsOutline_missing {options : Script.Options} {inputs : Inputs} {steps : List Step}
    {state : RunState} {step key : String}
    (h : (Script.stepsOutline options inputs steps state).fault = some (.missingInput step key)) :
    inputs.get? key = none := by
  induction steps generalizing state with
  | nil => cases h
  | cons s steps ih =>
      unfold Script.stepsOutline at h
      cases hline : Script.stepLine options inputs state s with
      | ok line =>
          rw [hline] at h
          exact ih h
      | error e =>
          rw [hline] at h
          cases h
          unfold Script.stepLine at hline
          split at hline
          · split at hline
            · rename_i c hc e hargs
              cases hline
              obtain ⟨r, -, hresolve⟩ := resolveArgs_error hargs
              exact missing_of_resolve hresolve
            · cases hline
          · cases hline

/-- A script that has a value for every input never lacks one of them. -/
theorem compile_of_bound {task : Task} {inputs : Inputs} (hbound : Script.Bound task inputs)
    (options : Script.Options) (step : String) {key : String} (hkey : key ∈ task.inputs.keys) :
    Script.compile task inputs options ≠ .error (.resolve (.missingInput step key)) := by
  intro hcompile
  rw [Script.compile_eq, Script.outline_fault_of_bound options hbound] at hcompile
  split at hcompile
  · cases hcompile
  · rename_i e hfault
    cases hcompile
    have hcontains := hbound key hkey
    rw [Dict.contains_eq_isSome, stepsOutline_missing hfault] at hcontains
    cases hcontains

/-! ### Collecting for a task -/

/-- The entries of the inputs file, none if there is no file. -/
def fileEntries (o : InputOptions) (fs : FileSystem) (here : Place) :
    Except Failure (Dict String) :=
  match o.file with
  | none => .ok .empty
  | some path => readInputsFile fs here path

theorem collectInputs_eq {o : InputOptions} {fs : FileSystem} {here : Place} {file : Dict String}
    (h : fileEntries o fs here = .ok file) (task : Task) (env : String → Option String)
    (placeholders : Bool) : collectInputs task o fs here env placeholders =
      .ok (collect o.flags file env placeholders task.inputs.keys) := by
  unfold fileEntries at h
  unfold collectInputs
  cases hfile : o.file with
  | none =>
      rw [hfile] at h
      cases h
      rfl
  | some path =>
      rw [hfile] at h
      simp only [h]
      rfl

/-- A word is a flag if it has a key, an equals sign and a value, which may be anything. From flags
and a file that can be read, each declared input gets its value by the priority of the sources, and
nothing else is bound. No other flags and entries have a say, nor do the places of flags among flags
for other keys: the result is the same for all options in which each declared key has the same flags
in the same order, and the same entry. With placeholders, the script of the task lacks none of its
inputs. -/
theorem collectInputs_by_priority (task : Task) (words : List String) (o : InputOptions)
    (fs : FileSystem) (here : Place) (env : String → Option String) (placeholders : Bool)
    (file : Dict String) (hwords : words.map keyValue = o.flags.map some)
    (hfile : fileEntries o fs here = .ok file) :
    (∀ word key value, keyValue word = some (key, value) ↔
      word = key ++ "=" ++ value ∧ key ≠ "" ∧ '=' ∉ key.toList) ∧
    ∃ c, collectInputs task o fs here env placeholders = .ok c ∧
      ByPriority task.inputs.keys words file env placeholders c ∧
      (∀ words' o' fs' here' file', words'.map keyValue = o'.flags.map some →
        fileEntries o' fs' here' = .ok file' →
        (∀ key ∈ task.inputs.keys,
          wordsFor words' key = wordsFor words key ∧ file'.get? key = file.get? key) →
        collectInputs task o' fs' here' env placeholders = .ok c) ∧
      (placeholders = true → ∀ options step, ∀ key ∈ task.inputs.keys,
        Script.compile task c.inputs options ≠ .error (.resolve (.missingInput step key))) := by
  refine ⟨fun _ _ _ => keyValue_eq_some_iff, _, collectInputs_eq hfile task env placeholders,
    byPriority_collect hwords task.inputs.distinct, ?_, ?_⟩
  · intro words' o' fs' here' file' hwords' hfile' hsame
    rw [collectInputs_eq hfile']
    refine congrArg Except.ok (collect_congr fun key hkey => ?_)
    obtain ⟨hfor, hentry⟩ := hsame key hkey
    exact given?_congr hwords hwords' hfor hentry
  · rintro rfl options step key hkey
    have hbound : Script.Bound task (collect o.flags file env true task.inputs.keys).inputs :=
      fun k hk => contains_collect hk
    exact compile_of_bound hbound options step hkey

theorem fileEntries_of_text {o : InputOptions} {fs : FileSystem} {here : Place} {path text : String}
    {file : Dict String} (hpath : o.file = some path)
    (hread : fs.read here path = .ok (Utf8.encode text)) (hparse : Dict.parse text = some file) :
    fileEntries o fs here = .ok file := by
  have htext : isText (Utf8.encode text) = true := by simp [isText, Utf8.decode_encode]
  simp only [fileEntries, hpath, readInputsFile, readText, hread, htext, if_true,
    Utf8.decode_encode, hparse]

/-- A task with an input for each of the four sources. -/
def shipping : Task where
  steps := [⟨"ship", .command ⟨"ship", [.ref (.input "seed"), .ref (.input "tag")]⟩⟩]
  cleanup := []
  inputs := Registry.forInputs.defineAll ["seed", "region", "zone", "tag"]
  distinct := by decide

def regionText : String := "\x7b\"seed\": \"0\", \"region\": \"north\"\x7d"

def regionFile : FileSystem :=
  FileSystem.empty.put ["inputs.json"] (.file (Utf8.encode regionText) FileSystem.fileMode)

def regionEntries : Dict String := Dict.ofList [("seed", "0"), ("region", "north")]

theorem fileEntries_regionFile (flags : List (String × String)) :
    fileEntries ⟨flags, some "inputs.json"⟩ regionFile [] = .ok regionEntries := by
  have hlocate : regionFile.locate [] "inputs.json" = .ok ["inputs.json"] := by decide +kernel
  have hread : regionFile.read [] "inputs.json" = .ok (Utf8.encode regionText) := by
    unfold FileSystem.read FileSystem.find
    simp only [hlocate]
    rw [regionFile, FileSystem.at?_put_self _ _ (by simp)]
    rfl
  exact fileEntries_of_text rfl hread (by decide +kernel)

/-- The second flag for the seed wins over the first and over the file, and what is said for keys
that are not declared changes nothing. -/
theorem shipping_collected :
    let env := fun name => if name = "ZONE" then some "z" else none
    let collected : Collected := ⟨Dict.ofList [("seed", "a=b"), ("region", "north"), ("zone", "z"),
      ("tag", "$\x7bTAG\x7d")], ["ZONE", "TAG"]⟩
    collectInputs shipping ⟨[("seed", "1"), ("spare", "x"), ("seed", "a=b")], some "inputs.json"⟩
      regionFile [] env true = .ok collected ∧
    ByPriority shipping.inputs.keys ["seed=1", "spare=x", "seed=a=b"] regionEntries env true
      collected ∧
    collectInputs shipping ⟨[("other", "y"), ("seed", "1"), ("seed", "a=b")], some "inputs.json"⟩
      regionFile [] env true = .ok collected ∧
    ∀ options, Script.compile shipping collected.inputs options ≠
      .error (.resolve (.missingInput Script.inputsStep "tag")) := by
  intro env collected
  have hwords : ["seed=1", "spare=x", "seed=a=b"].map keyValue =
      [("seed", "1"), ("spare", "x"), ("seed", "a=b")].map some := by decide
  have hwords' : ["other=y", "seed=1", "seed=a=b"].map keyValue =
      [("other", "y"), ("seed", "1"), ("seed", "a=b")].map some := by decide
  obtain ⟨-, c, hc, hpriority, hsame, hscript⟩ := collectInputs_by_priority shipping _
    ⟨_, some "inputs.json"⟩ regionFile [] env true regionEntries hwords (fileEntries_regionFile _)
  have hcollect : c = collected := by
    rw [collectInputs_eq (fileEntries_regionFile _)] at hc
    cases hc
    decide +kernel
  subst hcollect
  refine ⟨hc, hpriority, ?_, fun options => hscript rfl options _ "tag" (by decide)⟩
  exact hsame _ ⟨_, some "inputs.json"⟩ _ _ _ hwords' (fileEntries_regionFile _)
    fun key hkey => ⟨by revert key; decide +kernel, rfl⟩

end Pipeline.Cli
