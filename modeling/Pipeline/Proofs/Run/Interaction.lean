import Pipeline.Proofs.Run.Recorded
import Pipeline.Proofs.Stream.Capture

/-!
# What a body does, and what is recorded of it

A body plays one of its interactions: at each move it asks the run something, sets an output or
leaves a note, and it goes on with the answer until it ends (`Plays`). A panic is caught if it comes
after the call of the body, and goes on past the step otherwise. The run answers from the
state that the step began with; only a look at the outputs set so far takes the settings of the body
into account (`Reply`). Every function step plays an interaction that is answered so, and any such
interaction tells what the step records: the last value of each key that was set, and the empty text
for a declared key that was not (`HoldsLast`, `runBody_of_plays`).
-/

namespace Pipeline

/-- One move of a body: a question with its answer, an output that it sets or a note. -/
inductive Move where
  | named (name : String)
  | looked (r : Ref) (answer : Except ResolveError String)
  | executed (c : Command) (answer : Except ContextError Captured)
  /-- A command in which the target or a stream panicked, and the body with it. -/
  | crashed (c : Command) (payload : Panic)
  | set (key value : String)
  | saw (outputs : Dict String)
  | noted (text : String)

/-- The interactions of a body, whatever it is answered. -/
inductive Plays : Body → List Move → BodyEnd → Prop
  | done : Plays .done [] .done
  | fail (f : Failure) : Plays (.fail f) [] (.failed f)
  | panic (p : Panic) : Plays (.panic p) [] (.unwound p)
  | future {next : Body} {moves : List Move} {ending : BodyEnd} :
      Plays next moves ending → Plays (.future next) moves ending.guarded
  | stepName {next : String → Body} {name : String} {moves : List Move} {ending : BodyEnd} :
      Plays (next name) moves ending → Plays (.stepName next) (.named name :: moves) ending
  | resolve {r : Ref} {next : Except ResolveError String → Body}
      {answer : Except ResolveError String} {moves : List Move} {ending : BodyEnd} :
      Plays (next answer) moves ending → Plays (.resolve r next) (.looked r answer :: moves) ending
  | exec {c : Command} {next : Except ContextError Captured → Body}
      {answer : Except ContextError Captured} {moves : List Move} {ending : BodyEnd} :
      Plays (next answer) moves ending → Plays (.exec c next) (.executed c answer :: moves) ending
  | crash {c : Command} {next : Except ContextError Captured → Body} {p : Panic} :
      Plays (.exec c next) [.crashed c p] (.unwound p)
  | set {key value : String} {next : Body} {moves : List Move} {ending : BodyEnd} :
      Plays next moves ending → Plays (.set key value next) (.set key value :: moves) ending
  | outputs {next : Dict String → Body} {seen : Dict String} {moves : List Move}
      {ending : BodyEnd} :
      Plays (next seen) moves ending → Plays (.outputs next) (.saw seen :: moves) ending
  | note {text : String} {next : Body} {moves : List Move} {ending : BodyEnd} :
      Plays next moves ending → Plays (.note text next) (.noted text :: moves) ending

/-! ### Outputs that were set -/

/-- Outputs after some moves: the last value of each key that was set, the empty text for each
declared key that was not, and no other key. -/
structure HoldsLast (moves : List Move) (declared : List String) (outputs : Dict String) :
    Prop where
  set : ∀ before key value after, moves = before ++ .set key value :: after →
    (∀ v, .set key v ∉ after) → outputs.get? key = some value
  unset : ∀ key ∈ declared, (∀ v, .set key v ∉ moves) → outputs.get? key = some ""
  other : ∀ key, key ∉ declared → (∀ v, .set key v ∉ moves) → outputs.get? key = none

/-- The value that a move sets a key to. -/
def Move.setting? (key : String) : Move → Option String
  | .set k value => if key = k then some value else none
  | _ => none

theorem Move.setting?_eq_some_iff {key value : String} {m : Move} :
    m.setting? key = some value ↔ m = .set key value := by
  cases m <;> simp [setting?, eq_comm (a := key)]

/-- The value that a key was set to last. -/
def lastSet (key : String) : List Move → Option String
  | [] => none
  | m :: moves => (lastSet key moves).or (m.setting? key)

theorem lastSet_append (key : String) (moves later : List Move) :
    lastSet key (moves ++ later) = (lastSet key later).or (lastSet key moves) := by
  induction moves with
  | nil => simp [lastSet]
  | cons m moves ih => rw [List.cons_append, lastSet, ih, lastSet, Option.or_assoc]

theorem lastSet_eq_none_iff {key : String} {moves : List Move} :
    lastSet key moves = none ↔ ∀ v, .set key v ∉ moves := by
  induction moves with
  | nil => simp [lastSet]
  | cons m moves ih =>
      have hm : m.setting? key = none ↔ ∀ v, m ≠ .set key v := by
        simp only [Option.eq_none_iff_forall_ne_some, ne_eq, Move.setting?_eq_some_iff]
      rw [lastSet, Option.or_eq_none_iff, ih, hm]
      simp only [List.mem_cons, not_or, eq_comm, forall_and, and_comm, ne_eq]

theorem exists_last_set {key value : String} {moves : List Move}
    (h : lastSet key moves = some value) : ∃ before after,
      moves = before ++ .set key value :: after ∧ ∀ v, .set key v ∉ after := by
  induction moves with
  | nil => cases h
  | cons m moves ih =>
      rw [lastSet] at h
      rcases Option.or_eq_some_iff.mp h with hlater | ⟨hnone, hm⟩
      · obtain ⟨before, after, rfl, hafter⟩ := ih hlater
        exact ⟨m :: before, after, rfl, hafter⟩
      · rw [Move.setting?_eq_some_iff.mp hm]
        exact ⟨[], moves, rfl, lastSet_eq_none_iff.mp hnone⟩

theorem holdsLast_iff {moves : List Move} {declared : List String} {outputs : Dict String} :
    HoldsLast moves declared outputs ↔ ∀ key, outputs.get? key =
      (lastSet key moves).or (if key ∈ declared then some "" else none) := by
  constructor
  · intro h key
    cases hlast : lastSet key moves with
    | some value =>
        obtain ⟨before, after, hsplit, hafter⟩ := exists_last_set hlast
        rw [h.set before key value after hsplit hafter, Option.some_or]
    | none =>
        have hunset := lastSet_eq_none_iff.mp hlast
        rw [Option.none_or]
        split
        · rename_i hkey
          exact h.unset key hkey hunset
        · rename_i hkey
          exact h.other key hkey hunset
  · intro h
    constructor
    · intro before key value after hsplit hafter
      rw [h, hsplit, lastSet_append, lastSet, lastSet_eq_none_iff.mpr hafter,
        Move.setting?_eq_some_iff.mpr rfl]
      rfl
    · intro key hkey hunset
      rw [h, lastSet_eq_none_iff.mpr hunset, if_pos hkey, Option.none_or]
    · intro key hkey hunset
      rw [h, lastSet_eq_none_iff.mpr hunset, if_neg hkey, Option.none_or]

/-- With nothing declared the outputs are no more than what was set last. -/
theorem holdsLast_nil_iff {moves : List Move} {outputs : Dict String} :
    HoldsLast moves [] outputs ↔ ∀ key, outputs.get? key = lastSet key moves := by
  simp [holdsLast_iff]

theorem HoldsLast.unique {moves : List Move} {declared : List String} {outputs seen : Dict String}
    (h : HoldsLast moves declared outputs) (h' : HoldsLast moves declared seen) :
    outputs = seen :=
  Dict.ext_get? fun key => (holdsLast_iff.mp h key).trans (holdsLast_iff.mp h' key).symm

theorem HoldsLast.nothing : HoldsLast [] [] .empty := holdsLast_nil_iff.mpr fun _ => rfl

/-- A move sets no output. -/
def Move.SetsNothing (m : Move) : Prop := ∀ key, m.setting? key = none

theorem HoldsLast.concat {moves : List Move} {outputs : Dict String}
    (h : HoldsLast moves [] outputs) (m : Move) (hm : m.SetsNothing) :
    HoldsLast (moves ++ [m]) [] outputs := by
  refine holdsLast_nil_iff.mpr fun key => ?_
  rw [lastSet_append, lastSet, hm key, holdsLast_nil_iff.mp h key]
  rfl

theorem HoldsLast.concat_set {moves : List Move} {outputs : Dict String}
    (h : HoldsLast moves [] outputs) (key value : String) :
    HoldsLast (moves ++ [.set key value]) [] (outputs.insert key value) := by
  refine holdsLast_nil_iff.mpr fun k => ?_
  rw [Dict.get?_insert, lastSet_append, holdsLast_nil_iff.mp h k]
  by_cases hk : k = key <;> simp [lastSet, Move.setting?, hk]

theorem HoldsLast.withDefaults {moves : List Move} {set : Dict String}
    (h : HoldsLast moves [] set) (declared : List String) :
    HoldsLast moves declared (withDefaults declared set) :=
  holdsLast_iff.mpr fun key => by rw [get?_withDefaults, holdsLast_nil_iff.mp h key]

/-! ### Answers of the run -/

section
variable {σ : Type} (t : Target σ) (inputs : Inputs) (step : String) (state : RunState)

/-- The answer of the run to a move, given the moves of the body before it, and the world after it.
References count for what they are in the state that the step began with. -/
inductive Reply (before : List Move) (w : World σ) : Move → World σ → Prop
  | named : Reply before w (.named step) w
  | looked (r : Ref) : Reply before w (.looked r (resolve step inputs state r)) w
  | refused {c : Command} {e : ResolveError} :
      resolveArgs step inputs state c.args = .error e →
      Reply before w (.executed c (.error (.resolve e))) w
  | failed {c : Command} {args : List String} {e : TargetError} {w₁ : World σ} :
      resolveArgs step inputs state c.args = .ok args → call t step c args w = (.error e, w₁) →
      Reply before w (.executed c (.error (.target e))) w₁
  | broken {c : Command} {args : List String} {stdout stderr : Reader} {e : IoError}
      {w₁ : World σ} :
      resolveArgs step inputs state c.args = .ok args →
      call t step c args w = (.streams stdout stderr, w₁) →
      readAll stdout stderr = .error (.inl e) → Reply before w (.executed c (.error (.io e))) w₁
  | captured {c : Command} {args : List String} {stdout stderr : Reader} {captured : Captured}
      {w₁ : World σ} :
      resolveArgs step inputs state c.args = .ok args →
      call t step c args w = (.streams stdout stderr, w₁) →
      readAll stdout stderr = .ok captured → Reply before w (.executed c (.ok captured)) w₁
  | panicked {c : Command} {args : List String} {p : Panic} {w₁ : World σ} :
      resolveArgs step inputs state c.args = .ok args → call t step c args w = (.panic p, w₁) →
      Reply before w (.crashed c p) w₁
  | unwound {c : Command} {args : List String} {p : Panic} {w₁ : World σ} :
      resolveArgs step inputs state c.args = .ok args → call t step c args w = (.unwound p, w₁) →
      Reply before w (.crashed c p) w₁
  | readPanicked {c : Command} {args : List String} {stdout stderr : Reader} {p : Panic}
      {w₁ : World σ} :
      resolveArgs step inputs state c.args = .ok args →
      call t step c args w = (.streams stdout stderr, w₁) →
      readAll stdout stderr = .error (.inr p) → Reply before w (.crashed c p) w₁
  | set (key value : String) : Reply before w (.set key value) w
  | saw {outputs : Dict String} : HoldsLast before [] outputs → Reply before w (.saw outputs) w
  | noted (text : String) : Reply before w (.noted text) (w.tell (.note step text))

/-- Every move was answered by the run, the first in the world `w` after the moves `before`. -/
inductive Answered : List Move → World σ → List Move → World σ → Prop
  | nil (before : List Move) (w : World σ) : Answered before w [] w
  | cons {before moves : List Move} {m : Move} {w w₁ w₂ : World σ} :
      Reply t inputs step state before w m w₁ → Answered (before ++ [m]) w₁ moves w₂ →
      Answered before w (m :: moves) w₂

variable {t inputs step state}

/-- A body whose moves are answered by the run comes to its end with what it set last. -/
theorem runBody_of_plays {b : Body} {before moves : List Move} {ending : BodyEnd}
    {set : Dict String} {w w' : World σ} (hplays : Plays b moves ending)
    (hanswered : Answered t inputs step state before w moves w')
    (hset : HoldsLast before [] set) :
    ∃ set', runBody t inputs step state b set w = (ending, set', w') ∧
      HoldsLast (before ++ moves) [] set' := by
  -- a move that is answered joins those before it, and `set` stays what these have set last
  induction hplays generalizing before set w with
  | done | fail | panic =>
      cases hanswered
      exact ⟨set, rfl, by rwa [List.append_nil]⟩
  | future _ ih =>
      obtain ⟨set', hrun, hset'⟩ := ih hanswered hset
      exact ⟨set', by rw [runBody, hrun], hset'⟩
  | stepName _ ih | resolve _ ih | note _ ih =>
      cases hanswered with
      | cons hreply hrest =>
          cases hreply
          rw [List.append_cons]
          exact ih hrest (hset.concat _ fun _ => rfl)
  | @set key value _ _ _ _ ih =>
      cases hanswered with
      | cons hreply hrest =>
          cases hreply
          rw [List.append_cons]
          exact ih hrest (hset.concat_set key value)
  | outputs _ ih =>
      cases hanswered with
      | cons hreply hrest =>
          cases hreply with
          | saw hseen =>
              rw [List.append_cons, runBody, hset.unique hseen]
              exact ih hrest (hseen.concat _ fun _ => rfl)
  | exec _ ih =>
      cases hanswered with
      | cons hreply hrest =>
          obtain ⟨set', hrun, hset'⟩ := ih hrest (hset.concat _ fun _ => rfl)
          refine ⟨set', ?_, by rwa [List.append_cons]⟩
          cases hreply with
          | refused hargs => rwa [runBody, hargs]
          | failed hargs hcall =>
              rw [runBody, hargs]
              simp only [hcall, hrun]
          | broken hargs hcall hread =>
              rw [runBody, hargs]
              simp only [hcall, hread, hrun]
          | captured hargs hcall hread =>
              rw [runBody, hargs]
              simp only [hcall, hread, hrun]
  | crash =>
      cases hanswered with
      | cons hreply hrest =>
          cases hrest
          refine ⟨set, ?_, hset.concat _ fun _ => rfl⟩
          cases hreply with
          | panicked hargs hcall =>
              rw [runBody, hargs]
              simp only [hcall]
          | unwound hargs hcall =>
              rw [runBody, hargs]
              simp only [hcall]
          | readPanicked hargs hcall hread =>
              rw [runBody, hargs]
              simp only [hcall, hread]

/-- Whatever a body asks, the run has an answer, and so the body plays some interaction. -/
theorem exists_interaction (t : Target σ) (inputs : Inputs) (step : String) (state : RunState)
    (b : Body) {before : List Move} {set : Dict String} (hset : HoldsLast before [] set)
    (w : World σ) : ∃ moves ending w', Plays b moves ending ∧
      Answered t inputs step state before w moves w' := by
  induction b generalizing before set w with
  | done => exact ⟨[], .done, w, .done, .nil before w⟩
  | fail f => exact ⟨[], .failed f, w, .fail f, .nil before w⟩
  | panic p => exact ⟨[], .unwound p, w, .panic p, .nil before w⟩
  | future next ih =>
      obtain ⟨moves, ending, w', hplays, hrest⟩ := ih hset w
      exact ⟨moves, _, w', hplays.future, hrest⟩
  | stepName next ih =>
      obtain ⟨moves, ending, w', hplays, hrest⟩ :=
        ih step (hset.concat (.named step) fun _ => rfl) w
      exact ⟨_, ending, w', hplays.stepName, .cons .named hrest⟩
  | resolve r next ih =>
      obtain ⟨moves, ending, w', hplays, hrest⟩ := ih _ (hset.concat (.looked r _) fun _ => rfl) w
      exact ⟨_, ending, w', hplays.resolve, .cons (.looked r) hrest⟩
  | set key value next ih =>
      obtain ⟨moves, ending, w', hplays, hrest⟩ := ih (hset.concat_set key value) w
      exact ⟨_, ending, w', hplays.set, .cons (.set key value) hrest⟩
  | outputs next ih =>
      obtain ⟨moves, ending, w', hplays, hrest⟩ := ih set (hset.concat (.saw set) fun _ => rfl) w
      exact ⟨_, ending, w', hplays.outputs, .cons (.saw hset) hrest⟩
  | note text next ih =>
      obtain ⟨moves, ending, w', hplays, hrest⟩ :=
        ih (hset.concat (.noted text) fun _ => rfl) (w.tell (.note step text))
      exact ⟨_, ending, w', hplays.note, .cons (.noted text) hrest⟩
  | exec c next ih =>
      have hgoes : ∀ answer w₁, Reply t inputs step state before w (.executed c answer) w₁ →
          ∃ moves ending w', Plays (.exec c next) moves ending ∧
            Answered t inputs step state before w moves w' := by
        intro answer w₁ hreply
        obtain ⟨moves, ending, w', hplays, hrest⟩ :=
          ih answer (hset.concat (.executed c answer) fun _ => rfl) w₁
        exact ⟨_, ending, w', hplays.exec, .cons hreply hrest⟩
      have hcrashes : ∀ p w₁, Reply t inputs step state before w (.crashed c p) w₁ →
          ∃ moves ending w', Plays (.exec c next) moves ending ∧
            Answered t inputs step state before w moves w' := fun p w₁ hreply =>
        ⟨_, .unwound p, w₁, .crash, .cons hreply (.nil _ w₁)⟩
      cases hargs : resolveArgs step inputs state c.args with
      | error e => exact hgoes _ w (.refused hargs)
      | ok args =>
          cases hcall : call t step c args w with
          | mk answer w₁ =>
              cases answer with
              | panic p => exact hcrashes p w₁ (.panicked hargs hcall)
              | unwound p => exact hcrashes p w₁ (.unwound hargs hcall)
              | error e => exact hgoes _ w₁ (.failed hargs hcall)
              | streams stdout stderr =>
                  cases hread : readAll stdout stderr with
                  | ok captured => exact hgoes _ w₁ (.captured hargs hcall hread)
                  | error broken =>
                      cases broken with
                      | inl e => exact hgoes _ w₁ (.broken hargs hcall hread)
                      | inr p => exact hcrashes p w₁ (.readPanicked hargs hcall hread)

/-- What a move of a body adds to the log of a run: the call of a command whose arguments resolve in
a state, and a note. -/
def Move.events (inputs : Inputs) (step : String) (state : RunState) : Move → List Event
  | .executed c _ | .crashed c _ =>
    match resolveArgs step inputs state c.args with
    | .ok args => [.called step c.path args]
    | .error _ => []
  | .noted text => [.note step text]
  | .named _ | .looked _ _ | .set _ _ | .saw _ => []

theorem Reply.log_eq {before : List Move} {m : Move} {w w₁ : World σ}
    (h : Reply t inputs step state before w m w₁) :
    w₁.log = w.log ++ m.events inputs step state := by
  have hcalled : ∀ {c : Command} {args : List String} {answer : Execution},
      call t step c args w = (answer, w₁) → w₁.log = w.log ++ [.called step c.path args] :=
    fun hcall => by
      cases hcall
      rfl
  cases h with
  | named => simp [Move.events]
  | looked r => simp [Move.events]
  | refused hargs => simp [Move.events, hargs]
  | failed hargs hcall => simp [Move.events, hargs, hcalled hcall]
  | broken hargs hcall _ => simp [Move.events, hargs, hcalled hcall]
  | captured hargs hcall _ => simp [Move.events, hargs, hcalled hcall]
  | panicked hargs hcall => simp [Move.events, hargs, hcalled hcall]
  | unwound hargs hcall => simp [Move.events, hargs, hcalled hcall]
  | readPanicked hargs hcall _ => simp [Move.events, hargs, hcalled hcall]
  | set key value => simp [Move.events]
  | saw _ => simp [Move.events]
  | noted text => rfl

theorem Answered.log_eq {before moves : List Move} {w w' : World σ}
    (h : Answered t inputs step state before w moves w') :
    w'.log = w.log ++ moves.flatMap (Move.events inputs step state) := by
  induction h with
  | nil => simp
  | cons hreply _ ih => rw [ih, hreply.log_eq, List.flatMap_cons, List.append_assoc]

theorem Answered.reply {before moves : List Move} {m : Move} {w w' : World σ}
    (h : Answered t inputs step state before w moves w') (hm : m ∈ moves) :
    ∃ earlier w₁ w₂, Reply t inputs step state earlier w₁ m w₂ := by
  induction h with
  | nil => cases hm
  | cons hreply _ ih =>
      rcases List.mem_cons.mp hm with rfl | hm
      · exact ⟨_, _, _, hreply⟩
      · exact ih hm

theorem Answered.looked {before moves : List Move} {r : Ref} {answer : Except ResolveError String}
    {w w' : World σ} (h : Answered t inputs step state before w moves w')
    (hm : .looked r answer ∈ moves) : answer = resolve step inputs state r := by
  obtain ⟨_, _, _, hreply⟩ := h.reply hm
  cases hreply
  rfl

theorem Answered.refused_iff {before moves : List Move} {c : Command}
    {answer : Except ContextError Captured} {w w' : World σ}
    (h : Answered t inputs step state before w moves w') (hm : .executed c answer ∈ moves)
    (e : ResolveError) :
    answer = .error (.resolve e) ↔ resolveArgs step inputs state c.args = .error e := by
  obtain ⟨_, _, _, hreply⟩ := h.reply hm
  cases hreply with
  | refused hargs => simp [hargs]
  | failed hargs _ => simp [hargs]
  | broken hargs _ _ => simp [hargs]
  | captured hargs _ _ => simp [hargs]

/-- A function step plays an interaction of its body that is answered from the state the step began
with: so are its lookups, and the arguments of its commands, which are called in turn and no others.
If it ends well the step records what the interaction set last, and nothing otherwise. -/
theorem runStep_of_plays (t : Target σ) (inputs : Inputs) (name : String) (f : Func)
    (state : RunState) (w : World σ) :
    (∃ moves ending w', Plays f.body moves ending ∧
      Answered t inputs name state [] (w.tell (.began name)) moves w') ∧
    ∀ moves ending w', Plays f.body moves ending →
      Answered t inputs name state [] (w.tell (.began name)) moves w' →
      (∀ r answer, .looked r answer ∈ moves → answer = resolve name inputs state r) ∧
      (∀ c answer e, .executed c answer ∈ moves →
        (answer = .error (.resolve e) ↔ resolveArgs name inputs state c.args = .error e)) ∧
      w'.log = w.log ++ .began name :: moves.flatMap (Move.events inputs name state) ∧
      match ending with
      | .done => ∃ outputs, HoldsLast moves f.outputs outputs ∧
        runStep t inputs ⟨name, .func f⟩ state w = (.ok (state.record name outputs), w')
      | .failed failure =>
        runStep t inputs ⟨name, .func f⟩ state w = (.error (.failed (.func name failure)), w')
      | .panicked p =>
        runStep t inputs ⟨name, .func f⟩ state w =
          (.error (.failed (.panicked name p.message)), w')
      | .unwound p => runStep t inputs ⟨name, .func f⟩ state w = (.error (.unwound p), w') := by
  refine ⟨exists_interaction t inputs name state f.body .nothing _, ?_⟩
  intro moves ending w' hplays hanswered
  have hlog := hanswered.log_eq
  obtain ⟨set, hrun, hset⟩ := runBody_of_plays hplays hanswered .nothing
  refine ⟨fun r answer hm => hanswered.looked hm, fun c answer e hm => hanswered.refused_iff hm e,
    by simpa [World.tell] using hlog, ?_⟩
  cases ending with
  | done =>
      refine ⟨withDefaults f.outputs set, hset.withDefaults f.outputs, ?_⟩
      simp only [runStep, runRunnable, runFunc, hrun]
  | failed failure => simp only [runStep, runRunnable, runFunc, hrun]
  | panicked p => simp only [runStep, runRunnable, runFunc, hrun]
  | unwound p => simp only [runStep, runRunnable, runFunc, hrun]

end

/-- Looks for its own output where it cannot be, and sets it again after that. -/
def packing : Body :=
  .future <| .set "archive" "draft.tar" <| .resolve (.output "pack" "archive") fun
    | .ok archive => .set "archive" archive .done
    | .error _ => .exec ⟨"tar", [.ref (.input "seed")]⟩ fun _ =>
      .set "archive" "final.tar" <| .set "note" "packed" .done

def packed : Dict String :=
  Dict.ofList [("archive", "final.tar"), ("digest", ""), ("note", "packed")]

theorem pack_records : ∃ w',
    runStep echoing seeded ⟨"pack", .func ⟨"pack", ["archive", "digest"], packing⟩⟩ .empty
      ⟨.empty, []⟩ = (.ok (RunState.record .empty "pack" packed), w') ∧
    w'.log = [.began "pack", .called "pack" "tar" ["7"]] := by
  obtain ⟨captured, hread⟩ : ∃ captured,
      readAll (.ofBytes (Utf8.encode (echoed "tar" ["7"]))) .empty = .ok captured :=
    ⟨_, readAll_of_ending rfl rfl⟩
  let moves : List Move := [.set "archive" "draft.tar",
    .looked (.output "pack" "archive") (.error (.producerNotRun "pack" "pack" "archive")),
    .executed ⟨"tar", [.ref (.input "seed")]⟩ (.ok captured),
    .set "archive" "final.tar", .set "note" "packed"]
  have hplays : Plays packing moves .done :=
    @Plays.future _ moves .done (.set (.resolve (.exec (.set (.set .done)))))
  have hanswered : Answered echoing seeded "pack" .empty []
      (World.tell ⟨.empty, []⟩ (.began "pack")) moves _ :=
    .cons (.set ..) <| .cons (.looked _) <| .cons (.captured rfl rfl hread) <|
      .cons (.set ..) <| .cons (.set ..) <| .nil ..
  have hpacked : HoldsLast moves ["archive", "digest"] packed :=
    holdsLast_iff.mpr fun key => by
      simp only [packed, Dict.ofList, List.foldl_cons, List.foldl_nil, Dict.get?_insert,
        Dict.get?_empty, moves, lastSet, Move.setting?]
      by_cases hnote : key = "note" <;> by_cases harchive : key = "archive" <;>
        simp [hnote, harchive]
  obtain ⟨-, hrecords⟩ := runStep_of_plays echoing seeded "pack"
    ⟨"pack", ["archive", "digest"], packing⟩ .empty ⟨.empty, []⟩
  obtain ⟨-, -, hlog, outputs, houtputs, hrun⟩ := hrecords moves .done _ hplays hanswered
  rw [houtputs.unique hpacked] at hrun
  exact ⟨_, hrun, hlog⟩

end Pipeline
