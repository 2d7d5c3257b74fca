import Mathlib
import Giskard.Analysis.HandOffRuns
import Giskard.Analysis.WithdrawnAsks

/-!
# The model and the effort of a turn

The supervisor asks for a model or an effort only where its copies differ from what a turn wants,
and takes the copies from the read-back of a hand-off that changed something. As long as the
copies tell the truth whenever it relies on them, every turn runs on what it asked for. They do
not where a hand-off is given up between its `set_model` and its read-back.
-/

set_option autoImplicit false

namespace Giskard.Claude

open Foundation

/-! ## Lines -/

/-- A request that may change the model or the effort. -/
def StdinLine.SetsModel : StdinLine → Prop
  | .control _ (.setModel _) | .control _ (.applyFlagSettings _) => True
  | _ => False

/-- A line that neither changes what the CLI holds nor starts a turn. -/
def StdinLine.Calm (line : StdinLine) : Prop := ¬ line.SetsModel ∧ line.settings = none

namespace Cli

variable {cli : Cli} {line : StdinLine} {verdict : Verdict}

/-- The CLI holds what a turn asked for: the model or its resolution, and the effort. -/
def Holds (cli : Cli) (settings : TurnSettings) : Prop :=
  (∀ model, settings.model = some model →
      cli.model = model ∨ settings.resolvedModel = some cli.model) ∧
    ∀ effort, settings.effort = some effort → cli.effort = some effort

/-- The model and the effort are the same. -/
def Same (cli other : Cli) : Prop := other.model = cli.model ∧ other.effort = cli.effort

theorem Same.holds {other : Cli} (same : cli.Same other) {settings : TurnSettings}
    (holds : cli.Holds settings) : other.Holds settings := by
  unfold Holds
  rw [same.1, same.2]
  exact holds

theorem Same.settings {other : Cli} (same : cli.Same other) : other.settings = cli.settings := by
  unfold Cli.settings
  rw [same.1, same.2]

theorem same_handle (other : ¬ line.SetsModel) : cli.Same (cli.handle line verdict) := by
  unfold handle
  split
  · unfold accept
    split
    · exact ⟨rfl, rfl⟩
    · exact absurd trivial other
    · exact absurd trivial other
    · exact ⟨rfl, rfl⟩
    · exact ⟨rfl, rfl⟩
    · exact ⟨rfl, rfl⟩
    · exact ⟨rfl, rfl⟩
    · exact ⟨rfl, rfl⟩
  · exact ⟨rfl, rfl⟩
  · exact ⟨rfl, rfl⟩
  · exact ⟨rfl, rfl⟩

theorem applied_settings : Session.applied cli.settings = (some cli.model, cli.effort) := by
  unfold Session.applied settings
  cases cli.effort with
  | none => rfl
  | some effort => rfl

theorem handle_getSettings {id : ControlId} {response : Json}
    (there : (id, .success response) ∈ (cli.handle (.control id .getSettings) verdict).answers) :
    (id, .success response) ∈ cli.answers ∨ response = cli.settings := by
  cases verdict with
  | accept given model effort =>
    rcases List.mem_append.1 there with old | new
    · exact Or.inl old
    · cases List.mem_singleton.1 new
      exact Or.inr rfl
  | refuse message code =>
    rcases List.mem_append.1 there with old | new
    · exact Or.inl old
    · cases List.mem_singleton.1 new

end Cli

namespace Lane

variable (resolve : String → Option String)

/-- What a turn asks for under a catalog that resolves the models so. -/
def Asked (model : ModelRef) (settings : TurnSettings) : Prop :=
  settings.model = some model.model ∧ settings.resolvedModel = resolve model.model

/-- The copies tell what the CLI holds: the model or its resolution, and the effort. -/
def Agrees (lane : Lane) (cli : Cli) : Prop :=
  (cli.model = lane.currentModel.model ∨ resolve lane.currentModel.model = some cli.model) ∧
    cli.effort = lane.currentEffort

/-- The hand-off in flight and the lines to come, as far as model and effort go. -/
structure ModelKept (lane : Lane) (cli : Cli) : Prop where
  idle : lane.turnSetup = none → lane.closing = false → lane.Agrees resolve cli
  users : ∀ line ∈ lane.unhandled cli, ∀ settings, line.settings = some settings →
    cli.Holds settings
  asked : ∀ setup, lane.turnSetup = some setup → Asked resolve setup.model setup.settings
  mode : ∀ setup, lane.turnSetup = some setup → setup.stage = .mode → lane.Agrees resolve cli
  wants : ∀ setup, lane.turnSetup = some setup → setup.stage ≠ .mode →
    setup.effortChange = setup.settings.effort ∧
      (setup.modelChange = none → setup.model.model = lane.currentModel.model)
  last : ∀ setup, lane.turnSetup = some setup → setup.stage ≠ .mode →
    (∃ before after, lane.unhandled cli =
        before ++ .control setup.requestId (setup.request setup.stage) :: after ∧
          ∀ line ∈ after, line.Calm) ∨
      setup.requestId ∈ lane.handledIds cli ∧ ∀ line ∈ lane.unhandled cli, line.Calm
  truth : ∀ setup, lane.turnSetup = some setup → setup.stage = .readBack → ∀ response,
    (setup.requestId, .success response) ∈ cli.answers → response = cli.settings

variable {resolve} {lane : Lane} {cli : Cli} {line : StdinLine}

/-! ## Moves -/

theorem ModelKept.write (kept : lane.ModelKept resolve cli) (ordered : lane.Ordered cli)
    (calm : line.Calm) : (lane.write line).ModelKept resolve cli := by
  have more := ordered.unhandled_write line
  refine ⟨kept.idle, ?_, kept.asked, kept.mode, kept.wants, ?_, kept.truth⟩
  · intro other there settings named
    rw [more] at there
    rcases List.mem_append.1 there with old | new
    · exact kept.users other old settings named
    · rw [List.mem_singleton.1 new, calm.2] at named
      cases named
  · intro setup current later
    rw [more, ordered.handledIds_write line]
    rcases kept.last setup current later with ⟨before, after, there, quiet⟩ | ⟨handled, quiet⟩
    · refine Or.inl ⟨before, after ++ [line], ?_, ?_⟩
      · rw [there, List.append_assoc, List.cons_append]
      · intro other inside
        rcases List.mem_append.1 inside with old | new
        · exact quiet other old
        · exact List.mem_singleton.1 new ▸ calm
    · refine Or.inr ⟨handled, ?_⟩
      intro other inside
      rcases List.mem_append.1 inside with old | new
      · exact quiet other old
      · exact List.mem_singleton.1 new ▸ calm

theorem ModelKept.finish {other : Lane} (kept : lane.ModelKept resolve cli)
    (lines : other.stdin = lane.stdin) (free : other.turnSetup = none)
    (agrees : other.closing = false → other.Agrees resolve cli) :
    other.ModelKept resolve cli := by
  have none {setup : TurnSetup} (current : other.turnSetup = some setup) : False := by
    rw [free] at current
    cases current
  have same : other.unhandled cli = lane.unhandled cli := by
    unfold unhandled
    rw [lines]
  refine ⟨fun _ opened => agrees opened, ?_, fun _ current => (none current).elim,
    fun _ current => (none current).elim, fun _ current => (none current).elim,
    fun _ current => (none current).elim, fun _ current => (none current).elim⟩
  rw [same]
  exact kept.users

theorem ModelKept.finishUser {other : Lane} (kept : lane.ModelKept resolve cli)
    (ordered : lane.Ordered cli) {setup : TurnSetup}
    (lines : other.stdin = lane.stdin ++ [userLine setup]) (free : other.turnSetup = none)
    (agrees : other.Agrees resolve cli) (holds : cli.Holds setup.settings) :
    other.ModelKept resolve cli := by
  have none {setup : TurnSetup} (current : other.turnSetup = some setup) : False := by
    rw [free] at current
    cases current
  have more : other.unhandled cli = lane.unhandled cli ++ [userLine setup] := by
    have written := ordered.unhandled_write (userLine setup)
    unfold unhandled Lane.write at written
    unfold unhandled
    rw [lines]
    exact written
  refine ⟨fun _ _ => agrees, ?_, fun _ current => (none current).elim,
    fun _ current => (none current).elim, fun _ current => (none current).elim,
    fun _ current => (none current).elim, fun _ current => (none current).elim⟩
  intro line there settings named
  rw [more] at there
  rcases List.mem_append.1 there with old | new
  · exact kept.users line old settings named
  · rw [List.mem_singleton.1 new] at named
    cases named
    exact holds

theorem Agrees.holds (agrees : lane.Agrees resolve cli) {setup : TurnSetup}
    (asked : Asked resolve setup.model setup.settings)
    (model : (lane.planned setup).modelChange = none)
    (effort : (lane.planned setup).effortChange = none) : cli.Holds setup.settings := by
  unfold planned at model effort
  dsimp only at model effort
  constructor
  · intro wanted same
    rw [same, Option.filter_eq_none_iff] at model
    have current : wanted = lane.currentModel.model := by
      simpa using model wanted rfl
    rw [asked.1] at same
    rw [asked.2, Option.some.inj same, current]
    exact agrees.1
  · intro wanted same
    rw [same, Option.filter_eq_none_iff] at effort
    have current : some wanted = lane.currentEffort := by
      have now := effort wanted rfl
      simp only [Bool.or_eq_true, not_or, decide_eq_true_eq, ne_eq, not_not] at now
      exact now.2
    rw [agrees.2, current]

/-- What has to change is what is wanted. -/
theorem wants_planned {setup : TurnSetup} (asked : Asked resolve setup.model setup.settings)
    (changes : (lane.planned setup).modelChange.isSome ∨
      (lane.planned setup).effortChange.isSome) :
    (lane.planned setup).effortChange = setup.settings.effort ∧
      ((lane.planned setup).modelChange = none → setup.model.model = lane.currentModel.model) := by
  unfold planned at changes ⊢
  dsimp only at changes ⊢
  rw [asked.1] at changes ⊢
  by_cases same : setup.model.model = lane.currentModel.model
  · simp only [Option.filter_some, same, ne_eq, not_true_eq_false, decide_false,
      Bool.false_eq_true, if_false, Option.isSome_none, Bool.false_or, false_or] at changes ⊢
    refine ⟨?_, fun _ => trivial⟩
    cases effort : setup.settings.effort with
    | none => rfl
    | some wanted =>
      rw [effort, Option.filter_some] at changes
      rw [Option.filter_some]
      split at changes
      · next passes => rw [if_pos passes]
      · cases changes
  · simp only [Option.filter_some, ne_eq, same, not_false_eq_true, decide_true, if_true,
      Option.isSome_some, Bool.true_or]
    refine ⟨?_, fun none => by cases none⟩
    cases setup.settings.effort with
    | none => rfl
    | some wanted => rfl

theorem Next.wants {setup next : TurnSetup} {stage : SetupStage} (plan : lane.Next setup next stage)
    (asked : Asked resolve setup.model setup.settings)
    (wants : setup.stage ≠ .mode → setup.effortChange = setup.settings.effort ∧
      (setup.modelChange = none → setup.model.model = lane.currentModel.model)) :
    next.effortChange = next.settings.effort ∧
      (next.modelChange = none → next.model.model = lane.currentModel.model) := by
  cases plan with
  | model here changes => exact wants_planned asked (Or.inl changes)
  | effort here stays changes => exact wants_planned asked (Or.inr changes)
  | effortToo here changes => exact wants (by rw [here]; decide)
  | readBack here stays => exact wants (by rw [here]; decide)
  | readBackToo here => exact wants (by rw [here]; decide)

theorem Next.model_eq {setup next : TurnSetup} {stage : SetupStage}
    (plan : lane.Next setup next stage) : next.model = setup.model := by
  cases plan <;> rfl

theorem ModelKept.reported (kept : lane.ModelKept resolve cli) {setup : TurnSetup} {response : Json}
    (current : lane.turnSetup = some setup) (accepted : Accepted cli.answers setup response)
    (here : setup.stage = .readBack) (reports : lane.Reports setup.settings response) :
    Session.applied response = (some cli.model, cli.effort) ∧
      (cli.model = setup.model.model ∨ resolve setup.model.model = some cli.model) := by
  have asked := kept.asked setup current
  have truth := kept.truth setup current here response accepted
  have applied : Session.applied response = (some cli.model, cli.effort) := by
    rw [truth, Cli.applied_settings]
  refine ⟨applied, ?_⟩
  obtain ⟨model, reported, right⟩ := reports
  rw [applied] at reported
  cases reported
  rw [asked.1, asked.2] at right
  exact right

theorem ModelKept.agrees_takeOver (kept : lane.ModelKept resolve cli) {setup : TurnSetup}
    {response : Json} (current : lane.turnSetup = some setup)
    (accepted : Accepted cli.answers setup response) (here : setup.stage = .readBack)
    (reports : lane.Reports setup.settings response) :
    (lane.takeOver setup (Session.applied response).2).Agrees resolve cli := by
  obtain ⟨applied, right⟩ := kept.reported current accepted here reports
  obtain ⟨_, stays⟩ := kept.wants setup current (by rw [here]; decide)
  rw [applied]
  refine ⟨?_, rfl⟩
  have model : (lane.takeOver setup cli.effort).currentModel.model = setup.model.model := by
    unfold takeOver
    cases change : setup.modelChange with
    | some requested => rfl
    | none => exact (stays change).symm
  rw [model]
  exact right

theorem ModelKept.holds_readBack (kept : lane.ModelKept resolve cli) {setup : TurnSetup}
    {response : Json} (current : lane.turnSetup = some setup)
    (accepted : Accepted cli.answers setup response) (here : setup.stage = .readBack)
    (reports : lane.Reports setup.settings response)
    (effort : setup.effortChange.isSome → setup.effortChange = (Session.applied response).2) :
    cli.Holds setup.settings := by
  obtain ⟨applied, right⟩ := kept.reported current accepted here reports
  obtain ⟨changes, _⟩ := kept.wants setup current (by rw [here]; decide)
  have asked := kept.asked setup current
  rw [applied, changes] at effort
  constructor
  · intro model same
    rw [asked.1] at same
    rw [asked.2, ← Option.some.inj same]
    exact right
  · intro wanted same
    rw [same] at effort
    exact (effort rfl).symm

theorem ModelKept.move {next : Lane} (kept : lane.ModelKept resolve cli)
    (ordered : lane.Ordered cli)
    (move : Move cli.answers (fun lane => lane.Agrees resolve cli) (Asked resolve) lane next) :
    next.ModelKept resolve cli := by
  cases move with
  | skip => exact ⟨kept.idle, kept.users, kept.asked, kept.mode, kept.wants, kept.last, kept.truth⟩
  | control request plain =>
    have calm : (StdinLine.control lane.nextId request).Calm := by
      refine ⟨?_, rfl⟩
      cases request with
      | setModel model => exact plain.elim
      | applyFlagSettings effort => exact plain.elim
      | _ => exact fun sets => sets
    have written := kept.write ordered calm
    exact ⟨written.idle, written.users, written.asked, written.mode, written.wants, written.last,
      written.truth⟩
  | response requestId response => exact kept.write ordered ⟨fun sets => sets, rfl⟩
  | compact text turn => exact kept.write ordered ⟨fun sets => sets, rfl⟩
  | begin setup opened free asks =>
    have agrees := kept.idle free opened
    have written := ordered.unhandled_write
      (.control lane.nextId (.setPermissionMode setup.settings.mode))
    refine ⟨fun gone => (by cases gone), ?_, ?_, ?_, ?_, ?_, ?_⟩
    · intro line there settings named
      have there : line ∈ lane.unhandled cli ++
          [.control lane.nextId (.setPermissionMode setup.settings.mode)] := written ▸ there
      rcases List.mem_append.1 there with old | new
      · exact kept.users line old settings named
      · rw [List.mem_singleton.1 new] at named
        cases named
    · intro hand current
      cases current
      exact asks
    · exact fun _ _ _ => agrees
    · intro hand current later
      cases current
      exact absurd rfl later
    · intro hand current later
      cases current
      exact absurd rfl later
    · intro hand current here
      cases current
      cases here
  | advance setup next stage response current accepted plan =>
    have written := ordered.unhandled_write (.control lane.nextId (next.request stage))
    have wants := plan.wants (kept.asked setup current) (kept.wants setup current)
    refine ⟨fun gone => (by cases gone), ?_, ?_, ?_, ?_, ?_, ?_⟩
    · intro line there settings named
      have there : line ∈ lane.unhandled cli ++ [.control lane.nextId (next.request stage)] :=
        written ▸ there
      rcases List.mem_append.1 there with old | new
      · exact kept.users line old settings named
      · rw [List.mem_singleton.1 new] at named
        cases named
    · intro hand now
      cases now
      have asked := kept.asked setup current
      rw [← plan.settings_eq, ← plan.model_eq] at asked
      exact asked
    · intro hand now here
      cases now
      exact absurd here plan.later
    · intro hand now _
      cases now
      exact wants
    · intro hand now _
      cases now
      exact Or.inl ⟨lane.unhandled cli, [], written, fun _ there => by cases there⟩
    · intro hand now _ answer answered
      cases now
      exact absurd answered (ordered.fresh le_rfl _)
  | start setup response current accepted here model effort =>
    have agrees := kept.mode setup current here
    exact kept.finishUser ordered rfl rfl agrees
      (agrees.holds (kept.asked setup current) model effort)
  | readBack setup response current accepted here reports =>
    exact kept.finish rfl rfl fun _ => kept.agrees_takeOver current accepted here reports
  | readBackStart setup response current accepted here reports effort =>
    exact kept.finishUser ordered rfl rfl (kept.agrees_takeOver current accepted here reports)
      (kept.holds_readBack current accepted here reports effort)
  | drop setup current allowed =>
    refine kept.finish ?_ ?_ ?_
    · rfl
    · rfl
    intro opened
    by_cases here : setup.stage = .mode
    · exact kept.mode setup current here
    · exact allowed opened here
  | close =>
    exact ⟨fun _ opened => (by cases opened), kept.users, kept.asked, kept.mode, kept.wants,
      kept.last, kept.truth⟩

/-! ## The CLI's next line -/

/-- The supervisor relies on its copies, or a turn is still to be handled after the next line. -/
def Relies (lane : Lane) (cli : Cli) : Prop :=
  lane.turnSetup = none ∧ lane.closing = false ∨
    (∃ setup, lane.turnSetup = some setup ∧ setup.stage = .mode) ∨
      ∃ line ∈ (lane.unhandled cli).tail, line.settings ≠ none

theorem Ordered.next_alone (ordered : lane.Ordered cli) {rest : List StdinLine} {id : ControlId}
    (next : lane.unhandled cli = line :: rest) (named : line.controlId = some id)
    {other : StdinLine} (there : other ∈ rest) : other.controlId ≠ some id := by
  intro same
  have once := ordered.once
  have parts : lane.stdin = lane.stdin.take cli.handled ++ line :: rest := by
    rw [← next]
    exact (List.take_append_drop _ _).symm
  rw [parts, List.filterMap_append, List.filterMap_cons_some named] at once
  have tail := (List.nodup_append.1 once).2.1
  exact (List.nodup_cons.1 tail).1 (List.mem_filterMap.2 ⟨other, there, same⟩)

theorem ModelKept.handle (kept : lane.ModelKept resolve cli) (ordered : lane.Ordered cli)
    {rest : List StdinLine} {verdict : Verdict} (next : lane.unhandled cli = line :: rest)
    (still : lane.Relies cli → cli.Same (cli.handle line verdict)) :
    lane.ModelKept resolve (cli.handle line verdict) := by
  have left : lane.unhandled (cli.handle line verdict) = rest := unhandled_handle next
  have agrees (same : cli.Same (cli.handle line verdict)) (was : lane.Agrees resolve cli) :
      lane.Agrees resolve (cli.handle line verdict) := by
    unfold Agrees
    rw [same.1, same.2]
    exact was
  refine ⟨?_, ?_, kept.asked, ?_, kept.wants, ?_, ?_⟩
  · intro free opened
    exact agrees (still (Or.inl ⟨free, opened⟩)) (kept.idle free opened)
  · intro other there settings named
    rw [left] at there
    have waits : ∃ line ∈ (lane.unhandled cli).tail, line.settings ≠ none := by
      refine ⟨other, next ▸ there, ?_⟩
      rw [named]
      exact Option.some_ne_none _
    exact (still (Or.inr (Or.inr waits))).holds
      (kept.users other (next ▸ List.mem_cons_of_mem _ there) settings named)
  · intro setup current here
    exact agrees (still (Or.inr (Or.inl ⟨setup, current, here⟩))) (kept.mode setup current here)
  · intro setup current later
    rw [left, handledIds_handle next]
    rcases kept.last setup current later with ⟨before, after, there, quiet⟩ | ⟨handled, quiet⟩
    · rw [next] at there
      cases before with
      | nil =>
        obtain ⟨rfl, rfl⟩ := List.cons.inj there
        exact Or.inr ⟨List.mem_append_right _ (List.mem_singleton_self _), quiet⟩
      | cons first before => exact Or.inl ⟨before, after, (List.cons.inj there).2, quiet⟩
    · refine Or.inr ⟨List.mem_append_left _ handled, ?_⟩
      exact fun other there => quiet other (next ▸ List.mem_cons_of_mem _ there)
  · intro setup current here response answered
    have here' : line ∈ lane.unhandled cli := next ▸ List.mem_cons_self
    rcases kept.last setup current (by rw [here]; decide) with
      ⟨before, after, there, quiet⟩ | ⟨handled, quiet⟩
    · have request : setup.request setup.stage = .getSettings := by
        rw [here]
        rfl
      rw [request] at there
      have waits : .control setup.requestId .getSettings ∈ lane.unhandled cli := by
        rw [there]
        exact List.mem_append_right _ List.mem_cons_self
      rw [next] at there
      cases before with
      | nil =>
        obtain ⟨rfl, _⟩ := List.cons.inj there
        have same : cli.Same (cli.handle (.control setup.requestId .getSettings) verdict) :=
          Cli.same_handle fun sets => sets
        rw [same.settings]
        rcases Cli.handle_getSettings answered with old | truth
        · exact absurd old (ordered.unanswered waits rfl _)
        · exact truth
      | cons first before =>
        rcases Cli.answers_handle _ answered with old | new
        · exact absurd old (ordered.unanswered waits rfl _)
        · have later : .control setup.requestId .getSettings ∈ rest := by
            rw [(List.cons.inj there).2]
            exact List.mem_append_right _ List.mem_cons_self
          exact absurd rfl (ordered.next_alone next new later)
    · have calm := quiet line here'
      rw [(Cli.same_handle calm.1).settings]
      rcases Cli.answers_handle _ answered with old | new
      · exact kept.truth setup current here response old
      · exact absurd handled (ordered.apart here' new)

end Lane

namespace Session

variable {s : Session} {fair : ModelRef → TurnSettings → Prop}

/-! ## What the turns in the queue ask for -/

/-- Under a catalog that does not change. -/
def Step.Catalog (resolve : String → Option String) : Step → Prop
  | .startTurn _ _ _ _ catalog _ => catalog = resolve
  | _ => True

/-- Every turn in the queue asks for what it should. -/
def AsksFairly (s : Session) (fair : ModelRef → TurnSettings → Prop) : Prop :=
  ∀ command ∈ s.queue, command.Asks fair

theorem AsksFairly.of_kept {t : Session} (asks : s.AsksFairly fair) (same : t.kept = s.kept) :
    t.AsksFairly fair := by
  simp only [kept, Prod.mk.injEq] at same
  unfold AsksFairly
  rw [same.2.2.1]
  exact asks

theorem asksFairly_empty {t : Session} {taken : List ChildCommand} {setup : Option TurnSetup}
    (ended : t.kept = (true, taken, [], setup)) : t.AsksFairly fair := by
  simp only [kept, Prod.mk.injEq] at ended
  intro command there
  rw [ended.2.2.1] at there
  cases there

theorem asks_of_handOff {command : ChildCommand} (other : command.handOff = none) :
    command.Asks fair := by
  cases command with
  | startTurn line turn model settings notice reply => cases other
  | _ => trivial

theorem AsksFairly.sendNow (asks : s.AsksFairly fair) {command : ChildCommand}
    (mine : command.Asks fair) : (s.sendNow command).AsksFairly fair := by
  unfold Session.sendNow
  split
  · exact asks.of_kept (kept_send s _ _)
  · split
    · intro other there
      rcases List.mem_append.1 there with old | new
      · exact asks other old
      · rwa [List.mem_singleton.1 new]
    · exact asks.of_kept (kept_send s _ _)

theorem AsksFairly.sendTaken (asks : s.AsksFairly fair) {command : ChildCommand}
    (other : command.handOff = none) : (s.sendTaken command).AsksFairly fair := by
  unfold Session.sendTaken
  split
  · exact AsksFairly.of_kept asks (kept_send _ _ _)
  · split
    · exact asks.sendNow (asks_of_handOff other)
    · exact asks.of_kept (kept_send s _ _)

theorem AsksFairly.loopStep (asks : s.AsksFairly fair) (label : Step) :
    (if s.exited || s.ending.isSome then s else s.loopStep label).AsksFairly fair := by
  split
  · exact asks
  · obtain ⟨queue, fewer, same⟩ := outside_loopStep s label
    simp only [outside, Prod.mk.injEq] at same
    intro command there
    rw [same.2.2] at there
    exact asks command (fewer there)

theorem AsksFairly.step {resolve : String → Option String}
    (asks : s.AsksFairly (Lane.Asked resolve)) (ends : s.Over) {label : Step}
    (catalog : label.Catalog resolve) : (s.step label).AsksFairly (Lane.Asked resolve) := by
  have fresh : ({ s with nextTicket := s.nextTicket + 1 } : Session).AsksFairly
      (Lane.Asked resolve) := asks
  have sent (request : Call) (reply : Ticket) :
      (request.command reply).Asks (Lane.Asked resolve) := by cases request <;> trivial
  unfold Session.step
  split
  · unfold startTurn newTicket
    dsimp only
    split
    · apply AsksFairly.sendNow
      · exact asks
      · refine ⟨rfl, ?_⟩
        dsimp only
        rw [show _ = resolve from catalog]
    · exact fresh
  · unfold takeApproval newTicket
    dsimp only
    split
    · exact fresh.of_kept (kept_send _ _ _)
    · exact asks
  · unfold takeServerRequest newTicket
    dsimp only
    split
    · exact fresh.of_kept (kept_send _ _ _)
    · exact asks
  · split
    · next command there =>
      apply AsksFairly.sendTaken
      · exact asks
      · exact ends.answers command (List.mem_of_getElem? there)
    · exact asks
  · unfold call newTicket
    dsimp only
    split
    · exact fresh.sendNow (sent _ _)
    · exact fresh.sendNow (sent _ _)
    · split
      · exact fresh.sendNow (sent _ _)
      · exact fresh
  · exact asks
  · exact asks
  · exact asks
  · exact asks
  · exact asks
  · split
    · split
      · exact asks
      · exact asksFairly_empty (kept_onExit s _)
    · exact asks
  · split
    · exact asks
    · exact asksFairly_empty (kept_onAbort s)
  · exact asks.loopStep _

end Session

namespace World

variable {w : World} {resolve : String → Option String}

/-! ## Runs -/

/-- What every run keeps in which the copies are to be relied on. -/
structure ModelsKept (resolve : String → Option String) (w : World) : Prop where
  ordered : w.session.lane.Ordered w.cli
  models : w.session.lane.ModelKept resolve w.cli
  ends : w.session.Over
  asks : w.session.AsksFairly (Lane.Asked resolve)

/-- A step after which the copies are still to be relied on: a hand-off that is given up after
its mode, and without a read-back, finds them telling the truth, and the CLI holds on to its
model and effort while the supervisor relies on them or a turn is to be handled. -/
def Steady (resolve : String → Option String) (w : World) : WorldStep → Prop
  | .session label =>
    label.Catalog resolve ∧ w.session.MayDrop (fun lane => lane.Agrees resolve w.cli) label
  | .cli verdict =>
    w.session.lane.Relies w.cli → ∀ line, w.nextLine = some line →
      w.cli.Same (w.cli.handle line verdict)

theorem ModelsKept.step (kept : w.ModelsKept resolve) {label : WorldStep}
    (steady : w.Steady resolve label) : (w.step label).ModelsKept resolve := by
  cases label with
  | session label =>
    obtain ⟨catalog, allowed⟩ := steady
    unfold World.step
    dsimp only
    split
    · next genuine =>
      have moves : Lane.Moves w.cli.answers (fun lane => lane.Agrees resolve w.cli)
          (Lane.Asked resolve) w.session.lane (w.session.step label).lane :=
        Session.moves_step (outputs_genuine genuine) allowed kept.asks
      have both : (w.session.step label).lane.Ordered w.cli ∧
          (w.session.step label).lane.ModelKept resolve w.cli := by
        generalize (w.session.step label).lane = last at moves
        induction moves with
        | refl => exact ⟨kept.ordered, kept.models⟩
        | tail _ move ih => exact ⟨ih.1.move move, ih.2.move ih.1 move⟩
      exact ⟨both.1, both.2, kept.ends.step label, kept.asks.step kept.ends catalog⟩
    · exact kept
  | cli verdict =>
    unfold World.step
    dsimp only
    split
    · next line next =>
      obtain ⟨rest, there⟩ := unhandled_of_nextLine next
      exact ⟨kept.ordered.handle there,
        kept.models.handle kept.ordered there fun relies => steady relies line next, kept.ends,
        kept.asks⟩
    · exact kept

theorem modelsKept_spawn (thread : ThreadId) (mapper : MapperView) (model entryModel : ModelRef)
    (mode : String) : (spawn thread mapper model entryModel mode model.model
      model.reasoningEffort).ModelsKept resolve where
  ordered := (kept_spawn thread mapper model entryModel mode _ _).ordered
  models := ⟨fun _ _ => ⟨Or.inl rfl, rfl⟩, fun _ there => (by cases there),
    fun _ current => (by cases current), fun _ current => (by cases current),
    fun _ current => (by cases current), fun _ current => (by cases current),
    fun _ current => (by cases current)⟩
  ends := (kept_spawn thread mapper model entryModel mode model.model model.reasoningEffort).ends
  asks _ there := by cases there

/-- The CLI handles the user line of a turn with the model and the effort that the turn asked
for. -/
def ModelsRight (w : World) : Prop :=
  ∀ line turn settings reply active,
    w.nextLine = some (.user line (.startTurn turn settings reply) active) →
      w.cli.Holds settings

theorem ModelsKept.right (kept : w.ModelsKept resolve) : w.ModelsRight := by
  intro line turn settings reply active next
  obtain ⟨rest, there⟩ := unhandled_of_nextLine next
  exact kept.models.users _ (there ▸ List.mem_cons_self) settings rfl

/-- Every turn runs on the model and the effort it asked for, in every run of steps that leave the
supervisor's copies to be relied on. -/
theorem turns_run_on_their_models (thread : ThreadId) (mapper : MapperView)
    (model entryModel : ModelRef) (mode : String) (resolve : String → Option String)
    (schedule : List WorldStep)
    (steady : Schedule.Meets World.step (Steady resolve)
      (spawn thread mapper model entryModel mode model.model model.reasoningEffort) schedule) :
    (Schedule.run World.step
      (spawn thread mapper model entryModel mode model.model model.reasoningEffort)
        schedule).ModelsRight := by
  apply ModelsKept.right
  exact Schedule.run_invariant (modelsKept_spawn thread mapper model entryModel mode) steady
    fun w label kept steady => kept.step steady

/-! ## Two runs -/

def noCatalog : String → Option String := fun _ => none

def sampleWorld : World :=
  spawn ⟨⟨1⟩⟩ Session.quiet Session.sampleModel Session.sampleModel "default"
    Session.sampleModel.model Session.sampleModel.reasoningEffort

def otherModel : ModelRef := ⟨"anthropic", "opus", none⟩

/-- A turn under a model. -/
def handOff (model : ModelRef) : WorldStep :=
  .session (.startTurn "hello" ⟨⟨2⟩⟩ "default" (some model) noCatalog none)

/-- The answer of the CLI to one request comes in. -/
def answered (id : ControlId) (response : Json) : WorldStep :=
  .session (.line Session.quiet [.controlResponse id (.success response)])

/-- A turn that changes the model, up to its user line. -/
def sampleSwitch : List WorldStep :=
  [handOff otherModel, .session .command, .cli (.accept .null "sonnet" none), answered 0 .null,
    .cli (.accept .null "opus" none), answered 1 .null, .cli (.accept .null "opus" none),
    answered 2 (.obj [("applied", .obj [("model", .str "opus"), ("effort", .null)])])]

theorem sample_switch_right :
    Schedule.Meets World.step (Steady noCatalog) sampleWorld sampleSwitch ∧
      (Schedule.run World.step sampleWorld sampleSwitch).ModelsRight := by
  have steady : Schedule.Meets World.step (Steady noCatalog) sampleWorld sampleSwitch := by
    refine ⟨⟨rfl, trivial⟩, ⟨trivial, trivial⟩, ?_, ⟨trivial, fun _ => ⟨?_, fun _ => trivial⟩⟩, ?_,
      ⟨trivial, fun _ => ⟨?_, fun _ => trivial⟩⟩, ?_,
      ⟨trivial, fun _ => ⟨?_, fun _ => trivial⟩⟩, trivial⟩
    · rintro - line next
      cases next
      exact ⟨rfl, rfl⟩
    · intro setup current _ _ later
      cases current
      exact absurd rfl later
    · rintro (⟨free, _⟩ | ⟨setup, current, here⟩ | ⟨line, there, _⟩)
      · cases free
      · cases current
        cases here
      · cases there
    · intro setup current _ _ _
      rintro (⟨error, failed⟩ | ⟨here, _⟩)
      · cases failed
      · cases current
        cases here
    · rintro (⟨free, _⟩ | ⟨setup, current, here⟩ | ⟨line, there, _⟩)
      · cases free
      · cases current
        cases here
      · cases there
    · intro setup current _ _ _
      rintro (⟨error, failed⟩ | ⟨_, response, same, wrong⟩)
      · cases failed
      · cases current
        cases same
        exact absurd ⟨"opus", rfl, Or.inl rfl⟩ wrong
  exact ⟨steady, turns_run_on_their_models _ _ _ _ _ _ _ steady⟩

/-- A turn's `set_model` is not answered in time but accepted, and the next turn wants the model
that the supervisor still believes in. -/
def sampleLateSwitch : List WorldStep :=
  [handOff otherModel, .session .command, .cli (.accept .null "sonnet" none), answered 0 .null,
    .session (.deadline "30.0"), .cli (.accept .null "opus" none), handOff Session.sampleModel,
    .session .command, .cli (.accept .null "opus" none), answered 2 .null]

theorem late_switch_wrong :
    ¬ (Schedule.run World.step sampleWorld sampleLateSwitch).ModelsRight := by
  intro right
  have holds := right "hello" ⟨⟨2⟩⟩ ⟨"default", some "sonnet", none, none⟩ 1 none rfl
  rcases holds.1 "sonnet" rfl with same | resolved
  · have other : (Schedule.run World.step sampleWorld sampleLateSwitch).cli.model = "opus" := rfl
    rw [other] at same
    exact absurd same (by decide)
  · cases resolved

end World

end Giskard.Claude
