import Mathlib
import Giskard.Analysis.TurnHandOffs

/-!
# The permission mode of a turn

The lines that the CLI has not handled yet stand between what the CLI holds and what the
supervisor knows. A hand-off that awaits its mode has the last mode request among them, or the
CLI has handled it; once the mode is in, no mode request is left, until the next hand-off. So the
user line of a turn is handled under the turn's own mode.
-/

set_option autoImplicit false

namespace Giskard.Claude

open Foundation (Json)

/-! ## The lines the CLI has not handled -/

/-- The id of a control request. -/
def StdinLine.controlId : StdinLine → Option ControlId
  | .control id _ => some id
  | _ => none

/-- A request to change the permission mode. -/
def StdinLine.SetsMode : StdinLine → Prop
  | .control _ (.setPermissionMode _) => True
  | _ => False

theorem StdinLine.not_setsMode {line : StdinLine} (other : line.controlId = none) :
    ¬ line.SetsMode := by
  cases line with
  | control id request => cases other
  | _ => exact fun sets => sets

/-- The settings of the turn that a user line starts. -/
def StdinLine.settings : StdinLine → Option TurnSettings
  | .user _ (.startTurn _ settings _) _ => some settings
  | _ => none

namespace Lane

/-- The lines the CLI has still to handle. -/
def unhandled (lane : Lane) (cli : Cli) : List StdinLine := lane.stdin.drop cli.handled

/-- The CLI is within stdin, the ids of the requests are fresh, and only handled requests have
answers. -/
structure Ordered (lane : Lane) (cli : Cli) : Prop where
  within : cli.handled ≤ lane.stdin.length
  below : ∀ id ∈ lane.stdin.filterMap StdinLine.controlId, id < lane.nextId
  once : (lane.stdin.filterMap StdinLine.controlId).Nodup
  given : ∀ entry ∈ cli.answers,
    entry.1 ∈ (lane.stdin.take cli.handled).filterMap StdinLine.controlId

variable {lane : Lane} {cli : Cli}

theorem Ordered.unhandled_write (ordered : lane.Ordered cli) (line : StdinLine) :
    (lane.write line).unhandled cli = lane.unhandled cli ++ [line] :=
  List.drop_append_of_le_length ordered.within

/-- The ids of the requests that the CLI has handled. -/
def handledIds (lane : Lane) (cli : Cli) : List ControlId :=
  (lane.stdin.take cli.handled).filterMap StdinLine.controlId

theorem Ordered.handledIds_write (ordered : lane.Ordered cli) (line : StdinLine) :
    (lane.write line).handledIds cli = lane.handledIds cli := by
  unfold handledIds write
  rw [List.take_append_of_le_length ordered.within]

theorem Ordered.apart (ordered : lane.Ordered cli) {id : ControlId} {line : StdinLine}
    (there : line ∈ lane.unhandled cli) (named : line.controlId = some id) :
    id ∉ lane.handledIds cli := by
  intro handled
  have whole := ordered.once
  rw [← List.take_append_drop cli.handled lane.stdin, List.filterMap_append] at whole
  exact (List.nodup_append.1 whole).2.2 id handled id (List.mem_filterMap.2 ⟨_, there, named⟩) rfl

theorem Ordered.unanswered (ordered : lane.Ordered cli) {id : ControlId} {line : StdinLine}
    (there : line ∈ lane.unhandled cli) (named : line.controlId = some id)
    (payload : ControlPayload) : (id, payload) ∉ cli.answers :=
  fun answered => ordered.apart there named (ordered.given (id, payload) answered)

theorem Ordered.fresh (ordered : lane.Ordered cli) {id : ControlId} (new : lane.nextId ≤ id)
    (payload : ControlPayload) : (id, payload) ∉ cli.answers := by
  intro answered
  obtain ⟨line, there, named⟩ := List.mem_filterMap.1 (ordered.given (id, payload) answered)
  have below := ordered.below id (List.mem_filterMap.2 ⟨line, List.mem_of_mem_take there, named⟩)
  exact absurd below (Nat.not_lt.2 new)

theorem Ordered.write (ordered : lane.Ordered cli) {line : StdinLine}
    (other : line.controlId = none) : (lane.write line).Ordered cli where
  within := by
    unfold Lane.write
    rw [List.length_append]
    exact ordered.within.trans (Nat.le_add_right _ _)
  below id there := by
    apply ordered.below id
    unfold Lane.write at there
    rwa [List.filterMap_append, List.filterMap_cons_none other, List.filterMap_nil,
      List.append_nil] at there
  once := by
    unfold Lane.write
    rw [List.filterMap_append, List.filterMap_cons_none other, List.filterMap_nil, List.append_nil]
    exact ordered.once
  given entry there := by
    unfold Lane.write
    rw [List.take_append_of_le_length ordered.within]
    exact ordered.given entry there

/-- A request under a fresh id. -/
theorem Ordered.request (ordered : lane.Ordered cli) (request : ControlRequest) :
    (lane.request request).Ordered cli where
  within := by
    unfold Lane.request
    rw [List.length_append]
    exact ordered.within.trans (Nat.le_add_right _ _)
  below id there := by
    unfold Lane.request at there ⊢
    rw [List.filterMap_append, List.mem_append] at there
    dsimp only
    rcases there with there | there
    · exact (ordered.below id there).trans (Nat.lt_succ_self _)
    · have same : id = lane.nextId := by simpa [StdinLine.controlId] using there
      rw [same]
      exact Nat.lt_succ_self _
  once := by
    unfold Lane.request
    rw [List.filterMap_append, List.nodup_append]
    refine ⟨ordered.once, List.nodup_singleton _, ?_⟩
    intro first inside second last same
    have new : second = lane.nextId := by simpa [StdinLine.controlId] using last
    have below := ordered.below first inside
    rw [same, new] at below
    exact absurd below (Nat.lt_irrefl _)
  given entry there := by
    unfold Lane.request
    rw [List.take_append_of_le_length ordered.within]
    exact ordered.given entry there

theorem Ordered.of_lines {other : Lane} (ordered : lane.Ordered cli)
    (lines : other.stdin = lane.stdin) (ids : lane.nextId ≤ other.nextId) :
    other.Ordered cli where
  within := lines ▸ ordered.within
  below id there := (ordered.below id (lines ▸ there)).trans_le ids
  once := lines ▸ ordered.once
  given := lines ▸ ordered.given

theorem Ordered.move {may : Lane → Prop}
    {fair : ModelRef → TurnSettings → Prop} {next : Lane} (ordered : lane.Ordered cli)
    (move : Move cli.answers may fair lane next) : next.Ordered cli := by
  cases move with
  | skip => exact ordered.of_lines rfl (Nat.le_succ _)
  | control request plain => exact ordered.request request
  | response requestId response => exact ordered.write rfl
  | compact line turn => exact ordered.write rfl
  | begin setup opened free asks => exact (ordered.request _).of_lines rfl le_rfl
  | advance setup next stage response current accepted plan =>
    exact (ordered.request _).of_lines rfl le_rfl
  | start setup response current accepted here model effort =>
    exact (ordered.write (rfl : (userLine setup).controlId = none)).of_lines rfl le_rfl
  | readBack setup response current accepted here reports => exact ordered.of_lines rfl le_rfl
  | readBackStart setup response current accepted here reports effort =>
    exact (ordered.write (rfl : (userLine setup).controlId = none)).of_lines rfl le_rfl
  | drop setup current allowed => exact ordered.of_lines rfl le_rfl
  | close => exact ordered.of_lines rfl le_rfl

end Lane

/-! ## The CLI's next line -/

namespace Cli

variable {cli : Cli} {line : StdinLine} {verdict : Verdict}

theorem handled_handle : (cli.handle line verdict).handled = cli.handled + 1 := by
  unfold handle
  split
  · unfold accept
    split <;> rfl
  · rfl
  · rfl
  · rfl

/-- The answers after a line: an answer to it, or none. -/
theorem answers_handle (entry : ControlId × ControlPayload)
    (there : entry ∈ (cli.handle line verdict).answers) :
    entry ∈ cli.answers ∨ line.controlId = some entry.1 := by
  have answered (id : ControlId) (payload : ControlPayload)
      (there : entry ∈ cli.answers ++ [(id, payload)]) :
      entry ∈ cli.answers ∨ some id = some entry.1 := by
    rcases List.mem_append.1 there with old | new
    · exact Or.inl old
    · rw [List.mem_singleton.1 new]
      exact Or.inr rfl
  unfold handle at there
  dsimp only at there
  split at there
  · unfold accept at there
    split at there
    · exact answered _ _ there
    · exact answered _ _ there
    · exact answered _ _ there
    · exact answered _ _ there
    · exact answered _ _ there
    · exact answered _ _ there
    · exact answered _ _ there
    · exact answered _ _ there
  · exact answered _ _ there
  · exact Or.inl there
  · exact Or.inl there

theorem mode_handle (other : ¬ line.SetsMode) : (cli.handle line verdict).mode = cli.mode := by
  unfold handle
  dsimp only
  split
  · unfold accept
    split
    · exact absurd trivial other
    · rfl
    · rfl
    · rfl
    · rfl
    · rfl
    · rfl
    · rfl
  · rfl
  · rfl
  · rfl

theorem handle_setPermissionMode {id : ControlId} {mode : String} (payload : ControlPayload)
    (there : (id, payload) ∈
      (cli.handle (.control id (.setPermissionMode mode)) verdict).answers) :
    (id, payload) ∈ cli.answers ∨
      ((cli.handle (.control id (.setPermissionMode mode)) verdict).mode = mode ∨
        ∀ response, payload ≠ .success response) := by
  cases verdict with
  | accept response model effort => exact Or.inr (Or.inl rfl)
  | refuse message code =>
    rcases List.mem_append.1 there with old | new
    · exact Or.inl old
    · refine Or.inr (Or.inr ?_)
      intro response same
      rw [same] at new
      simp at new

end Cli

namespace Lane

variable {lane : Lane} {cli : Cli} {line : StdinLine}

theorem unhandled_handle {rest : List StdinLine} {verdict : Verdict}
    (next : lane.unhandled cli = line :: rest) :
    lane.unhandled (cli.handle line verdict) = rest := by
  have tail : (lane.stdin.drop cli.handled).tail = rest := by
    unfold unhandled at next
    rw [next]
    rfl
  unfold unhandled
  rw [Cli.handled_handle, ← List.tail_drop, tail]

theorem next_within {rest : List StdinLine} (next : lane.unhandled cli = line :: rest) :
    ∃ inside : cli.handled < lane.stdin.length, lane.stdin[cli.handled] = line := by
  have inside : cli.handled < lane.stdin.length := by
    by_contra outside
    unfold unhandled at next
    rw [List.drop_eq_nil_of_le (Nat.not_lt.1 outside)] at next
    cases next
  refine ⟨inside, ?_⟩
  unfold unhandled at next
  rw [List.drop_eq_getElem_cons inside] at next
  exact (List.cons.inj next).1

theorem handledIds_handle {rest : List StdinLine} {verdict : Verdict}
    (next : lane.unhandled cli = line :: rest) :
    lane.handledIds (cli.handle line verdict) =
      lane.handledIds cli ++ [line].filterMap StdinLine.controlId := by
  obtain ⟨inside, first⟩ := next_within next
  unfold handledIds
  rw [Cli.handled_handle, List.take_succ_eq_append_getElem inside, first, List.filterMap_append]

theorem Ordered.handle (ordered : lane.Ordered cli) {rest : List StdinLine} {verdict : Verdict}
    (next : lane.unhandled cli = line :: rest) :
    lane.Ordered (cli.handle line verdict) := by
  obtain ⟨inside, _⟩ := next_within next
  refine ⟨?_, ordered.below, ordered.once, ?_⟩
  · rw [Cli.handled_handle]
    exact inside
  · intro entry there
    have more : lane.handledIds (cli.handle line verdict) =
        lane.handledIds cli ++ [line].filterMap StdinLine.controlId := handledIds_handle next
    unfold handledIds at more
    rw [more, List.mem_append]
    rcases Cli.answers_handle entry there with old | new
    · exact Or.inl (ordered.given entry old)
    · exact Or.inr (List.mem_filterMap.2 ⟨line, List.mem_singleton_self _, new⟩)

/-! ## The mode -/

/-- Under a mode, the lines that start turns come before the first mode request, and ask for it. -/
def RunsUnder (mode : String) : List StdinLine → Prop
  | [] => True
  | line :: rest =>
    (line.SetsMode → ∀ later ∈ rest, later.settings = none) ∧
      (∀ settings, line.settings = some settings → settings.mode = mode) ∧
        (¬ line.SetsMode → RunsUnder mode rest)

theorem RunsUnder.concat {mode : String} {lines : List StdinLine} (runs : RunsUnder mode lines)
    (starts : ∀ settings, line.settings = some settings →
      settings.mode = mode ∧ ∀ earlier ∈ lines, ¬ earlier.SetsMode) :
    RunsUnder mode (lines ++ [line]) := by
  induction lines with
  | nil => exact ⟨fun _ _ there => (by cases there), fun settings same => (starts settings same).1,
      fun _ => trivial⟩
  | cons first rest ih =>
    obtain ⟨shut, mine, more⟩ := runs
    refine ⟨?_, mine, ?_⟩
    · intro sets later there
      rcases List.mem_append.1 there with inside | last
      · exact shut sets later inside
      · rw [List.mem_singleton.1 last]
        cases same : line.settings with
        | none => rfl
        | some settings =>
          exact absurd sets ((starts settings same).2 first List.mem_cons_self)
    · intro other
      apply ih (more other)
      intro settings same
      obtain ⟨right, clear⟩ := starts settings same
      exact ⟨right, fun earlier there => clear earlier (List.mem_cons_of_mem _ there)⟩

theorem RunsUnder.quiet {mode : String} {lines : List StdinLine}
    (none : ∀ line ∈ lines, line.settings = .none) : RunsUnder mode lines := by
  induction lines with
  | nil => trivial
  | cons first rest ih =>
    have tail : ∀ line ∈ rest, line.settings = .none :=
      fun line there => none line (List.mem_cons_of_mem _ there)
    refine ⟨fun _ => tail, ?_, fun _ => ih tail⟩
    intro settings same
    rw [none first List.mem_cons_self] at same
    cases same

/-- The hand-off in flight and the lines to come, as far as the mode goes. -/
structure ModeKept (lane : Lane) (cli : Cli) : Prop where
  runs : RunsUnder cli.mode (lane.unhandled cli)
  awaited : ∀ setup, lane.turnSetup = some setup → setup.stage = .mode →
    (∃ before after, lane.unhandled cli =
        before ++ .control setup.requestId (.setPermissionMode setup.settings.mode) :: after ∧
          ∀ line ∈ after, ¬ line.SetsMode) ∨
      setup.requestId ∈ lane.handledIds cli ∧ (∀ line ∈ lane.unhandled cli, ¬ line.SetsMode) ∧
        ∀ response, (setup.requestId, .success response) ∈ cli.answers →
          cli.mode = setup.settings.mode
  held : ∀ setup, lane.turnSetup = some setup → setup.stage ≠ .mode →
    (∀ line ∈ lane.unhandled cli, ¬ line.SetsMode) ∧ cli.mode = setup.settings.mode
  alone : ∀ text prompt active, .user text prompt active ∈ lane.stdin → active = none

theorem ModeKept.accepted (kept : lane.ModeKept cli) (ordered : lane.Ordered cli)
    {setup : TurnSetup} {response : Json} (current : lane.turnSetup = some setup)
    (accepted : Accepted cli.answers setup response) :
    (∀ line ∈ lane.unhandled cli, ¬ line.SetsMode) ∧ cli.mode = setup.settings.mode := by
  by_cases here : setup.stage = .mode
  · rcases kept.awaited setup current here with ⟨before, after, there, _⟩ | ⟨_, clear, given⟩
    · have waits : .control setup.requestId (.setPermissionMode setup.settings.mode) ∈
          lane.unhandled cli := by
        rw [there]
        exact List.mem_append_right _ List.mem_cons_self
      exact absurd accepted (ordered.unanswered waits rfl _)
    · exact ⟨clear, given response accepted⟩
  · exact kept.held setup current here

theorem ModeKept.of_lines {other : Lane} (kept : lane.ModeKept cli)
    (lines : other.stdin = lane.stdin)
    (setup : other.turnSetup = lane.turnSetup ∨ other.turnSetup = none) : other.ModeKept cli := by
  have same : other.unhandled cli = lane.unhandled cli := by
    unfold unhandled
    rw [lines]
  have back {hand : TurnSetup} (current : other.turnSetup = some hand) :
      lane.turnSetup = some hand := by
    rcases setup with kept | gone
    · rwa [← kept]
    · rw [gone] at current
      cases current
  have ids : other.handledIds cli = lane.handledIds cli := by
    unfold handledIds
    rw [lines]
  refine ⟨same ▸ kept.runs, ?_, ?_, lines ▸ kept.alone⟩
  · intro hand current here
    rw [same, ids]
    exact kept.awaited hand (back current) here
  · intro hand current later
    rw [same]
    exact kept.held hand (back current) later

/-- A line that changes no mode. -/
theorem ModeKept.write (kept : lane.ModeKept cli) (ordered : lane.Ordered cli)
    (other : ¬ line.SetsMode)
    (starts : ∀ settings, line.settings = some settings → settings.mode = cli.mode ∧
      ∀ earlier ∈ lane.unhandled cli, ¬ earlier.SetsMode)
    (alone : ∀ text prompt active, line = .user text prompt active → active = none) :
    (lane.write line).ModeKept cli := by
  have more := ordered.unhandled_write line
  have clear (before : ∀ earlier ∈ lane.unhandled cli, ¬ earlier.SetsMode) :
      ∀ earlier ∈ (lane.write line).unhandled cli, ¬ earlier.SetsMode := by
    intro earlier there
    rw [more, List.mem_append, List.mem_singleton] at there
    rcases there with there | rfl
    · exact before earlier there
    · exact other
  refine ⟨?_, ?_, ?_, ?_⟩
  · rw [more]
    exact kept.runs.concat starts
  · intro setup current here
    rcases kept.awaited setup current here with ⟨before, after, there, last⟩ |
      ⟨handled, none, given⟩
    · refine Or.inl ⟨before, after ++ [line], ?_, ?_⟩
      · rw [more, there, List.append_assoc, List.cons_append]
      · intro later inside
        rcases List.mem_append.1 inside with inside | inside
        · exact last later inside
        · rw [List.mem_singleton.1 inside]
          exact other
    · exact Or.inr ⟨ordered.handledIds_write line ▸ handled, clear none, given⟩
  · intro setup current later
    obtain ⟨none, mode⟩ := kept.held setup current later
    exact ⟨clear none, mode⟩
  · intro text prompt active there
    rcases List.mem_append.1 there with there | there
    · exact kept.alone text prompt active there
    · exact alone text prompt active (List.mem_singleton.1 there).symm

theorem ModeKept.writeOther (kept : lane.ModeKept cli) (ordered : lane.Ordered cli)
    (other : ¬ line.SetsMode) (none : line.settings = .none)
    (alone : ∀ text prompt active, line = .user text prompt active → active = .none) :
    (lane.write line).ModeKept cli :=
  kept.write ordered other (fun settings same => by rw [none] at same; cases same) alone

theorem ModeKept.writeUser (kept : lane.ModeKept cli) (ordered : lane.Ordered cli)
    {setup : TurnSetup} {response : Json} (current : lane.turnSetup = some setup)
    (accepted : Accepted cli.answers setup response) :
    (lane.write (userLine setup)).ModeKept cli := by
  obtain ⟨clear, mode⟩ := kept.accepted ordered current accepted
  apply kept.write ordered (StdinLine.not_setsMode rfl)
  · intro settings same
    cases same
    exact ⟨mode.symm, clear⟩
  · intro text prompt active same
    cases same
    rfl

theorem Next.settings_eq {setup next : TurnSetup} {stage : SetupStage}
    (plan : lane.Next setup next stage) : next.settings = setup.settings := by
  cases plan <;> rfl

theorem Next.later {setup next : TurnSetup} {stage : SetupStage}
    (plan : lane.Next setup next stage) : stage ≠ .mode := by
  cases plan <;> decide

theorem setsMode_request {id : ControlId} {request : ControlRequest}
    (other : ∀ mode, request ≠ .setPermissionMode mode) :
    ¬ (StdinLine.control id request).SetsMode := by
  cases request with
  | setPermissionMode mode => exact absurd rfl (other mode)
  | _ => exact fun sets => sets

theorem Next.request_other {setup next : TurnSetup} {stage : SetupStage}
    (plan : lane.Next setup next stage) (mode : String) :
    next.request stage ≠ .setPermissionMode mode := by
  have later := plan.later
  unfold TurnSetup.request
  cases stage with
  | mode => exact absurd rfl later
  | model => simp
  | effort => simp
  | readBack => simp

theorem ModeKept.move {may : Lane → Prop}
    {fair : ModelRef → TurnSettings → Prop} {next : Lane} (kept : lane.ModeKept cli)
    (ordered : lane.Ordered cli) (move : Move cli.answers may fair lane next) :
    next.ModeKept cli := by
  cases move with
  | skip => exact kept.of_lines rfl (Or.inl rfl)
  | control request plain =>
    have quiet : ¬ (StdinLine.control lane.nextId request).SetsMode := by
      apply setsMode_request
      rintro mode rfl
      exact plain
    exact (kept.writeOther ordered quiet rfl fun _ _ _ same => by cases same).of_lines rfl
      (Or.inl rfl)
  | response requestId response =>
    exact kept.writeOther ordered (StdinLine.not_setsMode rfl) rfl fun _ _ _ same => (by cases same)
  | compact text turn =>
    apply kept.writeOther ordered (StdinLine.not_setsMode rfl) rfl
    intro _ _ _ same
    cases same
    rfl
  | begin setup opened free asks =>
    have more := ordered.unhandled_write
      (.control lane.nextId (.setPermissionMode setup.settings.mode))
    refine ⟨?_, ?_, ?_, ?_⟩
    · have runs : RunsUnder cli.mode (lane.unhandled cli ++
          [.control lane.nextId (.setPermissionMode setup.settings.mode)]) :=
        kept.runs.concat fun settings same => by cases same
      rw [← more] at runs
      exact runs
    · intro hand current _
      cases current
      exact Or.inl ⟨lane.unhandled cli, [], more, fun _ there => by cases there⟩
    · intro hand current later
      cases current
      exact absurd rfl later
    · intro text prompt active there
      rcases List.mem_append.1 there with there | there
      · exact kept.alone text prompt active there
      · cases List.mem_singleton.1 there
  | advance setup next stage response current accepted plan =>
    obtain ⟨clear, mode⟩ := kept.accepted ordered current accepted
    have quiet : ¬ (StdinLine.control lane.nextId (next.request stage)).SetsMode :=
      setsMode_request plan.request_other
    have more := ordered.unhandled_write (.control lane.nextId (next.request stage))
    have written := kept.writeOther ordered quiet rfl fun _ _ _ same => by cases same
    refine ⟨written.runs, ?_, ?_, written.alone⟩
    · intro hand now here
      cases now
      exact absurd here plan.later
    · intro hand now _
      cases now
      refine ⟨?_, mode.trans (congrArg TurnSettings.mode plan.settings_eq).symm⟩
      intro line there
      have there : line ∈ lane.unhandled cli ++ [.control lane.nextId (next.request stage)] :=
        more ▸ there
      rcases List.mem_append.1 there with there | there
      · exact clear line there
      · rw [List.mem_singleton.1 there]
        exact quiet
  | start setup response current accepted here model effort =>
    exact (kept.writeUser ordered current accepted).of_lines rfl (Or.inr rfl)
  | readBack setup response current accepted here reports => exact kept.of_lines rfl (Or.inr rfl)
  | readBackStart setup response current accepted here reports effort =>
    exact (kept.writeUser ordered current accepted).of_lines rfl (Or.inr rfl)
  | drop setup current allowed => exact kept.of_lines rfl (Or.inr rfl)
  | close => exact kept.of_lines rfl (Or.inl rfl)

/-- The CLI handles a mode request. -/
theorem ModeKept.handleMode (kept : lane.ModeKept cli) (ordered : lane.Ordered cli)
    {rest : List StdinLine} {verdict : Verdict} (next : lane.unhandled cli = line :: rest)
    (sets : line.SetsMode) : lane.ModeKept (cli.handle line verdict) := by
  have left : lane.unhandled (cli.handle line verdict) = rest := unhandled_handle next
  have here : line ∈ lane.unhandled cli := next ▸ List.mem_cons_self
  have runs := kept.runs
  rw [next] at runs
  refine ⟨?_, ?_, ?_, kept.alone⟩
  · rw [left]
    exact RunsUnder.quiet (runs.1 sets)
  · intro setup current stage
    rcases kept.awaited setup current stage with ⟨before, after, there, last⟩ | ⟨_, none, _⟩
    · rw [next] at there
      rw [left]
      cases before with
      | nil =>
        obtain ⟨rfl, rfl⟩ := List.cons.inj there
        refine Or.inr ⟨?_, last, ?_⟩
        · rw [handledIds_handle next]
          exact List.mem_append_right _ (List.mem_singleton_self _)
        · intro response answered
          rcases Cli.handle_setPermissionMode _ answered with old | mode | refused
          · exact absurd old (ordered.unanswered here rfl _)
          · exact mode
          · exact absurd rfl (refused response)
      | cons first before =>
        obtain ⟨_, there⟩ := List.cons.inj there
        exact Or.inl ⟨before, after, there, last⟩
    · exact absurd sets (none line here)
  · intro setup current later
    exact absurd sets ((kept.held setup current later).1 line here)

/-- The CLI handles its next line. -/
theorem ModeKept.handle (kept : lane.ModeKept cli) (ordered : lane.Ordered cli)
    {rest : List StdinLine} {verdict : Verdict} (next : lane.unhandled cli = line :: rest) :
    lane.ModeKept (cli.handle line verdict) := by
  by_cases sets : line.SetsMode
  · exact kept.handleMode ordered next sets
  · have left : lane.unhandled (cli.handle line verdict) = rest := unhandled_handle next
    have here : line ∈ lane.unhandled cli := next ▸ List.mem_cons_self
    have mode : (cli.handle line verdict).mode = cli.mode := Cli.mode_handle sets
    have runs := kept.runs
    rw [next] at runs
    have tail (none : ∀ other ∈ lane.unhandled cli, ¬ other.SetsMode) :
        ∀ other ∈ lane.unhandled (cli.handle line verdict), ¬ other.SetsMode := by
      intro other there
      rw [left] at there
      exact none other (next ▸ List.mem_cons_of_mem _ there)
    refine ⟨?_, ?_, ?_, kept.alone⟩
    · rw [left, mode]
      exact runs.2.2 sets
    · intro setup current stage
      rcases kept.awaited setup current stage with ⟨before, after, there, last⟩ |
        ⟨handled, none, given⟩
      · rw [next] at there
        rw [left]
        cases before with
        | nil =>
          obtain ⟨rfl, _⟩ := List.cons.inj there
          exact absurd trivial sets
        | cons first before =>
          obtain ⟨_, there⟩ := List.cons.inj there
          exact Or.inl ⟨before, after, there, last⟩
      · refine Or.inr ⟨?_, tail none, ?_⟩
        · rw [handledIds_handle next]
          exact List.mem_append_left _ handled
        · intro response answered
          rw [mode]
          rcases Cli.answers_handle _ answered with old | new
          · exact given response old
          · exact absurd handled (ordered.apart here new)
    · intro setup current later
      obtain ⟨none, right⟩ := kept.held setup current later
      exact ⟨tail none, mode.trans right⟩

end Lane

end Giskard.Claude
