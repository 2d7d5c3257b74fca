import Mathlib
import Giskard.Foundation.Schedule
import Giskard.Model.ClaudeCli

/-!
# What a supervisor writes for a turn

The part of a session that decides which lines reach the CLI: stdin, the hand-off in flight, and
the supervisor's copies of what the CLI holds. Every step of a session is a number of moves of
this part. A hand-off begins with the mode, goes on only with the CLI's success, and ends with
the user line, with a read-back, or by being dropped; the moves are all that the later modules
know of the steps.
-/

set_option autoImplicit false

namespace Giskard.Claude

open Foundation (Json)

/-! ## Lanes -/

/-- Stdin, the hand-off in flight and the copies; a lane is closing when the supervisor stops or
has ended. -/
structure Lane where
  stdin : List StdinLine
  nextId : ControlId
  turnSetup : Option TurnSetup
  currentModel : ModelRef
  currentEffort : Option String
  closing : Bool

/-- A control request that changes nothing a turn runs under. -/
def ControlRequest.Plain : ControlRequest → Prop
  | .setPermissionMode _ | .setModel _ | .applyFlagSettings _ => False
  | _ => True

namespace Lane

variable (lane : Lane)

def write (line : StdinLine) : Lane := { lane with stdin := lane.stdin ++ [line] }

/-- A control request under a fresh id. -/
def request (request : ControlRequest) : Lane :=
  { lane with
    stdin := lane.stdin ++ [.control lane.nextId request]
    nextId := lane.nextId + 1 }

/-- The line that a hand-off ends with. -/
def userLine (setup : TurnSetup) : StdinLine :=
  .user setup.line (.startTurn setup.turn setup.settings setup.reply) none

/-- What the hand-off has to change, as far as the copies tell. -/
def planned (setup : TurnSetup) : TurnSetup :=
  let modelChange :=
    setup.settings.model.filter fun requested => requested ≠ lane.currentModel.model
  { setup with
    modelChange := modelChange
    effortChange := setup.settings.effort.filter fun requested =>
      modelChange.isSome || some requested ≠ lane.currentEffort }

/-- The stage that follows, and the hand-off as it enters it. -/
inductive Next (setup : TurnSetup) : TurnSetup → SetupStage → Prop where
  | model (here : setup.stage = .mode) (changes : (lane.planned setup).modelChange.isSome) :
      Next setup (lane.planned setup) .model
  | effort (here : setup.stage = .mode) (stays : (lane.planned setup).modelChange = none)
      (changes : (lane.planned setup).effortChange.isSome) :
      Next setup (lane.planned setup) .effort
  | effortToo (here : setup.stage = .model) (changes : setup.effortChange.isSome) :
      Next setup setup .effort
  | readBack (here : setup.stage = .model) (stays : setup.effortChange = none) :
      Next setup setup .readBack
  | readBackToo (here : setup.stage = .effort) : Next setup setup .readBack

/-- A read-back that reports the wanted model, or its resolution. -/
def Reports (settings : TurnSettings) (response : Json) : Prop :=
  ∃ model, (Session.applied response).1 = some model ∧
    (model = settings.model.getD lane.currentModel.model ∨ settings.resolvedModel = some model)

/-- The copies after a read-back. -/
def takeOver (setup : TurnSetup) (effort : Option String) : Lane :=
  let model := if setup.modelChange.isSome then setup.model else lane.currentModel
  { lane with
    currentModel := { model with reasoningEffort := effort }
    currentEffort := effort }

variable (answers : List (ControlId × ControlPayload)) (may : Lane → Prop)
  (fair : ModelRef → TurnSettings → Prop)

/-- The CLI accepted the request in flight. -/
def Accepted (setup : TurnSetup) (response : Json) : Prop :=
  (setup.requestId, ControlPayload.success response) ∈ answers

/-- One move of a lane. When a hand-off may be dropped after the mode is in, and not because the
lane closes, is a parameter, and so is what the turns ask for. -/
inductive Move : Lane → Lane → Prop where
  | skip (lane : Lane) : Move lane { lane with nextId := lane.nextId + 1 }
  | control (lane : Lane) (request : ControlRequest) (plain : request.Plain) :
      Move lane (lane.request request)
  | response (lane : Lane) (requestId : String) (response : ControlResponse) :
      Move lane (lane.write (.response requestId response))
  | compact (lane : Lane) (line : String) (turn : TurnId) :
      Move lane (lane.write (.user line (.compact turn) none))
  | begin (lane : Lane) (setup : TurnSetup) (opened : lane.closing = false)
      (free : lane.turnSetup = none) (asks : fair setup.model setup.settings) :
      Move lane { lane.request (setup.request .mode) with
        turnSetup := some { setup with stage := .mode, requestId := lane.nextId } }
  | advance (lane : Lane) (setup next : TurnSetup) (stage : SetupStage) (response : Json)
      (current : lane.turnSetup = some setup) (accepted : Accepted answers setup response)
      (plan : lane.Next setup next stage) :
      Move lane { lane.request (next.request stage) with
        turnSetup := some { next with stage := stage, requestId := lane.nextId } }
  | start (lane : Lane) (setup : TurnSetup) (response : Json)
      (current : lane.turnSetup = some setup) (accepted : Accepted answers setup response)
      (here : setup.stage = .mode) (model : (lane.planned setup).modelChange = none)
      (effort : (lane.planned setup).effortChange = none) :
      Move lane { lane.write (userLine setup) with turnSetup := none }
  | readBack (lane : Lane) (setup : TurnSetup) (response : Json)
      (current : lane.turnSetup = some setup) (accepted : Accepted answers setup response)
      (here : setup.stage = .readBack) (reports : lane.Reports setup.settings response) :
      Move lane { lane.takeOver setup (Session.applied response).2 with turnSetup := none }
  | readBackStart (lane : Lane) (setup : TurnSetup) (response : Json)
      (current : lane.turnSetup = some setup) (accepted : Accepted answers setup response)
      (here : setup.stage = .readBack) (reports : lane.Reports setup.settings response)
      (effort : setup.effortChange.isSome →
        setup.effortChange = (Session.applied response).2) :
      Move lane { (lane.takeOver setup (Session.applied response).2).write (userLine setup) with
        turnSetup := none }
  | drop (lane : Lane) (setup : TurnSetup) (current : lane.turnSetup = some setup)
      (allowed : lane.closing = false → setup.stage ≠ .mode → may lane) :
      Move lane { lane with turnSetup := none }
  | close (lane : Lane) : Move lane { lane with closing := true }

/-- Any number of moves. -/
abbrev Moves : Lane → Lane → Prop := Relation.ReflTransGen (Move answers may fair)

end Lane

/-- What a `StartTurn` asks for is as it should be. -/
def ChildCommand.Asks (fair : ModelRef → TurnSettings → Prop) : ChildCommand → Prop
  | .startTurn _ _ model settings _ _ => fair model settings
  | _ => True

namespace Session

def lane (s : Session) : Lane where
  stdin := s.stdin
  nextId := s.nextId
  turnSetup := s.turnSetup
  currentModel := s.currentModel
  currentEffort := s.currentEffort
  closing := s.exited || s.ending.isSome || s.stopping

/-! ## What leaves the lane alone -/

variable (s : Session)

@[simp] theorem lane_send (reply : Ticket) (answer : Answer) : (s.send reply answer).lane = s.lane := by
  unfold send
  split <;> rfl

@[simp] theorem lane_append (event : AgentEvent) : (s.append event).lane = s.lane := by
  unfold append
  split <;> rfl

@[simp] theorem lane_failTurnSetup (setup : TurnSetup) (error : HarnessError) :
    (s.failTurnSetup setup error).lane = s.lane := lane_send s _ _

@[simp] theorem lane_beginTurn (turn : TurnId) (notice : Option String) :
    (s.beginTurn turn notice).lane = s.lane := by
  unfold beginTurn
  cases notice with
  | none => exact lane_append _ _
  | some message => exact (lane_append _ _).trans (lane_append _ _)

theorem lane_ending (ending : Ending) :
    ({ s with ending := some ending } : Session).lane = { s.lane with closing := true } := by
  unfold lane stopping
  dsimp only
  rw [Option.isSome_some, Bool.or_true, Bool.true_or]

theorem lane_broken : s.broken.lane = { s.lane with closing := true } := lane_ending s _

@[simp] theorem lane_resolve (waiter : Waiter) (payload : Except HarnessError Json) :
    (s.resolve waiter payload).lane = s.lane := by
  unfold resolve
  split <;> simp

@[simp] theorem lane_onControlResponse (requestId : ControlId) (payload : ControlPayload) :
    (s.onControlResponse requestId payload).lane = s.lane := by
  unfold onControlResponse
  split
  · exact lane_resolve _ _ _
  · rfl

@[simp] theorem lane_onCancelRequest (requestId : String) :
    (s.onCancelRequest requestId).lane = s.lane := by
  unfold onCancelRequest
  dsimp only
  split
  · split
    · rfl
    · exact lane_append _ _
  · rfl

@[simp] theorem lane_afterLine : s.afterLine.lane = s.lane := by
  unfold afterLine
  split
  · next there =>
    split
    · unfold lane stopping
      rw [there]
    · rfl
  · rfl

theorem lane_foldl {α : Type} {f : Session → α → Session}
    (same : ∀ s value, (f s value).lane = s.lane) (values : List α) (s : Session) :
    (values.foldl f s).lane = s.lane := by
  induction values generalizing s with
  | nil => rfl
  | cons value rest ih => rw [List.foldl_cons, ih, same]

@[simp] theorem lane_failWaiters : s.failWaiters.lane = s.lane :=
  lane_foldl (fun s (entry : ControlId × Waiter) => lane_resolve s entry.2 _) _ _

/-! ## The moves of the hand-off -/

variable {answers : List (ControlId × ControlPayload)} {may : Lane → Prop}
  {fair : ModelRef → TurnSettings → Prop} {s : Session}

open Lane (Move Moves)

theorem moves_of_eq {t : Session} (same : t.lane = s.lane) : Moves answers may fair s.lane t.lane :=
  same ▸ .refl

theorem moves_broken (reply : Ticket) (answer : Answer) :
    Moves answers may fair s.lane (s.send reply answer).broken.lane := by
  rw [lane_broken, lane_send]
  exact .single (Move.close s.lane)

theorem lane_sendSetupRequest (s : Session) (setup : TurnSetup) (stage : SetupStage) :
    (s.sendSetupRequest setup stage).lane =
        { s.lane with nextId := s.lane.nextId + 1, closing := true } ∨
      (s.sendSetupRequest setup stage).lane =
        { s.lane.request (setup.request stage) with
          turnSetup := some { setup with stage := stage, requestId := s.lane.nextId } } := by
  unfold sendSetupRequest
  dsimp only
  split
  · refine Or.inl ?_
    rw [lane_broken, lane_send]
    rfl
  · exact Or.inr rfl

theorem lane_finishTurnSetup (s : Session) (setup : TurnSetup) :
    (s.finishTurnSetup setup).lane = s.lane ∨
      (s.finishTurnSetup setup).lane = { s.lane with closing := true } ∨
        (s.finishTurnSetup setup).lane = s.lane.write (Lane.userLine setup) := by
  unfold finishTurnSetup
  split
  · exact Or.inl rfl
  · cases busy : s.busy with
    | some error => exact Or.inl (lane_send s _ _)
    | none =>
      have quiet : s.mapper.activeTurn = none := by simpa [Session.busy] using busy
      have begun := lane_beginTurn { s with withdrawn := ∅ } setup.turn setup.notice
      refine Or.inr ?_
      dsimp only
      unfold writeUser
      split
      · rw [lane_broken, lane_send, begun]
        exact Or.inl rfl
      · refine Or.inr ((lane_send _ _ _).trans ?_)
        rw [quiet]
        exact congrArg (fun lane : Lane => lane.write (Lane.userLine setup)) begun

theorem moves_finishTurnSetup {start : Lane} {setup : TurnSetup}
    (without : Move answers may fair start s.lane)
    (written : Move answers may fair start (s.lane.write (Lane.userLine setup))) :
    Moves answers may fair start (s.finishTurnSetup setup).lane := by
  rcases lane_finishTurnSetup s setup with same | closed | wrote
  · rw [same]
    exact .single without
  · rw [closed]
    exact (Relation.ReflTransGen.single without).tail (Move.close s.lane)
  · rw [wrote]
    exact .single written

theorem modelApplied_iff {settings : TurnSettings} {response : Json} :
    s.modelApplied settings (applied response).1 = true ↔ s.lane.Reports settings response := by
  unfold modelApplied Lane.Reports wantedModel
  cases (applied response).1 with
  | none => simp
  | some model => simp [lane]

/-- Whether a response ends the hand-off without a read-back. -/
def Fails (s : Session) (setup : TurnSetup) (payload : ControlPayload) : Prop :=
  (∃ error, payload.controlOutcome = .error error) ∨
    setup.stage = .readBack ∧ ∃ response, payload = .success response ∧
      ¬ s.lane.Reports setup.settings response

theorem success_of_outcome {payload : ControlPayload} {response : Json}
    (outcome : payload.controlOutcome = .ok response) : payload = .success response := by
  cases payload with
  | success given =>
    cases outcome
    rfl
  | error message code => cases outcome
  | unexpected subtype => cases outcome

section Response

variable {setup : TurnSetup} {payload : ControlPayload} {response : Json}

/-- A hand-off that is over. -/
def ended (s : Session) : Session := { s with turnSetup := none }

theorem moves_sendSetupRequest {t : Session} {next : TurnSetup} {stage : SetupStage}
    (rest : t.lane = { s.lane with turnSetup := none }) (current : s.turnSetup = some setup)
    (accepted : Lane.Accepted answers setup response) (plan : s.lane.Next setup next stage) :
    Moves answers may fair s.lane (t.sendSetupRequest next stage).lane := by
  rcases lane_sendSetupRequest t next stage with closed | sent
  · rw [closed, rest]
    refine ((Relation.ReflTransGen.single (Move.skip s.lane)).tail (Move.close _)).tail ?_
    exact Move.drop { s.lane with nextId := s.lane.nextId + 1, closing := true } setup current
      fun opened => (by cases opened)
  · rw [sent, rest]
    exact .single (Move.advance s.lane setup next stage response current accepted plan)

/-- The session as the mode's success leaves it. -/
def modeSet (s : Session) (setup : TurnSetup) : Session :=
  { s.ended with currentMode := setup.settings.mode }

theorem onSetupResponse_mode (here : setup.stage = .mode) (s : Session) (response : Json) :
    s.onSetupResponse setup (.success response) =
      if (s.lane.planned setup).modelChange.isSome then
        (s.modeSet setup).sendSetupRequest (s.lane.planned setup) .model
      else if (s.lane.planned setup).effortChange.isSome then
        (s.modeSet setup).sendSetupRequest (s.lane.planned setup) .effort
      else (s.modeSet setup).finishTurnSetup (s.lane.planned setup) := by
  have planned : s.ended.planChanges setup = s.lane.planned setup := rfl
  unfold onSetupResponse setupStageDone
  dsimp only [ControlPayload.controlOutcome]
  rw [here]
  dsimp only
  unfold ended at planned
  rw [planned]
  cases (s.lane.planned setup).modelChange with
  | some model => rfl
  | none =>
    cases (s.lane.planned setup).effortChange with
    | some effort => rfl
    | none => rfl

theorem onSetupResponse_model (here : setup.stage = .model) (s : Session) (response : Json) :
    s.onSetupResponse setup (.success response) =
      s.ended.sendSetupRequest setup
        (if setup.effortChange.isSome then .effort else .readBack) := by
  unfold onSetupResponse setupStageDone
  dsimp only [ControlPayload.controlOutcome]
  rw [here]
  rfl

theorem onSetupResponse_effort (here : setup.stage = .effort) (s : Session) (response : Json) :
    s.onSetupResponse setup (.success response) = s.ended.sendSetupRequest setup .readBack := by
  unfold onSetupResponse setupStageDone
  dsimp only [ControlPayload.controlOutcome]
  rw [here]
  rfl

/-- The session as a read-back of the wanted model leaves it. -/
def readBackTaken (s : Session) (setup : TurnSetup) (response : Json) : Session :=
  s.ended.takeOver setup (applied response).2

theorem onSetupResponse_readBack (here : setup.stage = .readBack) (s : Session)
    (response : Json) :
    (¬ s.lane.Reports setup.settings response ∧ ∃ error,
        s.onSetupResponse setup (.success response) = s.ended.failTurnSetup setup error) ∨
      s.lane.Reports setup.settings response ∧
        ((setup.effortChange.isSome → setup.effortChange = (applied response).2) ∧
            s.onSetupResponse setup (.success response) =
              (s.readBackTaken setup response).finishTurnSetup setup ∨
          ∃ error, s.onSetupResponse setup (.success response) =
            (s.readBackTaken setup response).failTurnSetup setup error) := by
  unfold onSetupResponse setupStageDone
  dsimp only [ControlPayload.controlOutcome]
  rw [here]
  dsimp only
  have reports : s.ended.modelApplied setup.settings (applied response).1 = true ↔
      s.lane.Reports setup.settings response := modelApplied_iff
  unfold checkReadBack
  dsimp only
  by_cases right : s.lane.Reports setup.settings response
  · refine Or.inr ⟨right, ?_⟩
    have passes := reports.2 right
    unfold ended at passes
    rw [if_pos passes]
    by_cases refused : (setup.effortChange.isSome &&
        decide (setup.effortChange ≠ (applied response).2)) = true
    · rw [if_pos refused]
      exact Or.inr ⟨_, rfl⟩
    · rw [if_neg refused]
      refine Or.inl ⟨?_, rfl⟩
      intro some
      by_contra different
      exact refused (by simp [some, different])
  · refine Or.inl ⟨right, ?_⟩
    have fails := fun passes => right (reports.1 passes)
    unfold ended at fails
    rw [if_neg fails]
    exact ⟨_, rfl⟩

theorem moves_mode (current : s.turnSetup = some setup)
    (accepted : Lane.Accepted answers setup response) (here : setup.stage = .mode) :
    Moves answers may fair s.lane (s.onSetupResponse setup (.success response)).lane := by
  rw [onSetupResponse_mode here]
  split
  · next changes =>
    exact moves_sendSetupRequest rfl current accepted (.model here changes)
  · next stays =>
    have stays : (s.lane.planned setup).modelChange = none := by simpa using stays
    split
    · next changes =>
      exact moves_sendSetupRequest rfl current accepted (.effort here stays changes)
    · next same =>
      have same : (s.lane.planned setup).effortChange = none := by simpa using same
      apply moves_finishTurnSetup
      · exact Move.drop s.lane setup current (fun _ other => absurd here other)
      · exact Move.start s.lane setup response current accepted here stays same

theorem moves_model (current : s.turnSetup = some setup)
    (accepted : Lane.Accepted answers setup response) (here : setup.stage = .model) :
    Moves answers may fair s.lane (s.onSetupResponse setup (.success response)).lane := by
  rw [onSetupResponse_model here]
  split
  · next changes => exact moves_sendSetupRequest rfl current accepted (.effortToo here changes)
  · next stays =>
    have stays : setup.effortChange = none := by simpa using stays
    exact moves_sendSetupRequest rfl current accepted (.readBack here stays)

theorem moves_readBack (current : s.turnSetup = some setup)
    (accepted : Lane.Accepted answers setup response) (here : setup.stage = .readBack)
    (allowed : s.lane.closing = false → s.Fails setup (.success response) → may s.lane) :
    Moves answers may fair s.lane (s.onSetupResponse setup (.success response)).lane := by
  rcases onSetupResponse_readBack here s response with ⟨wrong, error, failed⟩ |
    ⟨right, ⟨effort, starts⟩ | ⟨error, failed⟩⟩
  · rw [failed, lane_failTurnSetup]
    exact .single (Move.drop s.lane setup current
      fun opened _ => allowed opened (Or.inr ⟨here, response, rfl, wrong⟩))
  · rw [starts]
    apply moves_finishTurnSetup
    · exact Move.readBack s.lane setup response current accepted here right
    · exact Move.readBackStart s.lane setup response current accepted here right effort
  · rw [failed, lane_failTurnSetup]
    exact .single (Move.readBack s.lane setup response current accepted here right)

theorem moves_onSetupResponse (current : s.turnSetup = some setup)
    (genuine : (setup.requestId, payload) ∈ answers)
    (allowed : s.lane.closing = false → setup.stage ≠ .mode → s.Fails setup payload →
      may s.lane) :
    Moves answers may fair s.lane (s.onSetupResponse setup payload).lane := by
  cases outcome : payload.controlOutcome with
  | error error =>
    unfold onSetupResponse
    dsimp only
    rw [outcome]
    dsimp only
    rw [lane_failTurnSetup]
    exact .single (Move.drop s.lane setup current
      fun opened later => allowed opened later (Or.inl ⟨error, outcome⟩))
  | ok response =>
    obtain rfl := success_of_outcome outcome
    cases here : setup.stage with
    | mode => exact moves_mode current genuine here
    | model => exact moves_model current genuine here
    | effort =>
      rw [onSetupResponse_effort here]
      exact moves_sendSetupRequest rfl current genuine (.readBackToo here)
    | readBack => 
      exact moves_readBack current genuine here fun opened => allowed opened (by rw [here]; decide)

end Response

/-! ## The commands -/

theorem moves_begin (opened : s.lane.closing = false) (free : s.turnSetup = none)
    (setup : TurnSetup) (asks : fair setup.model setup.settings) :
    Moves answers may fair s.lane (s.sendSetupRequest setup .mode).lane := by
  rcases lane_sendSetupRequest s setup .mode with closed | sent
  · rw [closed]
    exact (Relation.ReflTransGen.single (Move.skip s.lane)).tail (Move.close _)
  · rw [sent]
    exact .single (Move.begin s.lane setup opened free asks)

theorem moves_beginTurnSetup (opened : s.lane.closing = false) (line : String) (turn : TurnId)
    (model : ModelRef) (settings : TurnSettings) (notice : Option String) (reply : Ticket)
    (asks : fair model settings) :
    Moves answers may fair s.lane (s.beginTurnSetup line turn model settings notice reply).lane := by
  unfold beginTurnSetup
  split
  · exact .refl
  · cases busy : s.busy.or s.setupInFlight with
    | some error => exact moves_of_eq (lane_send s _ _)
    | none =>
      have free : s.turnSetup = none := by
        simpa [setupInFlight] using (Option.or_eq_none_iff.1 busy).2
      exact moves_begin opened free _ asks

theorem moves_writeControl {request : ControlRequest} (plain : request.Plain) (waiter : Waiter)
    (reply : Ticket) : Moves answers may fair s.lane (s.writeControl request waiter reply).lane := by
  unfold writeControl
  dsimp only
  split
  · rw [lane_broken, lane_send]
    exact (Relation.ReflTransGen.single (Move.skip s.lane)).tail (Move.close _)
  · exact .single (Move.control s.lane request plain)

theorem moves_stopTask (thread : ThreadId) (reply : Ticket) :
    Moves answers may fair s.lane (s.stopTask thread reply).lane := by
  unfold stopTask
  split
  · exact moves_writeControl (by trivial) _ _
  · exact moves_of_eq (lane_send s _ _)
  · exact moves_of_eq (lane_send s _ _)
  · exact moves_of_eq (lane_send s _ _)

theorem moves_stopBackgroundCommand (taskId : String) (reply : Ticket) :
    Moves answers may fair s.lane (s.stopBackgroundCommand taskId reply).lane := by
  unfold stopBackgroundCommand
  split
  · exact moves_writeControl (by trivial) _ _
  · exact moves_of_eq (lane_send s _ _)

theorem moves_compact (turn : TurnId) (notice : Option String) (reply : Ticket) :
    Moves answers may fair s.lane (s.compact turn notice reply).lane := by
  unfold compact
  split
  · exact .refl
  · cases busy : s.busy.or s.setupInFlight with
    | some error => exact moves_of_eq (lane_send s _ _)
    | none =>
      have quiet : s.mapper.activeTurn = none := by
        simpa [Session.busy] using (Option.or_eq_none_iff.1 busy).1
      have begun := lane_beginTurn { s with withdrawn := ∅ } turn notice
      have begun : (({ s with withdrawn := ∅ } : Session).beginTurn turn notice).lane = s.lane :=
        begun
      dsimp only
      unfold writeUser
      split
      · rw [← begun]
        exact moves_broken _ _
      · rw [lane_send, quiet]
        have written : ((({ s with withdrawn := ∅ } : Session).beginTurn turn notice).wrote
            (.user compactLine (.compact turn) none)).lane =
              s.lane.write (.user compactLine (.compact turn) none) :=
          congrArg (fun lane : Lane => lane.write (.user compactLine (.compact turn) none)) begun
        rw [written]
        exact .single (Move.compact s.lane compactLine turn)

theorem moves_writeResponse (requestId : String) (response : ControlResponse) (reply : Ticket) :
    Moves answers may fair s.lane (s.writeResponse requestId response reply).lane := by
  unfold writeResponse
  split
  · exact moves_broken _ _
  · rw [lane_send]
    exact .single (Move.response s.lane requestId response)

theorem moves_respondApproval (id : ApprovalId) (ask : PendingAsk) (decision : ApprovalDecision)
    (reply : Ticket) : Moves answers may fair s.lane (s.respondApproval id ask decision reply).lane := by
  unfold respondApproval
  split
  · exact moves_of_eq (lane_send _ _ _)
  · split
    · exact .refl
    · split
      · exact moves_of_eq (lane_send _ _ _)
      · exact moves_writeResponse _ _ _

theorem moves_respondServerRequest (id : ServerRequestId) (ask : PendingAsk)
    (response : ServerRequestResponse) (reply : Ticket) :
    Moves answers may fair s.lane (s.respondServerRequest id ask response reply).lane := by
  unfold respondServerRequest
  split
  · exact moves_of_eq ((lane_send _ _ _).trans (lane_append s _))
  · split
    · exact .refl
    · split
      · exact moves_of_eq (lane_send _ _ _)
      · split
        · exact moves_broken _ _
        · rw [lane_send, lane_append]
          exact .single (Move.response s.lane _ _)

theorem lane_abandonSetup (s : Session) (error : TurnSetup → HarnessError) :
    (s.abandonSetup error).lane = { s.lane with turnSetup := none } := by
  unfold abandonSetup
  split
  · next free =>
    unfold lane
    rw [free]
  · exact lane_failTurnSetup _ _ _

theorem moves_closed (lane : Lane) :
    Moves answers may fair lane { lane with turnSetup := none, closing := true } := by
  have close := Relation.ReflTransGen.single
    (@Move.close answers may fair lane)
  cases current : lane.turnSetup with
  | none =>
    rw [← current]
    exact close
  | some setup =>
    exact close.tail (Move.drop { lane with closing := true } setup current
      fun opened => (by cases opened))

theorem lane_stopping (s : Session) (sequence : Stopping) :
    ({ s with phase := .stopping sequence } : Session).lane = { s.lane with closing := true } := by
  unfold lane stopping
  dsimp only
  rw [Bool.or_true]

theorem moves_enterStopping (reply : Option Ticket) (reaped : Bool) :
    Moves answers may fair s.lane (s.enterStopping reply reaped).lane := by
  unfold enterStopping
  split
  · next sequence there =>
    apply moves_of_eq
    unfold lane stopping
    rw [there]
  · have left := lane_abandonSetup s fun _ => .transport "claude child is stopping"
    dsimp only
    generalize s.abandonSetup (fun _ => .transport "claude child is stopping") = t at left ⊢
    have shut (sequence : Stopping) : Moves answers may fair s.lane
        ({ t with phase := .stopping sequence } : Session).lane := by
      rw [lane_stopping, left]
      exact moves_closed s.lane
    split
    · exact shut ⟨reply.toList, .draining, reaped⟩
    · split
      · exact (shut ⟨reply.toList, .draining, reaped⟩).tail (Move.skip _)
      · exact (shut ⟨reply.toList, .interrupting, reaped⟩).tail (Move.control _ .interrupt trivial)

theorem moves_handleCommand (opened : s.lane.closing = false) {command : ChildCommand}
    (asks : command.Asks fair) : Moves answers may fair s.lane (s.handleCommand command).lane := by
  cases command with
  | startTurn line turn model settings notice reply =>
    exact moves_beginTurnSetup opened _ _ _ _ _ _ asks
  | interrupt reply => exact moves_writeControl (by trivial) _ _
  | control request reply =>
    refine moves_writeControl ?_ _ _
    cases request <;> trivial
  | respondApproval id ask decision reply => exact moves_respondApproval _ _ _ _
  | respondServerRequest id ask response reply => exact moves_respondServerRequest _ _ _ _
  | stopTask thread reply => exact moves_stopTask _ _
  | stopBackgroundCommand taskId reply => exact moves_stopBackgroundCommand _ _
  | compact turn notice reply => exact moves_compact _ _ _
  | stop reply => exact moves_enterStopping _ _

theorem moves_onCommand (runs : s.exited = false ∧ s.ending = none) {command : ChildCommand}
    (asks : command.Asks fair) : Moves answers may fair s.lane (s.onCommand command).lane := by
  unfold onCommand
  split
  · exact moves_enterStopping _ _
  · exact moves_of_eq (lane_send s _ _)
  · next serving =>
    refine moves_handleCommand ?_ asks
    unfold lane stopping
    simp [runs.1, runs.2, serving]

/-! ## The lines -/

/-- A response that ends a hand-off whose mode is in, without a read-back, finds the lane as it may
be dropped. -/
def MayFail (may : Lane → Prop) (s : Session) : MapperOutput → Prop
  | .controlResponse requestId payload =>
    ∀ setup, s.turnSetup = some setup → setup.requestId = requestId → s.lane.closing = false →
      setup.stage ≠ .mode → s.Fails setup payload → may s.lane
  | _ => True

theorem moves_dispatch {output : MapperOutput} (genuine : World.Genuine answers output)
    (allowed : MayFail may s output) : Moves answers may fair s.lane (s.dispatch output).lane := by
  unfold dispatch
  cases output with
  | event event => exact moves_of_eq (lane_append s event)
  | reply requestId response =>
    dsimp only
    split
    · exact .refl
    · split
      · rw [lane_broken]
        exact .single (Move.close s.lane)
      · exact .single (Move.response s.lane _ _)
  | controlResponse requestId payload =>
    dsimp only
    split
    · next setup current =>
      split
      · next same =>
        have given : (setup.requestId, payload) ∈ answers := by
          rw [same]
          simpa [World.Genuine] using genuine
        exact moves_onSetupResponse current given (allowed setup current same)
      · exact moves_of_eq (lane_onControlResponse s _ _)
    · exact moves_of_eq (lane_onControlResponse s _ _)
  | pendingApproval id requestId toolUseId toolName suggestions thread =>
    dsimp only
    split <;> exact .refl
  | pendingServerRequest id thread requestId subtype input =>
    dsimp only
    split <;> exact .refl
  | cancelRequest requestId => exact moves_of_eq (lane_onCancelRequest s _)

theorem moves_dispatchAll {outputs : List MapperOutput}
    (genuine : outputs.all (World.Genuine answers))
    (allowed : AlongDispatch (MayFail may) s outputs) :
    Moves answers may fair s.lane (s.dispatchAll outputs).lane := by
  induction outputs generalizing s with
  | nil => exact .refl
  | cons output rest ih =>
    rw [List.all_cons, Bool.and_eq_true] at genuine
    have first : Moves answers may fair s.lane (s.dispatch output).lane :=
      moves_dispatch genuine.1 allowed.1
    unfold dispatchAll
    dsimp only
    split
    · exact first
    · next runs =>
      have runs : (s.dispatch output).ending = none := by simpa using runs
      exact first.trans (ih genuine.2 (allowed.2 runs))

/-! ## The steps -/

/-- A hand-off whose mode is in, and that a step drops while the supervisor serves, finds the lane
as it may be dropped. -/
def MayDrop (may : Lane → Prop) (s : Session) : Step → Prop
  | .line mapper outputs | .settle mapper outputs =>
    s.Running → AlongDispatch (MayFail may) { s with mapper := mapper } outputs
  | .deadline _ =>
    s.Running → s.phase = .serving → ∀ setup, s.turnSetup = some setup → setup.stage ≠ .mode →
      may s.lane
  | _ => True

theorem moves_onDeadline (waited : String)
    (allowed : s.phase = .serving → ∀ setup, s.turnSetup = some setup → setup.stage ≠ .mode →
      may s.lane) : Moves answers may fair s.lane (s.onDeadline waited).lane := by
  unfold onDeadline
  split
  · next serving =>
    unfold onSetupDeadline
    rw [lane_abandonSetup]
    cases current : s.turnSetup with
    | none =>
      have same : { s.lane with turnSetup := none } = s.lane := by
        unfold lane
        rw [current]
      rw [same]
    | some setup =>
      exact .single (Move.drop s.lane setup current
        fun _ later => allowed serving setup current later)
  · next there =>
    apply moves_of_eq
    unfold lane stopping
    rw [there]
  · rw [lane_ending]
    exact .single (Move.close s.lane)

theorem lane_failInFlight (s : Session) :
    s.failInFlight.lane = { s.lane with turnSetup := none } := by
  unfold failInFlight
  split
  · exact lane_failTurnSetup _ _ _
  · next free =>
    unfold lane
    rw [free]

theorem lane_dropQueue (s : Session) : s.dropQueue.lane = { s.lane with closing := true } := by
  have dropped : s.dropQueue.lane = ({ s with queue := [], exited := true } : Session).lane :=
    lane_foldl (fun s (command : ChildCommand) => lane_send s command.reply _) _ _
  rw [dropped]
  unfold lane stopping
  dsimp only
  rw [Bool.true_or, Bool.true_or]

theorem lane_onExit (s : Session) (ending : Ending) :
    (s.onExit ending).lane = { s.lane with turnSetup := none, closing := true } := by
  have left := lane_failInFlight s
  have removed : ({ s.failInFlight with
      pending := s.failInFlight.pending.removeOwner s.failInFlight.thread
      attached := false } : Session).lane = { s.lane with turnSetup := none } := left
  unfold onExit
  dsimp only
  split
  · next replies reaped =>
    have stops (t : Session) :
        (replies.foldl (fun s reply => s.send reply .done) t).lane = t.lane :=
      lane_foldl (fun s reply => lane_send s reply .done) replies t
    rw [lane_dropQueue, stops, lane_failWaiters]
    split
    · rw [left]
    · rw [removed]
  · rw [lane_dropQueue, lane_failWaiters, removed]
  · rw [lane_dropQueue, lane_failWaiters, removed]

theorem lane_onAbort (s : Session) :
    s.onAbort.lane = { s.lane with turnSetup := none, closing := true } := by
  have left : ({ s.failInFlight with attached := false } : Session).lane =
      { s.lane with turnSetup := none } := lane_failInFlight s
  unfold onAbort
  rw [lane_dropQueue, lane_failWaiters, left]

theorem moves_loopStep {label : Step} (runs : s.Running)
    (genuine : ∀ mapper outputs, label = .line mapper outputs ∨ label = .settle mapper outputs →
      outputs.all (World.Genuine answers))
    (allowed : MayDrop may s label) (asks : ∀ command ∈ s.queue, command.Asks fair) : Moves answers may fair s.lane (s.loopStep label).lane := by
  cases label with
  | line mapper outputs =>
    have dispatched : Moves answers may fair s.lane
        (({ s with mapper := mapper } : Session).dispatchAll outputs).lane :=
      moves_dispatchAll (genuine mapper outputs (Or.inl rfl)) (allowed runs)
    unfold loopStep onLine
    dsimp only
    split
    · exact dispatched
    · rw [lane_afterLine]
      exact dispatched
  | settle mapper outputs =>
    exact moves_dispatchAll (genuine mapper outputs (Or.inr rfl)) (allowed runs)
  | command =>
    unfold loopStep
    dsimp only
    split
    · next command queue there =>
      exact moves_onCommand (s := { s with queue := queue }) runs
        (asks command (there ▸ List.mem_cons_self))
    · exact .refl
  | channelClosed =>
    unfold loopStep
    dsimp only
    split
    · exact .refl
    · exact moves_enterStopping (s := { s with commandsClosed := true }) none false
  | shutdown =>
    unfold loopStep
    dsimp only
    split
    · exact .refl
    · exact moves_enterStopping _ _
  | deadline waited => exact moves_onDeadline waited (allowed runs)
  | reap =>
    unfold loopStep reap
    dsimp only
    split
    · split
      · next command queue _ there =>
        exact moves_onCommand (s := { s with queue := queue }) runs
          (asks command (there ▸ List.mem_cons_self))
      · exact moves_enterStopping (s := { s with
          attached := false
          entryModel := s.currentModel
          reaped := true }) none true
      · exact moves_enterStopping none false
    · exact .refl
  | eof =>
    unfold loopStep
    dsimp only
    rw [lane_ending]
    exact .single (Move.close s.lane)
  | readError =>
    unfold loopStep
    dsimp only
    rw [lane_broken]
    exact .single (Move.close s.lane)
  | _ => exact .refl

theorem lane_sendNow (s : Session) (command : ChildCommand) : (s.sendNow command).lane = s.lane := by
  unfold sendNow
  split
  · exact lane_send s _ _
  · split
    · rfl
    · exact lane_send s _ _

/-- A step of the façade does not touch the lane. -/
theorem lane_facade (s : Session) (label : Step) (facade : match label with
    | .startTurn .. | .takeApproval .. | .takeServerRequest .. | .sendTaken _ | .call _ => True
    | _ => False) : (s.step label).lane = s.lane := by
  cases label with
  | startTurn line turn mode model catalog notice =>
    unfold step startTurn newTicket
    dsimp only
    split
    · exact lane_sendNow _ _
    · rfl
  | takeApproval id decision =>
    unfold step takeApproval newTicket
    dsimp only
    split
    · exact lane_send _ _ _
    · rfl
  | takeServerRequest id response =>
    unfold step takeServerRequest newTicket
    dsimp only
    split
    · exact lane_send _ _ _
    · rfl
  | sendTaken index =>
    unfold step
    dsimp only
    split
    · unfold sendTaken
      split
      · exact lane_send _ _ _
      · split
        · exact lane_sendNow _ _
        · exact lane_send _ _ _
    · rfl
  | call request =>
    unfold step call newTicket
    dsimp only
    split
    · exact lane_sendNow _ _
    · exact lane_sendNow _ _
    · split
      · exact lane_sendNow _ _
      · rfl
  | _ => exact facade.elim

/-- A step whose control responses are answers of the CLI is a number of moves. -/
theorem moves_step {label : Step}
    (genuine : ∀ mapper outputs, label = .line mapper outputs ∨ label = .settle mapper outputs →
      outputs.all (World.Genuine answers))
    (allowed : MayDrop may s label) (asks : ∀ command ∈ s.queue, command.Asks fair) : Moves answers may fair s.lane (s.step label).lane := by
  have loop : Moves answers may fair s.lane
      (if s.exited || s.ending.isSome then s else s.loopStep label).lane := by
    split
    · exact .refl
    · next runs =>
      have runs : s.Running := by simpa [Running] using runs
      exact moves_loopStep runs genuine allowed asks
  have gone {t : Session}
      (same : t.lane = { s.lane with turnSetup := none, closing := true }) :
      Moves answers may fair s.lane t.lane := same ▸ moves_closed s.lane
  cases label with
  | startTurn line turn mode model catalog notice => exact moves_of_eq (lane_facade s _ trivial)
  | takeApproval id decision => exact moves_of_eq (lane_facade s _ trivial)
  | takeServerRequest id response => exact moves_of_eq (lane_facade s _ trivial)
  | sendTaken index => exact moves_of_eq (lane_facade s _ trivial)
  | call request => exact moves_of_eq (lane_facade s _ trivial)
  | giveUp reply => exact .refl
  | removeThread thread => exact .refl
  | clearPending => exact .refl
  | detach => exact .refl
  | stdinFails error => exact .refl
  | exit =>
    unfold step
    dsimp only
    split
    · split
      · exact .refl
      · exact gone (lane_onExit s _)
    · exact .refl
  | abort =>
    unfold step
    dsimp only
    split
    · exact .refl
    · exact gone (lane_onAbort s)
  | line mapper outputs => exact loop
  | settle mapper outputs => exact loop
  | command => exact loop
  | channelClosed => exact loop
  | shutdown => exact loop
  | deadline waited => exact loop
  | reap => exact loop
  | eof => exact loop
  | readError => exact loop

end Session

end Giskard.Claude
