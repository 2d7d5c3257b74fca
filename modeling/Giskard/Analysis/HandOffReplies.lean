import Mathlib
import Giskard.Foundation.TicketOffice
import Giskard.Model.ClaudeSession

/-!
# The replies to the hand-offs of turns

A supervisor's reply channels as an office: the hand-offs are its calls, held in the queue or in
flight, and all other commands have other tickets. Every step of a session is a number of steps
of the office, so that every hand-off has one reply, and the reply is a success where the user
line is on stdin.
-/

set_option autoImplicit false

namespace Giskard.Claude

open Foundation (Json TicketOffice)
open Foundation.TicketOffice (Steps Step)

/-! ## The tickets of a session -/

/-- The ticket of a `StartTurn`. -/
def ChildCommand.handOff : ChildCommand → Option Ticket
  | .startTurn _ _ _ _ _ reply => some reply
  | _ => none

/-- The ticket of another command. -/
def ChildCommand.otherReply : ChildCommand → Option Ticket
  | .startTurn .. => none
  | command => some command.reply

def Waiter.reply? : Waiter → Option Ticket
  | .unit reply | .value reply | .stopTask reply => some reply
  | .stop => none

def Phase.replies : Phase → List Ticket
  | .serving => []
  | .stopping sequence => sequence.replies

def Ending.replies : Ending → List Ticket
  | .stopped replies _ => replies
  | .eof | .broken => []

/-- The hand-off that a user line was written for. -/
def StdinLine.handOff : StdinLine → Option Ticket
  | .user _ (.startTurn _ _ reply) _ => some reply
  | _ => none

namespace Session

variable (s : Session)

/-- The commands that the façade has taken or sent and the supervisor has not. -/
def waiting : List ChildCommand := s.queue ++ s.taken

def inFlight : List Ticket := s.turnSetup.toList.map TurnSetup.reply

/-- The tickets that are no hand-off's and may still be answered. -/
def Holds (ticket : Ticket) : Prop :=
  (∃ command ∈ s.waiting, command.otherReply = some ticket) ∨
    (∃ entry ∈ s.waiters, entry.2.reply? = some ticket) ∨
      ticket ∈ s.phase.replies ∨ ∃ ending, s.ending = some ending ∧ ticket ∈ ending.replies

def office : TicketOffice Answer where
  next := s.nextTicket
  calls := s.handOffs
  held := s.inFlight ++ s.waiting.filterMap ChildCommand.handOff
  others := { ticket | s.Holds ticket }
  closed := s.closed
  replies := s.replies
  served := s.stdin.filterMap StdinLine.handOff

/-! ## What leaves the office alone -/

theorem office_send (reply : Ticket) (answer : Answer) :
    (s.send reply answer).office = s.office.post reply answer := by
  unfold send TicketOffice.post
  by_cases gone : reply ∈ s.closed
  · rw [if_pos gone]
    exact (if_pos gone).symm
  · rw [if_neg gone]
    exact (if_neg gone).symm

@[simp] theorem office_append (event : AgentEvent) : (s.append event).office = s.office := by
  unfold append
  split <;> rfl

@[simp] theorem office_beginTurn (turn : TurnId) (notice : Option String) :
    (s.beginTurn turn notice).office = s.office := by
  unfold beginTurn
  cases notice with
  | none => exact office_append _ _
  | some message => exact (office_append _ _).trans (office_append _ _)

theorem office_wrote {line : StdinLine} (other : line.handOff = none) :
    (s.wrote line).office = s.office := by
  unfold office wrote
  dsimp only
  rw [List.filterMap_append, List.filterMap_cons_none other, List.filterMap_nil, List.append_nil]
  rfl

theorem office_wrote_user (line : String) (turn : TurnId) (settings : TurnSettings)
    (reply : Ticket) (active : Option TurnId) :
    (s.wrote (.user line (.startTurn turn settings reply) active)).office =
      { s.office with served := s.office.served ++ [reply] } := by
  unfold office wrote
  dsimp only
  rw [List.filterMap_append]
  rfl

variable {s : Session}

theorem steps_fewer {t : Session} {start : TicketOffice Answer}
    (same : t.office = start.knowing t.office.others) (fewer : t.office.others ⊆ start.others) :
    Steps .done start t.office := by
  rw [same]
  exact .single (Step.forget start _ fewer)

theorem steps_fewer_of {t u : Session} (same : t.office = u.office.knowing t.office.others)
    (was : u.office = s.office) {others : Set ℕ} (fewer : t.office.others ⊆ others) :
    Steps .done (s.office.knowing others) t.office := by
  rw [was] at same
  exact steps_fewer same fewer

theorem steps_broken : Steps .done s.office s.broken.office := by
  apply steps_fewer rfl
  rintro ticket (waits | asked | stops | ⟨ending, there, among⟩)
  · exact Or.inl waits
  · exact Or.inr (Or.inl asked)
  · exact Or.inr (Or.inr (Or.inl stops))
  · refine Or.inr (Or.inr (Or.inl ?_))
    unfold broken at there
    dsimp only at there
    cases phase : s.phase with
    | serving =>
      rw [phase] at there
      cases there
      cases among
    | stopping sequence =>
      rw [phase] at there
      cases there
      exact among

theorem steps_failBroken (start : TicketOffice Answer) (reply : Ticket) (answer : Answer)
    (sent : Steps .done start (s.send reply answer).office) :
    Steps .done start (s.send reply answer).broken.office :=
  sent.trans steps_broken

/-! ## The hand-off -/

section HandOff

variable {setup : TurnSetup}

/-- A hand-off that the supervisor works on, neither in the queue nor in flight. -/
abbrev working (s : Session) (reply : Ticket) : TicketOffice Answer :=
  s.office.holding (reply :: s.office.held)

theorem steps_refuse (s : Session) (reply : Ticket) (error : HarnessError) :
    Steps .done (s.working reply) (s.send reply (.failed error)).office := by
  have refused : Steps .done (s.working reply) (s.office.post reply (.failed error)) :=
    Steps.refused (fun same => by cases same) [] s.office.held reply
  rwa [office_send]

theorem office_begun (free : s.turnSetup = none) (setup : TurnSetup) :
    ({ s with turnSetup := some setup } : Session).office = s.working setup.reply := by
  unfold working office inFlight
  dsimp only
  rw [free]
  rfl

theorem steps_sendSetupRequest (free : s.turnSetup = none) (setup : TurnSetup)
    (stage : SetupStage) :
    Steps .done (s.working setup.reply) (s.sendSetupRequest setup stage).office := by
  unfold sendSetupRequest newRequestId
  dsimp only
  split
  · next error _ =>
    exact steps_failBroken _ _ _ (steps_refuse { s with nextId := s.nextId + 1 } setup.reply error)
  · have line : StdinLine.handOff (.control s.nextId (setup.request stage)) = none := rfl
    have written := office_wrote { s with nextId := s.nextId + 1 } line
    have begun := office_begun (s := ({ s with nextId := s.nextId + 1 } : Session).wrote
      (.control s.nextId (setup.request stage))) free
        { setup with stage := stage, requestId := s.nextId }
    unfold working at begun
    rw [written] at begun
    rw [begun]
    exact .refl

theorem steps_finishTurnSetup (s : Session) (setup : TurnSetup) :
    Steps .done (s.working setup.reply) (s.finishTurnSetup setup).office := by
  unfold finishTurnSetup
  split
  · next gone => exact Steps.abandoned [] s.office.held gone
  · next waits =>
    split
    · exact steps_refuse s setup.reply _
    · have begun := office_beginTurn { s with withdrawn := ∅ } setup.turn setup.notice
      unfold writeUser
      split
      · next error _ =>
        apply steps_failBroken
        have refused := steps_refuse (({ s with withdrawn := ∅ } : Session).beginTurn setup.turn
          setup.notice) setup.reply error
        unfold working at refused
        rw [begun] at refused
        exact refused
      · rw [office_send, office_wrote_user, begun]
        exact Steps.attended [] s.office.held waits

theorem steps_failTurnSetup (s : Session) (setup : TurnSetup) (error : HarnessError) :
    Steps .done (s.working setup.reply) (s.failTurnSetup setup error).office :=
  steps_refuse s setup.reply error

theorem checkReadBack_keeps (setup : TurnSetup) (response : Json) :
    (s.checkReadBack setup response).1.office = s.office ∧
      (s.checkReadBack setup response).1.turnSetup = s.turnSetup := by
  unfold checkReadBack
  dsimp only
  split
  · split
    · exact ⟨rfl, rfl⟩
    · exact ⟨rfl, rfl⟩
  · exact ⟨rfl, rfl⟩

theorem setupStageDone_keeps (free : s.turnSetup = none) (setup : TurnSetup) (response : Json) :
    (s.setupStageDone setup response).1.office = s.office ∧
      (s.setupStageDone setup response).1.turnSetup = none ∧
        (s.setupStageDone setup response).2.1.reply = setup.reply := by
  unfold setupStageDone
  split
  · exact ⟨rfl, free, rfl⟩
  · exact ⟨rfl, free, rfl⟩
  · exact ⟨rfl, free, rfl⟩
  · obtain ⟨same, setup⟩ := checkReadBack_keeps (s := s) setup response
    split
    · next checked =>
      rw [checked] at same setup
      exact ⟨same, setup.trans free, rfl⟩
    · next checked =>
      rw [checked] at same setup
      exact ⟨same, setup.trans free, rfl⟩

/-- The answer to the request in flight. -/
theorem steps_onSetupResponse (current : s.turnSetup = some setup) (payload : ControlPayload) :
    Steps .done s.office (s.onSetupResponse setup payload).office := by
  have held : s.office = ({ s with turnSetup := none } : Session).working setup.reply := by
    unfold working office inFlight
    dsimp only
    rw [current]
    rfl
  rw [held]
  unfold onSetupResponse
  dsimp only
  split
  · exact steps_failTurnSetup _ _ _
  · next response _ =>
    obtain ⟨same, free, reply⟩ :=
      setupStageDone_keeps (s := { s with turnSetup := none }) rfl setup response
    have start : ({ s with turnSetup := none } : Session).working setup.reply =
        (({ s with turnSetup := none } : Session).setupStageDone setup response).1.working
          (({ s with turnSetup := none } : Session).setupStageDone setup response).2.1.reply := by
      unfold working
      rw [same, reply]
    rw [start]
    generalize ({ s with turnSetup := none } : Session).setupStageDone setup response = done at free
    obtain ⟨t, next, outcome⟩ := done
    match outcome with
    | .ok (some stage) => exact steps_sendSetupRequest free next stage
    | .ok none => exact steps_finishTurnSetup t next
    | .error error => exact steps_failTurnSetup t next error

/-- The hand-off in flight fails, whatever other tickets there are. -/
theorem steps_abandonSetup (s : Session) (error : TurnSetup → HarnessError) (others : Set ℕ) :
    Steps .done (s.office.knowing others) ((s.abandonSetup error).office.knowing others) ∧
      (s.abandonSetup error).office.others = s.office.others := by
  unfold abandonSetup
  split
  · exact ⟨.refl, rfl⟩
  · next setup current =>
    have held : s.office = ({ s with
        turnSetup := none
        abandoned := insert setup.requestId s.abandoned } : Session).working setup.reply := by
      unfold working office inFlight
      dsimp only
      rw [current]
      rfl
    rw [held]
    generalize ({ s with
      turnSetup := none
      abandoned := insert setup.requestId s.abandoned } : Session) = t
    unfold failTurnSetup
    rw [office_send, ← TicketOffice.post_knowing, TicketOffice.others_post]
    refine ⟨?_, rfl⟩
    have failed : Answer.failed (setupStageFailed setup none (error setup)) ≠ .done :=
      fun same => by cases same
    have refused : Steps .done ((t.office.knowing others).holding ([] ++ setup.reply ::
        t.office.held)) _ := Steps.refused failed [] t.office.held setup.reply
    exact refused

end HandOff

/-! ## The other commands -/

/-- The office, and a command that the supervisor works on. -/
abbrev knows (s : Session) (reply : Ticket) : TicketOffice Answer :=
  s.office.knowing (insert reply s.office.others)

theorem steps_answer (s : Session) (reply : Ticket) (answer : Answer) :
    Steps .done (s.knows reply) (s.send reply answer).office := by
  rw [office_send]
  exact Steps.answered (Set.mem_insert _ _) (Set.subset_insert _ _) answer

theorem steps_drop (s : Session) (reply : Ticket) : Steps .done (s.knows reply) s.office :=
  .single (Step.forget (s.knows reply) s.office.others (Set.subset_insert _ _))

theorem steps_writeControl (s : Session) (request : ControlRequest) {waiter : Waiter}
    {reply : Ticket} (mine : ∀ ticket, waiter.reply? = some ticket → ticket = reply) :
    Steps .done (s.knows reply) (s.writeControl request waiter reply).office := by
  unfold writeControl newRequestId
  dsimp only
  split
  · exact steps_failBroken _ _ _ (steps_answer { s with nextId := s.nextId + 1 } reply _)
  · have line : StdinLine.handOff (.control s.nextId request) = none := rfl
    have written := office_wrote { s with nextId := s.nextId + 1 } line
    refine steps_fewer_of
      (u := ({ s with nextId := s.nextId + 1 } : Session).wrote (.control s.nextId request)) ?_
      written ?_
    · rfl
    rintro ticket (waits | ⟨entry, there, named⟩ | stops | ended)
    · exact Or.inr (Or.inl waits)
    · rcases List.mem_append.1 there with old | new
      · exact Or.inr (Or.inr (Or.inl ⟨entry, old, named⟩))
      · rw [List.mem_singleton.1 new] at named
        exact Or.inl (mine ticket named)
    · exact Or.inr (Or.inr (Or.inr (Or.inl stops)))
    · exact Or.inr (Or.inr (Or.inr (Or.inr ended)))

theorem steps_stopTask (s : Session) (thread : ThreadId) (reply : Ticket) :
    Steps .done (s.knows reply) (s.stopTask thread reply).office := by
  unfold stopTask
  split
  · exact steps_writeControl s _ fun ticket same => (Option.some.inj same).symm
  · exact steps_answer s reply _
  · exact steps_answer s reply _
  · exact steps_answer s reply _

theorem steps_stopBackgroundCommand (s : Session) (taskId : String) (reply : Ticket) :
    Steps .done (s.knows reply) (s.stopBackgroundCommand taskId reply).office := by
  unfold stopBackgroundCommand
  split
  · exact steps_writeControl s _ fun ticket same => (Option.some.inj same).symm
  · exact steps_answer s reply _

theorem steps_compact (s : Session) (turn : TurnId) (notice : Option String) (reply : Ticket) :
    Steps .done (s.knows reply) (s.compact turn notice reply).office := by
  unfold compact
  split
  · exact steps_drop s reply
  · split
    · exact steps_answer s reply _
    · have begun : (({ s with withdrawn := ∅ } : Session).beginTurn turn notice).office = s.office :=
        office_beginTurn _ turn notice
      have start : s.knows reply =
          (({ s with withdrawn := ∅ } : Session).beginTurn turn notice).knows reply := by
        unfold knows
        rw [begun]
      rw [start]
      unfold writeUser
      split
      · exact steps_failBroken _ _ _ (steps_answer _ reply _)
      · have line : StdinLine.handOff (.user compactLine (.compact turn) s.mapper.activeTurn) =
            none := rfl
        have written := office_wrote
          (({ s with withdrawn := ∅ } : Session).beginTurn turn notice) line
        unfold knows
        rw [← written]
        exact steps_answer _ reply _

theorem steps_writeResponse (s : Session) (requestId : String) (response : ControlResponse)
    (reply : Ticket) :
    Steps .done (s.knows reply) (s.writeResponse requestId response reply).office := by
  unfold writeResponse
  split
  · exact steps_failBroken _ _ _ (steps_answer s reply _)
  · have line : StdinLine.handOff (.response requestId response) = none := rfl
    unfold knows
    rw [← office_wrote s line]
    exact steps_answer _ reply _

theorem steps_respondApproval (s : Session) (id : ApprovalId) (ask : PendingAsk)
    (decision : ApprovalDecision) (reply : Ticket) :
    Steps .done (s.knows reply) (s.respondApproval id ask decision reply).office := by
  unfold respondApproval
  split
  · exact steps_answer { s with withdrawn := s.withdrawn.erase ask.requestId } reply _
  · split
    · exact steps_drop s reply
    · split
      · exact steps_answer { s with pending := s.pending.insertApproval id ask } reply _
      · exact steps_writeResponse s _ _ reply

theorem steps_respondServerRequest (s : Session) (id : ServerRequestId) (ask : PendingAsk)
    (response : ServerRequestResponse) (reply : Ticket) :
    Steps .done (s.knows reply) (s.respondServerRequest id ask response reply).office := by
  unfold respondServerRequest
  split
  · have said := office_append s
      (.serverRequestResolved ask.thread (s.mapper.activeTurnOf ask.thread) id)
    unfold knows refuseWithdrawn
    rw [← said]
    generalize s.append
      (.serverRequestResolved ask.thread (s.mapper.activeTurnOf ask.thread) id) = t
    exact steps_answer { t with withdrawn := t.withdrawn.erase ask.requestId } reply _
  · split
    · exact steps_drop s reply
    · split
      · exact steps_answer { s with pending := s.pending.insertServerRequest id ask } reply _
      · next answer _ =>
        split
        · exact steps_failBroken _ _ _ (steps_answer s reply _)
        · have line : StdinLine.handOff (.response ask.requestId answer) = none := rfl
          unfold knows
          rw [← office_wrote s line, ← office_append (s.wrote (.response ask.requestId answer))
            (.serverRequestResolved ask.thread (s.mapper.activeTurnOf ask.thread) id)]
          exact steps_answer _ reply _

/-- The office, and the ticket of a stop if there is one. -/
abbrev stops (s : Session) (reply : Option Ticket) : TicketOffice Answer :=
  s.office.knowing (s.office.others ∪ { ticket | reply = some ticket })

theorem steps_enterStopping (s : Session) (reply : Option Ticket) (reaped : Bool) :
    Steps .done (s.stops reply) (s.enterStopping reply reaped).office := by
  unfold enterStopping
  split
  · next sequence there =>
    refine steps_fewer_of (u := s) ?_ rfl ?_
    · rfl
    rintro ticket (waits | asked | stops | ended)
    · exact Or.inl (Or.inl waits)
    · exact Or.inl (Or.inr (Or.inl asked))
    · rcases List.mem_append.1 stops with old | new
      · refine Or.inl (Or.inr (Or.inr (Or.inl ?_)))
        rw [there]
        exact old
      · exact Or.inr (Option.mem_toList.1 new)
    · exact Or.inl (Or.inr (Or.inr (Or.inr ended)))
  · next serving =>
    obtain ⟨failed, others⟩ := steps_abandonSetup s (fun _ => .transport "claude child is stopping")
      (s.office.others ∪ { ticket | reply = some ticket })
    refine failed.trans ?_
    dsimp only
    generalize s.abandonSetup (fun _ => .transport "claude child is stopping") = t at others
    have old {ticket : ℕ} (holds : t.Holds ticket) :
        ticket ∈ s.office.others ∪ { ticket | reply = some ticket } :=
      Or.inl (others ▸ (holds : ticket ∈ t.office.others))
    have shut (error : Option HarnessError) (nextId : ControlId) (sequence : Stopping)
        (mine : sequence.replies = reply.toList) :
        Steps .done (t.office.knowing (s.office.others ∪ { ticket | reply = some ticket }))
          ({ t with
            stdinError := error
            nextId := nextId
            phase := .stopping sequence } : Session).office := by
      refine steps_fewer_of (u := t) ?_ rfl ?_
      · rfl
      rintro ticket (waits | asked | stops | ended)
      · exact old (Or.inl waits)
      · exact old (Or.inr (Or.inl asked))
      · refine Or.inr (Option.mem_toList.1 ?_)
        rw [← mine]
        exact stops
      · exact old (Or.inr (Or.inr (Or.inr ended)))
    split
    · exact shut _ t.nextId ⟨reply.toList, .draining, reaped⟩ rfl
    · split
      · exact shut _ (t.nextId + 1) ⟨reply.toList, .draining, reaped⟩ rfl
      · have line : StdinLine.handOff (.control t.nextId .interrupt) = none := rfl
        refine steps_fewer_of (u := t.wrote (.control t.nextId .interrupt)) ?_
          (office_wrote t line) ?_
        · rfl
        rintro ticket (waits | ⟨entry, there, named⟩ | stops | ended)
        · exact old (Or.inl waits)
        · rcases List.mem_append.1 there with asked | new
          · exact old (Or.inr (Or.inl ⟨entry, asked, named⟩))
          · rw [List.mem_singleton.1 new] at named
            cases named
        · exact Or.inr (Option.mem_toList.1 stops)
        · exact old (Or.inr (Or.inr (Or.inr ended)))

theorem steps_stop (s : Session) (reply : Ticket) :
    Steps .done (s.knows reply) (s.enterStopping (some reply) false).office := by
  have stop := steps_enterStopping s (some reply) false
  have same : s.stops (some reply) = s.knows reply := by
    apply congrArg s.office.knowing
    ext ticket
    constructor
    · rintro (old | new)
      · exact Or.inr old
      · exact Or.inl (Option.some.inj new).symm
    · rintro (new | old)
      · exact Or.inr (congrArg some new.symm)
      · exact Or.inl old
  rwa [same] at stop

/-! ## Commands -/

/-- The office, and a command that is no longer in the queue. -/
def receives (s : Session) (command : ChildCommand) : TicketOffice Answer :=
  match command.handOff with
  | some reply => s.office.holding (s.inFlight ++ reply ::
      s.waiting.filterMap ChildCommand.handOff)
  | none => s.knows command.reply

theorem steps_beginTurnSetup (s : Session) (line : String) (turn : TurnId) (model : ModelRef)
    (settings : TurnSettings) (notice : Option String) (reply : Ticket) :
    Steps .done
      (s.office.holding (s.inFlight ++ reply :: s.waiting.filterMap ChildCommand.handOff))
      (s.beginTurnSetup line turn model settings notice reply).office := by
  unfold beginTurnSetup
  split
  · next gone => exact Steps.abandoned s.inFlight _ gone
  · cases busy : s.busy.or s.setupInFlight with
    | some error =>
      dsimp only
      rw [office_send]
      exact Steps.refused (fun same => by cases same) s.inFlight _ reply
    | none =>
      have free : s.turnSetup = none := by
        simpa [setupInFlight] using (Option.or_eq_none_iff.1 busy).2
      have empty : s.inFlight = [] := by
        unfold inFlight
        rw [free]
        rfl
      have held : s.office.held = s.waiting.filterMap ChildCommand.handOff := by
        unfold office
        dsimp only
        rw [empty]
        rfl
      rw [empty, List.nil_append, ← held]
      exact steps_sendSetupRequest free
        { line := line
          turn := turn
          model := model
          settings := settings
          reply := reply
          notice := notice
          stage := .mode
          requestId := 0
          modelChange := none
          effortChange := none } .mode

theorem steps_handleCommand (s : Session) (command : ChildCommand) :
    Steps .done (s.receives command) (s.handleCommand command).office := by
  cases command with
  | startTurn line turn model settings notice reply =>
    exact steps_beginTurnSetup s line turn model settings notice reply
  | interrupt reply => exact steps_writeControl s _ fun ticket same => (Option.some.inj same).symm
  | control request reply =>
    exact steps_writeControl s _ fun ticket same => (Option.some.inj same).symm
  | respondApproval id ask decision reply => exact steps_respondApproval s id ask decision reply
  | respondServerRequest id ask response reply =>
    exact steps_respondServerRequest s id ask response reply
  | stopTask thread reply => exact steps_stopTask s thread reply
  | stopBackgroundCommand taskId reply => exact steps_stopBackgroundCommand s taskId reply
  | compact turn notice reply => exact steps_compact s turn notice reply
  | stop reply => exact steps_stop s reply

theorem steps_fails (s : Session) (command : ChildCommand) (error : HarnessError) :
    Steps .done (s.receives command) (s.send command.reply (.failed error)).office := by
  unfold receives
  cases named : command.handOff with
  | some reply =>
    have mine : command.reply = reply := by
      cases command with
      | startTurn line turn model settings notice ticket => exact Option.some.inj named
      | _ => cases named
    dsimp only
    rw [mine, office_send]
    exact Steps.refused (fun same => by cases same) s.inFlight _ reply
  | none => exact steps_answer s _ _

theorem steps_onCommand (s : Session) (command : ChildCommand) :
    Steps .done (s.receives command) (s.onCommand command).office := by
  cases phase : s.phase with
  | serving =>
    have served : s.onCommand command = s.handleCommand command := by
      unfold onCommand
      rw [phase]
      cases command <;> rfl
    rw [served]
    exact steps_handleCommand s command
  | stopping sequence =>
    by_cases stop : ∃ reply, command = .stop reply
    · obtain ⟨reply, rfl⟩ := stop
      exact steps_stop s reply
    · have refused : s.onCommand command = s.refuse command := by
        unfold onCommand
        rw [phase]
        cases command with
        | stop reply => exact absurd ⟨reply, rfl⟩ stop
        | _ => rfl
      rw [refused]
      exact steps_fails s command _

/-- A command leaves the queue, or the hands of a caller. -/
theorem steps_taking {t : Session} {command : ChildCommand}
    (sorted : s.waiting.Perm (command :: t.waiting)) (flight : t.inFlight = s.inFlight)
    (same : t.office = (s.office.knowing t.office.others).holding t.office.held)
    (rest : ∀ ticket, t.Holds ticket →
      (∃ command ∈ t.waiting, command.otherReply = some ticket) ∨ s.Holds ticket) :
    Steps .done s.office (t.receives command) := by
  have inside {other : ChildCommand} (there : other ∈ t.waiting) : other ∈ s.waiting :=
    sorted.mem_iff.2 (List.mem_cons_of_mem _ there)
  have old {ticket : ℕ} (holds : t.Holds ticket) : s.Holds ticket := by
    rcases rest ticket holds with ⟨other, there, named⟩ | holds
    · exact Or.inl ⟨other, inside there, named⟩
    · exact holds
  have held := sorted.filterMap ChildCommand.handOff
  unfold receives knows
  rw [same]
  cases named : command.handOff with
  | some reply =>
    rw [List.filterMap_cons_some named] at held
    have moved : (t.inFlight ++ reply :: t.waiting.filterMap ChildCommand.handOff).Perm
        s.office.held := by
      rw [flight]
      exact (held.append_left s.inFlight).symm
    exact (Relation.ReflTransGen.single (Step.reorder s.office _ moved)).tail
      (Step.forget _ t.office.others fun ticket holds => old holds)
  | none =>
    rw [List.filterMap_cons_none named] at held
    have mine : command.otherReply = some command.reply := by
      cases command with
      | startTurn line turn model settings notice ticket => cases named
      | _ => rfl
    have moved : t.office.held.Perm s.office.held := by
      unfold office
      dsimp only
      rw [flight]
      exact (held.append_left s.inFlight).symm
    refine (Relation.ReflTransGen.single (Step.reorder s.office _ moved)).tail
      (Step.forget _ (insert command.reply t.office.others) ?_)
    rintro ticket (rfl | holds)
    · exact Or.inl ⟨command, sorted.mem_iff.2 List.mem_cons_self, mine⟩
    · exact old holds

/-- A command goes into the queue, or into the hands of a caller. -/
theorem steps_queued {t : Session} {command : ChildCommand}
    (sorted : t.waiting.Perm (command :: s.waiting)) (flight : t.inFlight = s.inFlight)
    (same : t.office = (s.office.knowing t.office.others).holding t.office.held)
    (rest : ∀ ticket, t.Holds ticket →
      (∃ command ∈ t.waiting, command.otherReply = some ticket) ∨ s.Holds ticket) :
    Steps .done (s.receives command) t.office := by
  have held := sorted.filterMap ChildCommand.handOff
  have old {ticket : ℕ} (holds : t.Holds ticket) :
      command.otherReply = some ticket ∨ s.Holds ticket := by
    rcases rest ticket holds with ⟨other, there, named⟩ | holds
    · rcases List.mem_cons.1 (sorted.mem_iff.1 there) with rfl | inside
      · exact Or.inl named
      · exact Or.inr (Or.inl ⟨other, inside, named⟩)
    · exact Or.inr holds
  rw [same]
  unfold receives knows
  cases named : command.handOff with
  | some reply =>
    have none : command.otherReply = none := by
      cases command with
      | startTurn line turn model settings notice ticket => rfl
      | _ => cases named
    rw [List.filterMap_cons_some named] at held
    have moved : t.office.held.Perm
        (s.inFlight ++ reply :: s.waiting.filterMap ChildCommand.handOff) := by
      unfold office
      dsimp only
      rw [flight]
      exact held.append_left s.inFlight
    refine (Relation.ReflTransGen.single (Step.reorder (s.office.holding _) _ moved)).tail
      (Step.forget _ t.office.others ?_)
    intro ticket holds
    rcases old holds with mine | holds
    · rw [none] at mine
      cases mine
    · exact holds
  | none =>
    rw [List.filterMap_cons_none named] at held
    have moved : t.office.held.Perm s.office.held := by
      unfold office
      dsimp only
      rw [flight]
      exact held.append_left s.inFlight
    refine (Relation.ReflTransGen.single
      (Step.reorder (s.office.knowing (insert command.reply s.office.others)) _ moved)).tail
        (Step.forget _ t.office.others ?_)
    intro ticket holds
    rcases old holds with mine | holds
    · cases command with
      | startTurn line turn model settings notice ticket => cases mine
      | _ => exact Or.inl (Option.some.inj mine).symm
    · exact Or.inr holds

theorem steps_receives {command : ChildCommand} {queue : List ChildCommand}
    (there : s.queue = command :: queue) :
    Steps .done s.office (({ s with queue := queue } : Session).receives command) := by
  apply steps_taking
  · unfold waiting
    rw [there]
    rfl
  · rfl
  · rfl
  · rintro ticket (waits | rest)
    · exact Or.inl waits
    · exact Or.inr (Or.inr rest)

/-! ## Lines -/

theorem steps_resolve (s : Session) {waiter : Waiter} (payload : Except HarnessError Json)
    {others : Set ℕ} (known : ∀ ticket, waiter.reply? = some ticket → ticket ∈ others) :
    Steps .done (s.office.knowing others) ((s.resolve waiter payload).office.knowing others) ∧
      (s.resolve waiter payload).office.others = s.office.others := by
  have sent {reply : Ticket} (mine : waiter.reply? = some reply) (answer : Answer) :
      Steps .done (s.office.knowing others) ((s.send reply answer).office.knowing others) ∧
        (s.send reply answer).office.others = s.office.others := by
    rw [office_send, ← TicketOffice.post_knowing, TicketOffice.others_post]
    exact ⟨.single (Step.answer (s.office.knowing others) reply answer (known reply mine)), rfl⟩
  unfold resolve
  split
  · exact ⟨.refl, rfl⟩
  · exact sent rfl _
  · exact sent rfl _
  · exact sent rfl _
  · exact sent rfl _
  · exact sent rfl _
  · exact sent rfl _

/-- Some waiters are answered or left out. -/
theorem steps_onControlResponse (s : Session) (requestId : ControlId) (payload : ControlPayload) :
    Steps .done s.office (s.onControlResponse requestId payload).office := by
  unfold onControlResponse
  split
  · next id waiter found =>
    have there := List.mem_of_find?_eq_some found
    have known (ticket : ℕ) (named : waiter.reply? = some ticket) : ticket ∈ s.office.others :=
      Or.inr (Or.inl ⟨(id, waiter), there, named⟩)
    have start : s.office = ({ s with
        waiters := s.waiters.filter fun entry => entry.1 ≠ requestId } : Session).office.knowing
          s.office.others := rfl
    have fewer : ({ s with
        waiters := s.waiters.filter fun entry => entry.1 ≠ requestId } : Session).office.others ⊆
          s.office.others := by
      rintro ticket (waits | ⟨entry, inside, named⟩ | rest)
      · exact Or.inl waits
      · exact Or.inr (Or.inl ⟨entry, (List.mem_filter.1 inside).1, named⟩)
      · exact Or.inr (Or.inr rest)
    rw [start]
    generalize ({ s with
      waiters := s.waiters.filter fun entry => entry.1 ≠ requestId } : Session) = t at fewer
    obtain ⟨resolved, others⟩ := steps_resolve t payload.controlOutcome known
    refine resolved.trans ?_
    apply steps_fewer rfl
    rw [others]
    exact fewer
  · exact .refl

theorem office_onCancelRequest (s : Session) (requestId : String) :
    (s.onCancelRequest requestId).office = s.office := by
  unfold onCancelRequest
  dsimp only
  split
  · split
    · rfl
    · exact office_append _ _
  · rfl

theorem steps_dispatch (s : Session) (output : MapperOutput) :
    Steps .done s.office (s.dispatch output).office := by
  unfold dispatch
  cases output with
  | event event =>
    dsimp only
    rw [office_append]
  | reply requestId response =>
    dsimp only
    split
    · exact .refl
    · split
      · exact steps_broken
      · have line : StdinLine.handOff (.response requestId (controlResponse response)) = none := rfl
        have written := office_wrote s line
        have same : ({ s.wrote (.response requestId (controlResponse response)) with
            asked := insert requestId s.asked } : Session).office = s.office := written
        rw [same]
  | controlResponse requestId payload =>
    dsimp only
    split
    · next setup current =>
      split
      · exact steps_onSetupResponse current payload
      · exact steps_onControlResponse s _ _
    · exact steps_onControlResponse s _ _
  | pendingApproval id requestId toolUseId toolName suggestions thread =>
    dsimp only
    split <;> exact .refl
  | pendingServerRequest id thread requestId subtype input =>
    dsimp only
    split <;> exact .refl
  | cancelRequest requestId =>
    dsimp only
    rw [office_onCancelRequest]

theorem steps_dispatchAll (s : Session) (outputs : List MapperOutput) :
    Steps .done s.office (s.dispatchAll outputs).office := by
  induction outputs generalizing s with
  | nil => exact .refl
  | cons output rest ih =>
    unfold dispatchAll
    dsimp only
    split
    · exact steps_dispatch s output
    · exact (steps_dispatch s output).trans (ih _)

theorem steps_afterLine (s : Session) : Steps .done s.office s.afterLine.office := by
  unfold afterLine
  split
  · next replies reaped there =>
    split
    · refine steps_fewer_of (s := s) (u := s) ?_ rfl ?_
      · rfl
      rintro ticket (waits | asked | stops | ended)
      · exact Or.inl waits
      · exact Or.inr (Or.inl asked)
      · refine Or.inr (Or.inr (Or.inl ?_))
        rw [there]
        exact stops
      · exact Or.inr (Or.inr (Or.inr ended))
    · exact .refl
  · exact .refl

/-! ## The other arms -/

theorem steps_ending (s : Session) {ending : Ending}
    (mine : ∀ ticket ∈ ending.replies, ticket ∈ s.phase.replies) :
    Steps .done s.office ({ s with ending := some ending } : Session).office := by
  refine steps_fewer_of (s := s) (u := s) ?_ rfl ?_
  · rfl
  rintro ticket (waits | asked | stops | ⟨other, same, among⟩)
  · exact Or.inl waits
  · exact Or.inr (Or.inl asked)
  · exact Or.inr (Or.inr (Or.inl stops))
  · obtain rfl := Option.some.inj same
    exact Or.inr (Or.inr (Or.inl (mine ticket among)))

theorem steps_abandoned (s : Session) (error : TurnSetup → HarnessError) :
    Steps .done s.office (s.abandonSetup error).office := by
  obtain ⟨failed, others⟩ := steps_abandonSetup s error s.office.others
  have same : (s.abandonSetup error).office.knowing s.office.others =
      (s.abandonSetup error).office := by
    rw [← others]
    rfl
  rwa [same] at failed

theorem steps_onDeadline (s : Session) (waited : String) :
    Steps .done s.office (s.onDeadline waited).office := by
  unfold onDeadline
  split
  · exact steps_abandoned s _
  · next replies reaped there =>
    refine steps_fewer_of (s := s) (u := s) ?_ rfl ?_
    · rfl
    rintro ticket (waits | asked | stops | ended)
    · exact Or.inl waits
    · exact Or.inr (Or.inl asked)
    · refine Or.inr (Or.inr (Or.inl ?_))
      rw [there]
      exact stops
    · exact Or.inr (Or.inr (Or.inr ended))
  · next replies reaped there =>
    apply steps_ending
    rw [there]
    exact fun _ among => among

theorem stops_none (s : Session) : s.stops none = s.office := by
  have same : s.office.others ∪ { ticket | none = some ticket } = s.office.others := by
    ext ticket
    simp
  unfold stops
  rw [same]
  rfl

theorem steps_shut (s : Session) (reaped : Bool) :
    Steps .done s.office (s.enterStopping none reaped).office := by
  have stop := steps_enterStopping s none reaped
  rwa [stops_none] at stop

theorem steps_reap (s : Session) : Steps .done s.office s.reap.office := by
  unfold reap
  split
  · split
    · next command queue _ there => exact (steps_receives there).trans (steps_onCommand _ command)
    · exact steps_shut { s with attached := false, entryModel := s.currentModel, reaped := true } true
    · exact steps_shut s false
  · exact .refl

theorem steps_failInFlight (s : Session) : Steps .done s.office s.failInFlight.office := by
  unfold failInFlight
  split
  · next setup current =>
    have held : s.office = ({ s with turnSetup := none } : Session).working setup.reply := by
      unfold working office inFlight
      dsimp only
      rw [current]
      rfl
    rw [held]
    exact steps_failTurnSetup _ setup _
  · exact .refl

theorem steps_sends (replies : List Ticket) (answer : Answer) {others : Set ℕ}
    (known : ∀ reply ∈ replies, reply ∈ others) (s : Session) :
    Steps .done (s.office.knowing others)
        ((replies.foldl (fun s reply => s.send reply answer) s).office.knowing others) ∧
      (replies.foldl (fun s reply => s.send reply answer) s).office.others = s.office.others := by
  induction replies generalizing s with
  | nil => exact ⟨.refl, rfl⟩
  | cons reply rest ih =>
    obtain ⟨later, same⟩ :=
      ih (fun other there => known other (List.mem_cons_of_mem _ there)) (s.send reply answer)
    rw [List.foldl_cons]
    rw [office_send] at later same
    rw [← TicketOffice.post_knowing] at later
    refine ⟨Relation.ReflTransGen.head ?_ later, same.trans (TicketOffice.others_post _)⟩
    exact Step.answer (s.office.knowing others) reply answer (known reply List.mem_cons_self)

theorem steps_resolves (waiters : List (ControlId × Waiter)) {others : Set ℕ}
    (known : ∀ entry ∈ waiters, ∀ ticket, entry.2.reply? = some ticket → ticket ∈ others)
    (s : Session) :
    Steps .done (s.office.knowing others)
        ((waiters.foldl (fun s entry => s.resolve entry.2 (.error childStopped))
          s).office.knowing others) ∧
      (waiters.foldl (fun s entry => s.resolve entry.2 (.error childStopped)) s).office.others =
        s.office.others := by
  induction waiters generalizing s with
  | nil => exact ⟨.refl, rfl⟩
  | cons entry rest ih =>
    obtain ⟨first, kept⟩ := steps_resolve s (.error childStopped)
      (known entry List.mem_cons_self)
    obtain ⟨later, same⟩ := ih (fun other there => known other (List.mem_cons_of_mem _ there))
      (s.resolve entry.2 (.error childStopped))
    exact ⟨first.trans later, same.trans kept⟩

theorem steps_failWaiters (s : Session) : Steps .done s.office s.failWaiters.office := by
  have known (entry : ControlId × Waiter) (there : entry ∈ s.waiters) (ticket : Ticket)
      (named : entry.2.reply? = some ticket) : ticket ∈ s.office.others :=
    Or.inr (Or.inl ⟨entry, there, named⟩)
  obtain ⟨resolved, others⟩ := steps_resolves s.waiters known { s with waiters := [] }
  refine Relation.ReflTransGen.trans resolved ?_
  apply steps_fewer rfl
  intro ticket there
  have there : ticket ∈ ({ s with waiters := [] } : Session).office.others := others ▸ there
  rcases there with waits | ⟨entry, inside, _⟩ | rest
  · exact Or.inl waits
  · cases inside
  · exact Or.inr (Or.inr rest)

/-- What is left in the queue is refused. -/
theorem steps_refuses (commands : List ChildCommand) (held : List ℕ) {others : Set ℕ}
    (known : ∀ command ∈ commands, ∀ ticket, command.otherReply = some ticket → ticket ∈ others)
    (s : Session) :
    Steps .done
        ((s.office.knowing others).holding (commands.filterMap ChildCommand.handOff ++ held))
        (((commands.foldl (fun s command => s.send command.reply (.failed childStopped))
          s).office.knowing others).holding held) ∧
      (commands.foldl (fun s command => s.send command.reply (.failed childStopped))
        s).office.others = s.office.others ∧
      (commands.foldl (fun s command => s.send command.reply (.failed childStopped))
        s).office.held = s.office.held := by
  induction commands generalizing s with
  | nil => exact ⟨.refl, rfl, rfl⟩
  | cons command rest ih =>
    obtain ⟨later, same, kept⟩ := ih (fun other there => known other (List.mem_cons_of_mem _ there))
      (s.send command.reply (.failed childStopped))
    rw [office_send] at later same kept
    refine ⟨?_, same.trans (TicketOffice.others_post _), kept.trans (TicketOffice.held_post _)⟩
    rw [List.foldl_cons]
    refine Relation.ReflTransGen.trans ?_ later
    rw [← TicketOffice.post_knowing, ← TicketOffice.post_holding]
    cases command with
    | startTurn line turn model settings notice reply =>
      exact Steps.refused (fun same => by cases same) [] _ reply
    | _ => exact .single (Step.answer _ _ _ (known _ List.mem_cons_self _ rfl))

theorem steps_dropQueue (s : Session) : Steps .done s.office s.dropQueue.office := by
  have known (command : ChildCommand) (there : command ∈ s.queue) (ticket : Ticket)
      (named : command.otherReply = some ticket) : ticket ∈ s.office.others :=
    Or.inl ⟨command, List.mem_append_left _ there, named⟩
  obtain ⟨refused, others, held⟩ := steps_refuses s.queue
    (s.inFlight ++ s.taken.filterMap ChildCommand.handOff) known
    { s with queue := [], exited := true }
  have sorted : (s.queue.filterMap ChildCommand.handOff ++
      (s.inFlight ++ s.taken.filterMap ChildCommand.handOff)).Perm s.office.held := by
    unfold office waiting
    dsimp only
    rw [List.filterMap_append, ← List.append_assoc, ← List.append_assoc]
    exact List.perm_append_comm.append_right _
  refine (Relation.ReflTransGen.single (Step.reorder s.office _ sorted)).trans
    (Relation.ReflTransGen.trans refused ?_)
  apply steps_fewer
  · have left : s.inFlight ++ s.taken.filterMap ChildCommand.handOff = s.dropQueue.office.held :=
      held.symm
    rw [left]
    rfl
  · have left : s.dropQueue.office.others =
        ({ s with queue := [], exited := true } : Session).office.others := others
    rw [left]
    rintro ticket (⟨command, there, named⟩ | rest)
    · exact Or.inl ⟨command, List.mem_append_right _ there, named⟩
    · exact Or.inr rest

/-! ## The end -/

@[simp] theorem ending_send (reply : Ticket) (answer : Answer) :
    (s.send reply answer).ending = s.ending := by
  unfold send
  split <;> rfl

@[simp] theorem ending_failInFlight : s.failInFlight.ending = s.ending := by
  unfold failInFlight
  split
  · exact ending_send _ _
  · rfl

@[simp] theorem ending_resolve (waiter : Waiter) (payload : Except HarnessError Json) :
    (s.resolve waiter payload).ending = s.ending := by
  unfold resolve
  split <;> simp

@[simp] theorem ending_failWaiters : s.failWaiters.ending = s.ending := by
  unfold failWaiters
  have kept (waiters : List (ControlId × Waiter)) (t : Session) :
      (waiters.foldl (fun s entry => s.resolve entry.2 (.error childStopped)) t).ending =
        t.ending := by
    induction waiters generalizing t with
    | nil => rfl
    | cons entry rest ih => rw [List.foldl_cons, ih, ending_resolve]
  exact kept s.waiters { s with waiters := [] }

theorem steps_onExit (s : Session) {ending : Ending} (there : s.ending = some ending) :
    Steps .done s.office (s.onExit ending).office := by
  have stopped (removed : Session) (same : removed.office = s.failInFlight.office) :
      Steps .done s.office removed.failWaiters.office := by
    refine (steps_failInFlight s).trans ?_
    rw [← same]
    exact steps_failWaiters removed
  unfold onExit
  dsimp only
  split
  · next replies reaped =>
    have answered (t : Session) (mine : t.ending = some (.stopped replies reaped)) :
        Steps .done t.office (replies.foldl (fun s reply => s.send reply .done) t).office := by
      have known (reply : Ticket) (among : reply ∈ replies) : reply ∈ t.office.others :=
        Or.inr (Or.inr (Or.inr ⟨_, mine, among⟩))
      obtain ⟨sent, others⟩ := steps_sends replies .done known t
      refine Relation.ReflTransGen.trans sent (steps_fewer ?_ ?_)
      · rfl
      · exact others.subset
    refine Relation.ReflTransGen.trans ?_ (steps_dropQueue _)
    refine Relation.ReflTransGen.trans ?_ (answered _ ?_)
    · split
      · exact stopped s.failInFlight rfl
      · exact stopped { s.failInFlight with
          pending := s.failInFlight.pending.removeOwner s.failInFlight.thread
          attached := false } rfl
    · rw [ending_failWaiters]
      split
      · exact ending_failInFlight.trans there
      · exact ending_failInFlight.trans there
  · exact (stopped { s.failInFlight with
      pending := s.failInFlight.pending.removeOwner s.failInFlight.thread
      attached := false } rfl).trans (steps_dropQueue _)
  · exact (stopped { s.failInFlight with
      pending := s.failInFlight.pending.removeOwner s.failInFlight.thread
      attached := false } rfl).trans (steps_dropQueue _)

theorem steps_onAbort (s : Session) : Steps .done s.office s.onAbort.office := by
  unfold onAbort
  refine (steps_failInFlight s).trans ?_
  exact Relation.ReflTransGen.trans (steps_failWaiters { s.failInFlight with attached := false })
    (steps_dropQueue _)

/-! ## The façade -/

theorem steps_sendNow (s : Session) (command : ChildCommand) :
    Steps .done (s.receives command) (s.sendNow command).office := by
  unfold sendNow
  split
  · exact steps_fails s command _
  · split
    · apply steps_queued
      · unfold waiting
        rw [List.append_assoc]
        exact List.perm_middle
      · rfl
      · rfl
      · rintro ticket (waits | rest)
        · exact Or.inl waits
        · exact Or.inr (Or.inr rest)
    · exact steps_fails s command _

theorem steps_sendTaken (s : Session) (command : ChildCommand) :
    Steps .done (s.receives command) (s.sendTaken command).office := by
  unfold sendTaken
  split
  · next id ask amendment reply =>
    exact steps_fails { s with pending := s.pending.insertApproval id ask }
      (.respondApproval id ask (.acceptWithExecPolicyAmendment amendment) reply) _
  · split
    · exact steps_sendNow s command
    · exact steps_fails s command _

theorem steps_newTicket (s : Session) {command : ChildCommand}
    (other : command.handOff = none) (mine : command.reply = s.nextTicket) :
    Steps .done s.office (({ s with nextTicket := s.nextTicket + 1 } : Session).receives command) := by
  unfold receives
  rw [other, mine]
  exact .single (Step.other s.office)

theorem steps_startTurn (s : Session) (line : String) (turn : TurnId) (mode : String)
    (model : Option ModelRef) (catalog : String → Option String) (notice : Option String) :
    Steps .done s.office (s.startTurn line turn mode model catalog notice).office := by
  unfold startTurn newTicket
  dsimp only
  split
  · refine Relation.ReflTransGen.trans ?_ (steps_sendNow _ _)
    refine (Relation.ReflTransGen.single (TicketOffice.Step.call s.office)).tail ?_
    refine Step.reorder _ (s.inFlight ++ s.nextTicket ::
      s.waiting.filterMap ChildCommand.handOff) ?_
    exact List.perm_middle.trans (List.perm_append_singleton _ _).symm
  · exact .single (Step.skip s.office)

theorem steps_takeApproval (s : Session) (id : ApprovalId) (decision : ApprovalDecision) :
    Steps .done s.office (s.takeApproval id decision).office := by
  unfold takeApproval newTicket
  dsimp only
  split
  · exact (Relation.ReflTransGen.single (Step.other s.office)).trans
      (steps_answer { s with nextTicket := s.nextTicket + 1 } s.nextTicket _)
  · next ask pending _ =>
    have fresh : Steps .done s.office (({ s with nextTicket := s.nextTicket + 1 } : Session).receives
        (.respondApproval id ask decision s.nextTicket)) := steps_newTicket s rfl rfl
    refine fresh.trans ?_
    apply steps_queued
    · unfold waiting
      rw [← List.append_assoc]
      exact List.perm_append_singleton _ _
    · rfl
    · rfl
    · rintro ticket (waits | rest)
      · exact Or.inl waits
      · exact Or.inr (Or.inr rest)

theorem steps_takeServerRequest (s : Session) (id : ServerRequestId)
    (response : ServerRequestResponse) :
    Steps .done s.office (s.takeServerRequest id response).office := by
  unfold takeServerRequest newTicket
  dsimp only
  split
  · exact (Relation.ReflTransGen.single (Step.other s.office)).trans
      (steps_answer { s with nextTicket := s.nextTicket + 1 } s.nextTicket _)
  · next ask pending _ =>
    have fresh : Steps .done s.office (({ s with nextTicket := s.nextTicket + 1 } : Session).receives
        (.respondServerRequest id ask response s.nextTicket)) := steps_newTicket s rfl rfl
    refine fresh.trans ?_
    apply steps_queued
    · unfold waiting
      rw [← List.append_assoc]
      exact List.perm_append_singleton _ _
    · rfl
    · rfl
    · rintro ticket (waits | rest)
      · exact Or.inl waits
      · exact Or.inr (Or.inr rest)

theorem steps_call (s : Session) (request : Call) :
    Steps .done s.office (s.call request).office := by
  have sent : Steps .done s.office (({ s with nextTicket := s.nextTicket + 1 } : Session).sendNow
      (request.command s.nextTicket)).office := by
    refine Relation.ReflTransGen.trans (steps_newTicket s ?_ ?_) (steps_sendNow _ _)
    · cases request <;> rfl
    · cases request <;> rfl
  unfold call newTicket
  dsimp only
  split
  · exact sent
  · exact sent
  · split
    · exact sent
    · exact .single (Step.skip s.office)

/-! ## Steps -/

theorem steps_loopStep (s : Session) (label : Session.Step) :
    Steps .done s.office (s.loopStep label).office := by
  unfold loopStep
  split
  · next mapper outputs =>
    have dispatched := steps_dispatchAll { s with mapper := mapper } outputs
    unfold onLine
    dsimp only
    split
    · exact dispatched
    · exact Relation.ReflTransGen.trans dispatched (steps_afterLine _)
  · next mapper outputs => exact steps_dispatchAll { s with mapper := mapper } outputs
  · split
    · next command queue there => exact (steps_receives there).trans (steps_onCommand _ command)
    · exact .refl
  · dsimp only
    split
    · exact .refl
    · exact steps_shut { s with commandsClosed := true } false
  · split
    · exact .refl
    · exact steps_shut s false
  · exact steps_onDeadline s _
  · exact steps_reap s
  · apply steps_ending
    cases phase : s.phase with
    | serving => exact fun _ there => by cases there
    | stopping sequence => exact fun _ there => there
  · exact steps_broken
  · exact .refl

/-- Every step of a session is a number of steps of its office. -/
theorem steps_step (s : Session) (label : Session.Step) :
    Steps .done s.office (s.step label).office := by
  unfold step
  split
  · exact steps_startTurn s _ _ _ _ _ _
  · exact steps_takeApproval s _ _
  · exact steps_takeServerRequest s _ _
  · next index =>
    split
    · next command there =>
      refine Relation.ReflTransGen.trans ?_ (steps_sendTaken _ _)
      apply steps_taking
      · obtain ⟨inside, here⟩ := List.getElem?_eq_some_iff.1 there
        have taken := (List.getElem_cons_eraseIdx_perm inside).symm
        rw [here] at taken
        exact (taken.append_left s.queue).trans List.perm_middle
      · rfl
      · rfl
      · rintro ticket (waits | rest)
        · exact Or.inl waits
        · exact Or.inr (Or.inr rest)
    · exact .refl
  · exact steps_call s _
  · next reply => exact .single (Step.close s.office reply)
  · exact .refl
  · exact .refl
  · exact .refl
  · exact .refl
  · split
    · next ending there =>
      split
      · exact .refl
      · exact steps_onExit s there
    · exact .refl
  · split
    · exact .refl
    · exact steps_onAbort s
  · split
    · exact .refl
    · exact steps_loopStep s _

/-! ## After the end -/

/-- Whether the supervisor's task has ended, what the callers have in their hands, and what they
have sent: the loop changes none of it but for taking commands off the queue. -/
def outside (s : Session) : Bool × List ChildCommand × List ChildCommand :=
  (s.exited, s.taken, s.queue)

section Outside

variable (s : Session)

@[simp] theorem outside_send (reply : Ticket) (answer : Answer) :
    (s.send reply answer).outside = s.outside := by
  unfold send
  split <;> rfl

@[simp] theorem outside_broken : s.broken.outside = s.outside := rfl

@[simp] theorem outside_append (event : AgentEvent) : (s.append event).outside = s.outside := by
  unfold append
  split <;> rfl

@[simp] theorem outside_sendSetupRequest (setup : TurnSetup) (stage : SetupStage) :
    (s.sendSetupRequest setup stage).outside = s.outside := by
  unfold sendSetupRequest
  dsimp only
  split
  · rw [outside_broken, outside_send]
    rfl
  · rfl

@[simp] theorem outside_beginTurnSetup (line : String) (turn : TurnId) (model : ModelRef)
    (settings : TurnSettings) (notice : Option String) (reply : Ticket) :
    (s.beginTurnSetup line turn model settings notice reply).outside = s.outside := by
  unfold beginTurnSetup
  split
  · rfl
  · split <;> simp

@[simp] theorem outside_abandonSetup (error : TurnSetup → HarnessError) :
    (s.abandonSetup error).outside = s.outside := by
  unfold abandonSetup
  split
  · rfl
  · exact outside_send _ _ _

@[simp] theorem outside_beginTurn (turn : TurnId) (notice : Option String) :
    (s.beginTurn turn notice).outside = s.outside := by
  unfold beginTurn
  cases notice with
  | none => exact outside_append _ _
  | some message => exact (outside_append _ _).trans (outside_append _ _)

@[simp] theorem outside_writeUser (line : String) (prompt : Prompt) (active : Option TurnId)
    (reply : Ticket) : (s.writeUser line prompt active reply).outside = s.outside := by
  unfold writeUser
  split
  · simp
  · exact outside_send _ _ _

@[simp] theorem outside_finishTurnSetup (setup : TurnSetup) :
    (s.finishTurnSetup setup).outside = s.outside := by
  unfold finishTurnSetup
  split
  · rfl
  · split
    · simp
    · exact (outside_writeUser _ _ _ _ _).trans (outside_beginTurn { s with withdrawn := ∅ } _ _)

@[simp] theorem outside_setupStageDone (setup : TurnSetup) (response : Json) :
    (s.setupStageDone setup response).1.outside = s.outside := by
  have read : (s.checkReadBack setup response).1.outside = s.outside := by
    unfold checkReadBack
    dsimp only
    split
    · split <;> rfl
    · rfl
  unfold setupStageDone
  split
  · rfl
  · rfl
  · rfl
  · split <;> next there => rwa [there] at read

@[simp] theorem outside_onSetupResponse (setup : TurnSetup) (payload : ControlPayload) :
    (s.onSetupResponse setup payload).outside = s.outside := by
  unfold onSetupResponse
  dsimp only
  split
  · exact outside_send _ _ _
  · next response _ =>
    have done := outside_setupStageDone { s with turnSetup := none } setup response
    split <;> next there => 
      rw [there] at done
      first
        | exact (outside_sendSetupRequest _ _ _).trans done
        | exact (outside_finishTurnSetup _ _).trans done
        | exact (outside_send _ _ _).trans done

@[simp] theorem outside_writeControl (request : ControlRequest) (waiter : Waiter)
    (reply : Ticket) : (s.writeControl request waiter reply).outside = s.outside := by
  unfold writeControl
  dsimp only
  split
  · rw [outside_broken, outside_send]
    rfl
  · rfl

@[simp] theorem outside_compact (turn : TurnId) (notice : Option String) (reply : Ticket) :
    (s.compact turn notice reply).outside = s.outside := by
  unfold compact
  split
  · rfl
  · split
    · simp
    · exact (outside_writeUser _ _ _ _ _).trans (outside_beginTurn { s with withdrawn := ∅ } _ _)

@[simp] theorem outside_writeResponse (requestId : String) (response : ControlResponse)
    (reply : Ticket) : (s.writeResponse requestId response reply).outside = s.outside := by
  unfold writeResponse
  split
  · simp
  · exact outside_send _ _ _

@[simp] theorem outside_respondApproval (id : ApprovalId) (ask : PendingAsk)
    (decision : ApprovalDecision) (reply : Ticket) :
    (s.respondApproval id ask decision reply).outside = s.outside := by
  unfold respondApproval
  split
  · exact outside_send _ _ _
  · split
    · rfl
    · split
      · exact outside_send _ _ _
      · simp

@[simp] theorem outside_respondServerRequest (id : ServerRequestId) (ask : PendingAsk)
    (response : ServerRequestResponse) (reply : Ticket) :
    (s.respondServerRequest id ask response reply).outside = s.outside := by
  unfold respondServerRequest
  split
  · exact (outside_send _ _ _).trans (outside_append s _)
  · split
    · rfl
    · split
      · exact outside_send _ _ _
      · split
        · simp
        · exact (outside_send _ _ _).trans (outside_append _ _)

@[simp] theorem outside_enterStopping (reply : Option Ticket) (reaped : Bool) :
    (s.enterStopping reply reaped).outside = s.outside := by
  unfold enterStopping
  split
  · rfl
  · have failed := outside_abandonSetup s fun _ => .transport "claude child is stopping"
    dsimp only
    split
    · exact failed
    · split
      · exact failed
      · exact failed

@[simp] theorem outside_handleCommand (command : ChildCommand) :
    (s.handleCommand command).outside = s.outside := by
  cases command with
  | stopTask thread reply =>
    unfold handleCommand stopTask
    dsimp only
    split <;> simp
  | stopBackgroundCommand taskId reply =>
    unfold handleCommand stopBackgroundCommand
    dsimp only
    split <;> simp
  | _ => simp [handleCommand]

@[simp] theorem outside_onCommand (command : ChildCommand) :
    (s.onCommand command).outside = s.outside := by
  unfold onCommand
  split
  · simp
  · exact outside_send _ _ _
  · simp

@[simp] theorem outside_resolve (waiter : Waiter) (payload : Except HarnessError Json) :
    (s.resolve waiter payload).outside = s.outside := by
  unfold resolve
  split <;> simp

@[simp] theorem outside_dispatch (output : MapperOutput) :
    (s.dispatch output).outside = s.outside := by
  have response (requestId : ControlId) (payload : ControlPayload) :
      (s.onControlResponse requestId payload).outside = s.outside := by
    unfold onControlResponse
    split
    · exact outside_resolve _ _ _
    · rfl
  unfold dispatch
  cases output with
  | event event => exact outside_append s event
  | reply requestId response =>
    dsimp only
    split
    · rfl
    · split <;> rfl
  | controlResponse requestId payload =>
    dsimp only
    split
    · split
      · exact outside_onSetupResponse s _ _
      · exact response requestId payload
    · exact response requestId payload
  | pendingApproval id requestId toolUseId toolName suggestions thread =>
    dsimp only
    split <;> rfl
  | pendingServerRequest id thread requestId subtype input =>
    dsimp only
    split <;> rfl
  | cancelRequest requestId =>
    dsimp only
    unfold onCancelRequest
    dsimp only
    split
    · split
      · rfl
      · exact outside_append _ _
    · rfl

theorem outside_dispatchAll (outputs : List MapperOutput) :
    (s.dispatchAll outputs).outside = s.outside := by
  induction outputs generalizing s with
  | nil => rfl
  | cons output rest ih =>
    unfold dispatchAll
    dsimp only
    split
    · exact outside_dispatch s output
    · exact (ih _).trans (outside_dispatch s output)

theorem outside_loopStep (label : Session.Step) :
    ∃ queue, queue ⊆ s.queue ∧ (s.loopStep label).outside = (s.exited, s.taken, queue) := by
  have whole {t : Session} (same : t.outside = s.outside) :
      ∃ queue, queue ⊆ s.queue ∧ t.outside = (s.exited, s.taken, queue) :=
    ⟨s.queue, List.Subset.refl _, same⟩
  have popped {command : ChildCommand} {queue : List ChildCommand}
      (there : s.queue = command :: queue) : ∃ left, left ⊆ s.queue ∧
        (({ s with queue := queue } : Session).onCommand command).outside =
          (s.exited, s.taken, left) := by
    refine ⟨queue, ?_, outside_onCommand { s with queue := queue } command⟩
    rw [there]
    exact List.subset_cons_self _ _
  unfold loopStep
  split
  · next mapper outputs =>
    have dispatched := outside_dispatchAll { s with mapper := mapper } outputs
    apply whole
    unfold onLine afterLine
    dsimp only
    split
    · exact dispatched
    · split
      · split
        · exact dispatched
        · exact dispatched
      · exact dispatched
  · next mapper outputs => exact whole (outside_dispatchAll { s with mapper := mapper } outputs)
  · split
    · next command queue there => exact popped there
    · exact whole rfl
  · dsimp only
    split
    · exact whole rfl
    · exact whole (outside_enterStopping { s with commandsClosed := true } _ _)
  · split
    · exact whole rfl
    · exact whole (outside_enterStopping s _ _)
  · unfold onDeadline
    split
    · exact whole (outside_abandonSetup s _)
    · exact whole rfl
    · exact whole rfl
  · unfold reap
    split
    · split
      · next command queue _ there => exact popped there
      · exact whole (outside_enterStopping { s with
          attached := false
          entryModel := s.currentModel
          reaped := true } _ _)
      · exact whole (outside_enterStopping s _ _)
    · exact whole rfl
  · exact whole rfl
  · exact whole rfl
  · exact whole rfl

end Outside

/-- What an answer to a caller does not touch. -/
def kept (s : Session) : Bool × List ChildCommand × List ChildCommand × Option TurnSetup :=
  (s.exited, s.taken, s.queue, s.turnSetup)

theorem kept_send (s : Session) (reply : Ticket) (answer : Answer) :
    (s.send reply answer).kept = s.kept := by
  unfold send
  split <;> rfl

theorem kept_foldl {α : Type} {f : Session → α → Session}
    (same : ∀ s value, (f s value).kept = s.kept) (values : List α) (s : Session) :
    (values.foldl f s).kept = s.kept := by
  induction values generalizing s with
  | nil => rfl
  | cons value rest ih => rw [List.foldl_cons, ih, same]

theorem kept_resolve (s : Session) (waiter : Waiter) (payload : Except HarnessError Json) :
    (s.resolve waiter payload).kept = s.kept := by
  unfold resolve
  split
  · rfl
  · exact kept_send s _ _
  · exact kept_send s _ _
  · exact kept_send s _ _
  · exact kept_send s _ _
  · exact kept_send s _ _
  · exact kept_send s _ _

theorem kept_failWaiters (s : Session) : s.failWaiters.kept = s.kept :=
  kept_foldl (fun s (entry : ControlId × Waiter) => kept_resolve s entry.2 _) _ _

theorem kept_dropQueue (s : Session) : s.dropQueue.kept = (true, s.taken, [], s.turnSetup) :=
  kept_foldl (fun s (command : ChildCommand) => kept_send s command.reply _) _ _

theorem kept_failInFlight (s : Session) :
    s.failInFlight.kept = (s.exited, s.taken, s.queue, none) := by
  unfold failInFlight
  split
  · exact kept_send _ _ _
  · next free =>
    unfold kept
    rw [free]

/-- Once the task has ended, nothing is left of the queue or the hand-off in flight; the callers'
hands hold answers only. -/
structure Over (s : Session) : Prop where
  answers : ∀ command ∈ s.taken, command.handOff = none
  nothing : s.exited = true → s.queue = [] ∧ s.turnSetup = none

theorem Over.of_kept {t : Session} (ends : s.Over) (same : t.kept = s.kept) : t.Over := by
  simp only [kept, Prod.mk.injEq] at same
  obtain ⟨exited, taken, queue, setup⟩ := same
  refine ⟨taken ▸ ends.answers, ?_⟩
  rw [exited, queue, setup]
  exact ends.nothing

theorem over_ended {t : Session} (answers : ∀ command ∈ s.taken, command.handOff = none)
    (ended : t.kept = (true, s.taken, [], none)) : t.Over := by
  simp only [kept, Prod.mk.injEq] at ended
  obtain ⟨_, taken, queue, setup⟩ := ended
  exact ⟨taken ▸ answers, fun _ => ⟨queue, setup⟩⟩

theorem kept_onExit (s : Session) (ending : Ending) :
    (s.onExit ending).kept = (true, s.taken, [], none) := by
  have dropped {t : Session} (same : t.kept = s.failInFlight.kept) :
      t.dropQueue.kept = (true, s.taken, [], none) := by
    rw [kept_failInFlight] at same
    simp only [kept, Prod.mk.injEq] at same
    rw [kept_dropQueue, same.2.1, same.2.2.2]
  unfold onExit
  dsimp only
  split
  · apply dropped
    rw [kept_foldl (fun s reply => kept_send s reply .done), kept_failWaiters]
    split
    · rfl
    · rfl
  · apply dropped
    rw [kept_failWaiters]
    rfl
  · apply dropped
    rw [kept_failWaiters]
    rfl

theorem kept_onAbort (s : Session) : s.onAbort.kept = (true, s.taken, [], none) := by
  have failed : ({ s.failInFlight with attached := false } : Session).kept =
      (s.exited, s.taken, s.queue, none) := kept_failInFlight s
  have waited := (kept_failWaiters { s.failInFlight with attached := false }).trans failed
  simp only [kept, Prod.mk.injEq] at waited
  unfold onAbort
  rw [kept_dropQueue, waited.2.1, waited.2.2.2]

theorem Over.sendNow (ends : s.Over) (command : ChildCommand) : (s.sendNow command).Over := by
  unfold Session.sendNow
  split
  · exact ends.of_kept (kept_send s _ _)
  · next runs =>
    split
    · exact ⟨ends.answers, fun exited => absurd exited runs⟩
    · exact ends.of_kept (kept_send s _ _)

theorem Over.taking (ends : s.Over) {taken : List ChildCommand}
    (answers : ∀ command ∈ taken, command.handOff = none) :
    ({ s with taken := taken } : Session).Over := ⟨answers, ends.nothing⟩

theorem Over.sendTaken (ends : s.Over) (command : ChildCommand) : (s.sendTaken command).Over := by
  unfold Session.sendTaken
  split
  · exact ends.of_kept (kept_send _ _ _)
  · split
    · exact ends.sendNow command
    · exact ends.of_kept (kept_send _ _ _)

theorem Over.loopStep (ends : s.Over) (label : Session.Step) :
    (if s.exited || s.ending.isSome then s else s.loopStep label).Over := by
  split
  · exact ends
  · next runs =>
    obtain ⟨queue, _, same⟩ := outside_loopStep s label
    simp only [outside, Prod.mk.injEq] at same
    refine ⟨same.2.1 ▸ ends.answers, fun exited => ?_⟩
    rw [same.1] at exited
    simp [exited] at runs

theorem Over.step (ends : s.Over) (label : Session.Step) : (s.step label).Over := by
  have fresh : ({ s with nextTicket := s.nextTicket + 1 } : Session).Over := ends.of_kept rfl
  have concat {command : ChildCommand} (other : command.handOff = none) (held : ChildCommand)
      (there : held ∈ s.taken ++ [command]) : held.handOff = none := by
    rcases List.mem_append.1 there with old | new
    · exact ends.answers held old
    · rwa [List.mem_singleton.1 new]
  unfold Session.step
  split
  · unfold startTurn newTicket
    dsimp only
    split
    · apply Over.sendNow
      exact ends.of_kept rfl
    · exact fresh
  · unfold takeApproval newTicket
    dsimp only
    split
    · exact fresh.of_kept (kept_send _ _ _)
    · exact ⟨concat rfl, ends.nothing⟩
  · unfold takeServerRequest newTicket
    dsimp only
    split
    · exact fresh.of_kept (kept_send _ _ _)
    · exact ⟨concat rfl, ends.nothing⟩
  · split
    · exact (ends.taking fun command there =>
        ends.answers command (List.mem_of_mem_eraseIdx there)).sendTaken _
    · exact ends
  · unfold call newTicket
    dsimp only
    split
    · exact fresh.sendNow _
    · exact fresh.sendNow _
    · split
      · exact fresh.sendNow _
      · exact fresh
  · exact ends.of_kept rfl
  · exact ends.of_kept rfl
  · exact ends.of_kept rfl
  · exact ends.of_kept rfl
  · exact ends.of_kept rfl
  · split
    · split
      · exact ends
      · exact over_ended ends.answers (kept_onExit s _)
    · exact ends
  · split
    · exact ends
    · exact over_ended ends.answers (kept_onAbort s)
  · exact ends.loopStep _

end Session

end Giskard.Claude
