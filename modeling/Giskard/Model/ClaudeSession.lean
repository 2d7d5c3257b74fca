import Mathlib
import Giskard.Model.ClaudeAsks

/-!
# The supervisor of a Claude Code child

One task owns a `claude` child. It reads the child's stdout lines through the mapper, serves the
commands that the façade puts in its queue, and is the only writer of the child's stdin. The
state below is the supervisor's, with what it shares with the façade: the pending asks, the
queue, and whether the thread's entry still holds the child. A step is one arm of the main loop,
run to completion, or one critical section of the façade.

The mapper is seen through what the supervisor reads off it (`MapperView`); a line brings any
outputs and leaves any view, so that every mapper is covered. A reply channel is a ticket; the
callers that gave up are remembered. The ids of the supervisor's own control requests are fresh
numbers. Time, the log lines, the spans and the sub-agent routes are left out: a deadline may
pass whenever there is one.

SOURCE: crates/giskard-harness-claude/src/session.rs, harness.rs.
-/

set_option autoImplicit false

namespace Giskard.Claude

open Foundation (Json)

/-! ## Commands and lines -/

/-- The sender half of a caller's reply channel. -/
abbrev Ticket := ℕ

/-- The id of a control request of the supervisor. SOURCE: session.rs:386-388. -/
abbrev ControlId := ℕ

/-- The settings a turn asks for. SOURCE: session.rs:53-63. -/
structure TurnSettings where
  mode : String
  model : Option String
  effort : Option String
  resolvedModel : Option String
  deriving DecidableEq

/-- What a caller gets: nothing but success, a success payload, or an error. -/
inductive Answer where
  | done
  | value (response : Json)
  | failed (error : HarnessError)
  deriving DecidableEq

/-- The control requests that are written to the child. SOURCE: session.rs:1639-1648, 1462, 2249,
2288, 2630 and the `Control` requests of harness.rs:2098, 1762. -/
inductive ControlRequest where
  | setPermissionMode (mode : String)
  | setModel (model : Option String)
  | applyFlagSettings (effort : Option String)
  | getSettings
  | interrupt
  | stopTask (taskId : String)
  | renameSession (title : String)
  | mcpStatus
  deriving DecidableEq

/-- The requests the façade sends through `Control`. SOURCE: harness.rs:2099-2102, 722. -/
inductive FacadeRequest where
  | renameSession (title : String)
  | mcpStatus
  deriving DecidableEq

def FacadeRequest.toControl : FacadeRequest → ControlRequest
  | .renameSession title => .renameSession title
  | .mcpStatus => .mcpStatus

/-- What the façade asks a supervisor to do. SOURCE: session.rs:75-131. -/
inductive ChildCommand where
  | startTurn (line : String) (turn : TurnId) (model : ModelRef) (settings : TurnSettings)
      (notice : Option String) (reply : Ticket)
  | interrupt (reply : Ticket)
  | control (request : FacadeRequest) (reply : Ticket)
  | respondApproval (id : ApprovalId) (ask : PendingAsk) (decision : ApprovalDecision)
      (reply : Ticket)
  | respondServerRequest (id : ServerRequestId) (ask : PendingAsk)
      (response : ServerRequestResponse) (reply : Ticket)
  | stopTask (thread : ThreadId) (reply : Ticket)
  | stopBackgroundCommand (taskId : String) (reply : Ticket)
  | compact (turn : TurnId) (notice : Option String) (reply : Ticket)
  | stop (reply : Ticket)
  deriving DecidableEq

/-- The reply channel a command carries. -/
def ChildCommand.reply : ChildCommand → Ticket
  | .startTurn _ _ _ _ _ reply | .interrupt reply | .control _ reply
  | .respondApproval _ _ _ reply | .respondServerRequest _ _ _ reply | .stopTask _ reply
  | .stopBackgroundCommand _ reply | .compact _ _ reply | .stop reply => reply

/-- What a user line is written for. -/
inductive Prompt where
  | startTurn (turn : TurnId) (settings : TurnSettings) (reply : Ticket)
  | compact (turn : TurnId)
  deriving DecidableEq

/-- A line on the child's stdin. A user line is kept with what it was written for and with the
turn that the mapper had open when its own began. -/
inductive StdinLine where
  | control (id : ControlId) (request : ControlRequest)
  | response (requestId : String) (response : ControlResponse)
  | user (line : String) (prompt : Prompt) (active : Option TurnId)
  deriving DecidableEq

/-- The outcome of a control response: a success with its payload, a refusal with its message and
its `error_code`, or another subtype, in its debug form. SOURCE: session.rs:401-415, 627-638. -/
inductive ControlPayload where
  | success (response : Json)
  | error (message : Option String) (code : Option String)
  | unexpected (subtype : String)
  deriving DecidableEq

/-- What the mapper makes of a line. The outputs about routes are left out. SOURCE: mapper.rs
`MapperOutput`. -/
inductive MapperOutput where
  | event (event : AgentEvent)
  | reply (requestId : String) (response : Json)
  | controlResponse (requestId : ControlId) (payload : ControlPayload)
  | pendingApproval (id : ApprovalId) (requestId : String) (toolUseId : Option String)
      (toolName : String) (suggestions : List Json) (thread : ThreadId)
  | pendingServerRequest (id : ServerRequestId) (thread : ThreadId) (requestId : String)
      (subtype : String) (input : Json)
  | cancelRequest (requestId : String)
  deriving DecidableEq

/-- Why a thread has no task to stop. SOURCE: mapper.rs `RouteLookup`. -/
inductive RouteLookup where
  | ended
  | notARoute
  deriving DecidableEq

/-- What the supervisor reads off its mapper. -/
structure MapperView where
  activeTurn : Option TurnId
  activeTurnOf : ThreadId → Option TurnId
  routeTaskId : ThreadId → Except RouteLookup (Option String)
  backgroundCommand : String → Bool
  hasRoutes : Bool
  hasTasks : Bool

/-- SOURCE: mapper.rs `begin_turn`. -/
def MapperView.beginTurn (view : MapperView) (thread : ThreadId) (turn : TurnId) : MapperView :=
  { view with
    activeTurn := some turn
    activeTurnOf := Function.update view.activeTurnOf thread (some turn) }

/-! ## The supervisor's state -/

/-- SOURCE: session.rs:667-677. -/
inductive SetupStage where
  | mode
  | model
  | effort
  | readBack
  deriving DecidableEq

/-- SOURCE: session.rs:680-687. -/
def SetupStage.subtype : SetupStage → String
  | .mode => "set_permission_mode"
  | .model => "set_model"
  | .effort => "apply_flag_settings"
  | .readBack => "get_settings"

/-- The `StartTurn` hand-off between its first settings request and the user line. SOURCE:
session.rs:644-665. -/
structure TurnSetup where
  line : String
  turn : TurnId
  model : ModelRef
  settings : TurnSettings
  reply : Ticket
  notice : Option String
  stage : SetupStage
  requestId : ControlId
  modelChange : Option String
  effortChange : Option String
  deriving DecidableEq

/-- Who waits for a control response. SOURCE: session.rs:553-569. -/
inductive Waiter where
  | unit (reply : Ticket)
  | value (reply : Ticket)
  | stopTask (reply : Ticket)
  | stop
  deriving DecidableEq

/-- SOURCE: session.rs:708-718. -/
inductive StopStage where
  | interrupting
  | draining
  deriving DecidableEq

/-- The stop sequence. SOURCE: session.rs:698-706. -/
structure Stopping where
  replies : List Ticket
  stage : StopStage
  reaped : Bool
  deriving DecidableEq

/-- SOURCE: session.rs:690-696. -/
inductive Phase where
  | serving
  | stopping (sequence : Stopping)
  deriving DecidableEq

/-- How the main loop ended. SOURCE: session.rs:806-817. -/
inductive Ending where
  | eof
  | broken
  | stopped (replies : List Ticket) (reaped : Bool)
  deriving DecidableEq

/-- The supervisor of one child, with what it shares with the façade. Of a respond call whose ask
has been taken and whose answer is not in the queue yet, `taken` holds the command. The last
fields record what was said: the lines written to stdin, the events appended, the answers given
to callers, the tickets of the `StartTurn`s, and the request ids that the CLI asked with and
that it withdrew. SOURCE: session.rs:819-908. -/
structure Session where
  thread : ThreadId
  mapper : MapperView
  /-- Why a line cannot be written to stdin, if it cannot. -/
  stdinError : Option HarnessError
  withdrawn : Finset String
  turnSetup : Option TurnSetup
  waiters : List (ControlId × Waiter)
  abandoned : Finset ControlId
  phase : Phase
  commandsClosed : Bool
  ending : Option Ending
  reaped : Bool
  currentMode : String
  currentModel : ModelRef
  currentEffort : Option String
  exited : Bool
  /-- Whether the thread's entry holds this child. -/
  attached : Bool
  entryModel : ModelRef
  pending : PendingRequests
  queue : List ChildCommand
  taken : List ChildCommand
  nextId : ControlId
  nextTicket : Ticket
  closed : Finset Ticket
  stdin : List StdinLine
  log : List AgentEvent
  replies : List (Ticket × Answer)
  handOffs : List Ticket
  asked : Finset String
  cancelled : Finset String

/-- SOURCE: session.rs:423-425. -/
def childStopped : HarnessError := .transport "claude child stopped"

/-- SOURCE: session.rs:419-421. -/
def noBackgroundCommand (taskId : String) : HarnessError :=
  .transport ("no background command with task id " ++ taskId)

namespace ControlPayload

/-- SOURCE: session.rs:401-415. -/
def controlOutcome : ControlPayload → Except HarnessError Json
  | .success response => .ok response
  | .error message _ =>
    .error (.protocol (message.getD "Claude Code rejected the control request"))
  | .unexpected subtype => .error (.protocol ("unexpected control response subtype " ++ subtype))

/-- The refusal's error code. SOURCE: session.rs:618-623. -/
def code : ControlPayload → Option String
  | .error _ code => code
  | .success _ | .unexpected _ => none

end ControlPayload

namespace Session

variable (s : Session)

/-- A reply; a caller that gave up has dropped the receiver. -/
def send (reply : Ticket) (answer : Answer) : Session :=
  if reply ∈ s.closed then s else { s with replies := s.replies ++ [(reply, answer)] }

/-- A line on stdin. -/
def wrote (line : StdinLine) : Session := { s with stdin := s.stdin ++ [line] }

/-- A read or write failed and the child was killed: the loop ends. SOURCE: session.rs:1037-1051,
2802-2808. -/
def broken : Session :=
  { s with
    ending := some (match s.phase with
      | .serving => .broken
      | .stopping sequence => .stopped sequence.replies sequence.reaped) }

/-- A fresh control-request id. SOURCE: session.rs:390-393. -/
def newRequestId : ControlId × Session := (s.nextId, { s with nextId := s.nextId + 1 })

/-- SOURCE: session.rs:2407-2409. -/
def stopping : Bool :=
  match s.phase with
  | .serving => false
  | .stopping _ => true

/-- SOURCE: session.rs:1401-1440. -/
def append (event : AgentEvent) : Session :=
  if s.reaped then s else { s with log := s.log ++ [event] }

/-! ## The hand-off of a turn -/

/-- SOURCE: session.rs:1545-1556. -/
def busy : Option HarnessError := s.mapper.activeTurn.map fun _ => .threadBusy s.thread

/-- SOURCE: session.rs:1559-1570. -/
def setupInFlight : Option HarnessError := s.turnSetup.map fun _ => .threadBusy s.thread

end Session

/-- The request of a stage. SOURCE: session.rs:1639-1648. -/
def TurnSetup.request (setup : TurnSetup) : SetupStage → ControlRequest
  | .mode => .setPermissionMode setup.settings.mode
  | .model => .setModel setup.modelChange
  | .effort => .applyFlagSettings setup.effortChange
  | .readBack => .getSettings

namespace Session

variable (s : Session)

/-- Write the request of a stage and keep the hand-off in flight. SOURCE: session.rs:1628-1667. -/
def sendSetupRequest (setup : TurnSetup) (stage : SetupStage) : Session :=
  let (requestId, s) := s.newRequestId
  match s.stdinError with
  | some error => (s.send setup.reply (.failed error)).broken
  | none =>
    { s.wrote (.control requestId (setup.request stage)) with
      turnSetup := some { setup with stage := stage, requestId := requestId } }

/-- The `StartTurn` hand-off, first step. SOURCE: session.rs:1581-1623. -/
def beginTurnSetup (line : String) (turn : TurnId) (model : ModelRef) (settings : TurnSettings)
    (notice : Option String) (reply : Ticket) : Session :=
  if reply ∈ s.closed then s
  else
    match s.busy.or s.setupInFlight with
    | some error => s.send reply (.failed error)
    | none =>
      s.sendSetupRequest
        { line := line
          turn := turn
          model := model
          settings := settings
          reply := reply
          notice := notice
          stage := .mode
          requestId := 0
          modelChange := none
          effortChange := none } .mode

/-- The error a failed stage fails the hand-off with. SOURCE: session.rs:1821-1883. -/
def setupStageFailed (setup : TurnSetup) (code : Option String) (error : HarnessError) :
    HarnessError :=
  match setup.stage, error with
  | .model, .protocol message =>
    if code = some "catalog_unknown" then .unsupported message else .protocol message
  | _, error => error

/-- The hand-off failed: the turn does not start. SOURCE: session.rs:1914-1923. -/
def failTurnSetup (setup : TurnSetup) (error : HarnessError) : Session :=
  s.send setup.reply (.failed error)

/-- The turn begins in the mapper, its `TurnStarted` and its notice are appended. SOURCE:
session.rs:1950-1968, 2369-2382. -/
def beginTurn (turn : TurnId) (notice : Option String) : Session :=
  let s := { s with mapper := s.mapper.beginTurn s.thread turn }
  let s := s.append (.turnStarted s.thread turn)
  match notice with
  | some message => s.append (.notice s.thread (some turn) message)
  | none => s

/-- The user line, and its caller's answer. SOURCE: session.rs:1976-1985, 2394-2403. -/
def writeUser (line : String) (prompt : Prompt) (active : Option TurnId) (reply : Ticket) :
    Session :=
  match s.stdinError with
  | some error => (s.send reply (.failed error)).broken
  | none => (s.wrote (.user line prompt active)).send reply .done

/-- The settings are applied: `TurnStarted`, then the user message. SOURCE:
session.rs:1927-1986. -/
def finishTurnSetup (setup : TurnSetup) : Session :=
  if setup.reply ∈ s.closed then s
  else
    match s.busy with
    | some error => s.send setup.reply (.failed error)
    | none =>
      (({ s with withdrawn := ∅ }).beginTurn setup.turn setup.notice).writeUser setup.line
        (.startTurn setup.turn setup.settings setup.reply) s.mapper.activeTurn setup.reply

/-- What the CLI says it applied. SOURCE: session.rs:1759-1770. -/
def applied (response : Json) : Option String × Option String :=
  let field (name : String) :=
    ((response.get? "applied").bind (Json.get? name)).bind Json.asString
  (field "model", field "effort")

/-- The model the read-back must report. SOURCE: session.rs:1771-1774. -/
def wantedModel (settings : TurnSettings) : String := settings.model.getD s.currentModel.model

/-- Whether the reported model is the wanted one or its resolution. SOURCE:
session.rs:1775-1778. -/
def modelApplied (settings : TurnSettings) (appliedModel : Option String) : Bool :=
  match appliedModel with
  | some applied =>
    applied = s.wantedModel settings || settings.resolvedModel = some applied
  | none => false

/-- What the CLI holds now. SOURCE: session.rs:1793-1800, 1990-1997. -/
def takeOver (setup : TurnSetup) (effort : Option String) : Session :=
  let model := if setup.modelChange.isSome then setup.model else s.currentModel
  let model := { model with reasoningEffort := effort }
  { s with
    currentModel := model
    currentEffort := effort
    entryModel := if s.attached then model else s.entryModel }

/-- The read-back: the CLI must hold the requested model and effort. SOURCE:
session.rs:1752-1817. -/
def checkReadBack (setup : TurnSetup) (response : Json) : Session × Except HarnessError Unit :=
  let (appliedModel, appliedEffort) := applied response
  if s.modelApplied setup.settings appliedModel then
    let error := HarnessError.unsupported ("Claude Code did not accept effort " ++
      setup.effortChange.getD "" ++ " for " ++ s.wantedModel setup.settings)
    let s := s.takeOver setup appliedEffort
    if setup.effortChange.isSome && setup.effortChange ≠ appliedEffort then (s, .error error)
    else (s, .ok ())
  else
    (s, .error (.protocol ("Claude Code applied model " ++ appliedModel.getD "no model" ++
      " instead of " ++ s.wantedModel setup.settings)))

/-- The changes to send once the mode is in. SOURCE: session.rs:1719-1732. -/
def planChanges (setup : TurnSetup) : TurnSetup :=
  let modelChange := setup.settings.model.filter fun requested => requested ≠ s.currentModel.model
  { setup with
    modelChange := modelChange
    effortChange := setup.settings.effort.filter fun requested =>
      modelChange.isSome || some requested ≠ s.currentEffort }

/-- One stage succeeded: the next stage, none when the settings are applied, or the error the
read-back found. SOURCE: session.rs:1701-1748. -/
def setupStageDone (setup : TurnSetup) (response : Json) :
    Session × TurnSetup × Except HarnessError (Option SetupStage) :=
  match setup.stage with
  | .mode =>
    let setup := s.planChanges setup
    ({ s with currentMode := setup.settings.mode }, setup,
      .ok (if setup.modelChange.isSome then some .model
        else if setup.effortChange.isSome then some .effort
        else none))
  | .model =>
    (s, setup, .ok (some (if setup.effortChange.isSome then .effort else .readBack)))
  | .effort => (s, setup, .ok (some .readBack))
  | .readBack =>
    match s.checkReadBack setup response with
    | (s, .ok ()) => (s, setup, .ok none)
    | (s, .error error) => (s, setup, .error error)

/-- The CLI answered the in-flight hand-off's request. SOURCE: session.rs:1671-1697. -/
def onSetupResponse (setup : TurnSetup) (payload : ControlPayload) : Session :=
  let s := { s with turnSetup := none }
  match payload.controlOutcome with
  | .error error => s.failTurnSetup setup (setupStageFailed setup payload.code error)
  | .ok response =>
    match s.setupStageDone setup response with
    | (s, setup, .ok (some stage)) => s.sendSetupRequest setup stage
    | (s, setup, .ok none) => s.finishTurnSetup setup
    | (s, setup, .error error) => s.failTurnSetup setup error

/-- The hand-off in flight is over, its request still unanswered. SOURCE: session.rs:1887-1911,
2634-2648. -/
def abandonSetup (error : TurnSetup → HarnessError) : Session :=
  match s.turnSetup with
  | none => s
  | some setup =>
    ({ s with
      turnSetup := none
      abandoned := insert setup.requestId s.abandoned }).failTurnSetup setup
        (setupStageFailed setup none (error setup))

/-- The in-flight request's deadline passed; the text is the seconds waited. SOURCE:
session.rs:1887-1911. -/
def onSetupDeadline (waited : String) : Session :=
  s.abandonSetup fun setup =>
    .timeout ("claude did not answer " ++ setup.stage.subtype ++ " within " ++ waited ++ " s")

/-! ## Asks and their answers -/

/-- The CLI withdrew an ask. SOURCE: session.rs:1346-1381. -/
def onCancelRequest (requestId : String) : Session :=
  let s := { s with cancelled := insert requestId s.cancelled }
  match s.pending.removeByRequestId s.thread requestId with
  | some (kind, ask, pending) =>
    let s := { s with pending := pending }
    match kind with
    | .approval => s
    | .serverRequest =>
      s.append (.serverRequestResolved ask.thread (s.mapper.activeTurnOf ask.thread) ⟨requestId⟩)
  | none => { s with withdrawn := insert requestId s.withdrawn }

/-- The answer is not written: the CLI withdrew the ask. -/
def refuseWithdrawn (requestId : String) (reply : Ticket) (message : String) : Session :=
  ({ s with withdrawn := s.withdrawn.erase requestId }).send reply (.failed (.protocol message))

/-- A response line, and its caller's answer. -/
def writeResponse (requestId : String) (response : ControlResponse) (reply : Ticket) : Session :=
  match s.stdinError with
  | some error => (s.send reply (.failed error)).broken
  | none => (s.wrote (.response requestId response)).send reply .done

/-- Answer a `can_use_tool` ask. SOURCE: session.rs:2016-2113. -/
def respondApproval (id : ApprovalId) (ask : PendingAsk) (decision : ApprovalDecision)
    (reply : Ticket) : Session :=
  if ask.requestId ∈ s.withdrawn then
    s.refuseWithdrawn ask.requestId reply
      ("approval " ++ id.text ++ " was withdrawn by Claude Code")
  else if reply ∈ s.closed then { s with pending := s.pending.insertApproval id ask }
  else
    match approvalResponse ask decision with
    | .error error =>
      ({ s with pending := s.pending.insertApproval id ask }).send reply (.failed error)
    | .ok (response, _) => s.writeResponse ask.requestId (controlResponse response) reply

/-- Answer an `AskUserQuestion` or another inbound control request. SOURCE:
session.rs:2117-2195. -/
def respondServerRequest (id : ServerRequestId) (ask : PendingAsk)
    (response : ServerRequestResponse) (reply : Ticket) : Session :=
  if ask.requestId ∈ s.withdrawn then
    (s.append (.serverRequestResolved ask.thread (s.mapper.activeTurnOf ask.thread) id)).refuseWithdrawn
      ask.requestId reply ("server request " ++ id.text ++ " was withdrawn by Claude Code")
  else if reply ∈ s.closed then { s with pending := s.pending.insertServerRequest id ask }
  else
    match serverRequestResponse ask response with
    | .error error =>
      ({ s with pending := s.pending.insertServerRequest id ask }).send reply (.failed error)
    | .ok answer =>
      match s.stdinError with
      | some error => (s.send reply (.failed error)).broken
      | none =>
        ((s.wrote (.response ask.requestId answer)).append
          (.serverRequestResolved ask.thread (s.mapper.activeTurnOf ask.thread) id)).send reply
            .done

/-! ## The other commands -/

/-- Write a control request whose answer a waiter gets. -/
def writeControl (request : ControlRequest) (waiter : Waiter) (reply : Ticket) : Session :=
  let (requestId, s) := s.newRequestId
  match s.stdinError with
  | some error => (s.send reply (.failed error)).broken
  | none =>
    { s.wrote (.control requestId request) with waiters := s.waiters ++ [(requestId, waiter)] }

/-- SOURCE: session.rs:2201-2279. -/
def stopTask (thread : ThreadId) (reply : Ticket) : Session :=
  match s.mapper.routeTaskId thread with
  | .ok (some taskId) => s.writeControl (.stopTask taskId) (.stopTask reply) reply
  | .ok none => s.send reply (.failed (.protocol "the sub-agent has not started yet"))
  | .error .ended => s.send reply .done
  | .error .notARoute =>
    s.send reply (.failed (.protocol ("thread " ++ thread.ulid.digits ++
      " is not a running sub-agent of this child")))

/-- SOURCE: session.rs:2284-2322. -/
def stopBackgroundCommand (taskId : String) (reply : Ticket) : Session :=
  if s.mapper.backgroundCommand taskId then
    s.writeControl (.stopTask taskId) (.unit reply) reply
  else s.send reply (.failed (noBackgroundCommand taskId))

/-- SOURCE: session.rs:2389-2393. -/
def compactLine : String :=
  String.ofList (Json.obj [("message", .obj [("content", .arr [.obj [("text", .str "/compact"),
    ("type", .str "text")]]), ("role", .str "user")]), ("type", .str "user")]).print

/-- `/compact` as a compaction turn. SOURCE: session.rs:2351-2405. -/
def compact (turn : TurnId) (notice : Option String) (reply : Ticket) : Session :=
  if reply ∈ s.closed then s
  else
    match s.busy.or s.setupInFlight with
    | some error => s.send reply (.failed error)
    | none =>
      (({ s with withdrawn := ∅ }).beginTurn turn notice).writeUser compactLine (.compact turn)
        s.mapper.activeTurn reply

/-- Enter the stop sequence: interrupt a live turn, then close stdin. SOURCE:
session.rs:2616-2692. -/
def enterStopping (reply : Option Ticket) (reaped : Bool) : Session :=
  match s.phase with
  | .stopping sequence =>
    { s with phase := .stopping { sequence with replies := sequence.replies ++ reply.toList } }
  | .serving =>
    let s := s.abandonSetup fun _ => .transport "claude child is stopping"
    let draining : Session :=
      { s with
        stdinError := some (.transport "claude stdin is closed")
        phase := .stopping ⟨reply.toList, .draining, reaped⟩ }
    match s.mapper.activeTurn with
    | none => draining
    | some _ =>
      match s.stdinError with
      | some _ => { draining with nextId := s.nextId + 1 }
      | none =>
        { s.wrote (.control s.nextId .interrupt) with
          nextId := s.nextId + 1
          waiters := s.waiters ++ [(s.nextId, .stop)]
          phase := .stopping ⟨reply.toList, .interrupting, reaped⟩ }

/-- Handle one command. SOURCE: session.rs:1443-1530. -/
def handleCommand : ChildCommand → Session
  | .startTurn line turn model settings notice reply =>
    s.beginTurnSetup line turn model settings notice reply
  | .interrupt reply => s.writeControl .interrupt (.unit reply) reply
  | .control request reply => s.writeControl request.toControl (.value reply) reply
  | .respondApproval id ask decision reply => s.respondApproval id ask decision reply
  | .respondServerRequest id ask response reply => s.respondServerRequest id ask response reply
  | .stopTask thread reply => s.stopTask thread reply
  | .stopBackgroundCommand taskId reply => s.stopBackgroundCommand taskId reply
  | .compact turn notice reply => s.compact turn notice reply
  | .stop reply => s.enterStopping (some reply) false

/-- A command that arrived during the stop sequence is answered at once. SOURCE:
session.rs:2812-2840. -/
def refuse (command : ChildCommand) : Session := s.send command.reply (.failed childStopped)

/-- One command. SOURCE: session.rs:1004-1034. -/
def onCommand (command : ChildCommand) : Session :=
  match command, s.phase with
  | .stop reply, _ => s.enterStopping (some reply) false
  | command, .stopping _ => s.refuse command
  | command, .serving => s.handleCommand command

/-! ## Lines -/

/-- SOURCE: session.rs:572-595. -/
def resolve (waiter : Waiter) (payload : Except HarnessError Json) : Session :=
  match waiter, payload with
  | .stop, _ => s
  | .value reply, .ok response => s.send reply (.value response)
  | .unit reply, .ok _ | .stopTask reply, .ok _ => s.send reply .done
  | .unit reply, .error error | .value reply, .error error | .stopTask reply, .error error =>
    s.send reply (.failed error)

/-- A control response that is not the hand-off's. SOURCE: session.rs:1100-1133. -/
def onControlResponse (requestId : ControlId) (payload : ControlPayload) : Session :=
  match s.waiters.find? fun entry => entry.1 = requestId with
  | some (_, waiter) =>
    ({ s with waiters := s.waiters.filter fun entry => entry.1 ≠ requestId }).resolve waiter
      payload.controlOutcome
  | none => { s with abandoned := s.abandoned.erase requestId }

/-- SOURCE: session.rs:1065-1208. -/
def dispatch : MapperOutput → Session
  | .event event => s.append event
  | .reply requestId response =>
    if s.reaped then s
    else
      match s.stdinError with
      | some _ => s.broken
      | none =>
        { s.wrote (.response requestId (controlResponse response)) with
          asked := insert requestId s.asked }
  | .controlResponse requestId payload =>
    match s.turnSetup with
    | some setup =>
      if setup.requestId = requestId then s.onSetupResponse setup payload
      else s.onControlResponse requestId payload
    | none => s.onControlResponse requestId payload
  | .pendingApproval id requestId toolUseId toolName suggestions thread =>
    if s.reaped then s
    else
      { s with
        asked := insert requestId s.asked
        pending := s.pending.insertApproval id
          { thread := thread
            owner := s.thread
            requestId := requestId
            toolUseId := toolUseId
            toolName := some toolName
            suggestions := suggestions
            subtype := "can_use_tool"
            input := .null } }
  | .pendingServerRequest id thread requestId subtype input =>
    if s.reaped then s
    else
      { s with
        asked := insert requestId s.asked
        pending := s.pending.insertServerRequest id
          { thread := thread
            owner := s.thread
            requestId := requestId
            toolUseId := none
            toolName := none
            suggestions := []
            subtype := subtype
            input := input } }
  | .cancelRequest requestId => s.onCancelRequest requestId

/-- The outputs of a line in order; a failed write ends the rest. SOURCE: session.rs:1058-1063. -/
def dispatchAll : Session → List MapperOutput → Session
  | s, [] => s
  | s, output :: rest =>
    let s := s.dispatch output
    if s.ending.isSome then s else dispatchAll s rest

/-- An interrupted turn whose result came in moves the stop sequence on. SOURCE:
session.rs:2704-2715, 2718-2745. -/
def afterLine : Session :=
  match s.phase with
  | .stopping ⟨replies, .interrupting, reaped⟩ =>
    if s.mapper.activeTurn.isNone then
      { s with
        stdinError := some (.transport "claude stdin is closed")
        phase := .stopping ⟨replies, .draining, reaped⟩ }
    else s
  | _ => s

/-- A line: mapped, then dispatched. SOURCE: session.rs:955-963, 1053-1056. -/
def onLine (mapper : MapperView) (outputs : List MapperOutput) : Session :=
  let s := ({ s with mapper := mapper }).dispatchAll outputs
  if s.ending.isSome then s else s.afterLine

/-! ## The other arms of the loop -/

/-- The stage deadline passed. SOURCE: session.rs:2601-2610, 2749-2775. -/
def onDeadline (waited : String) : Session :=
  match s.phase with
  | .serving => s.onSetupDeadline waited
  | .stopping ⟨replies, .interrupting, reaped⟩ =>
    { s with
      stdinError := some (.transport "claude stdin is closed")
      phase := .stopping ⟨replies, .draining, reaped⟩ }
  | .stopping ⟨replies, .draining, reaped⟩ => { s with ending := some (.stopped replies reaped) }

/-- Whether nothing keeps the child busy. SOURCE: session.rs:2416-2432. -/
def idle : Bool :=
  s.turnSetup.isNone && s.pending.countOwner s.thread = 0 && !s.mapper.hasRoutes &&
    !s.mapper.hasTasks && s.waiters.isEmpty && s.mapper.activeTurn.isNone

/-- The idle timer fired: the child leaves its thread's entry, unless a command reached it.
SOURCE: session.rs:2521-2597. -/
def reap : Session :=
  if s.idle && !s.stopping then
    match s.attached, s.queue with
    | true, command :: queue => ({ s with queue := queue }).onCommand command
    | true, [] =>
      ({ s with attached := false, entryModel := s.currentModel, reaped := true }).enterStopping
        none true
    | false, _ => s.enterStopping none false
  else s

/-- The hand-off in flight fails. SOURCE: session.rs:2853-2856. -/
def failInFlight : Session :=
  match s.turnSetup with
  | some setup => ({ s with turnSetup := none }).failTurnSetup setup childStopped
  | none => s

/-- The callers that wait for a control response fail. SOURCE: session.rs:2887-2897. -/
def failWaiters : Session :=
  s.waiters.foldl (fun s entry => s.resolve entry.2 (.error childStopped)) { s with waiters := [] }

/-- The queue goes with the supervisor's task: a dropped reply channel reads as a stopped child.
SOURCE: harness.rs:364-377. -/
def dropQueue : Session :=
  s.queue.foldl (fun s command => s.send command.reply (.failed childStopped))
    { s with queue := [], exited := true }

/-- The child has exited; the stops are answered, and the task ends. The events of the mapper's
`child_exited` are left out. SOURCE: session.rs:925-937, 2847-2905. -/
def onExit (ending : Ending) : Session :=
  let s := s.failInFlight
  match ending with
  | .stopped replies reaped =>
    let s := if reaped then s else
      { s with pending := s.pending.removeOwner s.thread, attached := false }
    (replies.foldl (fun s reply => s.send reply .done) s.failWaiters).dropQueue
  | .eof | .broken =>
    ({ s with
      pending := s.pending.removeOwner s.thread
      attached := false }).failWaiters.dropQueue

/-- The façade aborts a supervisor that does not stop: its task is dropped where it stands.
SOURCE: harness.rs:578-596. -/
def onAbort : Session := ({ s.failInFlight with attached := false }).failWaiters.dropQueue

/-! ## The façade -/

/-- The depth of a child's command queue. SOURCE: harness.rs:61. -/
def commandQueue : ℕ := 16

/-- Put one command in the queue without waiting. SOURCE: harness.rs:1198-1219. -/
def sendNow (command : ChildCommand) : Session :=
  if s.exited then s.send command.reply (.failed childStopped)
  else if s.queue.length < commandQueue then { s with queue := s.queue ++ [command] }
  else s.send command.reply (.failed (.transport "the claude child's command queue is full"))

/-- A fresh reply channel. -/
def newTicket : Ticket × Session := (s.nextTicket, { s with nextTicket := s.nextTicket + 1 })

/-- The `StartTurn` command of the façade: the model is the override's or the entry's, the
settings are its parts. Where the thread's entry holds no child, this child is sent nothing; the
refusal of a bypass on a child launched without it is left out. SOURCE: harness.rs:303-324,
2160-2235. -/
def startTurn (line : String) (turn : TurnId) (mode : String) (model : Option ModelRef)
    (catalog : String → Option String) (notice : Option String) : Session :=
  let (reply, s) := s.newTicket
  let model := model.getD s.entryModel
  if s.attached then
    ({ s with handOffs := s.handOffs ++ [reply] }).sendNow
      (.startTurn line turn model
        { mode := mode
          model := some model.model
          effort := model.reasoningEffort
          resolvedModel := catalog model.model } notice reply)
  else s

/-- The first critical section of `respond_approval`: the ask leaves the map. SOURCE:
harness.rs:2300-2309. -/
def takeApproval (id : ApprovalId) (decision : ApprovalDecision) : Session :=
  let (reply, s) := s.newTicket
  match s.pending.removeApproval id with
  | none => s.send reply (.failed (.protocol ("approval " ++ id.text ++ " is not pending")))
  | some (ask, pending) =>
    { s with
      pending := pending
      taken := s.taken ++ [.respondApproval id ask decision reply] }

/-- The first critical section of `respond_server_request`. SOURCE: harness.rs:2346-2355. -/
def takeServerRequest (id : ServerRequestId) (response : ServerRequestResponse) : Session :=
  let (reply, s) := s.newTicket
  match s.pending.removeServerRequest id with
  | none => s.send reply (.failed (.protocol ("server request " ++ id.text ++ " is not pending")))
  | some (ask, pending) =>
    { s with
      pending := pending
      taken := s.taken ++ [.respondServerRequest id ask response reply] }

/-- The second critical section of a respond call: the answer goes to the owner's queue, or, for
an exec-policy amendment, the ask goes back. SOURCE: harness.rs:303-324, 2310-2339,
2356-2371. -/
def sendTaken (command : ChildCommand) : Session :=
  match command with
  | .respondApproval id ask (.acceptWithExecPolicyAmendment _) reply =>
    ({ s with pending := s.pending.insertApproval id ask }).send reply
      (.failed (.unsupported "Claude Code approvals offer no exec-policy amendment"))
  | command =>
    if s.attached then s.sendNow command
    else s.send command.reply (.failed (.threadNotFound s.thread))

/-- The other commands of the façade. -/
inductive Call where
  | interrupt
  | control (request : FacadeRequest)
  | stopTask (thread : ThreadId)
  | stopBackgroundCommand (taskId : String)
  | compact (turn : TurnId) (notice : Option String)
  | stop

/-- SOURCE: harness.rs:2099-2102, 2138-2140, 680-687, 2254-2259, 2282-2288, 550-554. -/
def Call.command (reply : Ticket) : Call → ChildCommand
  | .interrupt => .interrupt reply
  | .control request => .control request reply
  | .stopTask thread => .stopTask thread reply
  | .stopBackgroundCommand taskId => .stopBackgroundCommand taskId reply
  | .compact turn notice => .compact turn notice reply
  | .stop => .stop reply

/-- A call; a stop and a sub-agent's stop do not go through the thread's entry, and where the
entry holds no child this child is sent nothing. -/
def call (request : Call) : Session :=
  let (reply, s) := s.newTicket
  match request with
  | .stop | .stopTask _ => s.sendNow (request.command reply)
  | _ => if s.attached then s.sendNow (request.command reply) else s

/-! ## Steps -/

/-- One step of the façade, of the child, or of the supervisor. -/
inductive Step where
  | startTurn (line : String) (turn : TurnId) (mode : String) (model : Option ModelRef)
      (catalog : String → Option String) (notice : Option String)
  | takeApproval (id : ApprovalId) (decision : ApprovalDecision)
  | takeServerRequest (id : ServerRequestId) (response : ServerRequestResponse)
  | sendTaken (index : ℕ)
  | call (request : Call)
  /-- A caller stops waiting. -/
  | giveUp (reply : Ticket)
  /-- The façade forgets a thread, or all. -/
  | removeThread (thread : ThreadId)
  | clearPending
  | detach
  /-- From now on a line can, or cannot, be written. -/
  | stdinFails (error : HarnessError)
  | line (mapper : MapperView) (outputs : List MapperOutput)
  | settle (mapper : MapperView) (outputs : List MapperOutput)
  | command
  | channelClosed
  | shutdown
  | deadline (waited : String)
  | reap
  | eof
  | readError
  | exit
  | abort

/-- The state a child's supervisor starts in. SOURCE: session.rs:757-803. -/
def spawn (thread : ThreadId) (mapper : MapperView) (model entryModel : ModelRef) : Session where
  thread := thread
  mapper := mapper
  stdinError := none
  withdrawn := ∅
  turnSetup := none
  waiters := []
  abandoned := ∅
  phase := .serving
  commandsClosed := false
  ending := none
  reaped := false
  currentMode := "default"
  currentModel := model
  currentEffort := model.reasoningEffort
  exited := false
  attached := true
  entryModel := entryModel
  pending := .empty
  queue := []
  taken := []
  nextId := 0
  nextTicket := 0
  closed := ∅
  stdin := []
  log := []
  replies := []
  handOffs := []
  asked := ∅
  cancelled := ∅

/-- The steps of the supervisor's loop. -/
def loopStep : Step → Session
  | .line mapper outputs => s.onLine mapper outputs
  | .settle mapper outputs => ({ s with mapper := mapper }).dispatchAll outputs
  | .command =>
    match s.queue with
    | command :: queue => ({ s with queue := queue }).onCommand command
    | [] => s
  | .channelClosed =>
    let s := { s with commandsClosed := true }
    if s.stopping then s else s.enterStopping none false
  | .shutdown => if s.stopping then s else s.enterStopping none false
  | .deadline waited => s.onDeadline waited
  | .reap => s.reap
  | .eof =>
    { s with
      ending := some (match s.phase with
        | .serving => .eof
        | .stopping sequence => .stopped sequence.replies sequence.reaped) }
  | .readError => s.broken
  | _ => s

/-- One step. The loop runs until it has an ending; then the child's exit is handled. -/
def step (label : Step) : Session :=
  match label with
  | .startTurn line turn mode model catalog notice =>
    s.startTurn line turn mode model catalog notice
  | .takeApproval id decision => s.takeApproval id decision
  | .takeServerRequest id response => s.takeServerRequest id response
  | .sendTaken index =>
    match s.taken[index]? with
    | some command => ({ s with taken := s.taken.eraseIdx index }).sendTaken command
    | none => s
  | .call request => s.call request
  | .giveUp reply => { s with closed := insert reply s.closed }
  | .removeThread thread => { s with pending := s.pending.removeThread thread }
  | .clearPending => { s with pending := .empty }
  | .detach => { s with attached := false }
  | .stdinFails error => { s with stdinError := some error }
  | .exit =>
    match s.ending with
    | some ending => if s.exited then s else s.onExit ending
    | none => s
  | .abort => if s.exited then s else s.onAbort
  | label => if s.exited || s.ending.isSome then s else s.loopStep label

/-! ## Conditions on steps -/

/-- Whether the supervisor's loop runs. -/
def Running (s : Session) : Prop := s.exited = false ∧ s.ending = none

/-- A property of every output of a line, when its turn comes. -/
def AlongDispatch (P : Session → MapperOutput → Prop) : Session → List MapperOutput → Prop
  | _, [] => True
  | s, output :: rest =>
    P s output ∧ ((s.dispatch output).ending = none → AlongDispatch P (s.dispatch output) rest)

end Session

end Giskard.Claude
