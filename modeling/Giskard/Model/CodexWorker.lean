import Mathlib
import Giskard.Foundation.Schedule
import Giskard.Model.CodexRequests
import Giskard.Model.Requests

/-!
# The worker of a Codex process

The worker owns the mapper, the turns it was told were started, and the event logs of its threads.
It takes one thing at a time: a message of the app-server, a command of the harness, or the end of
the stream. A message that names an unknown native thread binds that thread first.

What the app-server replies to a call, and which responses reach it, come with the input. What the
worker puts out is one sequence of effects. Uploads, steering, context restores, goals, model and
MCP listings, and the log lines are left out: none of them changes this state.

SOURCE: crates/giskard-harness-codex/src/instance.rs, lib.rs, context_policy.rs.
-/

set_option autoImplicit false

namespace Giskard.Codex

open Foundation (IndexMap Json Fallible)

/-- SOURCE: lib.rs:1402-1411. -/
structure ActiveTurn where
  acknowledgedTurn : TurnId
  activeTurn : Option TurnId
  deriving DecidableEq

/-- SOURCE: lib.rs:1414-1424. -/
def ActiveTurn.new (acknowledgedTurn : TurnId) : ActiveTurn :=
  ⟨acknowledgedTurn, some acknowledgedTurn⟩

/-- SOURCE: lib.rs:1435-1439. -/
def ActiveTurn.eventIsCurrentTurn (active : ActiveTurn) (event : AgentEvent) : Bool :=
  event.turn.all fun turn => turn = active.acknowledgedTurn

/-- What the worker puts out: events in the logs of threads, discovery records, responses that
reached the app-server, and the turns it returned for `StartTurn`. -/
inductive WorkerEffect where
  | appended (thread : ThreadId) (event : AgentEvent)
  | discovered (record : ThreadDiscovered)
  | wrote (id : RequestId) (body : ApprovalResponseBody)
  | turnReturned (thread : ThreadId) (nativeTurnId : String) (turn : TurnId)

/-- SOURCE: instance.rs:14-26. `senders` are the threads that have an open log. -/
structure CodexInstance where
  mapper : CodexMapper
  activeTurns : IndexMap ThreadId ActiveTurn
  senders : List ThreadId
  effects : List WorkerEffect
  stopped : Bool

/-- What the app-server answers while the context of a thread is configured: to the checks, and to
the change itself. -/
structure ContextReplies where
  checked : Except HarnessError Unit
  applied : Except HarnessError Unit

/-- What one step of the worker takes. `writes` says which responses reach the app-server, and
`pick` which of several running commands is met first. -/
inductive WorkerInput where
  | serverMessage (message : ServerMessage Notification CodexServerRequest) (pick : ℕ) (writes : RequestId → Bool)
  | openThread (thread : ThreadId) (resume : Option String)
      (resumed started : Except HarnessError String) (contextWindow : Option UInt32)
  | startTurn (thread : ThreadHandle) (model : Option ModelRef) (contextWindow : Option UInt32)
      (context : ContextReplies) (reply : Except HarnessError String)
  | claimNativeThread (thread : ThreadId) (harnessThreadId : String)
  | respondApproval (id : ApprovalId) (decision : ApprovalDecision) (writes : RequestId → Bool)
  | respondServerRequest (id : ServerRequestId) (response : ServerRequestResponse)
      (writes : RequestId → Bool)
  | interrupt (thread : ThreadId) (accepted : Bool) (writes : RequestId → Bool)
  | deleteThread (thread : ThreadHandle) (deleted : Bool)
  | streamEnded
  | streamFailed (message : String)

namespace CodexInstance

section

variable (worker : CodexInstance)

def emit (effect : WorkerEffect) : CodexInstance :=
  { worker with effects := worker.effects ++ [effect] }

def setMapper (mapper : CodexMapper) : CodexInstance := { worker with mapper := mapper }

/-- SOURCE: lib.rs:1865-1874. -/
def broadcastEvent (thread : ThreadId) (event : AgentEvent) : CodexInstance :=
  if thread ∈ worker.senders then worker.emit (.appended thread event) else worker

/-- A response that reaches the app-server or not. -/
def respond (writes : RequestId → Bool) (id : RequestId) (body : ApprovalResponseBody) :
    CodexInstance :=
  if writes id then worker.emit (.wrote id body) else worker

/-! ## Routes -/

/-- SOURCE: instance.rs:97-101. -/
def ensureThreadRouteSender (thread : ThreadId) : CodexInstance :=
  { worker with senders := worker.senders.insert thread }

/-- The state after a call of the routes, which opens a log when it succeeds. -/
def bindRoute (result : NativeThreadRoutes × Except HarnessError NativeRoute) :
    CodexInstance × Except HarnessError ThreadId :=
  let worker := worker.setMapper { worker.mapper with routes := result.1 }
  match result.2 with
  | .error error => (worker, .error error)
  | .ok route => (worker.ensureThreadRouteSender route.threadId, .ok route.threadId)

variable (crates : Crates)

/-- SOURCE: instance.rs:60-68. -/
def claimThreadRoute (harnessThreadId : String) (thread : ThreadId) :
    CodexInstance × Except HarnessError ThreadId :=
  worker.bindRoute (worker.mapper.routes.claim crates harnessThreadId thread)

/-- SOURCE: instance.rs:70-80. -/
def claimOrAdoptThreadRoute (harnessThreadId : String) (proposed : ThreadId) :
    CodexInstance × Except HarnessError ThreadId :=
  worker.bindRoute (worker.mapper.routes.claimOrAdopt crates harnessThreadId proposed)

/-- SOURCE: instance.rs:82-95. -/
def replaceThreadRoute (expected new : String) (thread : ThreadId) :
    CodexInstance × Except HarnessError ThreadId :=
  worker.bindRoute (worker.mapper.routes.replace crates expected new thread)

/-- SOURCE: mapping.rs:209-216. -/
def setContextWindow (harnessThreadId : String) (thread : ThreadId) (value : Option UInt32) :
    CodexInstance × Except HarnessError Unit :=
  let result := worker.mapper.routes.setContextWindow harnessThreadId thread value
  (worker.setMapper { worker.mapper with routes := result.1 }, result.2)

/-- A worker that owns nothing yet. -/
def fresh : CodexInstance := ⟨.new, .empty, [], [], false⟩

/-- A binding of the bootstrap. -/
def claimKnown (binding : String × ThreadId) : Except HarnessError CodexInstance :=
  match worker.claimThreadRoute crates binding.1 binding.2 with
  | (worker, .ok _) => .ok worker
  | (_, .error error) => .error error

/-- The worker before its first input: the threads of the bootstrap are claimed. SOURCE:
instance.rs:30-58. -/
def new (known : List (String × ThreadId)) : Except HarnessError CodexInstance :=
  known.foldlM (fun worker binding => worker.claimKnown crates binding) fresh

/-! ## Messages of the app-server -/

variable (env : MapperEnv)

/-- SOURCE: lib.rs:1466-1475. -/
def fallbackThread (pick : ℕ) : CodexInstance × ThreadId :=
  let commands := worker.mapper.runningCommands
  let known := (commands[pick % commands.length]?.map NativeItemKey.threadId).or
    (match worker.activeTurns.keys with
      | [thread] => some thread
      | _ => none)
  match known with
  | some thread => (worker, thread)
  | none =>
    let minted := worker.mapper.nextUlid env
    (worker.setMapper minted.2, ⟨minted.1⟩)

/-- SOURCE: instance.rs:417-462. -/
def mapOrDiscover {α : Type} (map : Mapping α) : CodexInstance × Option α :=
  match map worker.mapper with
  | (.ok mapped, mapper) => (worker.setMapper mapper, some mapped)
  | (.error native, mapper) =>
    let minted := mapper.nextUlid env
    let thread : ThreadId := ⟨minted.1⟩
    match (worker.setMapper minted.2).claimThreadRoute env.crates native.text thread with
    | (worker, .error _) => (worker, none)
    | (worker, .ok _) =>
      let worker := worker.emit
        (.discovered ⟨thread, native.text, worker.mapper.nativeParent native.text⟩)
      match map worker.mapper with
      | (.ok mapped, mapper) => (worker.setMapper mapper, some mapped)
      | (.error _, mapper) => (worker.setMapper mapper, none)

/-- A turn that ends without a completion of the app-server. SOURCE: lib.rs:1988-2014. -/
def incompleteTurn (thread : ThreadId) (turn : Option TurnId) (message : String) : AgentEvent :=
  match turn with
  | some turn => .turnCompleted thread turn noUsage ⟨.failed, some message⟩
  | none => .error thread none (.transport message)

/-- The active turn that an event completes. SOURCE: lib.rs:1496-1505. -/
def completedCurrentActiveTurn (event : AgentEvent) : Option TurnId :=
  match event with
  | .turnCompleted thread turn _ _ =>
    match worker.activeTurns.get? thread with
    | some active => if turn = active.acknowledgedTurn then some turn else none
    | none => none
  | _ => none

/-- The completion that the message of a fatal error stands for. SOURCE: instance.rs:497-506. -/
def fatalCompletion (fatal : Option String) (event : AgentEvent) : Option (TurnId × String) :=
  match worker.activeTurns.get? event.threadId with
  | some active =>
    if active.eventIsCurrentTurn event then
      fatal.bind fun message => active.activeTurn.map fun turn => (turn, message)
    else none
  | none => none

/-- The turn that an event says was started is the active one. SOURCE: instance.rs:474-481. -/
def markTurnStarted (event : AgentEvent) : CodexInstance :=
  match event, worker.activeTurns.get? event.threadId with
  | .turnStarted thread turn, some active =>
    if turn = active.acknowledgedTurn then
      { worker with
        activeTurns := worker.activeTurns.insert thread { active with activeTurn := some turn } }
    else worker
  | _, _ => worker

/-- A turn is over for the worker. -/
def endTurn (thread : ThreadId) (clear : CodexMapper → CodexMapper) : CodexInstance :=
  { worker with
    activeTurns := worker.activeTurns.shiftRemove thread
    mapper := clear worker.mapper }

/-- SOURCE: instance.rs:472-534, lib.rs:2034-2067. -/
def handleEvent (fatal : Option String) (event : AgentEvent) : CodexInstance :=
  let thread := event.threadId
  let worker := worker.markTurnStarted event
  let completed := worker.completedCurrentActiveTurn event
  let failed := worker.fatalCompletion fatal event
  let worker := worker.broadcastEvent thread event
  match completed, failed with
  | some turn, _ => worker.endTurn thread (·.clearActiveTurnIfMatches thread turn)
  | none, some (turn, message) =>
    (worker.broadcastEvent thread (incompleteTurn thread (some turn) message)).endTurn thread
      (·.clearActiveTurn thread)
  | none, none => worker

/-- SOURCE: instance.rs:464-551. -/
def handleNotification (notification : Notification) (pick : ℕ) : CodexInstance :=
  let (worker, fallback) := worker.fallbackThread env pick
  match worker.mapOrDiscover env (tryMapNotification env notification fallback) with
  | (worker, some (some event)) => worker.handleEvent (fatalTurnError notification) event
  | (worker, _) => worker

/-- SOURCE: lib.rs:1890-1925. -/
def unroutableResponse : ApprovalResponseBody :=
  .error (-32000) "Giskard cannot route this Codex server request to a known thread."

/-- SOURCE: instance.rs:553-570. -/
def handleServerRequest (id : RequestId) (request : CodexServerRequest) (pick : ℕ)
    (writes : RequestId → Bool) : CodexInstance :=
  let (worker, fallback) := worker.fallbackThread env pick
  match worker.mapOrDiscover env (tryMapServerRequest env id request fallback) with
  | (worker, some (some event)) => worker.broadcastEvent event.threadId event
  | (worker, _) => worker.respond writes id unroutableResponse

/-- SOURCE: lib.rs:2016-2032. -/
def emitIncompleteActiveTurns (message : String) : CodexInstance :=
  let ended := worker.activeTurns.entries.foldl
    (fun worker entry =>
      let worker := worker.broadcastEvent entry.1
        (incompleteTurn entry.1 entry.2.activeTurn message)
      worker.setMapper (worker.mapper.clearActiveTurn entry.1)) worker
  { ended with activeTurns := .empty }

/-! ## Commands of the harness -/

/-- The native thread of an `OpenThread`, and the one whose route it takes over when resuming that
one failed. SOURCE: instance.rs:307-355. -/
def openedThread (resume : Option String) (resumed started : Except HarnessError String) :
    Except HarnessError (String × Option String) :=
  match resume with
  | some expected =>
    match resumed with
    | .ok native => .ok (native, none)
    | .error _ => started.map fun native => (native, some expected)
  | none => started.map fun native => (native, none)

/-- SOURCE: instance.rs:357-367. -/
def bindOpened (native : String) (replaced : Option String) (thread : ThreadId) :
    CodexInstance × Except HarnessError ThreadId :=
  match replaced with
  | some expected => worker.replaceThreadRoute crates expected native thread
  | none => worker.claimThreadRoute crates native thread

/-- SOURCE: instance.rs:368-375. -/
def configureOpened (native : String) (thread : ThreadId) (contextWindow : Option UInt32) :
    CodexInstance × Except HarnessError Unit :=
  match contextWindow with
  | some window => worker.setContextWindow native thread (some window)
  | none => (worker, .ok ())

/-- SOURCE: instance.rs:377-391. -/
def announceOpened (native : String) (replaced : Option String) (thread : ThreadId) :
    CodexInstance :=
  let worker := worker.broadcastEvent thread (.threadOpened thread native)
  match replaced with
  | some _ => worker.broadcastEvent thread (.error thread none (.transport
      "Agent context was lost; started a fresh Codex session. History is intact."))
  | none => worker

/-- SOURCE: instance.rs:295-410. -/
def openThread (thread : ThreadId) (resume : Option String)
    (resumed started : Except HarnessError String) (contextWindow : Option UInt32) :
    CodexInstance × Except HarnessError Unit :=
  match openedThread resume resumed started with
  | .error error => (worker, .error error)
  | .ok (native, replaced) =>
    match worker.bindOpened crates native replaced thread with
    | (worker, .error error) => (worker, .error error)
    | (worker, .ok _) =>
      match worker.configureOpened native thread contextWindow with
      | (worker, .error error) => (worker, .error error)
      | (worker, .ok ()) => (worker.announceOpened native replaced thread, .ok ())

/-- SOURCE: mapping.rs:193-207. -/
def threadRoute (thread : ThreadHandle) : Option NativeRoute :=
  (worker.mapper.routes.routeForNative thread.harnessThreadId).filter fun route =>
    route.threadId = thread.thread

/-- SOURCE: context_policy.rs:172-262. -/
def ensureContext (thread : ThreadHandle) (model : Option ModelRef)
    (contextWindow : Option UInt32) (replies : ContextReplies) :
    CodexInstance × Except HarnessError Unit :=
  match contextWindow with
  | none => (worker, .ok ())
  | some window =>
    if window = 0 then (worker, .error (.protocol "Context window must be positive"))
    else match worker.threadRoute thread with
      | none => (worker, .error (.protocol
          "Reopen the changed native thread binding before configuring context"))
      | some route =>
        if route.contextWindow = some window then (worker, .ok ())
        else if (worker.mapper.activeNativeTurnForThread thread.thread).isSome then
          (worker, .error (.threadBusy thread.thread))
        else match model, replies.checked with
          | none, _ => (worker, .error (.protocol
              "Context configuration requires a selected model"))
          | some _, .error error => (worker, .error error)
          | some _, .ok () =>
            match worker.setContextWindow thread.harnessThreadId thread.thread none with
            | (worker, .error error) => (worker, .error error)
            | (worker, .ok ()) =>
              match replies.applied with
              | .error error => (worker, .error error)
              | .ok () =>
                worker.setContextWindow thread.harnessThreadId thread.thread (some window)

/-- The turn of a `turn/start` reply. SOURCE: lib.rs:1754-1791. -/
def registerStartedTurn (thread : ThreadId) (model : Option ModelRef) (native : String) :
    Mapping (Option TurnId) :=
  match model with
  | some model => registerActiveTurnWithModel env thread native model
  | none => registerActiveTurn env thread native

/-- SOURCE: instance.rs:259-302, lib.rs:1746-1794. -/
def startTurn (thread : ThreadHandle) (model : Option ModelRef) (contextWindow : Option UInt32)
    (context : ContextReplies) (reply : Except HarnessError String) : CodexInstance :=
  match worker.ensureContext thread model contextWindow context, reply with
  | (worker, .error _), _ => worker
  | (worker, .ok ()), .error _ => worker
  | (worker, .ok ()), .ok native =>
    match registerStartedTurn env thread.thread model native worker.mapper with
    | (.ok (some turn), mapper) =>
      let worker := (worker.setMapper mapper).emit
        (.turnReturned thread.thread (NativeThreadId.trimmed native).text turn)
      { worker with activeTurns := worker.activeTurns.insert thread.thread (.new turn) }
    | (_, mapper) => worker.setMapper mapper

/-- SOURCE: lib.rs:2069-2097. -/
def respondApproval (id : ApprovalId) (decision : ApprovalDecision) (writes : RequestId → Bool) :
    CodexInstance × Except HarnessError Unit :=
  match worker.mapper.prepareApprovalResponse id decision with
  | .error error => (worker, .error (.protocol error))
  | .ok prepared =>
    if writes prepared.requestId then
      ((worker.respond writes prepared.requestId prepared.body).setMapper
        (worker.mapper.removeExactApprovalResponse prepared), .ok ())
    else (worker, .error (.transport "response not written"))

/-- SOURCE: mapping.rs:1675-1678, lib.rs:2155-2162. -/
def responseBody : ServerRequestResponse → ApprovalResponseBody
  | .result value => .result value
  | .error code message => .error code.toInt message

/-- SOURCE: lib.rs:2141-2181. -/
def respondServerRequest (id : ServerRequestId) (response : ServerRequestResponse)
    (writes : RequestId → Bool) : CodexInstance × Except HarnessError Unit :=
  match worker.mapper.pendingServerRequest id with
  | .error error => (worker, .error (.protocol error))
  | .ok pending =>
    if writes pending.requestId then
      let worker := (worker.respond writes pending.requestId (responseBody response)).setMapper
        (worker.mapper.resolveServerRequest id pending.requestId)
      (worker.broadcastEvent pending.thread
        (.serverRequestResolved pending.thread pending.turn id), .ok ())
    else (worker, .error (.transport "response not written"))

/-- The cancellation of an approval whose turn was interrupted. When it cannot be written, the
approval is discarded. SOURCE: lib.rs:2201-2229. -/
def cancelApproval (writes : RequestId → Bool) (id : ApprovalId) : CodexInstance :=
  match worker.mapper.prepareApprovalResponse id .cancel with
  | .error _ => worker
  | .ok prepared =>
    (worker.respond writes prepared.requestId prepared.body).setMapper
      (worker.mapper.removeExactApprovalResponse prepared)

/-- SOURCE: lib.rs:2231-2236. -/
def interruptedResponse : ServerRequestResponse :=
  .error (-32000) "Turn interrupted before this server request was answered."

/-- SOURCE: lib.rs:2183-2247. -/
def rejectPendingRequests (thread : ThreadId) (writes : RequestId → Bool) : CodexInstance :=
  let approvals := worker.mapper.pendingApprovalIdsForThread thread
  let requests := worker.mapper.pendingServerRequestIdsForThread thread
  let cancelled := approvals.foldl (fun worker id => worker.cancelApproval writes id) worker
  requests.foldl (fun worker id => (worker.respondServerRequest id interruptedResponse writes).1)
    cancelled

/-- SOURCE: instance.rs:896-913. -/
def deleteThread (thread : ThreadHandle) (deleted : Bool) : CodexInstance :=
  if thread.thread ∈ worker.activeTurns.keys then worker
  else if deleted then { worker with senders := worker.senders.erase thread.thread }
  else worker

/-- One step of the worker. SOURCE: instance.rs:112-222. -/
def step : CodexInstance → WorkerInput → CodexInstance := fun worker input =>
  if worker.stopped then worker
  else match input with
    | .serverMessage (.notification notification) pick _ =>
      worker.handleNotification env notification pick
    | .serverMessage (.request id request) pick writes =>
      worker.handleServerRequest env id request pick writes
    | .openThread thread resume resumed started window =>
      (worker.openThread env.crates thread resume resumed started window).1
    | .startTurn thread model window context reply =>
      worker.startTurn env thread model window context reply
    | .claimNativeThread thread harnessThreadId =>
      (worker.claimOrAdoptThreadRoute env.crates harnessThreadId thread).1
    | .respondApproval id decision writes => (worker.respondApproval id decision writes).1
    | .respondServerRequest id response writes =>
      (worker.respondServerRequest id response writes).1
    | .interrupt thread accepted writes =>
      if accepted then worker.rejectPendingRequests thread writes else worker
    | .deleteThread thread deleted => worker.deleteThread thread deleted
    | .streamEnded =>
      { worker.emitIncompleteActiveTurns "Codex stream ended before turn completion" with
        stopped := true }
    | .streamFailed message =>
      { worker.emitIncompleteActiveTurns
          ("Codex stream failed before turn completion: " ++ message) with
        stopped := true }

/-- The worker after some inputs. -/
def run (inputs : List WorkerInput) : CodexInstance :=
  Foundation.Schedule.run (step env) worker inputs

end

end CodexInstance

end Giskard.Codex
