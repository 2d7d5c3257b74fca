import Mathlib
import Giskard.Model.ThreadRuntime
import Giskard.Model.TurnCommit

/-!
# Subscribing to a thread

A browser that subscribes to a thread is registered with the hub, reads the newest page of history,
reads the snapshot of the live turn, and is sent both over its ordered queue. Meanwhile the
forwarder of the thread handles the events of the turn: it applies each to the runtime and then
publishes it to the queues of the registered browsers. The completion of the turn is persisted,
settled in the runtime and then published.

Each of these is a step of its own. The messages of a bootstrap that carry no turn (the state of the
thread, its tasks and requests) are left out, as are cancelled bootstraps and full queues, and what
the forwarder does after an append that fails. An entry of the queue says beside its content which
events of the turn it stands for.

SOURCE: crates/giskard-server/src/ws.rs, hub.rs, registry/event_forwarder.rs.
-/

set_option autoImplicit false

namespace Giskard

open Foundation

/-! ## The bootstrap -/

/-- SOURCE: giskard-proto/src/lib.rs (`ServerMessage::HistoryDelta`). -/
structure HistoryDelta where
  turns : List Turn
  reset : Bool
  hasMore : Option Bool

/-- How much a bootstrap sends at once. SOURCE: ws.rs:1432-1440. -/
structure BootstrapLimits where
  initialTurns : ℕ
  tailItems : ℕ

/-- The history of a bootstrap: the turns after a cursor, or the newest page when there is no
cursor or it is stale. SOURCE: ws.rs:1441-1472. -/
def bootstrapHistory (crates : Crates) (paths : ThreadPaths) (moveFault : TurnId → Bool)
    (files : ThreadDirectory) (since : Option TurnId) (limits : BootstrapLimits) :
    ThreadDirectory × Except PersistError HistoryDelta :=
  let resync : ThreadDirectory × Except PersistError (Option (List Turn)) := match since with
    | some cursor => loadTurnsAfter crates paths moveFault files cursor
    | none => (files, .ok none)
  match resync.2 with
  | .error error => (resync.1, .error error)
  | .ok (some turns) => (resync.1, .ok ⟨turns, false, none⟩)
  | .ok none => match loadHistory crates paths moveFault resync.1 none limits.initialTurns with
    | (files, .error error) => (files, .error error)
    | (files, .ok (turns, hasMore)) => (files, .ok ⟨turns, true, some hasMore⟩)

/-! ## The completing turn -/

/-- The wire form of a published event; internal events have none. SOURCE: hub.rs:266-321. -/
def transcriptEvent (crates : Crates) (event : AgentEvent) (userInput : Option UserInput) :
    Option WireAgentEvent :=
  if isInternalEvent event then none
  else (WireAgentEvent.fromAgentEvent crates event).map fun
    | .turnStarted thread turn _ => .turnStarted thread turn userInput
    | wire => wire

/-- A turn that the forwarder of a thread has to bring to its end: the events that are left, with
what was prepared for each, and the turn that is persisted then. -/
structure TurnScript where
  thread : ThreadId
  userInput : Option UserInput
  events : List (AgentEvent × Option PreparedItemOutput)
  turn : Turn
  captured : List CapturedDiffRecord
  env : AppendEnv

/-- SOURCE: event_forwarder.rs:2412-2417. -/
def TurnScript.completion (script : TurnScript) : AgentEvent :=
  .turnCompleted script.thread script.turn.id script.turn.usage script.turn.status

/-! ## Steps -/

/-- An entry of the ordered queue of a browser. -/
inductive QueueEntry where
  | history (delta : HistoryDelta)
  | snapshot (covers : ℕ) (snapshot : LiveTurnSnapshot)
  | event (index : ℕ) (event : WireAgentEvent)

/-- Where the forwarder is: before an event, between applying and publishing it, and in the three
steps of the completion. -/
inductive ForwarderPlace where
  | ready (next : ℕ)
  | applied (next : ℕ)
  | appended
  | settled
  | published
  | blocked (error : PersistError)

/-- Where a bootstrap is. A place remembers where the forwarder was at each of its reads. -/
inductive BootstrapPlace where
  | start
  | registered
  | loaded (delta : HistoryDelta) (readAt : ForwarderPlace)
  | built (delta : HistoryDelta) (snapshot : Option LiveTurnSnapshot)
      (readAt builtAt : ForwarderPlace)
  | sent (delta : HistoryDelta) (snapshot : Option LiveTurnSnapshot)
      (readAt builtAt : ForwarderPlace)
  | enqueued (delta : HistoryDelta) (snapshot : Option LiveTurnSnapshot)
      (readAt builtAt sentAt : ForwarderPlace)
  | failed (error : PersistError)

/-- A thread with a running turn and a browser that subscribes to it. -/
structure Subscription where
  files : ThreadDirectory
  entry : ThreadRuntimeEntry
  registered : Bool
  queue : List QueueEntry
  forwarder : ForwarderPlace
  bootstrap : BootstrapPlace

/-- Who takes the next step. -/
inductive SubscribeChoice where
  | bootstrap (moveFault : TurnId → Bool)
  | forwarder

/-- How many events of the turn were applied. -/
def ForwarderPlace.appliedCount (script : TurnScript) : ForwarderPlace → ℕ
  | .ready next => next
  | .applied next => next + 1
  | _ => script.events.length

/-- How many events of the turn were published. -/
def ForwarderPlace.publishedCount (script : TurnScript) : ForwarderPlace → ℕ
  | .ready next => next
  | .applied next => next
  | _ => script.events.length

namespace Subscription

variable (crates : Crates) (paths : ThreadPaths) (limits : BootstrapLimits) (script : TurnScript)

/-- The next step of a bootstrap without a cursor. SOURCE: ws.rs:1378-1531. -/
def bootstrapStep (moveFault : TurnId → Bool) (state : Subscription) : Subscription :=
  match state.bootstrap with
  | .start => { state with registered := true, bootstrap := .registered }
  | .registered => match bootstrapHistory crates paths moveFault state.files none limits with
    | (files, .error error) => { state with files := files, bootstrap := .failed error }
    | (files, .ok delta) =>
      { state with files := files, bootstrap := .loaded delta state.forwarder }
  | .loaded delta readAt =>
    let snapshot := state.entry.live.snapshot crates script.thread limits.tailItems
    { state with bootstrap := .built delta snapshot readAt state.forwarder }
  | .built delta snapshot readAt builtAt =>
    { state with
      queue := state.queue ++ [.history delta]
      bootstrap := .sent delta snapshot readAt builtAt }
  | .sent delta snapshot readAt builtAt =>
    { state with
      queue := state.queue ++
        (snapshot.map (.snapshot (builtAt.appliedCount script))).toList
      bootstrap := .enqueued delta snapshot readAt builtAt state.forwarder }
  | _ => state

/-- The next step of the forwarder. SOURCE: event_forwarder.rs:1879-1915, 2387-2431. -/
def forwarderStep (state : Subscription) : Subscription :=
  match state.forwarder with
  | .ready next => match script.events[next]? with
    | some event => { state with
        entry := (state.entry.applyPreparedEvent script.thread event.1 true event.2).1
        forwarder := .applied next }
    | none =>
      match appendTurnUnlocked crates script.thread script.env state.files script.turn
        script.captured with
      | (files, .ok ()) => { state with files := files, forwarder := .appended }
      | (files, .error error) => { state with files := files, forwarder := .blocked error }
  | .applied next =>
    let wire := (script.events[next]?).bind fun event =>
      transcriptEvent crates event.1 script.userInput
    { state with
      queue := if state.registered then state.queue ++ (wire.map (.event next)).toList
        else state.queue
      forwarder := .ready (next + 1) }
  | .appended => { state with
      entry := (state.entry.settleCompletedTurn script.thread script.completion none).1
      forwarder := .settled }
  | .settled => { state with forwarder := .published }
  | _ => state

def step (state : Subscription) : SubscribeChoice → Subscription
  | .bootstrap moveFault => bootstrapStep crates paths limits script moveFault state
  | .forwarder => forwarderStep crates script state

end Subscription

end Giskard
