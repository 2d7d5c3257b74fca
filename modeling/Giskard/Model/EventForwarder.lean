import Mathlib
import Giskard.Foundation.Schedule
import Giskard.Model.EventLog
import Giskard.Model.ForwardedTurn
import Giskard.Model.ProjectDriver

/-!
# The event forwarder of a thread

A thread's forwarder is the one owner of its turns. It takes turn intents from a bounded queue,
asks the harness to start a turn for one intent at a time, reads the thread's events, and writes
each completed turn to history. What it owns of the thread's turn gate is a lease: of an admitted
intent, or of the turn it has attached to.

The forwarder and the part of the thread's runtime entry it works on are one state, and each
pass of its loop is one step; a sender and whoever cancels the forwarder take steps too. What
the environment decides about a step is a record. The journal holds, in order, the events with
what they were classified as, the requests to the harness, the replies to intents and the writes
to the store. Messages to browsers and to the log, running tasks and the addressable outputs of
items are left out. Intents are numbered as they are handed over.

SOURCE: crates/giskard-server/src/registry/event_forwarder.rs,
crates/giskard-server/src/thread_runtime.rs, thread_runtime/outputs.rs, registry/thread.rs.
-/

set_option autoImplicit false

namespace Giskard

/-! ## Intents -/

/-- SOURCE: turn.rs:127-134. -/
structure TurnOverrides where
  contextWindow : Option UInt32
  model : Option ModelRef
  mode : Mode
  permissionPreset : PermissionPreset
  deriving DecidableEq

/-- An intent; its reply channel is its number. SOURCE: thread.rs:16-27. -/
inductive TurnIntent where
  | startTurn (input : UserInput) (overrides : TurnOverrides) (context : TurnContext) (reply : ℕ)
  | compact (context : TurnContext) (reply : ℕ)
  deriving DecidableEq

namespace TurnIntent

def context : TurnIntent → TurnContext
  | .startTurn _ _ context _ | .compact context _ => context

def reply : TurnIntent → ℕ
  | .startTurn _ _ _ reply | .compact _ reply => reply

end TurnIntent

/-- SOURCE: thread.rs:14. -/
def turnIntentCapacity : ℕ := 4

/-- SOURCE: event_forwarder.rs:742-745. -/
structure AdmittedIntent where
  context : TurnContext
  lease : ThreadTurnLease

/-- SOURCE: event_forwarder.rs:747-750. -/
inductive IntentReply where
  | turn (reply : ℕ)
  | unit (reply : ℕ)
  deriving DecidableEq

def IntentReply.number : IntentReply → ℕ
  | .turn reply | .unit reply => reply

/-- The request the harness has not answered. SOURCE: event_forwarder.rs:752-757. -/
structure InflightRequest where
  reply : IntentReply
  context : TurnContext

/-! ## The forwarder -/

/-- What a forwarder does that others see, in order. -/
inductive ForwarderNote where
  | handled (event : AgentEvent) (disposition : EventDisposition)
  | requested (intent : TurnIntent)
  | replied (intent : ℕ) (result : Except HarnessError (Option TurnId))
  | linked (link : Link)
  | amended (turn : TurnId) (item : Item)
  | modelAdopted (turn : TurnId) (model : ModelRef)
  | contextWindowPersisted (turn : TurnId) (model : ModelRef) (contextWindow : UInt32)
  | appended (turn : Turn) (context : TurnContext) (captured : List CapturedDiffRecord)
  | appendFailed (turn : Turn) (context : TurnContext) (captured : List CapturedDiffRecord)
      (error : String)

/-- A forwarder with the runtime entry of its thread. SOURCE: event_forwarder.rs:759-778. -/
structure ThreadEventForwarder where
  binding : LoadedThreadBinding
  maxCommandOutputBytes : ℕ
  entry : ThreadRuntimeEntry
  captured : CapturedDiffState
  cancel : Bool
  sent : ℕ
  intents : List TurnIntent
  intentsClosed : Bool
  admitted : Option AdmittedIntent
  inflight : Option InflightRequest
  idleContext : TurnContext
  turn : ForwardedTurnState
  seenTurnIds : Finset TurnId
  journal : List ForwarderNote
  exited : Option ForwarderExitReason

/-- What the environment decides about a step: the clock, the rounds the output normalizer takes
before the step is given up, the thread's file as loaded, the coordinator's classification,
whether the harness is there, whether the runtime entry is there when a permit is taken and still
is it when the permit is used, whether the preparation task fails, and the fault of the append. -/
structure ForwarderEnv where
  now : DateTime
  fuel : ℕ
  threadFile : Option ThreadFile
  classification : ClassificationPhase
  harnessThere : Bool
  permitTaken : Bool
  permitCurrent : Bool
  preparationFails : Bool
  appendFault : Option String

/-- An event as the runtime normalized it, its output, and whether a permit was taken.
SOURCE: event_forwarder.rs:895-901. -/
structure PreparedEvent where
  event : AgentEvent
  output : Option PreparedItemOutput
  permit : Bool

/-! ## Links, outputs and completions -/

/-- SOURCE: registry.rs:2053-2070. -/
def subagentLinkInfo (subagent : Option SubagentLink) (title : Option String) :
    Option SubagentActivityInfo :=
  subagent.bind fun link => (trimmedNonEmpty link.harnessThreadId).map fun nativeThreadId =>
    { nativeThreadId := nativeThreadId
      agentName := none
      agentPath := link.path.bind trimmedNonEmpty
      title := title }

/-- SOURCE: registry.rs:1956-1964. -/
def subagentActivityInfo (item : Item) : Option SubagentActivityInfo :=
  match item.payload with
  | .activity title _ _ subagent => subagentLinkInfo subagent (some title)
  | .toolCall _ _ _ _ _ _ _ subagent _ => subagentLinkInfo subagent none
  | _ => none

/-- SOURCE: registry.rs:2048-2051. -/
def subagentStartInfo (item : ItemStart) : Option SubagentActivityInfo :=
  item.tool.bind fun tool => subagentLinkInfo tool.subagent none

/-- A completed activity that carries a sub-agent's link. SOURCE: event_forwarder.rs:258-265. -/
def isSubagentOutcome : AgentEvent → Bool
  | .itemCompleted _ _ item => match item.payload with
    | .activity _ _ _ subagent => subagent.isSome
    | _ => false
  | _ => false

/-- SOURCE: event_forwarder.rs:245-256. -/
def isTerminalCommandCompletion : AgentEvent → Bool
  | .itemCompleted _ _ item => match item.payload with
    | .commandExecution _ _ _ _ _ _ _ _ status _ _ => !status.any commandStatusIsRunning
    | _ => false
  | _ => false

/-- SOURCE: event_forwarder.rs:2255-2259. -/
def isCompletedAddressableOutput : AgentEvent → Bool
  | .itemCompleted _ _ item => match item.payload with
    | .commandExecution _ _ _ _ _ _ _ _ _ _ _ | .toolCall _ _ _ _ _ _ _ _ _ => true
    | _ => false
  | _ => false

/-- An item with its command output normalized. SOURCE: thread_runtime.rs:367-390. -/
def normalizeItemOutput (fuel maxBytes : ℕ) (item : Item) : Option Item :=
  match item.payload with
  | .commandExecution command description cwd output _ _ _ exitCode status processId durationMs =>
    (normalizeCommandOutput fuel output maxBytes).map fun normalized =>
      { item with
        payload := .commandExecution command description cwd normalized.output
          normalized.outputTruncated normalized.outputOriginalBytes normalized.outputOriginalLines
          exitCode status processId durationMs }
  | _ => some item

/-- The parts of a completed item's output that reach the live turn. SOURCE: outputs.rs:233-322. -/
def prepareItemOutput (crates : Crates) : AgentEvent → Option PreparedItemOutput
  | .itemCompleted thread turn item => match item.payload with
    | .toolCall name description input output server status metadata subagent error =>
      let terminal := !status.any toolStatusIsRunning
      let live := ItemPayload.toolCall name description input none server status metadata subagent
        error
      some
        { commandDescriptor := none
          toolDescriptor := (output.filter fun _ => terminal).map (serializeToolOutput crates)
          liveEvent := some (.itemCompleted thread turn { item with payload := live }) }
    | .commandExecution command description cwd output outputTruncated outputOriginalBytes
        outputOriginalLines exitCode status processId durationMs =>
      match commandOutputDescriptor output outputTruncated outputOriginalBytes
          outputOriginalLines true with
      | .ok descriptor =>
        let live := ItemPayload.commandExecution command description cwd descriptor.preview
          outputTruncated outputOriginalBytes outputOriginalLines exitCode status processId
          durationMs
        some
          { commandDescriptor := some descriptor
            toolDescriptor := none
            liveEvent := some (.itemCompleted thread turn { item with payload := live }) }
      | .error _ => some ⟨none, none, some (.itemCompleted thread turn item)⟩
    | _ => none
  | _ => none

/-- Normalize and project a completed output before anything observes it; a normalization that
has not come to an end is a task that has not returned. SOURCE: event_forwarder.rs:2246-2303. -/
def prepareOutput (crates : Crates) (env : ForwarderEnv) (maxBytes : ℕ) (event : AgentEvent) :
    Except ForwarderExitReason PreparedEvent :=
  if !isCompletedAddressableOutput event then .ok ⟨event, none, false⟩
  else if !env.permitTaken then .error .runtimeAuthorityReplaced
  else if env.preparationFails then .error .eventPreparationFailed
  else match event with
    | .itemCompleted thread turn item => match normalizeItemOutput env.fuel maxBytes item with
      | none => .error .eventPreparationFailed
      | some item =>
        let event := AgentEvent.itemCompleted thread turn item
        .ok ⟨event, prepareItemOutput crates event, true⟩
    | event => .ok ⟨event, prepareItemOutput crates event, true⟩

/-- SOURCE: event_forwarder.rs:1305. -/
def EventStreamError.isGap : EventStreamError → Bool
  | .gap _ => true
  | .closed => false

/-- SOURCE: event_forwarder.rs:402-404. -/
def sameModel (a b : ModelRef) : Bool := a.provider = b.provider && a.model = b.model

namespace ThreadEventForwarder

variable (crates : Crates) (env : ForwarderEnv)

section

variable (forwarder : ThreadEventForwarder)

/-- SOURCE: event_forwarder.rs:969-971. -/
def threadId : ThreadId := forwarder.binding.handle.thread

def log (note : ForwarderNote) : ThreadEventForwarder :=
  { forwarder with journal := forwarder.journal ++ [note] }

def setGate (gate : TurnGate) : ThreadEventForwarder :=
  { forwarder with entry := { forwarder.entry with gate := gate } }

/-! ## The gate -/

/-- Release or drop a lease. SOURCE: thread_runtime.rs:1055-1069, 1293-1300, 1329-1331. -/
def releaseLease (lease : Option ThreadTurnLease) : ThreadEventForwarder :=
  match lease with
  | none => forwarder
  | some lease =>
    if lease.detached then forwarder else forwarder.setGate forwarder.entry.gate.release

/-- SOURCE: thread_runtime.rs:1040-1053, 1282-1291. -/
def acknowledge (lease : ThreadTurnLease) (turn : TurnId) : ThreadEventForwarder :=
  if lease.detached then forwarder
  else match forwarder.entry.gate.acknowledge turn with
    | none => forwarder
    | some gate => forwarder.setGate gate

/-- Settle a completed turn, with the lease of the turn if there is one. SOURCE:
thread_runtime.rs:964-1004, 1307-1325, event_forwarder.rs:2419-2447. -/
def settle (event : AgentEvent) (persistedTurn : Option (Turn × String)) : ThreadEventForwarder :=
  { forwarder with
    entry := (forwarder.entry.settleCompletedTurn forwarder.threadId event persistedTurn).1
    captured := match persistedTurn, ThreadRuntimeEntry.completedTurn event with
      | none, some completed => forwarder.captured.clearTurn completed
      | _, _ => forwarder.captured
    turn := { forwarder.turn with lease := forwarder.turn.lease.map fun _ => ⟨true⟩ } }

/-- SOURCE: event_forwarder.rs:716-729. -/
def resetTurn : ThreadEventForwarder :=
  { forwarder.releaseLease forwarder.turn.lease with
    turn := .new forwarder.idleContext env.now }

/-! ## Completion -/

/-- The turn that is written. SOURCE: event_forwarder.rs:2374-2386. -/
def assembledTurn (completedTurn : TurnId) (usage : TokenUsage) (status : TurnStatus) : Turn where
  id := forwarder.turn.observedTurn.getD completedTurn
  userInput := forwarder.turn.context.userInput
  items := forwarder.turn.items.take.1
  model := forwarder.turn.context.model
  mode := forwarder.turn.context.mode
  status := status
  usage := usage
  diffs := forwarder.turn.diffs
  startedAt := forwarder.turn.startedAt
  completedAt := some env.now
  skippedRecords := 0

/-- SOURCE: event_forwarder.rs:2349-2484. -/
def completeForwardedTurn (completedTurn : TurnId) (usage : TokenUsage) (status : TurnStatus) :
    ThreadEventForwarder × Option TurnId :=
  let turn := forwarder.assembledTurn env completedTurn usage status
  let context := forwarder.turn.context
  let captured := forwarder.captured.records turn.id
  let taken := { forwarder with turn := { forwarder.turn with
    items := forwarder.turn.items.take.2
    diffs := [] } }
  let completionEvent :=
    AgentEvent.turnCompleted forwarder.threadId completedTurn usage status
  match env.appendFault with
  | none =>
    let appended := taken.log (.appended turn context captured)
    ({ appended with seenTurnIds := insert turn.id appended.seenTurnIds }.settle
      completionEvent none, some turn.id)
  | some error =>
    ((taken.log (.appendFailed turn context captured error)).settle completionEvent
      (some (turn, error)), none)

/-! ## The owned path -/

/-- Take ownership of a turn; the lease held before, if any, is dropped. SOURCE:
event_forwarder.rs:1962-1967. -/
def own (context : TurnContext) (lease : ThreadTurnLease) (turn : TurnId) :
    ThreadEventForwarder :=
  let acknowledged := forwarder.acknowledge lease turn
  let dropped := acknowledged.releaseLease acknowledged.turn.lease
  { dropped with turn := { dropped.turn with
    context := context
    lease := some lease
    ownedTurn := some turn } }

/-- SOURCE: event_forwarder.rs:1917-1976. -/
def attachToTurn (turn : TurnId) : ThreadEventForwarder × Option ForwarderExitReason :=
  match forwarder.admitted with
  | some admitted =>
    ({ forwarder with admitted := none }.own admitted.context admitted.lease turn, none)
  | none =>
    let context := externalTurnContext forwarder.binding env.threadFile env.classification
    match forwarder.entry.gate.reserve forwarder.threadId
        (turnReservation forwarder.binding.projectId forwarder.binding.handle context) with
    | .error _ => (forwarder, some .runtimeAuthorityReplaced)
    | .ok gate => ((forwarder.setGate gate).own context ⟨false⟩ turn, none)

/-- SOURCE: thread_runtime.rs:406-417. -/
def captureEventDiffs (event : AgentEvent) : ThreadEventForwarder × AgentEvent :=
  let (captured, event) := forwarder.captured.capture crates event
  ({ forwarder with captured := captured }, event)

/-- SOURCE: event_forwarder.rs:1984-2023. -/
def adoptExternalTurnModel (turn : TurnId) (model : ModelRef) : ThreadEventForwarder :=
  let context := forwarder.turn.context
  if context.kind ≠ .externalSubagent ∧ context.kind ≠ .externalOrphan then forwarder
  else if context.model.asKnown.any (sameModel · model) then forwarder
  else { forwarder with turn := { forwarder.turn with
    context := { context with model := .known model } } }.log (.modelAdopted turn model)

/-- SOURCE: event_forwarder.rs:2045-2080. -/
def recordContextWindow (turn : TurnId) (model : ModelRef) (window : UInt32) :
    ThreadEventForwarder :=
  let context := forwarder.turn.context
  if context.model.asKnown.any fun expected => !sameModel expected model then forwarder
  else
    let context := if context.model.asKnown.isNone then { context with model := .known model }
      else context
    let known := { forwarder with turn := { forwarder.turn with context := context } }
    if known.turn.persistedContextWindow ≠ some window then
      { known with turn := { known.turn with persistedContextWindow := some window } }.log
        (.contextWindowPersisted turn model window)
    else known

/-- SOURCE: event_forwarder.rs:2025-2080. -/
def recordTurnUsage : AgentEvent → ThreadEventForwarder
  | .turnUsageUpdated _ turn usage contextWindow model =>
    let used := { forwarder with turn := { forwarder.turn with
      liveUsage := some usage
      liveContextWindow := contextWindow.or forwarder.turn.liveContextWindow } }
    let adopted := match model with
      | some model => used.adoptExternalTurnModel turn model
      | none => used
    match model, contextWindow with
    | some model, some window => adopted.recordContextWindow turn model window
    | _, _ => adopted
  | _ => forwarder

/-- SOURCE: event_forwarder.rs:2136-2163; a driver that is gone loses the link. -/
def sendSubagentLink (turn : TurnId) (itemId : ItemId) (origin : String) :
    Option SubagentActivityInfo → ThreadEventForwarder
  | none => forwarder
  | some info => forwarder.log (.linked ⟨forwarder.threadId, turn, itemId, origin, info⟩)

/-- SOURCE: event_forwarder.rs:2084-2134. -/
def noteOwnedEvent : AgentEvent → ThreadEventForwarder
  | .turnStarted _ turn =>
    { forwarder with turn := { forwarder.turn with
      observedTurn := some turn
      startedAt := env.now
      items := forwarder.turn.items.rebuildIndexes } }
  | .itemStarted _ turn item =>
    forwarder.sendSubagentLink turn item.id "item_started" (subagentStartInfo item)
  | .itemCompleted _ turn item =>
    let linked := forwarder.sendSubagentLink turn item.id "item_completed"
      (subagentActivityInfo item)
    { linked with turn := { linked.turn with items := (linked.turn.items.upsert item).1 } }
  | .diffUpdated _ _ diff =>
    { forwarder with turn := { forwarder.turn with
      diffs := ForwardedTurnState.upsertDiff forwarder.turn.diffs diff } }
  | _ => forwarder

/-- Whether an event goes to the reconnect buffer, and the buffer made ready for its turn.
SOURCE: event_forwarder.rs:2168-2206. -/
def admitToLiveBuffer (eventTurn : Option TurnId) (event : AgentEvent) :
    ThreadEventForwarder × Bool :=
  match eventTurn with
  | none => (forwarder, true)
  | some bufferTurn =>
    let input := liveTurnUserInput forwarder.turn.context
    match forwarder.entry.live.ensureTurnWithUserInput forwarder.threadId bufferTurn input with
    | (live, .ok ()) => ({ forwarder with entry := { forwarder.entry with live := live } }, true)
    | (live, .error _) => match event with
      | .turnStarted _ _ =>
        ({ forwarder with entry := { forwarder.entry with
            live := live.replaceTurnWithUserInput forwarder.threadId bufferTurn input } }, true)
      | _ => ({ forwarder with entry := { forwarder.entry with live := live } }, false)

/-- Apply an event to the runtime entry, unless its permit is no longer current. SOURCE:
event_forwarder.rs:2305-2328, thread_runtime.rs:787-886. -/
def applyToRuntime (permit : Bool) (event : AgentEvent) (appendLive : Bool)
    (output : Option PreparedItemOutput) : Option ThreadEventForwarder :=
  if permit && !env.permitCurrent then none
  else if event.threadId ≠ forwarder.threadId then if permit then none else some forwarder
  else some { forwarder with
    entry := (forwarder.entry.applyPreparedEvent forwarder.threadId event appendLive output).1 }

/-- SOURCE: event_forwarder.rs:2214-2303. -/
def finishOwnedTurn (completion : TurnId × TokenUsage × TurnStatus) :
    ThreadEventForwarder × Option ForwarderExitReason :=
  match forwarder.completeForwardedTurn env completion.1 completion.2.1 completion.2.2 with
  | (completed, none) => (completed, some .persistenceBlocked)
  | (completed, some _) => (completed.resetTurn env, none)

/-- What is done about an owned event once the turn is attached and its output is prepared.
SOURCE: event_forwarder.rs:1862-1915. -/
def applyPrepared (eventTurn : Option TurnId) (prepared : PreparedEvent)
    (completes : Option (TurnId × TokenUsage × TurnStatus)) :
    ThreadEventForwarder × Option ForwarderExitReason :=
  let (captured, event) := forwarder.captureEventDiffs crates prepared.event
  let noted := (captured.recordTurnUsage event).noteOwnedEvent env event
  let (buffered, appendToLiveBuffer) := noted.admitToLiveBuffer eventTurn event
  match completes with
  | some completion => buffered.finishOwnedTurn env completion
  | none =>
    match buffered.applyToRuntime env prepared.permit event appendToLiveBuffer
        prepared.output with
    | none => (buffered, some .runtimeAuthorityReplaced)
    | some applied => (applied, none)

/-- SOURCE: event_forwarder.rs:1843-1915. -/
def applyOwned (event : AgentEvent) (attaches : Option TurnId)
    (completes : Option (TurnId × TokenUsage × TurnStatus)) :
    ThreadEventForwarder × Option ForwarderExitReason :=
  let attached := match attaches with
    | none => (forwarder, none)
    | some turn => forwarder.attachToTurn env turn
  match attached with
  | (attached, some reason) => (attached, some reason)
  | (attached, none) =>
    match prepareOutput crates env attached.maxCommandOutputBytes event with
    | .error reason => (attached, some reason)
    | .ok prepared => attached.applyPrepared crates env event.turn prepared completes

/-! ## The late and the turnless path -/

/-- SOURCE: event_forwarder.rs:1681-1766. -/
def applyLateSubagentOutcome : AgentEvent → ThreadEventForwarder
  | .itemCompleted _ turn item => match item.payload with
    | .activity _ _ _ (some _) =>
      (forwarder.log (.amended turn item)).sendSubagentLink turn item.id "late_item_completed"
        (subagentActivityInfo item)
    | _ => forwarder
  | _ => forwarder

/-- A late tool completion is amended into its turn. SOURCE: event_forwarder.rs:1598-1656. -/
def amendLateTool : AgentEvent → ThreadEventForwarder
  | .itemCompleted _ turn item => match item.payload with
    | .toolCall _ _ _ _ _ _ _ _ _ => forwarder.log (.amended turn item)
    | _ => forwarder
  | _ => forwarder

/-- SOURCE: event_forwarder.rs:1516-1541. -/
def amendLateCommand : AgentEvent → ThreadEventForwarder
  | .itemCompleted _ turn item => forwarder.log (.amended turn item)
  | _ => forwarder

/-- The late path. SOURCE: event_forwarder.rs:1475-1679. -/
def applyLate (event : AgentEvent) : ThreadEventForwarder × Option ForwarderExitReason :=
  if isSubagentOutcome event then
    if env.permitTaken && env.permitCurrent then (forwarder.applyLateSubagentOutcome event, none)
    else (forwarder, some .runtimeAuthorityReplaced)
  else match prepareOutput crates env forwarder.maxCommandOutputBytes event with
    | .error reason => (forwarder, some reason)
    | .ok prepared =>
      if isTerminalCommandCompletion prepared.event then
        match forwarder.applyToRuntime env prepared.permit prepared.event false
            prepared.output with
        | none => (forwarder, some .runtimeAuthorityReplaced)
        | some applied => (applied.amendLateCommand prepared.event, none)
      else (forwarder.amendLateTool prepared.event, none)

/-- The turnless path. SOURCE: event_forwarder.rs:1768-1841. -/
def applyTurnless (event : AgentEvent) : ThreadEventForwarder :=
  { forwarder with entry := (forwarder.entry.applyPreparedEvent forwarder.threadId event false
      (prepareItemOutput crates event)).1 }

/-! ## Events and the stream -/

/-- SOURCE: event_forwarder.rs:1400-1417. -/
def apply (event : AgentEvent) :
    EventDisposition → ThreadEventForwarder × Option ForwarderExitReason
  | .drop _ => (forwarder, none)
  | .lateForPersistedTurn _ => forwarder.applyLate crates env event
  | .turnless => (forwarder.applyTurnless crates event, none)
  | .owned attaches completes => forwarder.applyOwned crates env event attaches completes

/-- The forwarder once an event is classified and remembered. SOURCE:
event_forwarder.rs:1389-1398. -/
def remembered (event : AgentEvent) (disposition : EventDisposition) : ThreadEventForwarder :=
  let logged := forwarder.log (.handled event disposition)
  match disposition with
  | .drop (.foreignThread _) => logged
  | _ => { logged with turn := forwarder.turn.remember event }

/-- SOURCE: event_forwarder.rs:1389-1398. -/
def handleEvent (event : AgentEvent) : ThreadEventForwarder × Option ForwarderExitReason :=
  let disposition := classify forwarder.threadId forwarder.turn forwarder.seenTurnIds event
  (forwarder.remembered event disposition).apply crates env event disposition

/-- The status of a turn whose stream broke off. SOURCE: event_forwarder.rs:1334-1341. -/
def interruptedStatus (gap : Bool) : TurnStatus where
  kind := .interrupted
  message := some (if gap then "Harness event log overflowed before turn completion"
    else "Harness event stream ended before turn completion")

/-- SOURCE: event_forwarder.rs:1300-1403. -/
def handleStreamError (error : EventStreamError) :
    ThreadEventForwarder × Option ForwarderExitReason :=
  let gap := error.isGap
  match forwarder.turn.observedTurn.or forwarder.turn.ownedTurn with
  | some incompleteTurn =>
    match forwarder.completeForwardedTurn env incompleteTurn
        (forwarder.turn.liveUsage.getD ⟨0, 0, 0⟩) (interruptedStatus gap) with
    | (completed, none) => (completed, some .persistenceBlocked)
    | (completed, some _) =>
      if gap then (completed.resetTurn env, none) else (completed, some .streamEndedRecovered)
  | none => if gap then (forwarder, none) else (forwarder, some .streamEndedWithoutTurn)

/-! ## Intents and answers -/

/-- SOURCE: event_forwarder.rs:1041-1042. -/
def ownerGone : HarnessError :=
  .protocol s!"thread {crates.ulid.print forwarder.threadId.ulid} has no live event owner"

def sendReply (intent : ℕ) (result : Except HarnessError (Option TurnId)) : ThreadEventForwarder :=
  forwarder.log (.replied intent result)

/-- The request for an admitted intent. SOURCE: event_forwarder.rs:1075-1116. -/
def startRequest (intent : TurnIntent) (lease : ThreadTurnLease) : ThreadEventForwarder :=
  { forwarder with
    admitted := some ⟨intent.context, lease⟩
    inflight := some
      { reply := match intent with
          | .startTurn _ _ _ reply => .turn reply
          | .compact _ reply => .unit reply
        context := intent.context } }.log (.requested intent)

/-- SOURCE: event_forwarder.rs:1023-1116. -/
def admitIntent (intent : TurnIntent) : ThreadEventForwarder :=
  if forwarder.cancel then
    forwarder.sendReply intent.reply (.error (forwarder.ownerGone crates))
  else if env.classification ≠ .primary then
    forwarder.sendReply intent.reply (.error (.threadReadOnly forwarder.threadId))
  else if forwarder.inflight.isSome || forwarder.admitted.isSome ||
      forwarder.turn.ownedTurn.isSome then
    forwarder.sendReply intent.reply (.error (.threadBusy forwarder.threadId))
  else match forwarder.entry.gate.reserve forwarder.threadId (turnReservation
      forwarder.binding.projectId forwarder.binding.handle intent.context) with
    | .error error => forwarder.sendReply intent.reply (.error error)
    | .ok gate =>
      let reserved := forwarder.setGate gate
      if env.harnessThere then reserved.startRequest intent ⟨false⟩
      else (reserved.releaseLease (some ⟨false⟩)).sendReply intent.reply
        (.error (.protocol "project harness is gone"))

/-- What the client of an accepted request is told. SOURCE: event_forwarder.rs:1158-1168. -/
def acceptedResult (reply : IntentReply) (turnId : Option TurnId) :
    Except HarnessError (Option TurnId) :=
  match reply, turnId with
  | .turn _, some turn => .ok (some turn)
  | .turn _, none => .error (.protocol "turn start returned no turn id")
  | .unit _, _ => .ok none

/-- Give up the admitted intent with its lease. SOURCE: event_forwarder.rs:1192-1196, 1229-1233. -/
def releaseAdmitted : ThreadEventForwarder :=
  { forwarder with admitted := none }.releaseLease (forwarder.admitted.map AdmittedIntent.lease)

/-- SOURCE: event_forwarder.rs:1146-1151. -/
def acknowledgeAdmitted (turnId : Option TurnId) : ThreadEventForwarder :=
  match forwarder.admitted, turnId with
  | some admitted, some turn => forwarder.acknowledge admitted.lease turn
  | _, _ => forwarder

/-- SOURCE: event_forwarder.rs:1118-1208. -/
def handleAnswer (outcome : Except HarnessError (Option TurnId)) : ThreadEventForwarder :=
  match forwarder.inflight with
  | none => forwarder
  | some request =>
    let taken := { forwarder with inflight := none }
    match outcome with
    | .ok turnId => (taken.acknowledgeAdmitted turnId).sendReply request.reply.number
        (acceptedResult request.reply turnId)
    | .error error => taken.releaseAdmitted.sendReply request.reply.number (.error error)

/-! ## The exit -/

/-- Close the queue and refuse the intents in it. SOURCE: event_forwarder.rs:1213-1228. -/
def drainIntents : ThreadEventForwarder :=
  let refusals := forwarder.intents.map fun intent =>
    ForwarderNote.replied intent.reply (.error (forwarder.ownerGone crates))
  { forwarder with
    journal := forwarder.journal ++ refusals
    intents := []
    intentsClosed := true }

/-- Answer the intent whose request is still out. SOURCE: event_forwarder.rs:1234-1245. -/
def abandonRequest : ThreadEventForwarder :=
  match forwarder.inflight with
  | none => forwarder
  | some request => { forwarder with inflight := none }.sendReply request.reply.number
      (.error (.protocol "event owner exited before the harness answered"))

/-- SOURCE: event_forwarder.rs:1292-1296. -/
def releaseTurn : ThreadEventForwarder :=
  let released := forwarder.releaseLease forwarder.turn.lease
  { released with turn := { released.turn with lease := released.turn.lease.map fun _ => ⟨true⟩ } }

/-- SOURCE: event_forwarder.rs:1210-1286. -/
def finish (reason : ForwarderExitReason) : ThreadEventForwarder :=
  { (forwarder.drainIntents crates).releaseAdmitted.abandonRequest.releaseTurn with
    exited := some reason }

end

/-! ## Runs -/

/-- A step: a sender hands over an intent, whoever detaches the thread sets the cancellation, or
the loop takes a branch; the cancellation is noticed too when its sender is gone. SOURCE:
event_forwarder.rs:973-1019. -/
inductive Action where
  | sendStart (input : UserInput) (overrides : TurnOverrides) (effectiveModel : ModelRef)
  | sendCompact (effectiveModel : ModelRef) (mode : Mode)
  | setCancel
  | cancelled (senderGone : Bool)
  | event (event : AgentEvent)
  | streamError (error : EventStreamError)
  | answered (outcome : Except HarnessError (Option TurnId))
  | intent

/-- The context of a started turn. SOURCE: registry.rs:1043-1048. -/
def startContext (input : UserInput) (overrides : TurnOverrides) (effectiveModel : ModelRef)
    (number : ℕ) : TurnContext where
  userInput := input
  model := .known effectiveModel
  mode := .known overrides.mode
  kind := .user
  intent := some number

/-- The context of a compaction. SOURCE: registry.rs:1364-1369. -/
def compactContext (effectiveModel : ModelRef) (mode : Mode) (number : ℕ) : TurnContext where
  userInput := .ofText "/compact"
  model := .known effectiveModel
  mode := .known mode
  kind := .manualCompaction
  intent := some number

variable (forwarder : ThreadEventForwarder)

/-- Hand over an intent, numbered, if the queue takes it. SOURCE: registry.rs:1049-1062,
1370-1381. -/
def send (intent : ℕ → TurnIntent) : ThreadEventForwarder :=
  if forwarder.intentsClosed || turnIntentCapacity ≤ forwarder.intents.length then forwarder
  else { forwarder with
    sent := forwarder.sent + 1
    intents := forwarder.intents ++ [intent forwarder.sent] }

/-- Leave the loop or go on. -/
def control : ThreadEventForwarder × Option ForwarderExitReason → ThreadEventForwarder
  | (forwarder, none) => forwarder
  | (forwarder, some reason) => forwarder.finish crates reason

/-- One step of a forwarder that has not exited. -/
def advance : Action → ThreadEventForwarder
  | .sendStart input overrides effectiveModel => forwarder.send fun number =>
    .startTurn input overrides (startContext input overrides effectiveModel number) number
  | .sendCompact effectiveModel mode => forwarder.send fun number =>
    .compact (compactContext effectiveModel mode number) number
  | .setCancel => { forwarder with cancel := true }
  | .cancelled senderGone =>
    if senderGone || forwarder.cancel then forwarder.finish crates .streamEndedWithoutTurn else forwarder
  | .event event => control crates (forwarder.handleEvent crates env event)
  | .streamError error => control crates (forwarder.handleStreamError env error)
  | .answered outcome => forwarder.handleAnswer outcome
  | .intent => match forwarder.intents with
    | [] => forwarder
    | intent :: intents => { forwarder with intents := intents }.admitIntent crates env intent

/-- One step. -/
def step (action : ForwarderEnv × Action) : ThreadEventForwarder :=
  match forwarder.exited with
  | some _ => forwarder
  | none => forwarder.advance crates action.1 action.2

/-- The forwarder after a run. -/
def run (actions : List (ForwarderEnv × Action)) : ThreadEventForwarder :=
  Foundation.Schedule.run (step crates) forwarder actions

/-- A forwarder as it is made, over the runtime entry of its thread and the turns that are
persisted. SOURCE: event_forwarder.rs:904-967. -/
def new (binding : LoadedThreadBinding) (maxCommandOutputBytes : ℕ) (entry : ThreadRuntimeEntry)
    (captured : CapturedDiffState) (threadFile : Option ThreadFile) (persisted : Finset TurnId)
    (now : DateTime) : ThreadEventForwarder where
  binding := binding
  maxCommandOutputBytes := maxCommandOutputBytes
  entry := entry
  captured := captured
  cancel := false
  sent := 0
  intents := []
  intentsClosed := false
  admitted := none
  inflight := none
  idleContext := Giskard.idleContext binding threadFile
  turn := .new (Giskard.idleContext binding threadFile) now
  seenTurnIds := persisted
  journal := []
  exited := none

end ThreadEventForwarder

end Giskard
