import Mathlib
import Giskard.Foundation.IndexMap
import Giskard.Model.Wire

/-!
# The reconnect buffer of a live turn

One entry per item, holding its start, its latest completion and the deltas received since,
and one entry per other event. Entries are only ever pushed, so an index is a position for
the life of the turn. A hash map that is only looked up is a function to `Option`, a hash
set a `Finset`, an index map an `IndexMap`.

SOURCE: crates/giskard-server/src/thread_runtime/live.rs.
-/

set_option autoImplicit false

namespace Giskard

open Foundation

/-- SOURCE: live.rs:22. -/
def maxLiveCommandOutput : ℕ := 16 * 1024

/-- SOURCE: live.rs:23. -/
def liveCommandOutputEdge : ℕ := 8 * 1024

/-- SOURCE: live.rs:24. -/
def liveCommandOutputTruncated : List Char :=
  "\n\n[... command output truncated in the live reconnect snapshot; full output is preserved on command completion ...]\n\n".toList

/-- SOURCE: live.rs:89-105. -/
structure LiveItemEntry where
  id : ItemId
  thread : ThreadId
  turn : TurnId
  start : Option ItemStart
  completed : Option Item
  text : List Char
  output : List Char
  deriving DecidableEq

/-- SOURCE: live.rs:81-87. -/
inductive LiveEntry where
  | item (entry : LiveItemEntry)
  | event (event : AgentEvent)
  deriving DecidableEq

/-- The item entry, if it is one. -/
def LiveEntry.asItem : LiveEntry → Option LiveItemEntry
  | .item entry => some entry
  | .event _ => none

/-- The event, if it is one. -/
def LiveEntry.asEvent : LiveEntry → Option AgentEvent
  | .item _ => none
  | .event other => some other

/-- SOURCE: live.rs:37-75. -/
structure LiveTurn where
  turnId : TurnId
  userInput : Option UserInput
  turnStarted : Option AgentEvent
  entries : List LiveEntry
  slots : ItemId → Option ℕ
  pendingStarts : IndexMap ItemId (ThreadId × TurnId × ItemStart)
  latestUsage : Option AgentEvent
  commandOutputDescriptors : ItemId → Option CommandOutputDescriptor
  toolOutputDescriptors : ItemId → Option ToolOutputDescriptor
  resolvedApprovals : ApprovalId → Option ApprovalDecision
  resolvedServerRequests : Finset ServerRequestId

/-! ## Command output -/

/-- SOURCE: live.rs:948-954. -/
def floorCharBoundary (text : List Char) (index : ℕ) : ℕ := retreat text (min index (byteLen text))

/-- SOURCE: live.rs:956-962. -/
def ceilCharBoundary (text : List Char) (index : ℕ) : ℕ := advance text (min index (byteLen text))

/-- Keep a head and a tail of a long output. SOURCE: live.rs:930-946. -/
def compactCommandOutput (output : List Char) : List Char :=
  if byteLen output ≤ maxLiveCommandOutput then output
  else
    let headEnd := floorCharBoundary output (min liveCommandOutputEdge (byteLen output))
    let tailStart := ceilCharBoundary output (byteLen output - liveCommandOutputEdge)
    takeBytes output headEnd ++ liveCommandOutputTruncated ++ dropBytes output tailStart

/-! ## One item's entry -/

/-- Whether the browser draws the item's row at its start. SOURCE: live.rs:326-334. -/
def startDrawsRow (start : ItemStart) : Bool :=
  match start.kind with
  | .commandExecution => start.command.isSome
  | .toolCall => start.tool.isSome
  | _ => false

namespace LiveItemEntry

/-- Whether no later completion will change this item. SOURCE: live.rs:341-362. -/
def isSettled (entry : LiveItemEntry) : Bool :=
  match entry.completed with
  | none => false
  | some item =>
    let running := match item.payload with
      | .commandExecution _ _ _ _ _ _ _ _ status _ _ => status.any commandStatusIsRunning
      | .toolCall _ _ _ _ _ status _ _ _ => status.any toolStatusIsRunning
      | .fileChange _ _ _ status => status.any fileChangeStatusIsRunning
      | _ => false
    !running

/-- SOURCE: live.rs:364-372. -/
def isUserMessage (entry : LiveItemEntry) : Bool :=
  match entry.completed with
  | some item => match item.payload with
    | .userMessage _ => true
    | _ => false
  | none => entry.start.any fun start => decide (start.kind = .userMessage)

/-- Join a text delta: a tool call's progress chunks are separated by a newline. SOURCE:
live.rs:387-399. -/
def pushText (entry : LiveItemEntry) (chunk : List Char) : LiveItemEntry :=
  let isTool := entry.start.any fun start => decide (start.kind = .toolCall)
  let text := if isTool && !entry.text.isEmpty then entry.text ++ ['\n'] else entry.text
  { entry with text := text ++ chunk }

/-- SOURCE: live.rs:401-406. -/
def pushOutput (entry : LiveItemEntry) (chunk : List Char) : LiveItemEntry :=
  let output := entry.output ++ chunk
  { entry with
    output := if maxLiveCommandOutput < byteLen output then compactCommandOutput output
      else output }

/-- SOURCE: live.rs:408-412. -/
def startedEvent (entry : LiveItemEntry) : Option AgentEvent :=
  entry.start.map fun item => .itemStarted entry.thread entry.turn item

/-- SOURCE: live.rs:414-422. -/
def completedEvent (entry : LiveItemEntry) : Option AgentEvent :=
  entry.completed.map fun item => .itemCompleted entry.thread entry.turn item

/-- The deltas received since the latest completion. SOURCE: live.rs:434-440. -/
def deltas (entry : LiveItemEntry) : List ItemDelta :=
  (if entry.text.isEmpty then [] else [.text (String.ofList entry.text)]) ++
    if entry.output.isEmpty then [] else [.commandOutput (String.ofList entry.output)]

end LiveItemEntry

/-- SOURCE: live.rs:454-461. -/
inductive LiveItem where
  | started (start : ItemStart)
  | completed (item : Item) (commandOutput : Option CommandOutputDescriptor)
      (toolOutput : Option ToolOutputDescriptor)

/-! ## The turn -/

namespace LiveTurn

/-- SOURCE: live.rs:108-122. -/
def new (turnId : TurnId) (userInput : Option UserInput) : LiveTurn :=
  { turnId := turnId
    userInput := userInput
    turnStarted := none
    entries := []
    slots := fun _ => none
    pendingStarts := IndexMap.empty
    latestUsage := none
    commandOutputDescriptors := fun _ => none
    toolOutputDescriptors := fun _ => none
    resolvedApprovals := fun _ => none
    resolvedServerRequests := ∅ }

/-- The item entry at an index. -/
def itemAt (turn : LiveTurn) (slot : ℕ) : Option LiveItemEntry :=
  turn.entries[slot]?.bind LiveEntry.asItem

/-- The entry a new item starts with, which takes over its pending start. SOURCE:
live.rs:137-149. -/
def freshEntry (turn : LiveTurn) (thread : ThreadId) (turnId : TurnId) (itemId : ItemId) :
    LiveItemEntry :=
  match turn.pendingStarts.get? itemId with
  | some (thread, turnId, start) => ⟨itemId, thread, turnId, some start, none, [], []⟩
  | none => ⟨itemId, thread, turnId, none, none, [], []⟩

/-- A fresh entry at the tail. SOURCE: live.rs:136-151. -/
def pushEntry (turn : LiveTurn) (thread : ThreadId) (turnId : TurnId) (itemId : ItemId) :
    LiveTurn × ℕ × LiveItemEntry :=
  let entry := turn.freshEntry thread turnId itemId
  ({ turn with
      pendingStarts := turn.pendingStarts.shiftRemove itemId
      entries := turn.entries ++ [.item entry]
      slots := Function.update turn.slots itemId (some turn.entries.length) },
    turn.entries.length, entry)

/-- The item's slot and entry, pushed at the tail if it has none. A slot that does not name an
item entry is replaced by a fresh one rather than trusted. SOURCE: live.rs:124-157. -/
def entryFor (turn : LiveTurn) (thread : ThreadId) (turnId : TurnId) (itemId : ItemId) :
    LiveTurn × ℕ × LiveItemEntry :=
  match turn.slots itemId with
  | some slot => match turn.itemAt slot with
    | some entry => (turn, slot, entry)
    | none => turn.pushEntry thread turnId itemId
  | none => turn.pushEntry thread turnId itemId

/-- Write through the entry that `entryFor` returns. -/
def modifyEntry (turn : LiveTurn) (thread : ThreadId) (turnId : TurnId) (itemId : ItemId)
    (change : LiveItemEntry → LiveItemEntry) : LiveTurn :=
  let (turn, slot, entry) := turn.entryFor thread turnId itemId
  { turn with entries := turn.entries.set slot (.item (change entry)) }

/-- SOURCE: live.rs:159-164. -/
def item (turn : LiveTurn) (itemId : ItemId) : Option LiveItemEntry :=
  (turn.slots itemId).bind turn.itemAt

/-- SOURCE: live.rs:166-171. -/
def events (turn : LiveTurn) : List AgentEvent :=
  turn.entries.filterMap LiveEntry.asEvent

/-- SOURCE: live.rs:252-271. -/
def startItem (turn : LiveTurn) (thread : ThreadId) (turnId : TurnId) (start : ItemStart) :
    LiveTurn :=
  if (turn.slots start.id).isNone && !startDrawsRow start then
    { turn with pendingStarts := turn.pendingStarts.insert start.id (thread, turnId, start) }
  else turn.modifyEntry thread turnId start.id fun entry => { entry with start := some start }

/-- What a completion stores: command output reduced to its preview, tool output stripped, and
the descriptors kept beside it. A rejected command output leaves no text and an unavailable
descriptor. SOURCE: live.rs:283-312. -/
def storeOutputs (turn : LiveTurn) (item : Item) (commandOutput : Option CommandOutputDescriptor)
    (toolOutput : Option ToolOutputDescriptor) : LiveTurn × Item :=
  match item.payload with
  | .commandExecution command description cwd _ outputTruncated outputOriginalBytes
      outputOriginalLines exitCode status processId durationMs =>
    let stored : CommandOutputDescriptor × ItemPayload := match commandOutput with
      | some descriptor => (descriptor,
          .commandExecution command description cwd descriptor.preview outputTruncated
            outputOriginalBytes outputOriginalLines exitCode status processId durationMs)
      | none => (CommandOutputDescriptor.fromDurable "" false 0 0 false,
          .commandExecution command description cwd "" false none none exitCode status processId
            durationMs)
    ({ turn with commandOutputDescriptors :=
        Function.update turn.commandOutputDescriptors item.id (some stored.1) },
      { item with payload := stored.2 })
  | .toolCall name description input _ server status metadata subagent error =>
    let stripped : ItemPayload :=
      .toolCall name description input none server status metadata subagent error
    ({ turn with toolOutputDescriptors :=
        Function.update turn.toolOutputDescriptors item.id toolOutput },
      { item with payload := stripped })
  | _ => (turn, item)

/-- SOURCE: live.rs:273-323. -/
def completeItem (turn : LiveTurn) (thread : ThreadId) (turnId : TurnId) (item : Item)
    (commandOutput : Option CommandOutputDescriptor)
    (toolOutput : Option ToolOutputDescriptor) : LiveTurn :=
  let (turn, item) := turn.storeOutputs item commandOutput toolOutput
  turn.modifyEntry thread turnId item.id fun entry =>
    { entry with completed := some item, text := [], output := [] }

/-- One event of the turn. SOURCE: live.rs:569-596. -/
def appendEvent (turn : LiveTurn) (event : AgentEvent)
    (commandOutput : Option CommandOutputDescriptor)
    (toolOutput : Option ToolOutputDescriptor) : LiveTurn :=
  match event with
  | .turnStarted _ tid => { turn with turnId := tid, turnStarted := some event }
  | .turnUsageUpdated _ _ _ _ _ => { turn with latestUsage := some event }
  | .itemStarted thread tid item => turn.startItem thread tid item
  | .itemDelta thread tid itemId delta =>
    turn.modifyEntry thread tid itemId fun entry => match delta with
      | .text text => entry.pushText text.toList
      | .commandOutput chunk => entry.pushOutput chunk.toList
  | .itemCompleted thread tid item => turn.completeItem thread tid item commandOutput toolOutput
  | event => { turn with entries := turn.entries ++ [.event event] }

/-! ### Positions -/

/-- The item entries with their indices. -/
def indexedItems (turn : LiveTurn) : List (ℕ × LiveItemEntry) :=
  turn.entries.zipIdx.filterMap fun (entry, index) => entry.asItem.map (index, ·)

/-- The index of the `tailItems`-th item entry from the end, or 0 when the turn has no more
items than that. SOURCE: live.rs:173-187. -/
def cut (turn : LiveTurn) (tailItems : ℕ) : ℕ :=
  let items := turn.indexedItems.reverse
  match items[max tailItems 1 - 1]?, items[max tailItems 1]? with
  | some (index, _), some _ => index
  | _, _ => 0

/-- Where paging the omitted items starts: the first completed item at or after the cut, else
the item at the cut. SOURCE: live.rs:189-203. -/
def pageCursor (turn : LiveTurn) (cut : ℕ) : Option ItemId :=
  let tail := (turn.entries.drop cut).filterMap LiveEntry.asItem
  ((tail.find? fun entry => entry.completed.isSome).or tail.head?).map LiveItemEntry.id

/-- The index of the turn's first user message entry. SOURCE: live.rs:205-212. -/
def promptSlot (turn : LiveTurn) : Option ℕ :=
  turn.entries.findIdx? fun entry => entry.asItem.any LiveItemEntry.isUserMessage

/-- Whether an entry at an index rides along in a bounded snapshot, given the server requests
that a later entry resolves. SOURCE: live.rs:227-244. -/
def rides (turn : LiveTurn) (resolvedLater : Finset ServerRequestId) (index : ℕ) :
    LiveEntry → Bool
  | .item entry => !entry.isSettled || decide (turn.promptSlot = some index)
  | .event (.serverRequestResolved _ _ _) => false
  | .event (.serverRequestReceived _ _ request) =>
    decide (request.id ∉ resolvedLater) && decide (request.id ∉ turn.resolvedServerRequests)
  | .event (.approvalRequested _ _ request) => (turn.resolvedApprovals request.id).isNone
  | .event (.diffUpdated _ _ _) => false
  | .event _ => true

/-- The backward walk over the entries from an index on: which of them ride along, and the
server requests they resolve. SOURCE: live.rs:219-250. -/
def ridersFrom (turn : LiveTurn) (index : ℕ) : List LiveEntry → List Bool × Finset ServerRequestId
  | [] => ([], ∅)
  | entry :: entries =>
    let (later, resolvedLater) := turn.ridersFrom (index + 1) entries
    let resolved := match entry with
      | .event (.serverRequestResolved _ _ requestId) => insert requestId resolvedLater
      | _ => resolvedLater
    (turn.rides resolvedLater index entry :: later, resolved)

/-- Which entries before `cut` ride along in a bounded snapshot. SOURCE: live.rs:214-250. -/
def riders (turn : LiveTurn) (cut : ℕ) : List Bool := (turn.ridersFrom 0 turn.entries).1.take cut

/-- Whether the snapshot that cuts at `cut` carries the entry at an index. SOURCE:
live.rs:774. -/
def carries (turn : LiveTurn) (cut index : ℕ) : Bool :=
  !(decide (index < cut) && !(turn.riders cut)[index]?.getD false)

end LiveTurn

/-! ## Expansion to wire events -/

section

variable (crates : Crates)

/-- The latest completion as the browser receives it. SOURCE: live.rs:374-385. -/
def LiveItemEntry.wireCompleted (entry : LiveItemEntry) (turn : LiveTurn) : Option WireItem :=
  entry.completed.map fun item =>
    (WireItem.fromItemWithOutputs crates item (turn.commandOutputDescriptors entry.id)
      (turn.toolOutputDescriptors entry.id)).withReasoningPreview

/-- Start, completion, remaining text, remaining output. SOURCE: live.rs:424-451. -/
def LiveItemEntry.expand (entry : LiveItemEntry) (turn : LiveTurn) : List WireAgentEvent :=
  (entry.startedEvent.bind (WireAgentEvent.fromAgentEvent crates)).toList ++
    ((entry.wireCompleted crates turn).map fun item =>
      .itemCompleted entry.thread entry.turn item).toList ++
    entry.deltas.filterMap fun delta =>
      WireAgentEvent.fromAgentEvent crates
        (.itemDelta entry.thread entry.turn entry.id delta)

/-- SOURCE: live.rs:778-783. -/
def LiveEntry.expand (turn : LiveTurn) : LiveEntry → List WireAgentEvent
  | .item entry => entry.expand crates turn
  | .event other => (WireAgentEvent.fromAgentEvent crates other).toList

end

/-! ## The thread's live turn -/

/-- One page of a live turn's settled items, oldest first. SOURCE: live.rs:463-469. -/
structure LiveItemsPage where
  items : List WireItem
  hasMore : Bool
  deriving DecidableEq

/-- SOURCE: live.rs:471-479. -/
inductive LiveItemsLookup where
  | page (page : LiveItemsPage)
  | unknownCursor
  | notLive
  deriving DecidableEq

/-- SOURCE: live.rs:481-485. -/
structure LiveTurnState where
  threadId : Option ThreadId
  turn : Option LiveTurn

/-- A count as a 32-bit number, at most the largest one. SOURCE: live.rs:789. -/
def saturatingU32 (count : ℕ) : UInt32 :=
  if count < 2 ^ 32 then UInt32.ofNat count else UInt32.ofNat (2 ^ 32 - 1)

namespace LiveTurnState

/-- SOURCE: live.rs:481. -/
def empty : LiveTurnState := ⟨none, none⟩

/-- SOURCE: live.rs:507-515. -/
def replaceTurnWithUserInput (_ : LiveTurnState) (threadId : ThreadId) (turnId : TurnId)
    (userInput : Option UserInput) : LiveTurnState :=
  ⟨some threadId, some (LiveTurn.new turnId userInput)⟩

/-- Ensure an exact turn has a reconnect buffer without replacing events already observed for
it. SOURCE: live.rs:517-540. -/
def ensureTurnWithUserInput (state : LiveTurnState) (threadId : ThreadId) (turnId : TurnId)
    (userInput : Option UserInput) : LiveTurnState × Except TurnId Unit :=
  match state.turn with
  | none => (⟨some threadId, some (LiveTurn.new turnId userInput)⟩, .ok ())
  | some turn =>
    if turn.turnId = turnId then
      if turn.userInput.isNone && userInput.isSome then
        ({ state with turn := some { turn with userInput := userInput } }, .ok ())
      else (state, .ok ())
    else (state, .error turn.turnId)

/-- The live turn of a thread. -/
def turnOf (state : LiveTurnState) (threadId : ThreadId) : Option LiveTurn :=
  if state.threadId = some threadId then state.turn else none

/-- Change the live turn of a thread, if it is this one. -/
def modifyTurn (state : LiveTurnState) (threadId : ThreadId) (change : LiveTurn → LiveTurn) :
    LiveTurnState :=
  if state.threadId = some threadId then { state with turn := state.turn.map change } else state

/-- SOURCE: live.rs:556-597. -/
def appendWithOutputs (state : LiveTurnState) (threadId : ThreadId) (event : AgentEvent)
    (commandOutput : Option CommandOutputDescriptor)
    (toolOutput : Option ToolOutputDescriptor) : LiveTurnState :=
  state.modifyTurn threadId fun turn => turn.appendEvent event commandOutput toolOutput

/-- SOURCE: live.rs:542-544. -/
def append (state : LiveTurnState) (threadId : ThreadId) (event : AgentEvent) : LiveTurnState :=
  state.appendWithOutputs threadId event none none

/-- SOURCE: live.rs:599-613. -/
def resolveApproval (state : LiveTurnState) (threadId : ThreadId) (approvalId : ApprovalId)
    (decision : ApprovalDecision) : LiveTurnState :=
  state.modifyTurn threadId fun turn =>
    { turn with resolvedApprovals := Function.update turn.resolvedApprovals approvalId decision }

/-- SOURCE: live.rs:615-624. -/
def resolveServerRequest (state : LiveTurnState) (threadId : ThreadId)
    (requestId : ServerRequestId) : LiveTurnState :=
  state.modifyTurn threadId fun turn =>
    { turn with resolvedServerRequests := insert requestId turn.resolvedServerRequests }

/-- SOURCE: live.rs:626-631. -/
def clearTurn (state : LiveTurnState) (threadId : ThreadId) : LiveTurnState :=
  if state.threadId = some threadId then empty else state

/-- SOURCE: live.rs:633-635. -/
def isActive (state : LiveTurnState) (threadId : ThreadId) : Bool := (state.turnOf threadId).isSome

/-- Raw lifecycle events of one item, start before completion. SOURCE: live.rs:637-659. -/
def itemEvents (state : LiveTurnState) (threadId : ThreadId) (itemId : ItemId) :
    List AgentEvent :=
  match state.turnOf threadId with
  | none => []
  | some turn => match turn.item itemId with
    | some entry => entry.startedEvent.toList ++ entry.completedEvent.toList
    | none => ((turn.pendingStarts.get? itemId).map fun (thread, turnId, start) =>
        AgentEvent.itemStarted thread turnId start).toList

/-- SOURCE: live.rs:661-685. -/
def liveItem (state : LiveTurnState) (threadId : ThreadId) (turnId : TurnId) (itemId : ItemId) :
    Option LiveItem := do
  let turn ← (state.turnOf threadId).filter fun turn => turn.turnId = turnId
  match turn.item itemId with
  | none => (turn.pendingStarts.get? itemId).map fun (_, _, start) => .started start
  | some entry => match entry.completed with
    | some item => some (.completed item (turn.commandOutputDescriptors itemId)
        (turn.toolOutputDescriptors itemId))
    | none => entry.start.map .started

section

variable (crates : Crates)

/-- The settled items before an index that a page may carry, newest first. SOURCE:
live.rs:712-722. -/
def settledBefore (turn : LiveTurn) (stop : ℕ) : List LiveItemEntry :=
  (turn.indexedItems.filter fun (index, entry) =>
    decide (index < stop) && (entry.isSettled && decide (turn.promptSlot ≠ some index))).reverse.map
      Prod.snd

/-- The `limit` settled items before `before` (or before the end), oldest first. SOURCE:
live.rs:687-734. -/
def itemsPage (state : LiveTurnState) (threadId : ThreadId) (turnId : TurnId)
    (before : Option ItemId) (limit : ℕ) : LiveItemsLookup :=
  match (state.turnOf threadId).filter fun turn => turn.turnId = turnId with
  | none => .notLive
  | some turn =>
    let stop := match before with
      | none => some turn.entries.length
      | some before => match turn.slots before with
        | some slot => if (turn.itemAt slot).isSome then some slot else none
        | none => none
    match stop with
    | none => .unknownCursor
    | some stop =>
      let limit := max limit 1
      let settled := settledBefore turn stop
      .page
        { items := ((settled.take limit).filterMap fun entry =>
            entry.wireCompleted crates turn).reverse
          hasMore := (settled[limit]?).isSome }

/-- The reconnect snapshot of a live turn. SOURCE: live.rs:744-831. -/
def snapshotTurn (threadId : ThreadId) (turn : LiveTurn) (tailItems : ℕ) : LiveTurnSnapshot :=
  let answeredApprovals := turn.events.filterMap fun
    | .approvalRequested _ _ request =>
      (turn.resolvedApprovals request.id).map fun decision => ⟨request.id, decision⟩
    | _ => none
  let cut := turn.cut tailItems
  let carried := turn.entries.zipIdx.filter fun (_, index) => turn.carries cut index
  let left := turn.entries.zipIdx.filter fun (_, index) => !turn.carries cut index
  let omittedCount := left.countP fun (entry, _) => entry.asItem.isSome
  let omitted :=
    if 0 < omittedCount then
      (turn.pageCursor cut).map fun before => ⟨saturatingU32 omittedCount, before⟩
    else none
  let answeredServerRequests := turn.events.filterMap fun
    | .serverRequestReceived _ _ request =>
      if request.id ∈ turn.resolvedServerRequests then some request.id else none
    | _ => none
  { threadId := threadId
    turnId := turn.turnId
    userInput := turn.userInput
    accumulated :=
      (turn.turnStarted.bind (WireAgentEvent.fromAgentEvent crates)).toList ++
        carried.flatMap (fun (entry, _) => entry.expand crates turn) ++
        turn.pendingStarts.values.filterMap (fun (thread, turnId, start) =>
          WireAgentEvent.fromAgentEvent crates (.itemStarted thread turnId start)) ++
        (turn.latestUsage.bind (WireAgentEvent.fromAgentEvent crates)).toList
    answeredApprovals := answeredApprovals
    answeredServerRequests := answeredServerRequests
    omitted := omitted }

/-- SOURCE: live.rs:736-832. -/
def snapshot (state : LiveTurnState) (threadId : ThreadId) (tailItems : ℕ) :
    Option LiveTurnSnapshot :=
  (state.turnOf threadId).map fun turn => snapshotTurn crates threadId turn tailItems

end

/-! ### Runs -/

/-- The operations that change a thread's live turn. -/
inductive Op where
  | replaceTurn (threadId : ThreadId) (turnId : TurnId) (userInput : Option UserInput)
  | ensureTurn (threadId : ThreadId) (turnId : TurnId) (userInput : Option UserInput)
  | append (threadId : ThreadId) (event : AgentEvent)
      (commandOutput : Option CommandOutputDescriptor) (toolOutput : Option ToolOutputDescriptor)
  | resolveApproval (threadId : ThreadId) (approvalId : ApprovalId) (decision : ApprovalDecision)
  | resolveServerRequest (threadId : ThreadId) (requestId : ServerRequestId)
  | clearTurn (threadId : ThreadId)

/-- One operation. -/
def apply (state : LiveTurnState) : Op → LiveTurnState
  | .replaceTurn threadId turnId userInput =>
    state.replaceTurnWithUserInput threadId turnId userInput
  | .ensureTurn threadId turnId userInput =>
    (state.ensureTurnWithUserInput threadId turnId userInput).1
  | .append threadId event commandOutput toolOutput =>
    state.appendWithOutputs threadId event commandOutput toolOutput
  | .resolveApproval threadId approvalId decision =>
    state.resolveApproval threadId approvalId decision
  | .resolveServerRequest threadId requestId => state.resolveServerRequest threadId requestId
  | .clearTurn threadId => state.clearTurn threadId

/-- A run of operations from the empty state. -/
def run (ops : List Op) : LiveTurnState := ops.foldl apply empty

end LiveTurnState

end Giskard
