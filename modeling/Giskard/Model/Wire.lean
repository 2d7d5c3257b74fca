import Mathlib
import Giskard.Model.Core
import Giskard.Model.CommandOutput

/-!
# The wire mirror of the event tree

What a browser is sent: the core types with native routing identifiers removed, command
output reduced to a descriptor, tool output to a digest, and long reasoning notes to a
preview.

SOURCE: crates/giskard-proto/src/wire.rs, crates/giskard-proto/src/lib.rs:226-278.
-/

set_option autoImplicit false

namespace Giskard

open Foundation

/-- Bounded projection of an opaque completed tool result. SOURCE: item.rs:261-267. -/
structure ToolOutputDescriptor where
  serializedBytes : UInt64
  version : String
  deriving DecidableEq

/-- SOURCE: wire.rs:116-122. -/
structure WireHarnessError where
  code : String
  message : String
  detail : Option String
  deriving DecidableEq

/-- SOURCE: wire.rs:141-145. -/
structure WireTextPreview where
  prefixBytes : UInt64
  totalBytes : UInt64
  totalLines : UInt64
  deriving DecidableEq

/-- SOURCE: wire.rs:183-196. -/
structure WireSubagentLink where
  path : Option String
  initialPrompt : Option String
  action : SubagentAction
  status : Option SubagentStatus
  message : Option String
  deriving DecidableEq

/-- SOURCE: wire.rs:165-181. -/
structure WireToolCallStart where
  name : String
  description : Option String
  input : Json
  server : Option String
  status : Option String
  metadata : Option Json
  subagent : Option WireSubagentLink
  startedAtMs : Option Int64
  deriving DecidableEq

/-- SOURCE: wire.rs:153-163. -/
structure WireItemStart where
  id : ItemId
  harnessItemId : String
  kind : ItemKind
  command : Option CommandExecutionStart
  tool : Option WireToolCallStart
  deriving DecidableEq

/-- Bounded wire projection of captured diff content; also the wire form of a file diff.
SOURCE: wire.rs:273-290. -/
structure WireCapturedDiffDescriptor where
  id : DiffId
  path : String
  change : FileChangeKind
  contentKind : DiffContentKind
  available : Bool
  byteSize : UInt64
  additions : UInt64
  deletions : UInt64
  binary : Bool
  itemId : Option ItemId
  deriving DecidableEq

/-- SOURCE: wire.rs:265-271. -/
structure WireFileChangeEntry where
  path : String
  change : FileChangeKind
  diff : Option WireCapturedDiffDescriptor
  deriving DecidableEq

/-- SOURCE: wire.rs:198-263. -/
inductive WireItemPayload where
  | userMessage (text : String)
  | agentMessage (text : String)
  | reasoning (text : String) (preview : Option WireTextPreview)
  | commandExecution (command : String) (description : Option String) (cwd : String)
      (output : CommandOutputDescriptor) (exitCode : Option Int32) (status : Option String)
      (processId : Option String) (durationMs : Option Int64)
  | fileChange (path : String) (change : FileChangeKind) (changes : List WireFileChangeEntry)
      (status : Option String)
  | toolCall (name : String) (description : Option String) (input : Json)
      (output : Option ToolOutputDescriptor) (server : Option String) (status : Option String)
      (metadata : Option Json) (subagent : Option WireSubagentLink) (error : Option String)
  | activity (title : String) (detail : Option String) (metadata : Option Json)
      (subagent : Option WireSubagentLink)
  deriving DecidableEq

/-- SOURCE: wire.rs:124-131. -/
structure WireItem where
  id : ItemId
  harnessItemId : String
  payload : WireItemPayload
  createdAt : DateTime
  deriving DecidableEq

/-- An approval request keeps its shape on the wire: only its paths are narrowed to text.
SOURCE: wire.rs:292-349. -/
structure WireApprovalRequest where
  id : ApprovalId
  kind : ApprovalKind
  reason : Option String
  metadata : List ApprovalMetadata
  available : List ApprovalDecision
  deriving DecidableEq

/-- SOURCE: wire.rs:34-114. -/
inductive WireAgentEvent where
  | goalsQueueChanged (thread : ThreadId)
  | threadOpened (thread : ThreadId) (harnessThreadId : String)
  | turnStarted (thread : ThreadId) (turn : TurnId) (userInput : Option UserInput)
  | turnUsageUpdated (thread : ThreadId) (turn : TurnId) (usage : TokenUsage)
      (contextWindow : Option UInt32)
  | itemStarted (thread : ThreadId) (turn : TurnId) (item : WireItemStart)
  | itemDelta (thread : ThreadId) (turn : TurnId) (itemId : ItemId) (delta : ItemDelta)
  | itemCompleted (thread : ThreadId) (turn : TurnId) (item : WireItem)
  | diffUpdated (thread : ThreadId) (turn : TurnId) (diff : WireCapturedDiffDescriptor)
  | approvalRequested (thread : ThreadId) (turn : TurnId) (request : WireApprovalRequest)
  | serverRequestReceived (thread : ThreadId) (turn : Option TurnId) (request : ServerRequest)
  | serverRequestResolved (thread : ThreadId) (turn : Option TurnId)
      (requestId : ServerRequestId)
  | turnCompleted (thread : ThreadId) (turn : TurnId) (usage : TokenUsage)
      (status : TurnStatus)
  | error (thread : ThreadId) (turn : Option TurnId) (error : WireHarnessError)
  | notice (thread : ThreadId) (turn : Option TurnId) (message : String)
  deriving DecidableEq

/-! ## Core to wire -/

section

variable (crates : Crates)

/-- The text of a harness error. SOURCE: error.rs:9-32. -/
def HarnessError.toString : HarnessError → String
  | .spawn detail => "failed to start/locate harness binary: " ++ detail
  | .notInitialized => "harness used before handshake completed"
  | .unauthenticated => "harness reports missing/invalid credentials"
  | .transport detail => "transport error: " ++ detail
  | .protocol detail => "protocol error: " ++ detail
  | .overloaded => "harness overloaded after retries exhausted"
  | .unsupported detail => "capability not offered: " ++ detail
  | .threadNotFound thread => "thread not found: " ++ crates.ulid.print thread.ulid
  | .threadBusy thread => "thread already has an active turn: " ++ crates.ulid.print thread.ulid
  | .threadReadOnly thread => "thread is read-only: " ++ crates.ulid.print thread.ulid
  | .timeout detail => "operation timed out: " ++ detail

/-- SOURCE: wire.rs:472-485. -/
def HarnessError.code : HarnessError → String
  | .spawn _ => "harness_spawn_failed"
  | .notInitialized => "harness_not_initialized"
  | .unauthenticated => "harness_unauthenticated"
  | .transport _ => "harness_transport_error"
  | .protocol _ => "harness_protocol_error"
  | .overloaded => "harness_overloaded"
  | .unsupported _ => "harness_unsupported"
  | .threadNotFound _ => "thread_not_open"
  | .threadBusy _ => "thread_turn_active"
  | .threadReadOnly _ => "thread_read_only"
  | .timeout _ => "harness_timeout"

/-- SOURCE: wire.rs:471-490. -/
def HarnessError.toWire (error : HarnessError) : WireHarnessError :=
  { code := error.code, message := error.toString crates, detail := none }

/-- SOURCE: wire.rs:643-651. -/
def SubagentLink.toWire (link : SubagentLink) : WireSubagentLink :=
  { path := link.path
    initialPrompt := link.initialPrompt
    action := link.action
    status := link.status
    message := link.message }

/-- SOURCE: wire.rs:617-639. -/
def ToolCallStart.toWire (tool : ToolCallStart) : WireToolCallStart :=
  { name := tool.name
    description := tool.description
    input := tool.input
    server := tool.server
    status := tool.status
    metadata := tool.metadata
    subagent := tool.subagent.map SubagentLink.toWire
    startedAtMs := tool.startedAtMs }

/-- SOURCE: wire.rs:598-613. -/
def ItemStart.toWire (item : ItemStart) : WireItemStart :=
  { id := item.id
    harnessItemId := item.harnessItemId
    kind := item.kind
    command := item.command
    tool := item.tool.map ToolCallStart.toWire }

/-- SOURCE: wire.rs:774-787. -/
def CapturedDiffDescriptor.toWire (d : CapturedDiffDescriptor) : WireCapturedDiffDescriptor :=
  { id := d.id
    path := d.path
    change := d.change
    contentKind := d.contentKind
    available := d.available
    byteSize := d.byteSize
    additions := d.additions
    deletions := d.deletions
    binary := d.binary
    itemId := d.itemId }

/-- SOURCE: wire.rs:764-770. -/
def FileChangeEntry.toWire (entry : FileChangeEntry) : WireFileChangeEntry :=
  { path := entry.path
    change := entry.change
    diff := entry.capturedDiff.map CapturedDiffDescriptor.toWire }

/-- SOURCE: wire.rs:791-804. -/
def FileDiff.toWire (d : FileDiff) : WireCapturedDiffDescriptor :=
  match d.captured with
  | some captured => captured.toWire
  | none =>
    { id := ⟨"unavailable"⟩
      path := d.path
      change := d.change
      contentKind := .structured
      available := false
      byteSize := 0
      additions := 0
      deletions := 0
      binary := d.binary
      itemId := none }

/-- SOURCE: wire.rs:808-816. -/
def ApprovalRequest.toWire (r : ApprovalRequest) : WireApprovalRequest :=
  { id := r.id
    kind := r.kind
    reason := r.reason
    metadata := r.metadata
    available := r.available }

/-- The descriptor of a tool result's compact JSON. SOURCE: item.rs:269-283. -/
def serializeToolOutput (output : Json) : ToolOutputDescriptor :=
  let bytes := output.print.flatMap String.utf8EncodeChar
  let domain := ("giskard.tool-output.v1".toList ++ [Char.ofNat 0]).flatMap String.utf8EncodeChar
  { serializedBytes := UInt64.ofNat bytes.length
    version := "\"sha256_" ++ crates.sha256Hex (domain ++ bytes) ++ "\"" }

/-- SOURCE: wire.rs:655-760. -/
def ItemPayload.toWire : ItemPayload → WireItemPayload
  | .userMessage text => .userMessage text
  | .agentMessage text => .agentMessage text
  | .reasoning text => .reasoning text none
  | .commandExecution command description cwd output outputTruncated outputOriginalBytes
      outputOriginalLines exitCode status processId durationMs =>
    let outputAvailable := status.all fun value => !commandStatusIsRunning value
    let counts := resolveCommandOutputCounts output outputTruncated outputOriginalBytes
      outputOriginalLines
    .commandExecution command description cwd
      (CommandOutputDescriptor.fromDurable output outputTruncated counts.1 counts.2
        outputAvailable)
      exitCode status processId durationMs
  | .fileChange path change changes status =>
    .fileChange path change (changes.map FileChangeEntry.toWire) status
  | .toolCall name description input output server status metadata subagent error =>
    let terminal := status.all fun value => !toolStatusIsRunning value
    let output := output.bind fun value =>
      if terminal then some (serializeToolOutput crates value) else none
    .toolCall name description input output server status metadata
      (subagent.map SubagentLink.toWire) error
  | .activity title detail metadata subagent =>
    .activity title detail metadata (subagent.map SubagentLink.toWire)

/-- SOURCE: wire.rs:494-501. -/
def Item.toWire (item : Item) : WireItem :=
  { id := item.id
    harnessItemId := item.harnessItemId
    payload := item.payload.toWire crates
    createdAt := item.createdAt }

/-- Bytes of reasoning text a completed turn carries eagerly. SOURCE: item.rs:383-384. -/
def reasoningPreviewMaxBytes : ℕ := 1024

/-- Cut a reasoning note's text to its head and describe the whole note. SOURCE:
wire.rs:509-528. -/
def WireItem.withReasoningPreview (item : WireItem) : WireItem :=
  match item.payload with
  | .reasoning text _ =>
    let cut := reasoningHeadPreview text.toList reasoningPreviewMaxBytes
    if cut.2 then
      { item with payload := .reasoning (String.ofList cut.1) (some
          { prefixBytes := UInt64.ofNat (byteLen cut.1)
            totalBytes := UInt64.ofNat (byteLen text.toList)
            totalLines := UInt64.ofNat (commandOutputLogicalLines text.toList) }) }
    else item
  | _ => item

/-- SOURCE: wire.rs:505-507. -/
def WireItem.fromPersistedItem (item : Item) : WireItem :=
  (item.toWire crates).withReasoningPreview

/-- SOURCE: wire.rs:530-542. -/
def WireItem.fromItemWithCommandOutput (item : Item)
    (commandOutput : Option CommandOutputDescriptor) : WireItem :=
  let wire := item.toWire crates
  match commandOutput, wire.payload with
  | some output, .commandExecution command description cwd _ exitCode status processId
      durationMs =>
    { wire with payload :=
        .commandExecution command description cwd output exitCode status processId durationMs }
  | _, _ => wire

/-- Convert an item with descriptors prepared before browser publication. SOURCE:
wire.rs:544-594. -/
def WireItem.fromItemWithOutputs (item : Item)
    (commandOutput : Option CommandOutputDescriptor)
    (toolOutput : Option ToolOutputDescriptor) : WireItem :=
  match item.payload with
  | .toolCall name description input _ server status metadata subagent error =>
    { id := item.id
      harnessItemId := item.harnessItemId
      payload := .toolCall name description input toolOutput server status metadata
        (subagent.map SubagentLink.toWire) error
      createdAt := item.createdAt }
  | _ => WireItem.fromItemWithCommandOutput crates item commandOutput

/-- Convert a harness event that belongs on the browser's transcript stream. SOURCE:
wire.rs:354-467. -/
def WireAgentEvent.fromAgentEvent : AgentEvent → Option WireAgentEvent
  | .goalsQueueChanged thread => some (.goalsQueueChanged thread)
  | .threadOpened thread harnessThreadId => some (.threadOpened thread harnessThreadId)
  | .turnStarted thread turn => some (.turnStarted thread turn none)
  | .turnUsageUpdated thread turn usage contextWindow _ =>
    some (.turnUsageUpdated thread turn usage contextWindow)
  | .itemStarted thread turn item => some (.itemStarted thread turn item.toWire)
  | .itemDelta thread turn itemId delta => some (.itemDelta thread turn itemId delta)
  | .itemCompleted thread turn item => some (.itemCompleted thread turn (item.toWire crates))
  | .diffUpdated thread turn diff => some (.diffUpdated thread turn diff.toWire)
  | .approvalRequested thread turn request =>
    some (.approvalRequested thread turn request.toWire)
  | .serverRequestReceived thread turn request =>
    some (.serverRequestReceived thread turn request)
  | .serverRequestResolved thread turn requestId =>
    some (.serverRequestResolved thread turn requestId)
  | .turnCompleted thread turn usage status => some (.turnCompleted thread turn usage status)
  | .error thread turn failure => some (.error thread turn (failure.toWire crates))
  | .notice thread turn message => some (.notice thread turn message)

end

/-! ## The reconnect snapshot -/

/-- An approval the user resolved during an in-flight turn. SOURCE: lib.rs:272-277. -/
structure AnsweredApproval where
  requestId : ApprovalId
  decision : ApprovalDecision
  deriving DecidableEq

/-- The settled items a bounded snapshot left out. SOURCE: lib.rs:262-270. -/
structure OmittedItems where
  count : UInt32
  before : ItemId
  deriving DecidableEq

/-- SOURCE: lib.rs:228-260. -/
structure LiveTurnSnapshot where
  threadId : ThreadId
  turnId : TurnId
  userInput : Option UserInput
  accumulated : List WireAgentEvent
  answeredApprovals : List AnsweredApproval
  answeredServerRequests : List ServerRequestId
  omitted : Option OmittedItems
  deriving DecidableEq

end Giskard
