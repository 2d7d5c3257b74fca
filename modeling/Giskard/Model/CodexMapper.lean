import Mathlib
import Giskard.Foundation.Fallible
import Giskard.Model.CodexTransport
import Giskard.Model.CommandOutput
import Giskard.Model.ForwardedTurn
import Giskard.Model.NativeParents

/-!
# The mapper of a Codex worker

The mapper turns what the app-server says into events. It owns the native thread routes, the ids
that native turns and items stand for, what is known of a turn before its completion, and the
requests that wait for an answer. A message that names an unknown native thread is not mapped; the
mapper is then as it was left when that showed.

Items, diffs, statuses, error texts and approval cards are conversions of the message alone, and a
message has them converted; only the preview of a file change is looked up. New ids are drawn from
a sequence. The maps are in insertion order.

SOURCE: crates/giskard-harness-codex/src/mapping.rs.
-/

set_option autoImplicit false

namespace Giskard.Codex

open Foundation (IndexMap Json Fallible)

/-- SOURCE: native_ids.rs:78-125. -/
structure NativeTurnKey where
  threadId : ThreadId
  nativeTurnId : String
  deriving DecidableEq

structure NativeItemKey where
  threadId : ThreadId
  turnId : TurnId
  nativeItemId : String
  deriving DecidableEq

structure NativeProcessKey where
  threadId : ThreadId
  nativeProcessId : String
  deriving DecidableEq

/-- SOURCE: mapping.rs:63-74. -/
structure NativeTurnState where
  usage : TokenUsage
  emittedUsage : Option (TokenUsage × Option UInt32)
  model : Option ModelRef
  invalidWindowWarned : Bool
  deriving DecidableEq

/-- Nothing was counted. -/
def noUsage : TokenUsage := ⟨0, 0, 0⟩

def NativeTurnState.default : NativeTurnState := ⟨noUsage, none, none, false⟩

/-! ## Requests -/

/-- How an MCP tool approval was asked for. SOURCE: mapping.rs:1664-1673. -/
inductive McpToolApprovalTransport where
  | requestUserInput
  | elicitation
  deriving DecidableEq

/-- SOURCE: mapping.rs:2348-2361. -/
structure McpToolApprovalDetected where
  server : String
  toolName : String
  message : String
  allowSessionRemember : Bool
  questionId : Option String
  deriving DecidableEq

/-- SOURCE: mapping.rs:1644-1662. -/
inductive PendingApprovalResponseKind where
  | decision
  | permissions (permissions : Json)
  | legacyReviewDecision
  | mcpToolCall (transport : McpToolApprovalTransport) (questionId : Option String)
  deriving DecidableEq

/-- SOURCE: mapping.rs:1637-1642. -/
structure PendingApprovalResponse where
  requestId : RequestId
  thread : ThreadId
  turn : TurnId
  kind : PendingApprovalResponseKind
  deriving DecidableEq

/-- SOURCE: mapping.rs:1594-1599. -/
structure PendingServerRequest where
  requestId : RequestId
  thread : ThreadId
  turn : Option TurnId
  deriving DecidableEq

/-- The requests of the app-server. SOURCE: mapping.rs:1024-1331. -/
inductive ServerRequestBody where
  | cmdExecApproval (threadId turnId : String) (kind : ApprovalKind) (reason : Option String)
      (metadata : List ApprovalMetadata)
  | fileChangeApproval (threadId turnId itemId : String) (reason : Option String)
      (metadata : List FileChangeEntry → List ApprovalMetadata)
  | permissionsRequestApproval (threadId turnId : String) (permissions : Json) (detail : String)
      (reason : Option String) (metadata : List ApprovalMetadata)
  | execCommandApproval (conversationId : String) (kind : ApprovalKind) (reason : Option String)
      (metadata : List ApprovalMetadata)
  | applyPatchApproval (conversationId : String) (kind : ApprovalKind) (reason : Option String)
      (metadata : List ApprovalMetadata)
  | toolRequestUserInput (threadId turnId : String) (detected : Option McpToolApprovalDetected)
  | mcpServerElicitationRequest («meta» : Option Json) (detected : Option McpToolApprovalDetected)
  | itemToolCall (threadId turnId : String)
  | chatgptAuthTokensRefresh
  | attestationGenerate
  | unknown (params : Option Json)

/-- A request with its method and its parameters as they are shown. -/
structure CodexServerRequest where
  method : String
  params : Json
  body : ServerRequestBody

/-! ## Notifications -/

/-- An item that starts, and the changes of a file-change item. -/
structure StartedItem where
  harnessItemId : String
  kind : ItemKind
  command : Option CommandExecutionStart
  tool : Option ToolCallStart
  changes : Option (List FileChangeEntry)

/-- An item that completes. -/
structure CompletedItem where
  harnessItemId : String
  payload : ItemPayload
  createdAt : DateTime

/-- A piece of an item's text. -/
structure TextDelta where
  threadId : String
  turnId : String
  itemId : String
  text : String

/-- SOURCE: mapping.rs:444-850. -/
inductive Notification where
  | turnStarted (threadId turnId : String)
  | turnCompleted (threadId turnId : String) (status : TurnStatus)
  | threadTokenUsageUpdated (threadId turnId : String) (last : TokenUsage)
      (modelContextWindow : Option ℤ)
  | itemStarted (threadId turnId : String) (item : StartedItem)
  | itemCompleted (threadId turnId : String) (item : CompletedItem)
  | agentMessageDelta (delta : TextDelta)
  | cmdOutputDelta (delta : TextDelta)
  | fileChangeOutputDelta (delta : TextDelta)
  | fileChangePatchUpdated (summary : TextDelta) (changes : List FileChangeEntry)
  | reasoningDelta (delta : TextDelta)
  | reasoningTextDelta (delta : TextDelta)
  | planDelta (delta : TextDelta)
  | mcpToolCallProgress (delta : TextDelta)
  | reasoningSummaryPartAdded (threadId turnId itemId : String)
  | turnDiffUpdated (threadId turnId : String) (diff : FileDiff)
  | error (threadId turnId : String) (willRetry : Bool) (message : String)
  | turnPlanUpdated (threadId turnId : String) (detail : String) («meta» : Option Json)
  | modelRerouted (threadId turnId fromModel toModel : String) («meta» : Option Json)
  | serverRequestResolved (threadId : String) (requestId : RequestId)
  | threadClosed (threadId : String)
  | threadGoalUpdated (threadId : String)
  | threadGoalCleared (threadId : String)
  | threadQueueChanged (threadId : String)
  | warning (threadId : Option String) (message : String)
  | configWarning (summary : String) (details : Option String)
  | guardianWarning (threadId : String) (message : String)
  | deprecationNotice (summary : String) (details : Option String)
  | other (method : String)

/-- The message of an error that ends its turn. SOURCE: mapping.rs:3288-3293. -/
def fatalTurnError : Notification → Option String
  | .error _ _ willRetry message => if willRetry then none else some message
  | _ => none

/-! ## The mapper -/

/-- SOURCE: mapping.rs:94-160. -/
structure CodexMapper where
  routes : NativeThreadRoutes
  nativeParents : IndexMap NativeThreadId NativeThreadId
  turnIds : IndexMap NativeTurnKey TurnId
  itemIds : IndexMap NativeItemKey ItemId
  turns : IndexMap NativeTurnKey NativeTurnState
  activeTurns : IndexMap ThreadId String
  runningCommandTurns : IndexMap NativeProcessKey String
  runningCommands : List NativeItemKey
  fileChangePreviews : IndexMap NativeItemKey (List FileChangeEntry)
  pendingApprovalResponses : IndexMap ApprovalId PendingApprovalResponse
  pendingServerRequests : IndexMap ServerRequestId PendingServerRequest
  minted : ℕ

/-- What the mapper takes from outside: the new ULIDs, the clock, and its crates. -/
structure MapperEnv where
  ulid : ℕ → Ulid
  now : DateTime
  crates : Crates

abbrev Mapping (α : Type) := Fallible CodexMapper NativeThreadId α

namespace CodexMapper

/-- SOURCE: mapping.rs:163-178. -/
def new : CodexMapper :=
  ⟨.default, .empty, .empty, .empty, .empty, .empty, .empty, [], .empty, .empty, .empty, 0⟩

/-- SOURCE: mapping.rs:189-191. -/
def activeNativeTurnForThread (mapper : CodexMapper) (thread : ThreadId) : Option String :=
  mapper.activeTurns.get? thread

/-- The new id that is drawn next. -/
def nextUlid (env : MapperEnv) (mapper : CodexMapper) : Ulid × CodexMapper :=
  (env.ulid mapper.minted, { mapper with minted := mapper.minted + 1 })

/-- SOURCE: mapping.rs:218-223. -/
def clearActiveTurn (thread : ThreadId) (mapper : CodexMapper) : CodexMapper :=
  { mapper with
    activeTurns := mapper.activeTurns.shiftRemove thread
    turns := mapper.turns.retain fun key _ => key.threadId ≠ thread
    fileChangePreviews := mapper.fileChangePreviews.retain fun key _ => key.threadId ≠ thread }

/-- SOURCE: mapping.rs:229-239. -/
def clearActiveTurnIfMatches (thread : ThreadId) (completed : TurnId) (mapper : CodexMapper) :
    CodexMapper :=
  match (mapper.activeTurns.get? thread).bind fun native => mapper.turnIds.get? ⟨thread, native⟩ with
  | some turn => if turn = completed then mapper.clearActiveTurn thread else mapper
  | none => mapper

/-- SOURCE: mapping.rs:339-360. -/
def trackNativeParentage (parent child : String) (mapper : CodexMapper) : CodexMapper :=
  { mapper with
    nativeParents :=
      (NativeParentage.mk mapper.routes mapper.nativeParents).trackNativeParentage parent child
        |>.nativeParents }

/-- SOURCE: mapping.rs:363-368. -/
def nativeParent (mapper : CodexMapper) (harnessThreadId : String) : Option String :=
  (NativeParentage.mk mapper.routes mapper.nativeParents).nativeParent harnessThreadId

end CodexMapper

open CodexMapper

section Ids

variable (env : MapperEnv)

/-- A new id. -/
def mint : Mapping Ulid := fun mapper => ((mapper.nextUlid env).1 |> .ok, (mapper.nextUlid env).2)

/-- SOURCE: mapping.rs:383-385. -/
def resolveThread (native : String) (fallback : ThreadId) : Mapping ThreadId :=
  Fallible.check fun mapper => mapper.routes.resolve native fallback

/-- SOURCE: mapping.rs:388-399. -/
def resolveTurn (thread : ThreadId) (native : String) : Mapping TurnId := do
  if native = "" then return ⟨← mint env⟩
  match ← Fallible.get fun mapper => mapper.turnIds.get? ⟨thread, native⟩ with
  | some turn => return turn
  | none =>
    let turn : TurnId := ⟨← mint env⟩
    Fallible.modify fun mapper =>
      { mapper with turnIds := mapper.turnIds.insert ⟨thread, native⟩ turn }
    return turn

/-- SOURCE: mapping.rs:402-414. -/
def resolveItem (thread : ThreadId) (turn : TurnId) (native : String) : Mapping ItemId := do
  if native = "" then return ⟨← mint env⟩
  match ← Fallible.get fun mapper => mapper.itemIds.get? ⟨thread, turn, native⟩ with
  | some item => return item
  | none =>
    let item : ItemId := ⟨← mint env⟩
    Fallible.modify fun mapper =>
      { mapper with itemIds := mapper.itemIds.insert ⟨thread, turn, native⟩ item }
    return item

/-- SOURCE: mapping.rs:273-276. -/
def activeTurnForThread (thread : ThreadId) : Mapping (Option TurnId) := do
  match ← Fallible.get fun mapper => mapper.activeTurns.get? thread with
  | none => return none
  | some native => return some (← resolveTurn env thread native)

/-- SOURCE: mapping.rs:278-284. -/
def explicitOrActiveTurn (thread : ThreadId) (explicit : Option TurnId) :
    Mapping (Option TurnId) :=
  match explicit with
  | some turn => return some turn
  | none => activeTurnForThread env thread

/-- A turn id that is there unless its native id is empty. -/
def turnOf (thread : ThreadId) (native : String) : Mapping (Option TurnId) := do
  if native = "" then return none
  return some (← resolveTurn env thread native)

/-- SOURCE: mapping.rs:246-258. -/
def registerActiveTurn (thread : ThreadId) (nativeTurnId : String) : Mapping (Option TurnId) := do
  let native := (NativeThreadId.trimmed nativeTurnId).text
  if native = "" then return none
  Fallible.modify fun mapper =>
    { mapper with activeTurns := mapper.activeTurns.insert thread native }
  return some (← resolveTurn env thread native)

/-- SOURCE: mapping.rs:260-271. -/
def registerActiveTurnWithModel (thread : ThreadId) (nativeTurnId : String) (model : ModelRef) :
    Mapping (Option TurnId) := do
  match ← registerActiveTurn env thread nativeTurnId with
  | none => return none
  | some turn =>
    let key : NativeTurnKey := ⟨thread, (NativeThreadId.trimmed nativeTurnId).text⟩
    Fallible.modify fun mapper =>
      { mapper with
        turns := mapper.turns.insert key
          { (mapper.turns.get? key).getD .default with model := some model } }
    return some turn

end Ids

/-! ## Mapping notifications -/

section Notifications

variable (env : MapperEnv)

/-- SOURCE: mapping.rs:855-892. -/
def trackCommandStart (harnessItemId : String) (command : Option CommandExecutionStart)
    (thread : ThreadId) (turn : TurnId) (nativeTurnId : String) (mapper : CodexMapper) :
    CodexMapper :=
  match command with
  | none => mapper
  | some command =>
    if command.status.all commandStatusIsRunning then
      let mapper := { mapper with
        runningCommands := mapper.runningCommands.insert ⟨thread, turn, harnessItemId⟩ }
      let turnId :=
        (if nativeTurnId = "" then mapper.activeTurns.get? thread else some nativeTurnId).filter
          fun turnId => turnId ≠ ""
      match command.processId, turnId with
      | some processId, some turnId =>
        { mapper with
          runningCommandTurns := mapper.runningCommandTurns.insert ⟨thread, processId⟩ turnId }
      | _, _ => mapper
    else mapper

/-- SOURCE: mapping.rs:894-938. -/
def trackCompletedItem (harnessItemId : String) (payload : ItemPayload) (thread : ThreadId)
    (turn : TurnId) (nativeTurnId : String) (mapper : CodexMapper) : CodexMapper :=
  match payload with
  | .commandExecution _ _ _ _ _ _ _ _ status processId _ =>
    if status.any commandStatusIsRunning then
      let mapper := { mapper with
        runningCommands := mapper.runningCommands.insert ⟨thread, turn, harnessItemId⟩ }
      match processId with
      | some processId =>
        if nativeTurnId = "" then mapper
        else { mapper with
          runningCommandTurns :=
            mapper.runningCommandTurns.insert ⟨thread, processId⟩ nativeTurnId }
      | none => mapper
    else
      let mapper := { mapper with
        runningCommands := mapper.runningCommands.erase ⟨thread, turn, harnessItemId⟩ }
      match processId with
      | some processId =>
        { mapper with
          runningCommandTurns := mapper.runningCommandTurns.shiftRemove ⟨thread, processId⟩ }
      | none => mapper
  | _ => mapper

/-- SOURCE: mapping.rs:940-961. -/
def mapTextDelta (delta : TextDelta) (fallback : ThreadId) : Mapping (Option AgentEvent) := do
  if delta.text = "" then return none
  let thread ← resolveThread delta.threadId fallback
  let turn ← resolveTurn env thread delta.turnId
  return some (.itemDelta thread turn (← resolveItem env thread turn delta.itemId)
    (.text delta.text))

/-- SOURCE: mapping.rs:963-989. -/
def activityEvent (thread : ThreadId) (turn : TurnId) (harnessItemId title detail : String)
    («meta» : Option Json) : Mapping AgentEvent := do
  let id ← resolveItem env thread turn harnessItemId
  let detail := if trimText detail.toList = [] then none else some detail
  return .itemCompleted thread turn
    ⟨id, harnessItemId, .activity title detail «meta» none, env.now⟩

/-- A context window that is a positive `u32`. SOURCE: mapping.rs:505-534. -/
def validWindow (window : ℤ) : Option UInt32 :=
  if 0 < window ∧ window < 2 ^ 32 then some (UInt32.ofNat window.toNat) else none

/-- The state of a turn after a usage update, and whether the update is news. SOURCE:
mapping.rs:500-540. -/
def NativeTurnState.update (turn : NativeTurnState) (usage : TokenUsage) (window : Option ℤ) :
    NativeTurnState × Bool :=
  let contextWindow := window.bind validWindow
  let warned := match window with
    | none => turn.invalidWindowWarned
    | some _ => contextWindow.isNone
  let news := turn.emittedUsage ≠ some (usage, contextWindow)
  ({ turn with
      usage := usage
      invalidWindowWarned := warned
      emittedUsage := some (usage, contextWindow) }, news)

/-- SOURCE: mapping.rs:480-550. -/
def mapTokenUsage (threadId turnId : String) (last : TokenUsage) (window : Option ℤ)
    (fallback : ThreadId) : Mapping (Option AgentEvent) := do
  let thread ← resolveThread threadId fallback
  if turnId = "" then return none
  if (← Fallible.get fun mapper => mapper.activeTurns.get? thread) ≠ some turnId then return none
  let key : NativeTurnKey := ⟨thread, turnId⟩
  let (turn, news) ← Fallible.get fun mapper =>
    ((mapper.turns.get? key).getD .default).update last window
  Fallible.modify fun mapper => { mapper with turns := mapper.turns.insert key turn }
  if news then
    return some (.turnUsageUpdated thread (← resolveTurn env thread turnId) last
      (window.bind validWindow) turn.model)
  else return none

/-- SOURCE: mapping.rs:454-478. -/
def mapTurnCompleted (threadId turnId : String) (status : TurnStatus) (fallback : ThreadId) :
    Mapping (Option AgentEvent) := do
  let thread ← resolveThread threadId fallback
  Fallible.modify fun mapper =>
    if mapper.activeTurns.get? thread = some turnId then
      { mapper with activeTurns := mapper.activeTurns.shiftRemove thread }
    else mapper
  let usage ← Fallible.get fun mapper =>
    ((mapper.turns.get? ⟨thread, turnId⟩).map NativeTurnState.usage).getD noUsage
  Fallible.modify fun mapper => { mapper with turns := mapper.turns.shiftRemove ⟨thread, turnId⟩ }
  let turn ← resolveTurn env thread turnId
  Fallible.modify fun mapper =>
    { mapper with
      fileChangePreviews := mapper.fileChangePreviews.retain fun key _ =>
        key.threadId ≠ thread ∨ key.turnId ≠ turn }
  return some (.turnCompleted thread turn usage status)

/-- SOURCE: mapping.rs:552-588. -/
def mapItemStarted (threadId turnId : String) (item : StartedItem) (fallback : ThreadId) :
    Mapping (Option AgentEvent) := do
  let thread ← resolveThread threadId fallback
  let turn ← resolveTurn env thread turnId
  Fallible.modify fun mapper =>
    match item.changes with
    | some changes =>
      { mapper with
        fileChangePreviews :=
          mapper.fileChangePreviews.insert ⟨thread, turn, item.harnessItemId⟩ changes }
    | none => mapper
  Fallible.modify fun mapper =>
    match item.tool.bind ToolCallStart.subagent with
    | some link => mapper.trackNativeParentage threadId link.harnessThreadId
    | none => mapper
  let id ← resolveItem env thread turn item.harnessItemId
  Fallible.modify (trackCommandStart item.harnessItemId item.command thread turn turnId)
  return some (.itemStarted thread turn
    ⟨id, item.harnessItemId, item.kind, item.command, item.tool⟩)

/-- SOURCE: mapping.rs:3132-3139. -/
def completedItemSubagentLink : ItemPayload → Option SubagentLink
  | .toolCall _ _ _ _ _ _ _ subagent _ => subagent
  | .activity _ _ _ subagent => subagent
  | _ => none

/-- SOURCE: mapping.rs:590-610. -/
def mapItemCompleted (threadId turnId : String) (item : CompletedItem) (fallback : ThreadId) :
    Mapping (Option AgentEvent) := do
  let thread ← resolveThread threadId fallback
  let turn ← resolveTurn env thread turnId
  let id ← resolveItem env thread turn item.harnessItemId
  Fallible.modify fun mapper =>
    match completedItemSubagentLink item.payload with
    | some link => mapper.trackNativeParentage threadId link.harnessThreadId
    | none => mapper
  Fallible.modify (trackCompletedItem item.harnessItemId item.payload thread turn turnId)
  return some (.itemCompleted thread turn ⟨id, item.harnessItemId, item.payload, item.createdAt⟩)

/-- SOURCE: mapping.rs:2140-2152. -/
def requestIdToString : RequestId → String
  | .integer value => toString value
  | .string value => value

/-- SOURCE: mapping.rs:765-779. -/
def mapServerRequestResolved (threadId : String) (requestId : RequestId) (fallback : ThreadId) :
    Mapping (Option AgentEvent) := do
  let thread ← resolveThread threadId fallback
  let id : ServerRequestId := ⟨requestIdToString requestId⟩
  let turn ← Fallible.get fun mapper =>
    (mapper.pendingServerRequests.get? id).bind PendingServerRequest.turn
  Fallible.modify fun mapper =>
    { mapper with pendingServerRequests := mapper.pendingServerRequests.shiftRemove id }
  return some (.serverRequestResolved thread turn id)

/-- A text with its details. SOURCE: mapping.rs:815-826, 838-848. -/
def advisory (label summary : String) (details : Option String) : String :=
  label ++ ": " ++ summary ++ ((details.map fun details => ": " ++ details).getD "")

/-- SOURCE: mapping.rs:439-853. -/
def tryMapNotification (notification : Notification) (fallback : ThreadId) :
    Mapping (Option AgentEvent) :=
  match notification with
  | .turnStarted threadId turnId => do
    let thread ← resolveThread threadId fallback
    Fallible.modify fun mapper =>
      { mapper with activeTurns := mapper.activeTurns.insert thread turnId }
    return some (.turnStarted thread (← resolveTurn env thread turnId))
  | .turnCompleted threadId turnId status => mapTurnCompleted env threadId turnId status fallback
  | .threadTokenUsageUpdated threadId turnId last window =>
    mapTokenUsage env threadId turnId last window fallback
  | .itemStarted threadId turnId item => mapItemStarted env threadId turnId item fallback
  | .itemCompleted threadId turnId item => mapItemCompleted env threadId turnId item fallback
  | .agentMessageDelta delta => mapTextDelta env delta fallback
  | .cmdOutputDelta delta => do
    let thread ← resolveThread delta.threadId fallback
    let turn ← resolveTurn env thread delta.turnId
    return some (.itemDelta thread turn (← resolveItem env thread turn delta.itemId)
      (.commandOutput delta.text))
  | .fileChangeOutputDelta delta => mapTextDelta env delta fallback
  | .fileChangePatchUpdated summary changes => do
    let thread ← resolveThread summary.threadId fallback
    let turn ← resolveTurn env thread summary.turnId
    Fallible.modify fun mapper =>
      { mapper with
        fileChangePreviews :=
          mapper.fileChangePreviews.insert ⟨thread, turn, summary.itemId⟩ changes }
    mapTextDelta env summary fallback
  | .reasoningDelta delta => mapTextDelta env delta fallback
  | .reasoningTextDelta delta => mapTextDelta env delta fallback
  | .planDelta delta => mapTextDelta env delta fallback
  | .mcpToolCallProgress delta => mapTextDelta env delta fallback
  | .reasoningSummaryPartAdded threadId turnId itemId => do
    let thread ← resolveThread threadId fallback
    let turn ← resolveTurn env thread turnId
    let _ ← resolveItem env thread turn itemId
    return none
  | .turnDiffUpdated threadId turnId diff => do
    let thread ← resolveThread threadId fallback
    return some (.diffUpdated thread (← resolveTurn env thread turnId) diff)
  | .error threadId turnId _ message => do
    let thread ← resolveThread threadId fallback
    return some (.error thread (← turnOf env thread turnId) (.protocol message))
  | .turnPlanUpdated threadId turnId detail «meta» => do
    let thread ← resolveThread threadId fallback
    let turn ← resolveTurn env thread turnId
    return some (← activityEvent env thread turn ("turn_plan:" ++ turnId) "Plan updated" detail
      «meta»)
  | .modelRerouted threadId turnId fromModel toModel «meta» => do
    let thread ← resolveThread threadId fallback
    let turn ← resolveTurn env thread turnId
    return some (← activityEvent env thread turn ("model_rerouted:" ++ turnId) "Model rerouted"
      (fromModel ++ " -> " ++ toModel) «meta»)
  | .serverRequestResolved threadId requestId =>
    mapServerRequestResolved threadId requestId fallback
  | .threadClosed threadId => do
    let thread ← resolveThread threadId fallback
    -- A route that is not there is only logged.
    Fallible.modify fun mapper =>
      { mapper with routes := (mapper.routes.setContextWindow threadId thread none).1 }
    return none
  | .threadGoalUpdated threadId => do
    return some (.goalsQueueChanged (← resolveThread threadId fallback))
  | .threadGoalCleared threadId => do
    return some (.goalsQueueChanged (← resolveThread threadId fallback))
  | .threadQueueChanged threadId => do
    return some (.goalsQueueChanged (← resolveThread threadId fallback))
  | .warning threadId message => do
    let thread ← match threadId with
      | some threadId => resolveThread threadId fallback
      | none => pure fallback
    return some (.notice thread none message)
  | .configWarning summary details =>
    return some (.notice fallback none (advisory "Configuration" summary details))
  | .guardianWarning threadId message => do
    let thread ← resolveThread threadId fallback
    return some (.notice thread none ("Guardian: " ++ message))
  | .deprecationNotice summary details =>
    return some (.notice fallback none (advisory "Deprecation" summary details))
  | .other _ => return none

end Notifications

end Giskard.Codex
