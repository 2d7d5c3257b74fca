import Mathlib
import Giskard.Model.Admission
import Giskard.Model.CapturedDiffs
import Giskard.Model.ThreadRuntime
import Giskard.Model.TurnItems

/-!
# The turn an event forwarder assembles

One forwarder reads the events of one thread and assembles the turn it owns. Before an event
has any effect it is classified from the forwarder's bookkeeping alone: five rules drop it, an
event of a persisted turn goes a late path, and an event of the owned turn, or of the turn to
own next, is applied.

A context carries the number of the intent it was made for. The source has no such number and
nothing here reads it: it says where the context of a stored turn came from.

SOURCE: crates/giskard-server/src/registry/event_forwarder.rs:1-93, 655-893,
crates/giskard-server/src/registry.rs:97-148.
-/

set_option autoImplicit false

namespace Giskard

/-! ## Contexts and leases -/

/-- SOURCE: registry.rs:106-112. -/
inductive TurnContextKind where
  | user
  | manualCompaction
  | externalSubagent
  | externalOrphan
  deriving DecidableEq

/-- SOURCE: registry.rs:114-121. -/
def turnContextKindLabel : TurnContextKind → String
  | .user => "user"
  | .manualCompaction => "manual_compaction"
  | .externalSubagent => "external_subagent"
  | .externalOrphan => "external_orphan"

/-- What a turn is stored with; the number of the intent is none for a turn nobody asked for.
SOURCE: registry.rs:97-104. -/
structure TurnContext where
  userInput : UserInput
  model : TurnModel
  mode : TurnMode
  kind : TurnContextKind
  intent : Option ℕ
  deriving DecidableEq

/-- SOURCE: registry.rs:123-135. -/
def turnReservation (projectId : ProjectId) (handle : ThreadHandle) (ctx : TurnContext) :
    TurnReservation where
  projectId := projectId
  harnessThreadId := handle.harnessThreadId
  mode := ctx.mode
  model := ctx.model
  contextKind := turnContextKindLabel ctx.kind

/-- SOURCE: text.rs:1-5. -/
def trimmedNonEmpty (value : String) : Option String :=
  let value := trimText value.toList
  if value = [] then none else some (String.ofList value)

/-- SOURCE: user_input.rs `UserInput::text`. -/
def UserInput.ofText (text : String) : UserInput := ⟨text, []⟩

/-- SOURCE: registry.rs:137-148. -/
def liveTurnUserInput (ctx : TurnContext) : Option UserInput :=
  if ctx.kind = .externalSubagent ∨ ctx.kind = .externalOrphan then
    (trimmedNonEmpty ctx.userInput.text).map UserInput.ofText
  else none

/-- SOURCE: thread.rs:243-249. -/
def externalTurnInputLabel : ClassificationPhase → UserInput
  | .primary => .ofText ""
  | .subagent => .ofText "Sub-agent turn"
  | .orphan => .ofText "Unclassified native turn"

/-- The model and the mode of a turn nobody asked for. SOURCE: event_forwarder.rs:643-656. -/
def externalTurnDefaults (binding : LoadedThreadBinding) (persisted : Option ThreadFile) :
    TurnModel × TurnMode :=
  (((persisted.map ThreadFile.currentModel).or (binding.nativeModel.map TurnModel.known)).getD
      .unknown,
    (persisted.map ThreadFile.mode).getD .unknown)

/-- The context of a turn nobody asked for. SOURCE: event_forwarder.rs:1937-1948. -/
def externalTurnContext (binding : LoadedThreadBinding) (persisted : Option ThreadFile)
    (classification : ClassificationPhase) : TurnContext where
  userInput := externalTurnInputLabel classification
  model := (externalTurnDefaults binding persisted).1
  mode := (externalTurnDefaults binding persisted).2
  kind := match classification with
    | .primary => .user
    | .subagent => .externalSubagent
    | .orphan => .externalOrphan
  intent := none

/-- SOURCE: event_forwarder.rs:936-942. -/
def idleContext (binding : LoadedThreadBinding) (persisted : Option ThreadFile) : TurnContext where
  userInput := .ofText ""
  model := (externalTurnDefaults binding persisted).1
  mode := (externalTurnDefaults binding persisted).2
  kind := .user
  intent := none

/-- The ownership of a thread's turn gate. SOURCE: thread_runtime.rs:209-214. -/
structure ThreadTurnLease where
  detached : Bool
  deriving DecidableEq

/-! ## Identities -/

/-- What a notice is remembered by. -/
abbrev NoticeKey := Option TurnId × String

/-- A native item id within a turn. SOURCE: event_forwarder.rs:38-41. -/
abbrev HarnessItemKey := TurnId × String

/-- SOURCE: event_forwarder.rs:3-12. -/
def isDuplicateNotice (seenNotices : Finset NoticeKey) : AgentEvent → Bool
  | .notice _ turn message => decide ((turn, message) ∈ seenNotices)
  | _ => false

/-- The turn, the native item id and the item id of an item's start or completion, when it has
a native item id. SOURCE: event_forwarder.rs:14-24. -/
def eventItemIdentity : AgentEvent → Option (TurnId × String × ItemId)
  | .itemStarted _ turn item =>
    if item.harnessItemId ≠ "" then some (turn, item.harnessItemId, item.id) else none
  | .itemCompleted _ turn item =>
    if item.harnessItemId ≠ "" then some (turn, item.harnessItemId, item.id) else none
  | _ => none

/-- A native item id that names another item already. -/
structure IdentityConflict where
  turn : TurnId
  harnessItemId : String
  existing : ItemId
  conflicting : ItemId
  deriving DecidableEq

/-- SOURCE: event_forwarder.rs:53-65. -/
def itemIdentityConflict (itemIdsByHarness : HarnessItemKey → Option ItemId) (event : AgentEvent) :
    Option IdentityConflict :=
  match eventItemIdentity event with
  | none => none
  | some (turn, harnessItemId, itemId) => match itemIdsByHarness (turn, harnessItemId) with
    | none => none
    | some existing =>
      if existing ≠ itemId then some ⟨turn, harnessItemId, existing, itemId⟩ else none

/-- SOURCE: event_forwarder.rs:67-78, without the conflict it returns. -/
def trackItemIdentity (itemIdsByHarness : HarnessItemKey → Option ItemId) (event : AgentEvent) :
    HarnessItemKey → Option ItemId :=
  match itemIdentityConflict itemIdsByHarness event, eventItemIdentity event with
  | none, some (turn, harnessItemId, itemId) =>
    Function.update itemIdsByHarness (turn, harnessItemId) (some itemId)
  | _, _ => itemIdsByHarness

/-! ## The turn -/

/-- The turn a forwarder assembles, or is to assemble next. SOURCE: event_forwarder.rs:682-696. -/
structure ForwardedTurnState where
  context : TurnContext
  lease : Option ThreadTurnLease
  observedTurn : Option TurnId
  ownedTurn : Option TurnId
  startedAt : DateTime
  items : CurrentTurnItems
  diffs : List FileDiff
  seenNotices : Finset NoticeKey
  itemIdsByHarness : HarnessItemKey → Option ItemId
  liveUsage : Option TokenUsage
  liveContextWindow : Option UInt32
  persistedContextWindow : Option UInt32

namespace ForwardedTurnState

/-- SOURCE: event_forwarder.rs:699-714, and 716-729 for a reset. -/
def new (context : TurnContext) (now : DateTime) : ForwardedTurnState where
  context := context
  lease := none
  observedTurn := none
  ownedTurn := none
  startedAt := now
  items := CurrentTurnItems.empty
  diffs := []
  seenNotices := ∅
  itemIdsByHarness := fun _ => none
  liveUsage := none
  liveContextWindow := none
  persistedContextWindow := none

/-- SOURCE: event_forwarder.rs:734-739. -/
def remember (turn : ForwardedTurnState) (event : AgentEvent) : ForwardedTurnState :=
  { turn with
    seenNotices := match event with
      | .notice _ noticeTurn message => insert (noticeTurn, message) turn.seenNotices
      | _ => turn.seenNotices
    itemIdsByHarness := trackItemIdentity turn.itemIdsByHarness event }

/-- Put a diff in the place of the one for its path, or behind the others. SOURCE:
event_forwarder.rs:2124-2131. -/
def upsertDiff (diffs : List FileDiff) (diff : FileDiff) : List FileDiff :=
  match diffs.findIdx? fun existing => pathComponents existing.path = pathComponents diff.path with
  | some index => diffs.set index diff
  | none => diffs ++ [diff]

end ForwardedTurnState

/-! ## Classification -/

/-- Why an event never reaches an effect path. SOURCE: event_forwarder.rs:782-800. -/
inductive DropReason where
  | foreignThread (eventThread : ThreadId)
  | duplicateNotice
  | itemIdentityConflict (conflict : IdentityConflict)
  | crossTurn (owned eventTurn : TurnId)
  | usageForPersistedTurn (turn : TurnId)
  deriving DecidableEq

/-- What one event is. SOURCE: event_forwarder.rs:804-815. -/
inductive EventDisposition where
  | drop (reason : DropReason)
  | lateForPersistedTurn (turn : TurnId)
  | turnless
  | owned (attaches : Option TurnId) (completes : Option (TurnId × TokenUsage × TurnStatus))
  deriving DecidableEq

/-- SOURCE: event_forwarder.rs:873-884. -/
def completionOf : AgentEvent → Option (TurnId × TokenUsage × TurnStatus)
  | .turnCompleted _ turn usage status => some (turn, usage, status)
  | _ => none

def AgentEvent.isUsageUpdate : AgentEvent → Bool
  | .turnUsageUpdated _ _ _ _ _ => true
  | _ => false

/-- A turn-scoped event of another turn than the owned one, not persisted yet. SOURCE:
event_forwarder.rs:853-859. -/
def crossTurnDrop (owned : Option TurnId) (seenTurnIds : Finset TurnId) (event : AgentEvent) :
    Option DropReason :=
  match owned, event.turn with
  | some owned, some eventTurn =>
    if eventTurn ≠ owned ∧ eventTurn ∉ seenTurnIds then some (.crossTurn owned eventTurn) else none
  | _, _ => none

/-- The last rules of the classification, for an event of this thread that is no duplicate and
conflicts with no identity. SOURCE: event_forwarder.rs:847-893. -/
def classifyTurn (owned : Option TurnId) (seenTurnIds : Finset TurnId) (event : AgentEvent) :
    EventDisposition :=
  match crossTurnDrop owned seenTurnIds event with
  | some reason => .drop reason
  | none => match event.turn.filter fun eventTurn => eventTurn ∈ seenTurnIds with
    | some persistedTurn =>
      if event.isUsageUpdate then .drop (.usageForPersistedTurn persistedTurn)
      else .lateForPersistedTurn persistedTurn
    | none =>
      if owned.isNone && event.turn.isNone then .turnless
      else .owned (if owned.isNone then event.turn else none) (completionOf event)

/-- Decide what an event is from the forwarder's bookkeeping alone. SOURCE:
event_forwarder.rs:819-893. -/
def classify (threadId : ThreadId) (turn : ForwardedTurnState) (seenTurnIds : Finset TurnId)
    (event : AgentEvent) : EventDisposition :=
  if event.threadId ≠ threadId then .drop (.foreignThread event.threadId)
  else if isDuplicateNotice turn.seenNotices event then .drop .duplicateNotice
  else match itemIdentityConflict turn.itemIdsByHarness event with
    | some conflict => .drop (.itemIdentityConflict conflict)
    | none => classifyTurn turn.ownedTurn seenTurnIds event

end Giskard
