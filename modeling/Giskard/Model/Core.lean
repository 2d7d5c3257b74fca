import Mathlib
import Giskard.Foundation.Json
import Giskard.Foundation.Serde

/-!
# The harness-neutral data model

Identifiers, items, diffs, approvals, server requests and the events a harness streams, as
the core crate declares them. Every variant and every field is kept, in the order of the
source, because the stores and the wire projections of the later modules copy them whole.

A `PathBuf` is its UTF-8 text: every path of the model comes from a JSON document, and the
narrowing to text that the wire performs is the identity on those. A time stamp is its
instant; the text forms of identifiers and time stamps belong to other crates and are
parameters of the modules that print or read them.

SOURCE: crates/giskard-core/src/ids.rs, item.rs, diff.rs, approval.rs, server_request.rs,
user_input.rs, turn.rs, token.rs, model.rs, error.rs, event.rs.
-/

set_option autoImplicit false

namespace Giskard

open Foundation (Json TextCodec base32 base32_inj)

/-! ## Identifiers -/

/-- A ULID: 128 bits. -/
structure Ulid where
  bits : BitVec 128
  deriving DecidableEq

/-- ULID-backed thread identifier. SOURCE: ids.rs:9-11. -/
structure ThreadId where
  ulid : Ulid
  deriving DecidableEq

/-- ULID-backed turn identifier. SOURCE: ids.rs:13-15. -/
structure TurnId where
  ulid : Ulid
  deriving DecidableEq

/-- Giskard-owned item identifier, stable across resume. SOURCE: ids.rs:17-23. -/
structure ItemId where
  ulid : Ulid
  deriving DecidableEq

/-- Identity of immutable diff content captured during one turn. SOURCE: ids.rs:25-28. -/
structure DiffId where
  text : String
  deriving DecidableEq

/-- Harness-native approval request identifier. SOURCE: ids.rs:30-33. -/
structure ApprovalId where
  text : String
  deriving DecidableEq

/-- Harness-native server request identifier. SOURCE: ids.rs:35-38. -/
structure ServerRequestId where
  text : String
  deriving DecidableEq

/-- An instant, in whole seconds and nanoseconds of the Unix epoch (`DateTime<Utc>`). -/
structure DateTime where
  seconds : Int64
  nanos : UInt32
  deriving DecidableEq

/-- What the code takes from other crates: the text forms of ULIDs and instants, the hexadecimal
SHA-256 digest, and what the JSON reader says of a text or of a value that it refuses. -/
structure Crates where
  ulid : TextCodec Ulid
  chrono : TextCodec DateTime
  sha256Hex : List UInt8 → String
  syntaxError : List Char → String
  dataError : Json → String

/-- The 26 base-32 digits of a ULID. -/
def Ulid.digits (ulid : Ulid) : String := String.ofList (base32 26 ulid.bits.toNat)

theorem Ulid.digits_injective : Function.Injective Ulid.digits := by
  intro left right same
  have bound (ulid : Ulid) : ulid.bits.toNat < 32 ^ 26 := by
    have := ulid.bits.isLt
    omega
  have bits := base32_inj (bound left) (bound right) (String.ofList_injective same)
  cases left
  cases right
  exact congrArg Ulid.mk (BitVec.eq_of_toNat_eq bits)

/-- A text form of instants that agrees with RFC 3339 at the epoch. -/
def DateTime.stamp (instant : DateTime) : String :=
  if instant = ⟨0, 0⟩ then "1970-01-01T00:00:00Z"
  else String.ofList
    ('@' :: (base32 13 instant.seconds.toBitVec.toNat ++ base32 7 instant.nanos.toNat))

theorem DateTime.stamp_injective : Function.Injective DateTime.stamp := by
  have epoch (tail : List Char) : "1970-01-01T00:00:00Z" ≠ String.ofList ('@' :: tail) := by
    intro same
    have := congrArg (fun text => text.toList.head?) same
    simp at this
  intro left right same
  unfold DateTime.stamp at same
  split at same
  · next first =>
    split at same
    · next second => rw [first, second]
    · exact absurd same (epoch _)
  · split at same
    · exact absurd same.symm (epoch _)
    · have digits := List.cons_injective (String.ofList_injective same)
      obtain ⟨seconds, nanos⟩ := List.append_inj digits (by simp)
      have seconds := base32_inj (by have := left.seconds.toBitVec.isLt; omega)
        (by have := right.seconds.toBitVec.isLt; omega) seconds
      have nanos := base32_inj (by have := left.nanos.toNat_lt; omega)
        (by have := right.nanos.toNat_lt; omega) nanos
      cases left
      cases right
      congr 1
      · exact Int64.toBitVec_inj.1 (BitVec.eq_of_toNat_eq seconds)
      · exact UInt32.toNat_inj.1 nanos

/-- Text forms in the format of the crates, for runs at the epoch that hash nothing and report no
reading error. -/
noncomputable def Crates.reference : Crates where
  ulid := .ofInjective Ulid.digits Ulid.digits_injective
  chrono := .ofInjective DateTime.stamp DateTime.stamp_injective
  sha256Hex _ := ""
  syntaxError _ := ""
  dataError _ := ""

/-! ## Items -/

/-- SOURCE: item.rs:9-20. -/
inductive ItemKind where
  | userMessage
  | agentMessage
  | reasoning
  | commandExecution
  | fileChange
  | toolCall
  | activity
  deriving DecidableEq

/-- SOURCE: item.rs:22-29. -/
inductive FileChangeKind where
  | created
  | modified
  | deleted
  deriving DecidableEq

/-- SOURCE: diff.rs:8-13. -/
inductive DiffContentKind where
  | unified
  | structured
  deriving DecidableEq

/-- Bounded projection of captured diff content. SOURCE: diff.rs:15-31. -/
structure CapturedDiffDescriptor where
  id : DiffId
  path : String
  change : FileChangeKind
  contentKind : DiffContentKind
  available : Bool
  byteSize : UInt64
  additions : UInt64
  deletions : UInt64
  binary : Bool
  itemId : Option ItemId
  deriving DecidableEq

/-- A single line within a hunk. SOURCE: diff.rs:229-233. -/
inductive DiffLine where
  | context (text : String)
  | added (text : String)
  | removed (text : String)
  deriving DecidableEq

/-- SOURCE: diff.rs:218-224. -/
structure DiffHunk where
  oldStart : UInt32
  oldLines : UInt32
  newStart : UInt32
  newLines : UInt32
  lines : List DiffLine
  deriving DecidableEq

/-- A structured file diff. SOURCE: diff.rs:197-214. -/
structure FileDiff where
  path : String
  change : FileChangeKind
  oldText : Option String
  newText : Option String
  hunks : List DiffHunk
  binary : Bool
  captured : Option CapturedDiffDescriptor
  deriving DecidableEq

/-- Full immutable content served only through the lazy diff endpoint. SOURCE:
diff.rs:33-39. -/
inductive CapturedDiffContent where
  | unified (text : String)
  | structured (diff : FileDiff)
  deriving DecidableEq

/-- SOURCE: diff.rs:41-45. -/
structure CapturedDiffRecord where
  id : DiffId
  content : CapturedDiffContent
  deriving DecidableEq

/-- One file touched by a finalized file-change item. SOURCE: item.rs:31-41. -/
structure FileChangeEntry where
  path : String
  change : FileChangeKind
  diff : Option String
  capturedDiff : Option CapturedDiffDescriptor
  deriving DecidableEq

/-- SOURCE: item.rs:139-147. -/
inductive SubagentAction where
  | spawned
  | started
  | interacted
  | interrupted
  | completed
  deriving DecidableEq

/-- SOURCE: item.rs:149-159. -/
inductive SubagentStatus where
  | pending
  | running
  | completed
  | interrupted
  | failed
  | shutdown
  | notFound
  deriving DecidableEq

/-- Link from a transcript item to a related agent thread. SOURCE: item.rs:118-137. -/
structure SubagentLink where
  harnessThreadId : String
  path : Option String
  initialPrompt : Option String
  action : SubagentAction
  status : Option SubagentStatus
  message : Option String
  deriving DecidableEq

/-- Command metadata available when a command item starts. SOURCE: item.rs:82-96. -/
structure CommandExecutionStart where
  command : String
  description : Option String
  cwd : String
  status : Option String
  processId : Option String
  startedAtMs : Option Int64
  deriving DecidableEq

/-- Tool-call metadata available when a tool item starts. SOURCE: item.rs:98-116. -/
structure ToolCallStart where
  name : String
  description : Option String
  input : Json
  server : Option String
  status : Option String
  metadata : Option Json
  subagent : Option SubagentLink
  startedAtMs : Option Int64
  deriving DecidableEq

/-- What `ItemStarted` announces. SOURCE: item.rs:43-56. -/
structure ItemStart where
  id : ItemId
  harnessItemId : String
  kind : ItemKind
  command : Option CommandExecutionStart
  tool : Option ToolCallStart
  deriving DecidableEq

/-- SOURCE: item.rs:172-244. -/
inductive ItemPayload where
  | userMessage (text : String)
  | agentMessage (text : String)
  | reasoning (text : String)
  | commandExecution (command : String) (description : Option String) (cwd : String)
      (output : String) (outputTruncated : Bool) (outputOriginalBytes : Option UInt64)
      (outputOriginalLines : Option UInt64) (exitCode : Option Int32) (status : Option String)
      (processId : Option String) (durationMs : Option Int64)
  | fileChange (path : String) (change : FileChangeKind) (changes : List FileChangeEntry)
      (status : Option String)
  | toolCall (name : String) (description : Option String) (input : Json)
      (output : Option Json) (server : Option String) (status : Option String)
      (metadata : Option Json) (subagent : Option SubagentLink) (error : Option String)
  | activity (title : String) (detail : Option String) (metadata : Option Json)
      (subagent : Option SubagentLink)
  deriving DecidableEq

/-- The finalized item persisted in thread history. SOURCE: item.rs:161-170. -/
structure Item where
  id : ItemId
  harnessItemId : String
  payload : ItemPayload
  createdAt : DateTime
  deriving DecidableEq

/-- Incremental delta streamed during an item's lifecycle. SOURCE: item.rs:427-433. -/
inductive ItemDelta where
  | text (text : String)
  | commandOutput (chunk : String)
  deriving DecidableEq

/-! ## Approvals, server requests and user input -/

/-- SOURCE: approval.rs `ApprovalDecision`. -/
inductive ApprovalDecision where
  | accept
  | acceptForSession
  | decline
  | cancel
  | acceptWithExecPolicyAmendment (amendment : List String)
  deriving DecidableEq

/-- SOURCE: approval.rs `ApprovalKind`. -/
inductive ApprovalKind where
  | commandExecution (command : String) (cwd : String)
  | fileChange (path : String) (change : FileChangeKind)
  | permission (detail : String)
  | mcpToolCall (server : String) (toolName : String)
  deriving DecidableEq

/-- SOURCE: approval.rs `ApprovalMetadata`. -/
inductive ApprovalMetadata where
  | text (label : String) (value : String)
  | path (label : String) (path : String) (sourceLink : Bool)
  | host (label : String) (host : String) (protocol : Option String) (port : Option Int64)
      (target : Option String)
  deriving DecidableEq

/-- SOURCE: approval.rs `ApprovalRequest`. -/
structure ApprovalRequest where
  id : ApprovalId
  kind : ApprovalKind
  reason : Option String
  metadata : List ApprovalMetadata
  available : List ApprovalDecision
  deriving DecidableEq

/-- A server-initiated request, its method and parameters kept protocol-shaped. SOURCE:
server_request.rs:7-19. -/
structure ServerRequest where
  id : ServerRequestId
  method : String
  params : Json
  receivedAt : DateTime
  deriving DecidableEq

/-- SOURCE: user_input.rs:13-18. -/
inductive AttachmentKind where
  | image
  | file
  deriving DecidableEq

/-- SOURCE: user_input.rs:3-11. -/
structure UserAttachment where
  name : String
  mimeType : String
  size : UInt64
  kind : AttachmentKind
  dataBase64 : String
  deriving DecidableEq

/-- User input sent to the agent; the source's enumeration has the one variant `Text`.
SOURCE: user_input.rs:20-29. -/
structure UserInput where
  text : String
  attachments : List UserAttachment
  deriving DecidableEq

/-! ## Turns and events -/

/-- SOURCE: token.rs:6-10. -/
structure TokenUsage where
  input : UInt64
  output : UInt64
  total : UInt64
  deriving DecidableEq

/-- SOURCE: model.rs:3-12. -/
structure ModelRef where
  provider : String
  model : String
  reasoningEffort : Option String
  deriving DecidableEq

/-- Model attribution of a turn. SOURCE: turn.rs:11-27. -/
inductive TurnModel where
  | unknown
  | known (model : ModelRef)
  deriving DecidableEq

/-- SOURCE: turn.rs `Mode`. -/
inductive Mode where
  | plan
  | build
  deriving DecidableEq

/-- Mode attribution of a turn. SOURCE: turn.rs:29-38. -/
inductive TurnMode where
  | unknown
  | known (mode : Mode)
  deriving DecidableEq

/-- SOURCE: turn.rs `TurnStatusKind`. -/
inductive TurnStatusKind where
  | completed
  | interrupted
  | failed
  deriving DecidableEq

/-- Outcome of a completed turn. SOURCE: turn.rs `TurnStatus`. -/
structure TurnStatus where
  kind : TurnStatusKind
  message : Option String
  deriving DecidableEq

/-- One unit of agent work. SOURCE: turn.rs `Turn`. -/
structure Turn where
  id : TurnId
  userInput : UserInput
  items : List Item
  model : TurnModel
  mode : TurnMode
  status : TurnStatus
  usage : TokenUsage
  diffs : List FileDiff
  startedAt : DateTime
  completedAt : Option DateTime
  skippedRecords : UInt32
  deriving DecidableEq

/-- SOURCE: error.rs:34-50. -/
inductive PersistError where
  | io (message : String)
  | serialize (message : String)
  | deserialize (message : String)
  | notFound (message : String)
  | corrupt (message : String)
  | invalid (message : String)
  deriving DecidableEq

/-- Errors from the harness layer. SOURCE: error.rs:6-32. -/
inductive HarnessError where
  | spawn (detail : String)
  | notInitialized
  | unauthenticated
  | transport (detail : String)
  | protocol (detail : String)
  | overloaded
  | unsupported (detail : String)
  | threadNotFound (thread : ThreadId)
  | threadBusy (thread : ThreadId)
  | threadReadOnly (thread : ThreadId)
  | timeout (detail : String)
  deriving DecidableEq

/-- Everything streamed from a harness. SOURCE: event.rs:13-109. -/
inductive AgentEvent where
  | goalsQueueChanged (thread : ThreadId)
  | threadOpened (thread : ThreadId) (harnessThreadId : String)
  | turnStarted (thread : ThreadId) (turn : TurnId)
  | turnUsageUpdated (thread : ThreadId) (turn : TurnId) (usage : TokenUsage)
      (contextWindow : Option UInt32) (model : Option ModelRef)
  | itemStarted (thread : ThreadId) (turn : TurnId) (item : ItemStart)
  | itemDelta (thread : ThreadId) (turn : TurnId) (itemId : ItemId) (delta : ItemDelta)
  | itemCompleted (thread : ThreadId) (turn : TurnId) (item : Item)
  | diffUpdated (thread : ThreadId) (turn : TurnId) (diff : FileDiff)
  | approvalRequested (thread : ThreadId) (turn : TurnId) (request : ApprovalRequest)
  | serverRequestReceived (thread : ThreadId) (turn : Option TurnId) (request : ServerRequest)
  | serverRequestResolved (thread : ThreadId) (turn : Option TurnId)
      (requestId : ServerRequestId)
  | turnCompleted (thread : ThreadId) (turn : TurnId) (usage : TokenUsage)
      (status : TurnStatus)
  | error (thread : ThreadId) (turn : Option TurnId) (error : HarnessError)
  | notice (thread : ThreadId) (turn : Option TurnId) (message : String)
  deriving DecidableEq

namespace AgentEvent

/-- The turn an event belongs to, when it names one. SOURCE: event.rs:139-155. -/
def turn : AgentEvent → Option TurnId
  | .turnStarted _ turn | .turnUsageUpdated _ turn _ _ _ | .itemStarted _ turn _
  | .itemDelta _ turn _ _ | .itemCompleted _ turn _ | .diffUpdated _ turn _
  | .approvalRequested _ turn _ | .turnCompleted _ turn _ _ => some turn
  | .serverRequestReceived _ turn _ | .serverRequestResolved _ turn _ | .error _ turn _
  | .notice _ turn _ => turn
  | .threadOpened _ _ | .goalsQueueChanged _ => none

/-- The item an event is about, for the three item events. SOURCE: event.rs:158-165. -/
def itemId : AgentEvent → Option ItemId
  | .itemStarted _ _ item => some item.id
  | .itemDelta _ _ itemId _ => some itemId
  | .itemCompleted _ _ item => some item.id
  | _ => none

/-- SOURCE: event.rs:229-246. -/
def threadId : AgentEvent → ThreadId
  | .goalsQueueChanged thread | .threadOpened thread _ | .turnStarted thread _
  | .turnUsageUpdated thread _ _ _ _ | .itemStarted thread _ _ | .itemDelta thread _ _ _
  | .itemCompleted thread _ _ | .diffUpdated thread _ _ | .approvalRequested thread _ _
  | .serverRequestReceived thread _ _ | .serverRequestResolved thread _ _
  | .turnCompleted thread _ _ _ | .error thread _ _ | .notice thread _ _ => thread

end AgentEvent

end Giskard
