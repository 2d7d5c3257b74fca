import Mathlib
import Giskard.Foundation.IndexMap
import Giskard.Model.ThreadMetadata
import Giskard.Model.DeletionService

/-!
# The replacement lane of a connection

Authoritative state waits for a slow socket outside its bounded queue: one message for each
authority, the latest one, and the order in which the authorities were first heard of.

SOURCE: crates/giskard-server/src/delivery.rs, crates/giskard-proto/src/lib.rs.
-/

set_option autoImplicit false

namespace Giskard.Delivery

open Foundation (IndexMap)
open Deletions (ThreadDeletionProgress)

/-- SOURCE: proto lib.rs:119-130. -/
structure ThreadMetadata where
  threadId : ThreadId
  revision : UInt64
  title : String
  mode : TurnMode
  currentModel : TurnModel
  contextWindow : UInt32
  contextWindowOverride : Option UInt32
  permissionPreset : PermissionPreset
  tokens : TokenLedger
  deriving DecidableEq

/-- SOURCE: proto lib.rs:134-151. -/
structure ThreadState where
  metadata : ThreadMetadata
  activeTurn : Option Bool
  deriving DecidableEq

/-- The messages that travel on the lane. -/
inductive ServerMessage where
  | threadState (state : ThreadState)
  | threadCatalogChanged
  | threadRuntimeOverview (overview : ThreadRuntimeOverview)
  | threadDeletionProgress (progress : ThreadDeletionProgress)
  deriving DecidableEq

/-- SOURCE: delivery.rs:104-112. -/
inductive ReplacementKey where
  | thread (thread : ThreadId)
  | threadCatalog
  | runtimeOverview
  | threadDeletion (root : ThreadId)
  deriving DecidableEq

/-- SOURCE: delivery.rs:114-130. -/
structure PendingReplacements where
  order : List ReplacementKey
  messages : IndexMap ReplacementKey ServerMessage

namespace PendingReplacements

/-- SOURCE: delivery.rs:139-145. -/
def new : PendingReplacements := ⟨[], IndexMap.empty⟩

/-- The end of every insertion: the key queues when nothing was pending for it. -/
def put (pending : PendingReplacements) (key : ReplacementKey) (message : ServerMessage) :
    PendingReplacements where
  order := if key ∈ pending.messages.keys then pending.order else pending.order ++ [key]
  messages := pending.messages.insert key message

/-- SOURCE: delivery.rs:147-192. -/
def insertThreadState (pending : PendingReplacements) (state : ThreadState) :
    PendingReplacements :=
  let key := ReplacementKey.thread state.metadata.threadId
  match pending.messages.get? key with
  | some (.threadState current) =>
    if current.metadata.revision > state.metadata.revision then pending
    else if current.metadata.revision = state.metadata.revision ∧
        current.metadata ≠ state.metadata then pending
    else pending.put key (.threadState state)
  | _ => pending.put key (.threadState state)

/-- SOURCE: delivery.rs:194-211. -/
def invalidateThreadCatalog (pending : PendingReplacements) : PendingReplacements :=
  if ReplacementKey.threadCatalog ∈ pending.messages.keys then pending
  else pending.put .threadCatalog .threadCatalogChanged

/-- SOURCE: delivery.rs:213-244. -/
def insertRuntimeOverview (pending : PendingReplacements) (overview : ThreadRuntimeOverview) :
    PendingReplacements :=
  match pending.messages.get? .runtimeOverview with
  | some (.threadRuntimeOverview current) =>
    if current.revision > overview.revision then pending
    else pending.put .runtimeOverview (.threadRuntimeOverview overview)
  | _ => pending.put .runtimeOverview (.threadRuntimeOverview overview)

/-- SOURCE: delivery.rs:246-270. -/
def insertThreadDeletionProgress (pending : PendingReplacements)
    (progress : ThreadDeletionProgress) : PendingReplacements :=
  pending.put (.threadDeletion progress.threadId) (.threadDeletionProgress progress)

/-- The loop of `pop_front` over the order queue. -/
def popOrder (messages : IndexMap ReplacementKey ServerMessage) :
    List ReplacementKey → Option ServerMessage × PendingReplacements
  | [] => (none, ⟨[], messages⟩)
  | key :: order =>
    match messages.get? key with
    | some message => (some message, ⟨order, messages.shiftRemove key⟩)
    | none => popOrder messages order

/-- SOURCE: delivery.rs:272-280. -/
def popFront (pending : PendingReplacements) : Option ServerMessage × PendingReplacements :=
  popOrder pending.messages pending.order

end PendingReplacements

/-- What happens to a mailbox. -/
inductive MailboxOp where
  | insertThreadState (state : ThreadState)
  | insertRuntimeOverview (overview : ThreadRuntimeOverview)
  | insertThreadDeletionProgress (progress : ThreadDeletionProgress)
  | invalidateThreadCatalog
  | popFront

/-- A mailbox and the messages that were popped from it, in order. -/
structure ReplacementMailbox where
  pending : PendingReplacements
  popped : List ServerMessage

def ReplacementMailbox.new : ReplacementMailbox := ⟨.new, []⟩

/-- One operation on a mailbox; each of them holds its lock throughout. -/
def ReplacementMailbox.step (mailbox : ReplacementMailbox) : MailboxOp → ReplacementMailbox
  | .insertThreadState state =>
    { mailbox with pending := mailbox.pending.insertThreadState state }
  | .insertRuntimeOverview overview =>
    { mailbox with pending := mailbox.pending.insertRuntimeOverview overview }
  | .insertThreadDeletionProgress progress =>
    { mailbox with pending := mailbox.pending.insertThreadDeletionProgress progress }
  | .invalidateThreadCatalog =>
    { mailbox with pending := mailbox.pending.invalidateThreadCatalog }
  | .popFront =>
    { pending := mailbox.pending.popFront.2
      popped := mailbox.popped ++ mailbox.pending.popFront.1.toList }

end Giskard.Delivery
