import Mathlib
import Giskard.Foundation.Schedule
import Giskard.Foundation.Coalescing
import Giskard.Model.Delivery

/-!
# The latest state is not lost on the replacement lane

The pending messages of a mailbox are a shelf with one place for each authority. An insertion
either puts its message on the shelf or is refused in favour of one with a revision that is at
least as high; a pop takes the message whose key waited longest. The order queue holds the keys
of the shelf, each once.
-/

set_option autoImplicit false

namespace Giskard.Delivery

open Foundation (IndexMap)
open Foundation.Coalescing
open Foundation.Schedule (run_append)

/-! ## Messages -/

/-- The authority of a message. -/
def ServerMessage.key : ServerMessage → ReplacementKey
  | .threadState state => .thread state.metadata.threadId
  | .threadCatalogChanged => .threadCatalog
  | .threadRuntimeOverview _ => .runtimeOverview
  | .threadDeletionProgress progress => .threadDeletion progress.threadId

/-- The revision of a message, of those that have one. -/
def ServerMessage.revision : ServerMessage → ℕ
  | .threadState state => state.metadata.revision.toNat
  | .threadRuntimeOverview overview => overview.revision.toNat
  | _ => 0

/-- The message that an operation inserts. -/
def MailboxOp.inserted : MailboxOp → Option ServerMessage
  | .insertThreadState state => some (.threadState state)
  | .insertRuntimeOverview overview => some (.threadRuntimeOverview overview)
  | .insertThreadDeletionProgress progress => some (.threadDeletionProgress progress)
  | .invalidateThreadCatalog => some .threadCatalogChanged
  | .popFront => none

/-- The messages of a sequence of operations, in order. -/
def inserted (ops : List MailboxOp) : List ServerMessage := ops.filterMap MailboxOp.inserted

/-- The highest revision among the messages of an authority. -/
def latestRevision (key : ReplacementKey) (messages : List ServerMessage) : WithBot ℕ :=
  top ServerMessage.key ServerMessage.revision key messages

/-- The last message of an authority. -/
def lastMessage (key : ReplacementKey) (messages : List ServerMessage) : Option ServerMessage :=
  last ServerMessage.key key messages

/-! ## The queue and the shelf -/

/-- The shelf of a mailbox. -/
def PendingReplacements.shelf (pending : PendingReplacements) :
    ReplacementKey → Option ServerMessage := pending.messages.get?

/-- The order queue holds each pending key once, and nothing else. -/
def PendingReplacements.Aligned (pending : PendingReplacements) : Prop :=
  pending.order.Nodup ∧ ∀ key, key ∈ pending.order ↔ (pending.shelf key).isSome = true

variable {pending : PendingReplacements}

theorem PendingReplacements.mem_keys {key : ReplacementKey} :
    key ∈ pending.messages.keys ↔ (pending.shelf key).isSome = true := by
  rw [IndexMap.mem_keys_iff, shelf, Option.isSome_iff_exists]

theorem PendingReplacements.shelf_put (pending : PendingReplacements) (message : ServerMessage) :
    (pending.put message.key message).shelf =
      withValue ServerMessage.key pending.shelf message := by
  funext key
  unfold shelf put withValue
  dsimp only
  rw [IndexMap.get?_insert, Function.update_apply]

theorem PendingReplacements.Aligned.put (aligned : pending.Aligned) (message : ServerMessage) :
    (pending.put message.key message).Aligned := by
  have shelved (key : ReplacementKey) :
      ((pending.put message.key message).shelf key).isSome = true ↔
        key = message.key ∨ (pending.shelf key).isSome = true := by
    rw [pending.shelf_put, withValue, Function.update_apply]
    by_cases same : key = message.key
    · simp [same]
    · simp [same]
  unfold Aligned
  simp only [shelved]
  unfold PendingReplacements.put
  dsimp only
  split
  · next present =>
    rw [mem_keys] at present
    refine ⟨aligned.1, fun key => ?_⟩
    rw [aligned.2]
    constructor
    · exact .inr
    · rintro (rfl | held)
      · exact present
      · exact held
  · next absent =>
    rw [mem_keys, ← aligned.2] at absent
    refine ⟨List.nodup_append.2 ⟨aligned.1, List.nodup_singleton _, ?_⟩, fun key => ?_⟩
    · intro first inside second single
      rw [List.mem_singleton] at single
      subst single
      rintro rfl
      exact absent inside
    · rw [List.mem_append, List.mem_singleton, aligned.2, or_comm]

/-- What a pop does: nothing on an empty shelf, or it takes the first key's message. -/
theorem PendingReplacements.Aligned.popFront (aligned : pending.Aligned) :
    (pending.order = [] ∧ pending.popFront = (none, pending)) ∨
      ∃ key message, pending.shelf key = some message ∧
        pending.popFront.1 = some message ∧ pending.popFront.2.Aligned ∧
        pending.popFront.2.shelf = without pending.shelf key := by
  obtain ⟨order, messages⟩ := pending
  cases order with
  | nil => exact .inl ⟨rfl, rfl⟩
  | cons key order =>
    have held : (messages.get? key).isSome = true := (aligned.2 key).1 List.mem_cons_self
    obtain ⟨message, found⟩ := Option.isSome_iff_exists.1 held
    have pops : (PendingReplacements.mk (key :: order) messages).popFront =
        (some message, ⟨order, messages.shiftRemove key⟩) := by
      unfold PendingReplacements.popFront popOrder
      rw [found]
    have shelf : (PendingReplacements.mk order (messages.shiftRemove key)).shelf =
        without messages.get? key := by
      funext other
      unfold PendingReplacements.shelf without
      dsimp only
      rw [IndexMap.get?_shiftRemove, Function.update_apply]
    refine .inr ⟨key, message, found, by rw [pops], ?_, by rw [pops]; exact shelf⟩
    rw [pops]
    have nodup : (key :: order).Nodup := aligned.1
    rw [List.nodup_cons] at nodup
    refine ⟨nodup.2, fun other => ?_⟩
    have before := aligned.2 other
    rw [List.mem_cons] at before
    rw [shelf, without, Function.update_apply]
    dsimp only
    by_cases same : other = key
    · subst same
      simp [nodup.1]
    · rw [if_neg same]
      exact ⟨fun inside => before.1 (.inr inside), fun held => (before.2 held).resolve_left same⟩

/-! ## Insertions -/

/-- What an insertion makes of a mailbox: its message takes the place of one that is not higher,
or it is refused in favour of one that is not lower. Progress is never refused. -/
inductive Inserts (pending : PendingReplacements) (message : ServerMessage) :
    PendingReplacements → Prop where
  | put (lower : ∀ current, pending.shelf message.key = some current →
      current.revision ≤ message.revision) :
      Inserts pending message (pending.put message.key message)
  | refused {current : ServerMessage} (held : pending.shelf message.key = some current)
      (higher : message.revision ≤ current.revision)
      (other : ∀ root, message.key ≠ .threadDeletion root) : Inserts pending message pending

theorem threadState_of_keyed (keyed : Keyed ServerMessage.key pending.shelf) {thread : ThreadId}
    {current : ServerMessage} (held : pending.shelf (.thread thread) = some current) :
    ∃ state, current = .threadState state := by
  have key := keyed _ _ held
  cases current with
  | threadState state => exact ⟨state, rfl⟩
  | _ => cases key

theorem overview_of_keyed (keyed : Keyed ServerMessage.key pending.shelf)
    {current : ServerMessage} (held : pending.shelf .runtimeOverview = some current) :
    ∃ overview, current = .threadRuntimeOverview overview := by
  have key := keyed _ _ held
  cases current with
  | threadRuntimeOverview overview => exact ⟨overview, rfl⟩
  | _ => cases key

theorem insertThreadState_inserts (keyed : Keyed ServerMessage.key pending.shelf)
    (state : ThreadState) :
    Inserts pending (.threadState state) (pending.insertThreadState state) := by
  unfold PendingReplacements.insertThreadState
  dsimp only
  have shelf : pending.messages.get? (.thread state.metadata.threadId) =
      pending.shelf (ServerMessage.threadState state).key := rfl
  rw [shelf]
  cases held : pending.shelf (ServerMessage.threadState state).key with
  | none =>
    dsimp only
    refine .put fun current found => ?_
    rw [held] at found
    cases found
  | some current =>
    obtain ⟨current, rfl⟩ := threadState_of_keyed keyed held
    dsimp only
    split
    · next higher => exact .refused held (UInt64.le_iff_toNat_le.1 (UInt64.le_of_lt higher)) nofun
    · next notHigher =>
      split
      · next conflict =>
        exact .refused held (by simp [ServerMessage.revision, conflict.1]) nofun
      · refine .put fun found same => ?_
        rw [held, Option.some.injEq] at same
        subst same
        exact UInt64.le_iff_toNat_le.1 (UInt64.not_lt.1 notHigher)

theorem insertRuntimeOverview_inserts (keyed : Keyed ServerMessage.key pending.shelf)
    (overview : ThreadRuntimeOverview) :
    Inserts pending (.threadRuntimeOverview overview)
      (pending.insertRuntimeOverview overview) := by
  unfold PendingReplacements.insertRuntimeOverview
  have shelf : pending.messages.get? .runtimeOverview =
      pending.shelf (ServerMessage.threadRuntimeOverview overview).key := rfl
  rw [shelf]
  cases held : pending.shelf (ServerMessage.threadRuntimeOverview overview).key with
  | none =>
    dsimp only
    refine .put fun current found => ?_
    rw [held] at found
    cases found
  | some current =>
    obtain ⟨current, rfl⟩ := overview_of_keyed keyed held
    dsimp only
    split
    · next higher => exact .refused held (UInt64.le_iff_toNat_le.1 (UInt64.le_of_lt higher)) nofun
    · next notHigher =>
      refine .put fun found same => ?_
      rw [held, Option.some.injEq] at same
      subst same
      exact UInt64.le_iff_toNat_le.1 (UInt64.not_lt.1 notHigher)

theorem insertThreadDeletionProgress_inserts (keyed : Keyed ServerMessage.key pending.shelf)
    (progress : Deletions.ThreadDeletionProgress) :
    Inserts pending (.threadDeletionProgress progress)
      (pending.insertThreadDeletionProgress progress) := by
  refine .put fun current held => ?_
  have key := keyed _ _ held
  cases current with
  | threadDeletionProgress progress => exact le_rfl
  | _ => cases key

theorem invalidateThreadCatalog_inserts (keyed : Keyed ServerMessage.key pending.shelf) :
    Inserts pending .threadCatalogChanged pending.invalidateThreadCatalog := by
  unfold PendingReplacements.invalidateThreadCatalog
  split
  · next present =>
    rw [PendingReplacements.mem_keys] at present
    obtain ⟨current, held⟩ := Option.isSome_iff_exists.1 present
    exact .refused held (Nat.zero_le _) nofun
  · refine .put fun current held => ?_
    have key := keyed _ _ held
    cases current with
    | threadCatalogChanged => exact le_rfl
    | _ => cases key

/-! ## Every sequence of operations -/

/-- A mailbox into which some messages were inserted. -/
structure Sound (messages : List ServerMessage) (mailbox : ReplacementMailbox) : Prop where
  aligned : mailbox.pending.Aligned
  balanced : Balanced ServerMessage.key ServerMessage.revision mailbox.pending.shelf messages
    mailbox.popped
  latest : ∀ root, Latest ServerMessage.key (.threadDeletion root) mailbox.pending.shelf messages
    mailbox.popped

theorem Sound.new : Sound [] .new where
  aligned := ⟨List.nodup_nil, fun key => by simp [ReplacementMailbox.new, PendingReplacements.new,
    PendingReplacements.shelf]⟩
  balanced := .start
  latest _ := rfl

theorem Sound.insert {messages : List ServerMessage} {mailbox : ReplacementMailbox}
    (sound : Sound messages mailbox) {message : ServerMessage} {after : PendingReplacements}
    (inserts : Inserts mailbox.pending message after) :
    Sound (messages ++ [message]) { mailbox with pending := after } := by
  cases inserts with
  | put lower =>
    have shelf := mailbox.pending.shelf_put message
    refine ⟨sound.aligned.put message, ?_, fun root => ?_⟩
    · dsimp only
      rw [shelf]
      exact sound.balanced.put lower
    · dsimp only
      rw [shelf]
      exact (sound.latest root).put message
  | refused held higher other =>
    exact ⟨sound.aligned, sound.balanced.refuse held higher,
      fun root => (sound.latest root).refuse (other root)⟩

theorem Sound.pop {messages : List ServerMessage} {mailbox : ReplacementMailbox}
    (sound : Sound messages mailbox) : Sound messages (mailbox.step .popFront) := by
  rcases sound.aligned.popFront with ⟨_, empty⟩ | ⟨key, message, held, popped, aligned, shelf⟩
  · have same : mailbox.step .popFront = mailbox := by
      unfold ReplacementMailbox.step
      dsimp only
      rw [empty, Option.toList_none, List.append_nil]
    rw [same]
    exact sound
  · refine ⟨aligned, ?_, fun root => ?_⟩
    · unfold ReplacementMailbox.step
      dsimp only
      rw [shelf, popped]
      exact sound.balanced.take held
    · unfold ReplacementMailbox.step
      dsimp only
      rw [shelf, popped]
      exact (sound.latest root).take sound.balanced.keyed held

/-- The mailbox after a sequence of operations. -/
def ReplacementMailbox.after (ops : List MailboxOp) : ReplacementMailbox :=
  Foundation.Schedule.run ReplacementMailbox.step .new ops

theorem Sound.after (ops : List MailboxOp) :
    Sound (inserted ops) (ReplacementMailbox.after ops) := by
  induction ops using List.reverseRecOn with
  | nil => exact Sound.new
  | append_singleton ops op ih =>
    have step : ReplacementMailbox.after (ops ++ [op]) =
        (ReplacementMailbox.after ops).step op := by
      unfold ReplacementMailbox.after
      rw [run_append]
      rfl
    have keyed := ih.balanced.keyed
    rw [step, inserted, List.filterMap_append]
    cases op with
    | insertThreadState state => exact ih.insert (insertThreadState_inserts keyed state)
    | insertRuntimeOverview overview =>
      exact ih.insert (insertRuntimeOverview_inserts keyed overview)
    | insertThreadDeletionProgress progress =>
      exact ih.insert (insertThreadDeletionProgress_inserts keyed progress)
    | invalidateThreadCatalog => exact ih.insert (invalidateThreadCatalog_inserts keyed)
    | popFront =>
      have none_ : List.filterMap MailboxOp.inserted [MailboxOp.popFront] = [] := rfl
      rw [none_, List.append_nil]
      exact ih.pop

/-- **The replacement lane never loses the latest state.** After every sequence of operations the
order queue holds each pending key once and nothing else, and every popped message was inserted.
Once a pop finds nothing, the highest revision popped for an authority is the highest inserted for
it, and the last progress popped for a deletion is the last inserted. -/
theorem replacement_lane_keeps_latest (ops : List MailboxOp) :
    let mailbox := ReplacementMailbox.after ops
    mailbox.pending.order.Nodup ∧
    (∀ key, key ∈ mailbox.pending.order ↔ key ∈ mailbox.pending.messages.keys) ∧
    (∀ message ∈ mailbox.popped, message ∈ inserted ops) ∧
    (mailbox.pending.popFront.1 = none →
      (∀ thread, latestRevision (.thread thread) mailbox.popped =
        latestRevision (.thread thread) (inserted ops)) ∧
      latestRevision .runtimeOverview mailbox.popped =
        latestRevision .runtimeOverview (inserted ops) ∧
      ∀ root, lastMessage (.threadDeletion root) mailbox.popped =
        lastMessage (.threadDeletion root) (inserted ops)) := by
  intro mailbox
  have sound : Sound (inserted ops) mailbox := Sound.after ops
  refine ⟨sound.aligned.1, fun key => ?_, sound.balanced.known, fun drained => ?_⟩
  · rw [sound.aligned.2, PendingReplacements.mem_keys]
  · have empty (key : ReplacementKey) : mailbox.pending.shelf key = none := by
      rcases sound.aligned.popFront with ⟨order, _⟩ | ⟨_, message, _, popped, _⟩
      · have outside := (sound.aligned.2 key).not
        rw [order] at outside
        simpa using outside
      · rw [popped] at drained
        cases drained
    exact ⟨fun thread => sound.balanced.drained (empty _), sound.balanced.drained (empty _),
      fun root => (sound.latest root).drained (empty _)⟩

/-- A newer overview overtakes an older one that is inserted after it. -/
def overtakenOverview : List MailboxOp :=
  [.invalidateThreadCatalog, .insertRuntimeOverview ⟨5, []⟩, .insertRuntimeOverview ⟨4, []⟩,
    .popFront, .popFront]

theorem replacement_lane_keeps_latest_sample :
    latestRevision .runtimeOverview (ReplacementMailbox.after overtakenOverview).popped =
      latestRevision .runtimeOverview (inserted overtakenOverview) :=
  ((replacement_lane_keeps_latest overtakenOverview).2.2.2 rfl).2.1

end Giskard.Delivery
