import Mathlib
import Giskard.Analysis.LivePaging

/-!
# Replaying a snapshot

The unbounded snapshot expands every entry of a live turn into the events that its content
amounts to. Appending those events to a fresh turn builds the same content again: one entry
at a time, `Stage` follows what is known of an item while its events are replayed, and an
entry that expands to nothing but a start without a row goes back among the pending starts.

Command output is the exception. What the buffer keeps of a long output is longer than what
it keeps uncut, so a replay compacts it once more; that changes it only where a cut was moved
to a character boundary.
-/

set_option autoImplicit false

namespace Giskard

open Foundation

/-! ## The events of a turn -/

/-- An event with the descriptors published beside it. -/
structure Arrival where
  event : AgentEvent
  commandOutput : Option CommandOutputDescriptor
  toolOutput : Option ToolOutputDescriptor

/-- An arrival as the snapshot sends it. -/
def Arrival.toWire (crates : Crates) (arrival : Arrival) : Option WireAgentEvent :=
  match arrival.event with
  | .itemCompleted thread turn item => some (.itemCompleted thread turn
      (WireItem.fromItemWithOutputs crates item arrival.commandOutput
        arrival.toolOutput).withReasoningPreview)
  | event => WireAgentEvent.fromAgentEvent crates event

/-- Start, completion, remaining text, remaining output. SOURCE: live.rs:424-451. -/
def LiveItemEntry.arrivals (turn : LiveTurn) (entry : LiveItemEntry) : List Arrival :=
  (entry.startedEvent.map fun event => ⟨event, none, none⟩).toList ++
    (entry.completedEvent.map fun event => ⟨event, turn.commandOutputDescriptors entry.id,
      turn.toolOutputDescriptors entry.id⟩).toList ++
    entry.deltas.map fun delta => ⟨.itemDelta entry.thread entry.turn entry.id delta, none, none⟩

def LiveEntry.arrivals (turn : LiveTurn) : LiveEntry → List Arrival
  | .item entry => entry.arrivals turn
  | .event other => [⟨other, none, none⟩]

namespace LiveTurn

/-- What the unbounded snapshot expands to. SOURCE: live.rs:766-809. -/
def arrivals (turn : LiveTurn) : List Arrival :=
  (turn.turnStarted.map fun event => ⟨event, none, none⟩).toList ++
    turn.entries.flatMap (LiveEntry.arrivals turn) ++
    turn.pendingStarts.values.map (fun (thread, turnId, start) =>
      ⟨.itemStarted thread turnId start, none, none⟩) ++
    (turn.latestUsage.map fun event => ⟨event, none, none⟩).toList

/-- Append arrivals one after another. -/
def replay (turn : LiveTurn) (arrivals : List Arrival) : LiveTurn :=
  arrivals.foldl (fun turn arrival =>
    turn.appendEvent arrival.event arrival.commandOutput arrival.toolOutput) turn

@[simp] theorem replay_nil (turn : LiveTurn) : turn.replay [] = turn := rfl

@[simp] theorem replay_cons (turn : LiveTurn) (arrival : Arrival) (arrivals : List Arrival) :
    turn.replay (arrival :: arrivals) =
      (turn.appendEvent arrival.event arrival.commandOutput arrival.toolOutput).replay arrivals :=
  rfl

theorem replay_append (turn : LiveTurn) (left right : List Arrival) :
    turn.replay (left ++ right) = (turn.replay left).replay right :=
  List.foldl_append

end LiveTurn

section

variable {crates : Crates}

theorem LiveItemEntry.arrivals_toWire (turn : LiveTurn) (entry : LiveItemEntry) :
    (entry.arrivals turn).filterMap (Arrival.toWire crates) = entry.expand crates turn := by
  have started : (entry.startedEvent.map fun event => (⟨event, none, none⟩ : Arrival)).toList.filterMap
      (Arrival.toWire crates) =
        (entry.startedEvent.bind (WireAgentEvent.fromAgentEvent crates)).toList := by
    cases kept : entry.start with
    | none => simp [LiveItemEntry.startedEvent, kept]
    | some start =>
      simp [LiveItemEntry.startedEvent, kept]
      rfl
  have completed : (entry.completedEvent.map fun event => (⟨event,
        turn.commandOutputDescriptors entry.id,
        turn.toolOutputDescriptors entry.id⟩ : Arrival)).toList.filterMap (Arrival.toWire crates) =
      ((entry.wireCompleted crates turn).map fun item =>
        WireAgentEvent.itemCompleted entry.thread entry.turn item).toList := by
    cases kept : entry.completed with
    | none => simp [LiveItemEntry.completedEvent, LiveItemEntry.wireCompleted, kept]
    | some item =>
      simp [LiveItemEntry.completedEvent, LiveItemEntry.wireCompleted, kept]
      rfl
  rw [LiveItemEntry.arrivals, LiveItemEntry.expand, List.filterMap_append, List.filterMap_append,
    started, completed, List.filterMap_map]
  rfl

/-- Whether a snapshot without a cut carries the entry at an index. -/
abbrev carriesAt (turn : LiveTurn) : LiveEntry × ℕ → Bool := fun (_, index) => turn.carries 0 index

/-- What a snapshot makes of the entry at an index. -/
abbrev expandAt (crates : Crates) (turn : LiveTurn) : LiveEntry × ℕ → List WireAgentEvent :=
  fun (entry, _) => entry.expand crates turn

/-- With no more items than the tail, a snapshot sends exactly the arrivals of the turn. SOURCE:
live.rs:766-809. -/
theorem LiveTurn.arrivals_toWire {turn : LiveTurn} (valid : turn.Valid) (threadId : ThreadId)
    {tailItems : ℕ} (unbounded : turn.itemIds.length ≤ tailItems) :
    (LiveTurnState.snapshotTurn crates threadId turn tailItems).accumulated =
      turn.arrivals.filterMap (Arrival.toWire crates) := by
  have cut : turn.cut tailItems = 0 := by
    have short : turn.indexedItems.reverse.length ≤ max tailItems 1 := by
      rw [itemIds_eq, List.length_map] at unbounded
      rw [List.length_reverse]
      omega
    have none_ : turn.indexedItems.reverse[max tailItems 1]? = none :=
      List.getElem?_eq_none short
    simp only [LiveTurn.cut, none_]
    split
    · next some_ => cases some_
    · rfl
  have all : turn.entries.zipIdx.filter (carriesAt turn) = turn.entries.zipIdx := by
    rw [List.filter_eq_self]
    intro pair _
    simp [LiveTurn.carries]
  have entries : turn.entries.zipIdx.flatMap (expandAt crates turn) =
      (turn.entries.flatMap (LiveEntry.arrivals turn)).filterMap (Arrival.toWire crates) := by
    have first : turn.entries.zipIdx.flatMap (expandAt crates turn) =
        turn.entries.flatMap fun entry => entry.expand crates turn := by
      conv_rhs => rw [← List.zipIdx_map_fst 0 turn.entries, List.flatMap_map]
    rw [first, List.filterMap_flatMap]
    apply List.flatMap_congr
    intro kept member
    cases kept with
    | item entry => exact (entry.arrivals_toWire turn).symm
    | event core =>
      have plain := valid.plain core member
      cases core <;> first | rfl | cases plain
  have started : (turn.turnStarted.bind (WireAgentEvent.fromAgentEvent crates)).toList =
      ((turn.turnStarted.map fun event => (⟨event, none, none⟩ : Arrival)).toList.filterMap
        (Arrival.toWire crates)) := by
    cases kept : turn.turnStarted with
    | none => rfl
    | some core =>
      obtain ⟨thread, tid, rfl⟩ := valid.started core kept
      rfl
  have usage : (turn.latestUsage.bind (WireAgentEvent.fromAgentEvent crates)).toList =
      ((turn.latestUsage.map fun event => (⟨event, none, none⟩ : Arrival)).toList.filterMap
        (Arrival.toWire crates)) := by
    cases kept : turn.latestUsage with
    | none => rfl
    | some core =>
      obtain ⟨thread, tid, usage, window, model, rfl⟩ := valid.usage core kept
      rfl
  simp only [LiveTurnState.snapshotTurn, cut, all, LiveTurn.arrivals, List.filterMap_append,
    started, usage, entries, List.filterMap_map]
  rfl

end

/-! ## What completions leave behind -/

namespace LiveTurn

/-- A stored completion: a command's output is its descriptor's preview, a tool's output is
stripped. SOURCE: live.rs:283-312. -/
def StoredAs (turn : LiveTurn) (item : Item) : Prop :=
  match item.payload with
  | .commandExecution _ _ _ output _ _ _ _ _ _ _ =>
    ∃ descriptor, turn.commandOutputDescriptors item.id = some descriptor ∧
      output = descriptor.preview
  | .toolCall _ _ _ output _ _ _ _ _ => output = none
  | _ => True

/-- The starts that wait have no row, and completions are stored ones. -/
structure Stored (turn : LiveTurn) : Prop where
  waits : ∀ id thread turnId start,
    (id, thread, turnId, start) ∈ turn.pendingStarts.entries → startDrawsRow start = false
  stored : ∀ entry item, .item entry ∈ turn.entries → entry.completed = some item →
    turn.StoredAs item

theorem storedAs_congr {turn other : LiveTurn} {item : Item}
    (same : other.commandOutputDescriptors item.id = turn.commandOutputDescriptors item.id)
    (stored : turn.StoredAs item) : other.StoredAs item := by
  unfold StoredAs at stored ⊢
  split
  · next payload => rwa [payload, ← same] at stored
  · next payload => rwa [payload] at stored
  · trivial

theorem storedAs_storeOutputs (turn : LiveTurn) (item : Item)
    (commandOutput : Option CommandOutputDescriptor) (toolOutput : Option ToolOutputDescriptor) :
    (turn.storeOutputs item commandOutput toolOutput).1.StoredAs
      (turn.storeOutputs item commandOutput toolOutput).2 := by
  unfold storeOutputs
  split
  · cases commandOutput with
    | none => exact ⟨_, Function.update_self .., rfl⟩
    | some descriptor => exact ⟨descriptor, Function.update_self .., rfl⟩
  · rfl
  · next command tool =>
    unfold StoredAs
    split
    · next payload => exact absurd payload (command _ _ _ _ _ _ _ _ _ _ _)
    · next payload => exact absurd payload (tool _ _ _ _ _ _ _ _ _)
    · trivial

theorem storeOutputs_commandOutputDescriptors (turn : LiveTurn) (item : Item)
    (commandOutput : Option CommandOutputDescriptor) (toolOutput : Option ToolOutputDescriptor)
    {id : ItemId} (other : id ≠ item.id) :
    (turn.storeOutputs item commandOutput toolOutput).1.commandOutputDescriptors id =
      turn.commandOutputDescriptors id := by
  unfold storeOutputs
  split
  · exact Function.update_of_ne other _ _
  · rfl
  · rfl

theorem storeOutputs_of_storedAs {turn : LiveTurn} {item : Item} (stored : turn.StoredAs item)
    (other : LiveTurn) :
    (other.storeOutputs item (turn.commandOutputDescriptors item.id)
      (turn.toolOutputDescriptors item.id)).2 = item := by
  obtain ⟨id, harnessItemId, payload, createdAt⟩ := item
  unfold StoredAs at stored
  cases payload with
  | commandExecution =>
    obtain ⟨descriptor, kept, rfl⟩ := stored
    simp only [storeOutputs]
    simp only at kept
    rw [kept]
  | toolCall =>
    obtain rfl := stored
    rfl
  | _ => rfl

/-- The entries after a write: the other items' entries, and the written one. -/
theorem mem_modifyEntry {turn : LiveTurn} (valid : turn.Valid) {thread : ThreadId}
    {turnId : TurnId} {itemId : ItemId} {change : LiveItemEntry → LiveItemEntry}
    {entry : LiveItemEntry}
    (member : .item entry ∈ (turn.modifyEntry thread turnId itemId change).entries) :
    (.item entry ∈ turn.entries ∧ entry.id ≠ itemId) ∨
      ∃ old, entry = change old ∧ (.item old ∈ turn.entries ∨
        old = turn.freshEntry thread turnId itemId) := by
  cases found : turn.slots itemId with
  | some slot =>
    obtain ⟨old, item_eq, here, same⟩ := valid.itemAt_of_slots found
    rw [modifyEntry_of_slot found item_eq] at member
    dsimp only at member
    obtain ⟨index, at_index⟩ := List.mem_iff_getElem?.1 member
    by_cases written : index = slot
    · subst written
      rw [List.getElem?_set_self (valid.slot_lt found)] at at_index
      injection at_index with written
      injection written with written
      exact .inr ⟨old, written.symm, .inl (List.mem_of_getElem? here)⟩
    · rw [List.getElem?_set_ne (Ne.symm written)] at at_index
      refine .inl ⟨List.mem_of_getElem? at_index, ?_⟩
      intro same'
      exact written (valid.slot_unique at_index here (same'.trans same.symm))
  | none =>
    rw [modifyEntry_of_fresh found] at member
    dsimp only at member
    rcases List.mem_append.1 member with inside | pushed
    · refine .inl ⟨inside, ?_⟩
      rintro rfl
      obtain ⟨index, at_index⟩ := List.mem_iff_getElem?.1 inside
      rw [valid.slots_of_mem at_index] at found
      cases found
    · injection List.mem_singleton.1 pushed with pushed
      exact .inr ⟨_, pushed, .inr rfl⟩

theorem modifyEntry_pendingStarts {turn : LiveTurn} (valid : turn.Valid) {thread : ThreadId}
    {turnId : TurnId} {itemId : ItemId} {change : LiveItemEntry → LiveItemEntry} :
    (turn.modifyEntry thread turnId itemId change).pendingStarts.entries ⊆
        turn.pendingStarts.entries ∧
      (turn.modifyEntry thread turnId itemId change).commandOutputDescriptors =
        turn.commandOutputDescriptors := by
  cases found : turn.slots itemId with
  | some slot =>
    obtain ⟨old, item_eq, -, -⟩ := valid.itemAt_of_slots found
    rw [modifyEntry_of_slot found item_eq]
    exact ⟨List.Subset.refl _, rfl⟩
  | none =>
    rw [modifyEntry_of_fresh found]
    exact ⟨List.filter_sublist.subset, rfl⟩

theorem stored_modifyEntry {turn : LiveTurn} (valid : turn.Valid) (stored : turn.Stored)
    {thread : ThreadId} {turnId : TurnId} {itemId : ItemId}
    {change : LiveItemEntry → LiveItemEntry}
    (keeps : ∀ entry, (change entry).completed = entry.completed) :
    (turn.modifyEntry thread turnId itemId change).Stored := by
  obtain ⟨pending, descriptors⟩ := @modifyEntry_pendingStarts turn valid thread turnId itemId change
  refine ⟨fun id thread turnId start member => stored.waits id thread turnId start
    (pending member), ?_⟩
  intro entry item member completed
  refine storedAs_congr (congrFun descriptors item.id) ?_
  rcases mem_modifyEntry valid member with ⟨inside, -⟩ | ⟨old, rfl, inside | rfl⟩
  · exact stored.stored entry item inside completed
  · rw [keeps] at completed
    exact stored.stored old item inside completed
  · rw [keeps, freshEntry_completed] at completed
    cases completed

theorem stored_completeItem {turn : LiveTurn} (valid : turn.Valid) (stored : turn.Stored)
    (thread : ThreadId) (turnId : TurnId) (item : Item)
    (commandOutput : Option CommandOutputDescriptor) (toolOutput : Option ToolOutputDescriptor) :
    (turn.completeItem thread turnId item commandOutput toolOutput).Stored := by
  obtain ⟨entries, slots, pending, started, usage, same⟩ :=
    turn.storeOutputs_spec item commandOutput toolOutput
  have written := storedAs_storeOutputs turn item commandOutput toolOutput
  have others := fun (id : ItemId) (other : id ≠ item.id) =>
    storeOutputs_commandOutputDescriptors turn item commandOutput toolOutput other
  unfold completeItem
  revert entries slots pending started usage same written others
  generalize turn.storeOutputs item commandOutput toolOutput = outputs
  obtain ⟨next, kept⟩ := outputs
  intro entries slots pending started usage same written others
  dsimp only at entries slots pending started usage same written others ⊢
  have valid' := valid.congr entries slots pending started usage
  obtain ⟨pending', descriptors⟩ := @modifyEntry_pendingStarts next valid' thread turnId kept.id
    fun entry => { entry with completed := some kept, text := [], output := [] }
  refine ⟨fun id thread turnId start member => stored.waits id thread turnId start
    (pending ▸ pending' member), ?_⟩
  intro entry done member completed
  refine storedAs_congr (congrFun descriptors done.id) ?_
  rcases mem_modifyEntry valid' member with ⟨inside, other⟩ | ⟨old, rfl, -⟩
  · rw [entries] at inside
    have id := valid.completed_id entry inside done completed
    refine storedAs_congr (others done.id ?_) (stored.stored entry done inside completed)
    rw [id, ← same]
    exact other
  · obtain rfl := Option.some.inj completed
    exact written

theorem stored_appendEvent {turn : LiveTurn} (valid : turn.Valid) (stored : turn.Stored)
    (event : AgentEvent) (commandOutput : Option CommandOutputDescriptor)
    (toolOutput : Option ToolOutputDescriptor) :
    (turn.appendEvent event commandOutput toolOutput).Stored := by
  have pushed (other : AgentEvent) :
      Stored { turn with entries := turn.entries ++ [.event other] } := by
    refine ⟨stored.waits, ?_⟩
    intro entry item member completed
    refine storedAs_congr rfl (stored.stored entry item ?_ completed)
    simpa using member
  cases event with
  | turnStarted thread tid => exact ⟨stored.waits, stored.stored⟩
  | turnUsageUpdated thread tid usage window model => exact ⟨stored.waits, stored.stored⟩
  | itemStarted thread tid start =>
    simp only [appendEvent, startItem]
    split
    · next waits =>
      refine ⟨?_, stored.stored⟩
      intro id thread turnId other member
      rcases IndexMap.mem_insert.1 member with ⟨-, same⟩ | ⟨-, inside⟩
      · injection same with _ same
        injection same with _ same
        subst same
        simp only [Bool.and_eq_true, Bool.not_eq_true'] at waits
        exact waits.2
      · exact stored.waits id thread turnId other inside
    · exact stored_modifyEntry valid stored fun _ => rfl
  | itemDelta thread tid itemId delta =>
    simp only [appendEvent]
    refine stored_modifyEntry valid stored ?_
    intro entry
    cases delta <;> rfl
  | itemCompleted thread tid item =>
    exact stored_completeItem valid stored thread tid item commandOutput toolOutput
  | _ => exact pushed _

/-! ## Replaying one item -/

/-- What a turn knows of an item: nothing, a start that waits for a row, or an entry at the
tail. -/
inductive Stage where
  | absent
  | waiting (thread : ThreadId) (turnId : TurnId) (start : ItemStart)
  | placed (entry : LiveItemEntry)

/-- The turn in which an item, otherwise unknown, has reached a stage. -/
def Stage.turn (turn : LiveTurn) (id : ItemId) : Stage → LiveTurn
  | .absent => turn
  | .waiting thread turnId start =>
    { turn with pendingStarts := turn.pendingStarts.insert id (thread, turnId, start) }
  | .placed entry =>
    { turn with
      entries := turn.entries ++ [.item entry]
      slots := Function.update turn.slots id (some turn.entries.length) }

/-- The entry that the next event of the item writes to. -/
def Stage.entry (thread : ThreadId) (turnId : TurnId) (id : ItemId) : Stage → LiveItemEntry
  | .absent => ⟨id, thread, turnId, none, none, [], []⟩
  | .waiting thread turnId start => ⟨id, thread, turnId, some start, none, [], []⟩
  | .placed entry => entry

/-- An item of which the turn knows nothing. -/
structure Unknown (turn : LiveTurn) (id : ItemId) : Prop where
  slot : turn.slots id = none
  pending : id ∉ turn.pendingStarts.keys

section

variable {turn : LiveTurn} {id : ItemId}

theorem Stage.modifyEntry (unknown : turn.Unknown id) (stage : Stage) (thread : ThreadId)
    (turnId : TurnId) (change : LiveItemEntry → LiveItemEntry) :
    (stage.turn turn id).modifyEntry thread turnId id change =
      (Stage.placed (change (stage.entry thread turnId id))).turn turn id := by
  cases stage with
  | absent =>
    have fresh : turn.freshEntry thread turnId id = ⟨id, thread, turnId, none, none, [], []⟩ := by
      rw [freshEntry, IndexMap.get?_eq_none.2 unknown.pending]
    simp only [Stage.turn, Stage.entry]
    rw [modifyEntry_of_fresh unknown.slot, fresh, IndexMap.shiftRemove_of_absent unknown.pending]
  | waiting thread' turnId' start =>
    simp only [Stage.turn, Stage.entry]
    rw [modifyEntry_of_fresh (by exact unknown.slot), freshEntry]
    dsimp only
    rw [IndexMap.get?_insert_self, IndexMap.shiftRemove_insert unknown.pending]
  | placed entry =>
    simp only [Stage.turn, Stage.entry]
    have here : itemAt
        { turn with
          entries := turn.entries ++ [.item entry]
          slots := Function.update turn.slots id (some turn.entries.length) }
        turn.entries.length = some entry := by
      simp [itemAt, LiveEntry.asItem]
    rw [modifyEntry_of_slot (Function.update_self ..) here]
    dsimp only
    rw [List.set_append_right _ _ le_rfl, Nat.sub_self]
    rfl

/-- A start without a row waits, one with a row is placed. SOURCE: live.rs:252-273. -/
theorem Stage.startItem (unknown : turn.Unknown id) (thread : ThreadId) (turnId : TurnId)
    {start : ItemStart} (same : start.id = id) :
    turn.startItem thread turnId start =
      (if startDrawsRow start then .placed ⟨id, thread, turnId, some start, none, [], []⟩
        else .waiting thread turnId start : Stage).turn turn id := by
  subst same
  unfold LiveTurn.startItem
  rw [unknown.slot]
  cases draws : startDrawsRow start with
  | true =>
    exact Stage.modifyEntry unknown .absent thread turnId fun entry =>
      { entry with start := some start }
  | false => rfl

theorem unknown_storeOutputs (unknown : turn.Unknown id) (item : Item)
    (commandOutput : Option CommandOutputDescriptor) (toolOutput : Option ToolOutputDescriptor) :
    (turn.storeOutputs item commandOutput toolOutput).1.Unknown id := by
  obtain ⟨-, slots, pending, -⟩ := turn.storeOutputs_spec item commandOutput toolOutput
  exact ⟨by rw [slots]; exact unknown.slot, by rw [pending]; exact unknown.pending⟩

theorem Stage.storeOutputs (stage : Stage) (item : Item)
    (commandOutput : Option CommandOutputDescriptor) (toolOutput : Option ToolOutputDescriptor) :
    (stage.turn turn id).storeOutputs item commandOutput toolOutput =
      (stage.turn (turn.storeOutputs item commandOutput toolOutput).1 id,
        (turn.storeOutputs item commandOutput toolOutput).2) := by
  obtain ⟨itemId, harnessItemId, payload, createdAt⟩ := item
  cases stage <;> cases payload <;> rfl

end

end LiveTurn

/-! ## What an entry becomes -/

/-- Whether an entry expands to a start that draws a row, a completion or a delta. -/
def LiveItemEntry.isShown (entry : LiveItemEntry) : Bool :=
  entry.start.any startDrawsRow || entry.completed.isSome || !entry.text.isEmpty ||
    !entry.output.isEmpty

/-- The entry that its own events build. -/
def LiveItemEntry.rebuilt (entry : LiveItemEntry) : LiveItemEntry :=
  { entry with output := compactCommandOutput entry.output }

/-- The stage that an entry's own events reach. -/
def LiveItemEntry.stage (entry : LiveItemEntry) : LiveTurn.Stage :=
  if entry.isShown then .placed entry.rebuilt
  else match entry.start with
    | some start => .waiting entry.thread entry.turn start
    | none => .absent

theorem LiveItemEntry.pushOutput_of_empty {entry : LiveItemEntry} (empty : entry.output = [])
    (chunk : List Char) :
    entry.pushOutput chunk = { entry with output := compactCommandOutput chunk } := by
  rw [LiveItemEntry.pushOutput, empty, List.nil_append, compactCommandOutput]
  by_cases fits : byteLen chunk ≤ maxLiveCommandOutput
  · rw [if_neg (by omega), if_pos fits]
  · rw [if_pos (by omega), if_neg fits]

theorem LiveItemEntry.pushText_of_empty {entry : LiveItemEntry} (empty : entry.text = [])
    (chunk : List Char) : entry.pushText chunk = { entry with text := chunk } := by
  simp [LiveItemEntry.pushText, empty]

namespace LiveTurn

open LiveItemEntry

/-- The stage after the start, a function of the start alone. -/
def startedStage (thread : ThreadId) (turnId : TurnId) (id : ItemId) (start : Option ItemStart) :
    Stage :=
  match start with
  | none => .absent
  | some start =>
    if startDrawsRow start then .placed ⟨id, thread, turnId, some start, none, [], []⟩
    else .waiting thread turnId start

theorem startedStage_entry (thread : ThreadId) (turnId : TurnId) (id : ItemId)
    (start : Option ItemStart) :
    (startedStage thread turnId id start).entry thread turnId id =
      ⟨id, thread, turnId, start, none, [], []⟩ := by
  unfold startedStage
  split
  · rfl
  · split <;> rfl

section

variable {other : LiveTurn} {entry : LiveItemEntry} (unknown : other.Unknown entry.id)
  (entryValid : EntryValid entry)

include unknown entryValid

theorem replay_started :
    other.replay (entry.startedEvent.map fun event => ⟨event, none, none⟩).toList =
      (startedStage entry.thread entry.turn entry.id entry.start).turn other entry.id := by
  cases kept : entry.start with
  | none =>
    simp only [startedEvent, kept]
    rfl
  | some start =>
    simp only [startedEvent, kept, startedStage, Option.map_some, Option.toList_some, replay_cons,
      replay_nil, appendEvent]
    exact Stage.startItem unknown entry.thread entry.turn (entryValid.start_id start kept)

/-- The completion is stored again, and the descriptors beside it. -/
theorem replay_completed {turn : LiveTurn}
    (stored : ∀ item, entry.completed = some item → turn.StoredAs item) :
    ∃ next : LiveTurn, next.Unknown entry.id ∧ next.entries = other.entries ∧
      next.pendingStarts = other.pendingStarts ∧ next.turnStarted = other.turnStarted ∧
      next.latestUsage = other.latestUsage ∧ ∃ stage : Stage,
        ((startedStage entry.thread entry.turn entry.id entry.start).turn other entry.id).replay
          (entry.completedEvent.map fun event => ⟨event, turn.commandOutputDescriptors entry.id,
            turn.toolOutputDescriptors entry.id⟩).toList = stage.turn next entry.id ∧
        stage.entry entry.thread entry.turn entry.id =
          ⟨entry.id, entry.thread, entry.turn, entry.start, entry.completed, [], []⟩ ∧
        stage = if entry.completed.isSome then
            .placed ⟨entry.id, entry.thread, entry.turn, entry.start, entry.completed, [], []⟩
          else startedStage entry.thread entry.turn entry.id entry.start := by
  have base := startedStage_entry entry.thread entry.turn entry.id entry.start
  cases kept : entry.completed with
  | none =>
    refine ⟨other, unknown, rfl, rfl, rfl, rfl, _, ?_, base, rfl⟩
    simp only [completedEvent, kept]
    rfl
  | some item =>
    have id := entryValid.completed_id item kept
    have same := storeOutputs_of_storedAs (stored item kept) other
    rw [id] at same
    obtain ⟨entries, slots, pending, started, usage, -⟩ := other.storeOutputs_spec item
      (turn.commandOutputDescriptors entry.id) (turn.toolOutputDescriptors entry.id)
    have unknown' := unknown_storeOutputs unknown item (turn.commandOutputDescriptors entry.id)
      (turn.toolOutputDescriptors entry.id)
    refine ⟨_, unknown', entries, pending, started, usage,
      .placed ⟨entry.id, entry.thread, entry.turn, entry.start, some item, [], []⟩, ?_, rfl, rfl⟩
    simp only [completedEvent, kept, Option.map_some, Option.toList_some, replay_cons, replay_nil,
      appendEvent, completeItem]
    rw [Stage.storeOutputs]
    dsimp only
    rw [same, id, Stage.modifyEntry unknown', base]

end

/-- Replaying an entry's events into a turn that does not know the item. SOURCE:
live.rs:423-450, 569-596. -/
theorem replay_entry {turn other : LiveTurn} {entry : LiveItemEntry}
    (unknown : other.Unknown entry.id) (entryValid : EntryValid entry)
    (stored : ∀ item, entry.completed = some item → turn.StoredAs item) :
    ∃ next : LiveTurn, next.Unknown entry.id ∧ next.entries = other.entries ∧
      next.pendingStarts = other.pendingStarts ∧ next.turnStarted = other.turnStarted ∧
      next.latestUsage = other.latestUsage ∧
      other.replay (entry.arrivals turn) = entry.stage.turn next entry.id := by
  obtain ⟨next, unknown', entries, pending, started, usage, stage, result, base, stage_eq⟩ :=
    replay_completed unknown entryValid stored
  refine ⟨next, unknown', entries, pending, started, usage, ?_⟩
  rw [LiveItemEntry.arrivals, replay_append, replay_append, replay_started unknown entryValid,
    result, LiveItemEntry.deltas, List.map_append, replay_append]
  -- the remaining text, then the remaining output
  obtain ⟨texted, result, base, texted_eq⟩ : ∃ texted : Stage,
      (stage.turn next entry.id).replay ((if entry.text.isEmpty then []
          else [ItemDelta.text (String.ofList entry.text)]).map fun delta =>
            ⟨.itemDelta entry.thread entry.turn entry.id delta, none, none⟩) =
        texted.turn next entry.id ∧
      texted.entry entry.thread entry.turn entry.id =
        ⟨entry.id, entry.thread, entry.turn, entry.start, entry.completed, entry.text, []⟩ ∧
      texted = if entry.text.isEmpty then stage else
        .placed ⟨entry.id, entry.thread, entry.turn, entry.start, entry.completed, entry.text, []⟩
      := by
    cases empty : entry.text.isEmpty with
    | true =>
      rw [List.isEmpty_iff.1 empty]
      exact ⟨stage, rfl, base, rfl⟩
    | false =>
      refine ⟨_, ?_, rfl, rfl⟩
      simp only [Bool.false_eq_true, if_false, List.map_cons, List.map_nil, replay_cons,
        replay_nil, appendEvent]
      rw [Stage.modifyEntry unknown', base, pushText_of_empty rfl, String.toList_ofList]
  rw [result]
  cases empty : entry.output.isEmpty with
  | true =>
    have output : compactCommandOutput entry.output = entry.output := by
      rw [List.isEmpty_iff.1 empty]
      rfl
    simp only [if_true, List.map_nil, replay_nil]
    rw [texted_eq, stage_eq, LiveItemEntry.stage, isShown, LiveItemEntry.rebuilt, output, empty]
    congr 1
    have nothing := List.isEmpty_iff.1 empty
    cases texts : entry.text.isEmpty with
    | false => simp [nothing]
    | true =>
      cases done : entry.completed with
      | some item => simp [List.isEmpty_iff.1 texts, nothing]
      | none =>
        cases begun : entry.start with
        | none => simp [startedStage]
        | some start =>
          cases draws : startDrawsRow start <;>
            simp [startedStage, draws, List.isEmpty_iff.1 texts, nothing]
  | false =>
    simp only [Bool.false_eq_true, if_false, List.map_cons, List.map_nil, replay_cons, replay_nil,
      appendEvent]
    rw [Stage.modifyEntry unknown', base, pushOutput_of_empty rfl, String.toList_ofList]
    simp only [LiveItemEntry.stage, isShown, empty, Bool.not_false, Bool.or_true, if_true]
    rfl

end LiveTurn

/-! ## Replaying the turn -/

/-- The entry that a replay makes of an entry, if any. -/
def LiveEntry.rebuilt : LiveEntry → Option LiveEntry
  | .item entry => if entry.isShown then some (.item entry.rebuilt) else none
  | .event other => some (.event other)

/-- The pending start that a replay makes of an entry, if any. -/
def LiveEntry.waiting : LiveEntry → Option (ItemId × ThreadId × TurnId × ItemStart)
  | .item entry =>
    if entry.isShown then none
    else entry.start.map fun start => (entry.id, entry.thread, entry.turn, start)
  | .event _ => none

namespace LiveTurn

/-- A turn built from the events of a list of entries and of pending starts. -/
structure Rebuilt (done : List LiveEntry) (starts : List (ItemId × ThreadId × TurnId × ItemStart))
    (turn : LiveTurn) : Prop where
  valid : turn.Valid
  entries : turn.entries = done.filterMap LiveEntry.rebuilt
  pending : turn.pendingStarts.entries = done.filterMap LiveEntry.waiting ++ starts

/-- The items of a list of entries. -/
def idsOf (entries : List LiveEntry) : List ItemId :=
  (entries.filterMap LiveEntry.asItem).map LiveItemEntry.id

theorem mem_idsOf {entries : List LiveEntry} {id : ItemId} :
    id ∈ idsOf entries ↔ ∃ entry, .item entry ∈ entries ∧ entry.id = id := by
  simp only [idsOf, List.mem_map, List.mem_filterMap, asItem_eq_some]
  constructor
  · rintro ⟨entry, ⟨kept, member, rfl⟩, same⟩
    exact ⟨entry, member, same⟩
  · rintro ⟨entry, member, same⟩
    exact ⟨entry, ⟨_, member, rfl⟩, same⟩

namespace Rebuilt

variable {done : List LiveEntry} {starts : List (ItemId × ThreadId × TurnId × ItemStart)}
  {turn : LiveTurn}

/-- What was replayed about other items says nothing about an item. -/
theorem unknown (rebuilt : Rebuilt done starts turn) {id : ItemId} (absent : id ∉ idsOf done)
    (waits : id ∉ starts.map Prod.fst) : turn.Unknown id := by
  constructor
  · cases found : turn.slots id with
    | none => rfl
    | some slot =>
      obtain ⟨entry, -, here, same⟩ := rebuilt.valid.itemAt_of_slots found
      have member := List.mem_of_getElem? here
      rw [rebuilt.entries, List.mem_filterMap] at member
      obtain ⟨kept, inside, result⟩ := member
      cases kept with
      | event other => cases result
      | item old =>
        simp only [LiveEntry.rebuilt] at result
        split at result
        · injection result with result
          injection result with result
          subst result
          exact absurd (mem_idsOf.2 ⟨old, inside, same⟩) absent
        · cases result
  · intro member
    rw [IndexMap.keys, rebuilt.pending, List.map_append, List.mem_append] at member
    rcases member with inside | inside
    · obtain ⟨value, waiting, same⟩ := List.mem_map.1 inside
      obtain ⟨kept, there, result⟩ := List.mem_filterMap.1 waiting
      cases kept with
      | event other => cases result
      | item old =>
        simp only [LiveEntry.waiting] at result
        split at result
        · cases result
        · obtain ⟨start, -, rfl⟩ := Option.map_eq_some_iff.1 result
          exact absent (mem_idsOf.2 ⟨old, there, same⟩)
    · exact waits inside

theorem valid_replay {turn : LiveTurn} (valid : turn.Valid) (arrivals : List Arrival) :
    (turn.replay arrivals).Valid := by
  induction arrivals generalizing turn with
  | nil => exact valid
  | cons arrival arrivals ih => exact ih (valid_appendEvent valid _ _ _)

theorem appendEvent (rebuilt : Rebuilt done [] turn) {other : AgentEvent}
    (plain : isPlain other = true) :
    Rebuilt (done ++ [.event other]) [] (turn.appendEvent other none none) ∧
      (turn.appendEvent other none none).turnStarted = turn.turnStarted ∧
      (turn.appendEvent other none none).latestUsage = turn.latestUsage := by
  have valid := valid_appendEvent rebuilt.valid other none none
  have pushed : turn.appendEvent other none none =
      { turn with entries := turn.entries ++ [.event other] } := by
    cases other <;> first | rfl | cases plain
  rw [pushed] at valid ⊢
  refine ⟨⟨valid, ?_, ?_⟩, rfl, rfl⟩
  · rw [rebuilt.entries, List.filterMap_append]
    rfl
  · rw [rebuilt.pending, List.filterMap_append]
    simp [LiveEntry.waiting]

theorem replayItem (rebuilt : Rebuilt done [] turn) {source : LiveTurn} {entry : LiveItemEntry}
    (absent : entry.id ∉ idsOf done) (entryValid : EntryValid entry)
    (stored : ∀ item, entry.completed = some item → source.StoredAs item) :
    Rebuilt (done ++ [.item entry]) [] (turn.replay (entry.arrivals source)) ∧
      (turn.replay (entry.arrivals source)).turnStarted = turn.turnStarted ∧
      (turn.replay (entry.arrivals source)).latestUsage = turn.latestUsage := by
  have unknown := rebuilt.unknown absent (by simp)
  have valid := valid_replay rebuilt.valid (entry.arrivals source)
  obtain ⟨next, unknown', entries, pending, started, usage, result⟩ :=
    replay_entry unknown entryValid stored
  rw [result] at valid ⊢
  unfold LiveItemEntry.stage at valid ⊢
  cases shown : entry.isShown with
  | true =>
    simp only [shown, if_true] at valid ⊢
    refine ⟨⟨valid, ?_, ?_⟩, started, usage⟩
    · simp [Stage.turn, entries, rebuilt.entries, LiveEntry.rebuilt, shown]
    · simp [Stage.turn, pending, rebuilt.pending, LiveEntry.waiting, shown]
  | false =>
    simp only [shown, Bool.false_eq_true, if_false] at valid ⊢
    cases begun : entry.start with
    | none =>
      simp only [begun] at valid ⊢
      refine ⟨⟨valid, ?_, ?_⟩, started, usage⟩
      · simp [Stage.turn, entries, rebuilt.entries, LiveEntry.rebuilt, shown]
      · simp [Stage.turn, pending, rebuilt.pending, LiveEntry.waiting, shown, begun]
    | some start =>
      simp only [begun] at valid ⊢
      refine ⟨⟨valid, ?_, ?_⟩, started, usage⟩
      · simp [Stage.turn, entries, rebuilt.entries, LiveEntry.rebuilt, shown]
      · simp only [Stage.turn]
        rw [IndexMap.entries_insert_of_absent unknown'.pending, pending, rebuilt.pending]
        simp [LiveEntry.waiting, shown, begun]

/-- The entries of a turn, one after another. -/
theorem entries_replay {source : LiveTurn} (valid : source.Valid) (stored : source.Stored)
    (rebuilt : Rebuilt done [] turn) {rest : List LiveEntry}
    (split : source.entries = done ++ rest) :
    Rebuilt source.entries [] (turn.replay (rest.flatMap (LiveEntry.arrivals source))) ∧
      (turn.replay (rest.flatMap (LiveEntry.arrivals source))).turnStarted = turn.turnStarted ∧
      (turn.replay (rest.flatMap (LiveEntry.arrivals source))).latestUsage = turn.latestUsage := by
  induction rest generalizing done turn with
  | nil =>
    rw [List.append_nil] at split
    exact ⟨split ▸ rebuilt, rfl, rfl⟩
  | cons entry rest ih =>
    rw [List.flatMap_cons, replay_append]
    have member : entry ∈ source.entries := by simp [split]
    have next : Rebuilt (done ++ [entry]) [] (turn.replay (entry.arrivals source)) ∧
        (turn.replay (entry.arrivals source)).turnStarted = turn.turnStarted ∧
        (turn.replay (entry.arrivals source)).latestUsage = turn.latestUsage := by
      cases entry with
      | event other => exact rebuilt.appendEvent (valid.plain other member)
      | item entry =>
        have distinct := itemIds_nodup valid
        have absent : entry.id ∉ idsOf done := by
          rw [itemIds, split, List.filterMap_append, List.map_append, List.nodup_append] at distinct
          intro inside
          exact distinct.2.2 entry.id inside entry.id (by simp [LiveEntry.asItem]) rfl
        exact rebuilt.replayItem absent (valid.entryValid member) fun item completed =>
          stored.stored entry item member completed
    obtain ⟨rebuilt', started, usage⟩ := next
    rw [← started, ← usage]
    exact ih rebuilt' (by rw [split, List.append_assoc]; rfl)

/-- The pending starts of a turn, one after another. -/
theorem starts_replay {source : LiveTurn} (valid : source.Valid) (stored : source.Stored)
    (rebuilt : Rebuilt source.entries starts turn)
    {rest : List (ItemId × ThreadId × TurnId × ItemStart)}
    (split : source.pendingStarts.entries = starts ++ rest) :
    Rebuilt source.entries source.pendingStarts.entries (turn.replay (rest.map fun entry =>
        ⟨.itemStarted entry.2.1 entry.2.2.1 entry.2.2.2, none, none⟩)) ∧
      (turn.replay (rest.map fun entry =>
        ⟨.itemStarted entry.2.1 entry.2.2.1 entry.2.2.2, none, none⟩)).turnStarted =
          turn.turnStarted ∧
      (turn.replay (rest.map fun entry =>
        ⟨.itemStarted entry.2.1 entry.2.2.1 entry.2.2.2, none, none⟩)).latestUsage =
          turn.latestUsage := by
  induction rest generalizing starts turn with
  | nil =>
    rw [List.append_nil] at split
    exact ⟨split ▸ rebuilt, rfl, rfl⟩
  | cons entry rest ih =>
    obtain ⟨id, thread, turnId, start⟩ := entry
    have member : (id, thread, turnId, start) ∈ source.pendingStarts.entries := by simp [split]
    have free := valid.pending_slot id (List.mem_map_of_mem member)
    have absent : id ∉ idsOf source.entries := by
      intro inside
      obtain ⟨entry, there, rfl⟩ := mem_idsOf.1 inside
      obtain ⟨index, here⟩ := List.mem_iff_getElem?.1 there
      rw [valid.slots_of_mem here] at free
      cases free
    have waits : id ∉ starts.map Prod.fst := by
      have distinct := source.pendingStarts.nodup
      rw [split, List.map_append, List.nodup_append] at distinct
      intro inside
      exact distinct.2.2 id inside id (by simp) rfl
    have unknown := rebuilt.unknown absent waits
    have hidden := stored.waits id thread turnId start member
    have same := valid.pending_id id thread turnId start member
    have result := Stage.startItem unknown thread turnId same
    rw [hidden, if_neg (by decide)] at result
    have rebuilt' : Rebuilt source.entries (starts ++ [(id, thread, turnId, start)])
        (turn.startItem thread turnId start) := by
      refine ⟨valid_startItem rebuilt.valid thread turnId start, ?_, ?_⟩
      · rw [result]
        exact rebuilt.entries
      · rw [result]
        simp only [Stage.turn]
        rw [IndexMap.entries_insert_of_absent unknown.pending, rebuilt.pending, List.append_assoc]
    have later := ih rebuilt' (by rw [split, List.append_assoc]; rfl)
    rw [List.map_cons, replay_cons]
    refine ⟨later.1, later.2.1.trans ?_, later.2.2.trans ?_⟩
    · rw [result]
      rfl
    · rw [result]
      rfl

end Rebuilt

/-- The turn that the unbounded snapshot of a turn builds. -/
def replayed (turn : LiveTurn) : LiveTurn :=
  (new turn.turnId turn.userInput).replay turn.arrivals

theorem rebuilt_replayed {turn : LiveTurn} (valid : turn.Valid) (stored : turn.Stored) :
    Rebuilt turn.entries turn.pendingStarts.entries turn.replayed ∧
      turn.replayed.turnStarted = turn.turnStarted ∧
      turn.replayed.latestUsage = turn.latestUsage := by
  have begun : ∃ first, (new turn.turnId turn.userInput).replay
      (turn.turnStarted.map fun event => ⟨event, none, none⟩).toList = first ∧
      Rebuilt [] [] first ∧ first.turnStarted = turn.turnStarted ∧ first.latestUsage = none := by
    refine ⟨_, rfl, ?_⟩
    have empty := valid_new turn.turnId turn.userInput
    cases kept : turn.turnStarted with
    | none => exact ⟨⟨empty, rfl, rfl⟩, rfl, rfl⟩
    | some event =>
      obtain ⟨thread, tid, rfl⟩ := valid.started event kept
      exact ⟨⟨Rebuilt.valid_replay empty _, rfl, rfl⟩, rfl, rfl⟩
  obtain ⟨first, first_eq, rebuilt, started, usage⟩ := begun
  obtain ⟨rebuilt, started', usage'⟩ := rebuilt.entries_replay valid stored rfl
  obtain ⟨rebuilt, started'', usage''⟩ := rebuilt.starts_replay valid stored rfl
  have values : turn.pendingStarts.values.map (fun (thread, turnId, start) =>
        (⟨.itemStarted thread turnId start, none, none⟩ : Arrival)) =
      turn.pendingStarts.entries.map fun entry =>
        ⟨.itemStarted entry.2.1 entry.2.2.1 entry.2.2.2, none, none⟩ := by
    rw [IndexMap.values, List.map_map]
    rfl
  rw [replayed, arrivals, replay_append, replay_append, replay_append, first_eq, values]
  rw [started', started] at started''
  rw [usage', usage] at usage''
  cases kept : turn.latestUsage with
  | none => exact ⟨rebuilt, started'', usage''⟩
  | some event =>
    obtain ⟨thread, tid, amount, window, model, rfl⟩ := valid.usage event kept
    exact ⟨⟨Rebuilt.valid_replay rebuilt.valid _, rebuilt.entries, rebuilt.pending⟩, started'',
      rfl⟩

/-! ## What a turn says of an item -/

/-- The start of an item, whether it has a row or waits for one. -/
def startOf (turn : LiveTurn) (id : ItemId) : Option ItemStart :=
  match turn.item id with
  | some entry => entry.start
  | none => (turn.pendingStarts.get? id).map fun (_, _, start) => start

def completedOf (turn : LiveTurn) (id : ItemId) : Option Item :=
  (turn.item id).bind LiveItemEntry.completed

/-- The text received since the latest completion. -/
def textOf (turn : LiveTurn) (id : ItemId) : List Char :=
  ((turn.item id).map LiveItemEntry.text).getD []

/-- The command output received since the latest completion, as far as it is kept. -/
def outputOf (turn : LiveTurn) (id : ItemId) : List Char :=
  ((turn.item id).map LiveItemEntry.output).getD []

theorem item_eq_some {turn : LiveTurn} (valid : turn.Valid) {id : ItemId}
    {entry : LiveItemEntry} :
    turn.item id = some entry ↔ .item entry ∈ turn.entries ∧ entry.id = id := by
  constructor
  · intro found
    obtain ⟨slot, at_slot, here⟩ := Option.bind_eq_some_iff.1 found
    obtain ⟨other, item_eq, there, same⟩ := valid.itemAt_of_slots at_slot
    obtain rfl := Option.some.inj (item_eq.symm.trans here)
    exact ⟨List.mem_of_getElem? there, same⟩
  · rintro ⟨member, rfl⟩
    obtain ⟨slot, here⟩ := List.mem_iff_getElem?.1 member
    rw [item, valid.slots_of_mem here, Option.bind_some, itemAt, here]
    rfl

theorem entry_unique {turn : LiveTurn} (valid : turn.Valid) {left right : LiveItemEntry}
    (hl : .item left ∈ turn.entries) (hr : .item right ∈ turn.entries)
    (same : left.id = right.id) : left = right := by
  have first := (item_eq_some valid).2 ⟨hl, same⟩
  have second := (item_eq_some valid).2 ⟨hr, rfl⟩
  exact Option.some.inj (first.symm.trans second)

section

variable {turn other : LiveTurn}
  (rebuilt : Rebuilt turn.entries turn.pendingStarts.entries other)

include rebuilt

theorem Rebuilt.item_of_shown {entry : LiveItemEntry} (member : .item entry ∈ turn.entries)
    (shown : entry.isShown = true) : other.item entry.id = some entry.rebuilt := by
  rw [item_eq_some rebuilt.valid, rebuilt.entries, List.mem_filterMap]
  exact ⟨⟨.item entry, member, by simp [LiveEntry.rebuilt, shown]⟩, rfl⟩

theorem Rebuilt.item_eq_none {id : ItemId}
    (hidden : ∀ entry, .item entry ∈ turn.entries → entry.id = id → entry.isShown = false) :
    other.item id = none := by
  cases found : other.item id with
  | none => rfl
  | some entry =>
    obtain ⟨member, same⟩ := (item_eq_some rebuilt.valid).1 found
    rw [rebuilt.entries, List.mem_filterMap] at member
    obtain ⟨kept, inside, result⟩ := member
    cases kept with
    | event core => cases result
    | item old =>
      simp only [LiveEntry.rebuilt] at result
      split at result
      · next shown =>
        injection result with result
        injection result with result
        subst result
        rw [hidden old inside same] at shown
        cases shown
      · cases result

theorem Rebuilt.mem_pending {id : ItemId} {value : ThreadId × TurnId × ItemStart} :
    other.pendingStarts.get? id = some value ↔
      (∃ entry start, .item entry ∈ turn.entries ∧ entry.id = id ∧ entry.isShown = false ∧
        entry.start = some start ∧ value = (entry.thread, entry.turn, start)) ∨
      turn.pendingStarts.get? id = some value := by
  rw [IndexMap.get?_eq_some, IndexMap.get?_eq_some, rebuilt.pending, List.mem_append,
    List.mem_filterMap]
  refine or_congr ?_ Iff.rfl
  constructor
  · rintro ⟨kept, inside, result⟩
    cases kept with
    | event core => cases result
    | item entry =>
      simp only [LiveEntry.waiting] at result
      split at result
      · cases result
      · next hidden =>
        obtain ⟨start, begun, same⟩ := Option.map_eq_some_iff.1 result
        injection same with id_eq value_eq
        exact ⟨entry, start, inside, id_eq, by simpa using hidden, begun, value_eq.symm⟩
  · rintro ⟨entry, start, inside, rfl, hidden, begun, rfl⟩
    exact ⟨.item entry, inside, by simp [LiveEntry.waiting, hidden, begun]⟩

/-- A replay says of every item what the turn says, up to one more compaction of its output. -/
theorem Rebuilt.same (valid : turn.Valid) (id : ItemId) :
    other.startOf id = turn.startOf id ∧ other.completedOf id = turn.completedOf id ∧
      other.textOf id = turn.textOf id ∧
      other.outputOf id = compactCommandOutput (turn.outputOf id) := by
  cases found : turn.item id with
  | some entry =>
    obtain ⟨member, rfl⟩ := (item_eq_some valid).1 found
    cases shown : entry.isShown with
    | true =>
      have there := rebuilt.item_of_shown member shown
      simp [startOf, completedOf, textOf, outputOf, found, there, LiveItemEntry.rebuilt]
    | false =>
      have there : other.item entry.id = none := by
        apply rebuilt.item_eq_none
        intro old inside same
        rw [entry_unique valid inside member same, shown]
      have parts := shown
      simp only [LiveItemEntry.isShown, Bool.or_eq_false_iff, Bool.not_eq_false',
        List.isEmpty_iff, Option.isSome_eq_false_iff, Option.isNone_iff_eq_none] at parts
      obtain ⟨⟨⟨-, completed⟩, text⟩, output⟩ := parts
      have pending : (other.pendingStarts.get? entry.id).map (fun (_, _, start) => start) =
          entry.start := by
        cases waits : other.pendingStarts.get? entry.id with
        | some value =>
          rcases (rebuilt.mem_pending).1 waits with
            ⟨old, start, inside, same, -, begun, rfl⟩ | old
          · rw [← entry_unique valid inside member same, begun]
            rfl
          · have free := valid.pending_slot entry.id
              (List.mem_map_of_mem (IndexMap.get?_eq_some.1 old))
            rw [item, free] at found
            cases found
        | none =>
          cases begun : entry.start with
          | none => rfl
          | some start =>
            have := (rebuilt.mem_pending).2
              (.inl ⟨entry, start, member, rfl, shown, begun, rfl⟩)
            rw [waits] at this
            cases this
      simp only [startOf, completedOf, textOf, outputOf, found, there, pending, completed, text,
        output, Option.map_none, Option.map_some, Option.getD_none, Option.getD_some,
        Option.bind_none, Option.bind_some, true_and]
      rfl
  | none =>
    have absent (entry : LiveItemEntry) (member : .item entry ∈ turn.entries) :
        entry.id ≠ id := by
      intro same
      rw [(item_eq_some valid).2 ⟨member, same⟩] at found
      cases found
    have there : other.item id = none :=
      rebuilt.item_eq_none fun entry member same => absurd same (absent entry member)
    have pending : other.pendingStarts.get? id = turn.pendingStarts.get? id := by
      apply Option.ext
      intro value
      rw [rebuilt.mem_pending]
      constructor
      · rintro (⟨entry, start, member, same, -⟩ | old)
        · exact absurd same (absent entry member)
        · exact old
      · exact .inr
    simp only [startOf, completedOf, textOf, outputOf, found, there, pending, Option.map_none,
      Option.getD_none, Option.bind_none, true_and]
    rfl

end

end LiveTurn

/-- The place of an entry in the turn: which item, or which event. -/
def LiveEntry.place : LiveEntry → ItemId ⊕ AgentEvent
  | .item entry => .inl entry.id
  | .event other => .inr other

/-- An event, or an item that expands to a start with a row, a completion or a delta. -/
def LiveEntry.isShown : LiveEntry → Bool
  | .item entry => entry.isShown
  | .event _ => true

theorem LiveEntry.map_place_rebuilt (entries : List LiveEntry) :
    (entries.filterMap LiveEntry.rebuilt).map LiveEntry.place =
      (entries.filter LiveEntry.isShown).map LiveEntry.place := by
  induction entries with
  | nil => rfl
  | cons entry entries ih =>
    cases entry with
    | event other =>
      simp only [LiveEntry.rebuilt, LiveEntry.isShown, List.filterMap_cons, List.filter_cons, if_true,
        List.map_cons, ih]
    | item entry =>
      cases shown : entry.isShown with
      | true =>
        simp only [LiveEntry.rebuilt, LiveEntry.isShown, shown, if_true, List.filterMap_cons,
          List.filter_cons, List.map_cons, ih]
        rfl
      | false => simp [LiveEntry.rebuilt, LiveEntry.isShown, shown, ih]

namespace Analysis

open LiveTurnState

theorem stored_run (ops : List Op) (turn : LiveTurn) (live : (run ops).turn = some turn) :
    turn.Valid ∧ turn.Stored := by
  refine run_invariant (P := fun turn => turn.Valid ∧ turn.Stored) ?_ ?_ ?_ ops turn live
  · intro turnId userInput
    refine ⟨LiveTurn.valid_new turnId userInput, ?_, ?_⟩
    · intro id thread turnId start member
      simp [LiveTurn.new, IndexMap.empty] at member
    · intro entry item member
      simp [LiveTurn.new] at member
  · rintro turn event commandOutput toolOutput ⟨valid, stored⟩
    exact ⟨LiveTurn.valid_appendEvent valid event commandOutput toolOutput,
      LiveTurn.stored_appendEvent valid stored event commandOutput toolOutput⟩
  · rintro turn userInput approvals requests ⟨valid, stored⟩
    exact ⟨valid.congr rfl rfl rfl rfl rfl, stored.waits, stored.stored⟩

/-- In every run, the unbounded snapshot sends the arrivals of the live turn, and replaying
these into a fresh turn gives for every item the same start, the same latest completion, the
same text since, and the same output since up to one more compaction; the events and the
items that expand to anything but a start without a row stand in the same order. SOURCE:
live.rs:124-157, 252-334, 386-451, 556-597. -/
theorem snapshot_replay (crates : Crates) (ops : List Op) (threadId : ThreadId) (turn : LiveTurn)
    (live : (run ops).turnOf threadId = some turn) :
    (∀ tailItems, turn.itemIds.length ≤ tailItems →
      ((run ops).snapshot crates threadId tailItems).map LiveTurnSnapshot.accumulated =
        some (turn.arrivals.filterMap (Arrival.toWire crates))) ∧
    (∀ id, turn.replayed.startOf id = turn.startOf id ∧
      turn.replayed.completedOf id = turn.completedOf id ∧
      turn.replayed.textOf id = turn.textOf id ∧
      turn.replayed.outputOf id = compactCommandOutput (turn.outputOf id)) ∧
    turn.replayed.entries.map LiveEntry.place =
      (turn.entries.filter LiveEntry.isShown).map LiveEntry.place ∧
    turn.replayed.turnStarted = turn.turnStarted ∧
    turn.replayed.latestUsage = turn.latestUsage := by
  obtain ⟨valid, stored⟩ := stored_run ops turn (turn_of_turnOf live)
  obtain ⟨rebuilt, started, usage⟩ := LiveTurn.rebuilt_replayed valid stored
  refine ⟨?_, rebuilt.same valid, ?_, started, usage⟩
  · intro tailItems unbounded
    rw [snapshot, live, Option.map_some, Option.map_some,
      LiveTurn.arrivals_toWire valid threadId unbounded]
  · rw [rebuilt.entries, LiveEntry.map_place_rebuilt]

/-- The replay of three completed messages. -/
theorem snapshot_replay_completions :
    ∃ turn, (LiveTurnState.run (completions 3)).turnOf sampleThread = some turn ∧
      ∀ id, turn.replayed.completedOf id = turn.completedOf id := by
  obtain ⟨turn, thread, live, -⟩ := completions_entries (n := 3) (by decide)
  have here : (LiveTurnState.run (completions 3)).turnOf sampleThread = some turn := by
    rw [turnOf, if_pos thread, live]
  obtain ⟨-, same, -⟩ :=
    snapshot_replay Crates.reference (completions 3) sampleThread turn here
  exact ⟨turn, here, fun id => (same id).2.1⟩

/-! ### An output that a replay changes -/

theorem compactCommandOutput_of_cuts {left middle right : List Char}
    (long : maxLiveCommandOutput < byteLen (left ++ (middle ++ right)))
    (head : retreat (left ++ (middle ++ right)) liveCommandOutputEdge = byteLen left)
    (tail : byteLen right = liveCommandOutputEdge) :
    compactCommandOutput (left ++ (middle ++ right)) =
      left ++ liveCommandOutputTruncated ++ right := by
  have edges : liveCommandOutputEdge ≤ byteLen (left ++ (middle ++ right)) := by
    have : liveCommandOutputEdge ≤ maxLiveCommandOutput := by decide
    omega
  have before : byteLen (left ++ (middle ++ right)) - liveCommandOutputEdge =
      byteLen (left ++ middle) := by
    simp only [byteLen_append, tail]
    omega
  have boundary : isCharBoundary (left ++ (middle ++ right)) (byteLen (left ++ middle)) = true := by
    rw [← List.append_assoc]
    exact isCharBoundary_seam _ _
  rw [compactCommandOutput, if_neg (by omega)]
  simp only [floorCharBoundary, ceilCharBoundary]
  rw [min_eq_left edges, min_eq_left edges, head, min_eq_left (by omega), before,
    advance_eq_self boundary, takeBytes_append_byteLen, ← List.append_assoc left middle right,
    dropBytes_append_byteLen]

/-- ASCII text with a two-byte character across the end of the head. -/
def wideOutput (n m : ℕ) : List Char := List.replicate n 'a' ++ (['é'] ++ List.replicate m 'b')

section

variable {n m : ℕ} (head : n + 1 = liveCommandOutputEdge) (tail : m = liveCommandOutputEdge)

include head tail

theorem compactCommandOutput_wide :
    compactCommandOutput (wideOutput n m) =
      List.replicate n 'a' ++ (liveCommandOutputTruncated ++ List.replicate m 'b') := by
  have ascii : byteLen (List.replicate n 'a') = n := by
    rw [byteLen_replicate, show 'a'.utf8Size = 1 from rfl, mul_one]
  have right : byteLen (List.replicate m 'b') = m := by
    rw [byteLen_replicate, show 'b'.utf8Size = 1 from rfl, mul_one]
  have total : byteLen (wideOutput n m) = n + (2 + m) := by
    rw [wideOutput, byteLen_append, byteLen_append, ascii, right]
    rfl
  have sizes : maxLiveCommandOutput = 2 * liveCommandOutputEdge := rfl
  have inside := retreat_inside (List.replicate n 'a') (List.replicate m 'b') 'é' (k := 1) (by decide)
  rw [ascii, head] at inside
  rw [wideOutput] at total ⊢
  rw [compactCommandOutput_of_cuts (by omega) (by rw [ascii]; exact inside) (by omega),
    List.append_assoc]

/-- Compacted again, the kept output gains the first byte of the marker. -/
theorem compactCommandOutput_wide_twice :
    byteLen (compactCommandOutput (compactCommandOutput (wideOutput n m))) =
      byteLen (compactCommandOutput (wideOutput n m)) + 1 := by
  rw [compactCommandOutput_wide head tail]
  obtain ⟨marker, marker_eq⟩ : ∃ marker, liveCommandOutputTruncated = '\n' :: marker :=
    List.head?_eq_some_iff.1 (by decide +kernel)
  have size : 2 ≤ byteLen liveCommandOutputTruncated := by decide +kernel
  have left : byteLen (List.replicate n 'a' ++ ['\n']) = n + 1 := by
    rw [byteLen_append, byteLen_replicate, show 'a'.utf8Size = 1 from rfl, mul_one]
    rfl
  have right : byteLen (List.replicate m 'b') = m := by
    rw [byteLen_replicate, show 'b'.utf8Size = 1 from rfl, mul_one]
  have split : List.replicate n 'a' ++ (liveCommandOutputTruncated ++ List.replicate m 'b') =
      (List.replicate n 'a' ++ ['\n']) ++ (marker ++ List.replicate m 'b') := by
    rw [marker_eq, List.append_assoc]
    rfl
  have sizes : maxLiveCommandOutput = 2 * liveCommandOutputEdge := rfl
  have markers : byteLen liveCommandOutputTruncated = 1 + byteLen marker := by
    rw [marker_eq, byteLen_cons]
    rfl
  have boundary : retreat ((List.replicate n 'a' ++ ['\n']) ++ (marker ++ List.replicate m 'b'))
      liveCommandOutputEdge = byteLen (List.replicate n 'a' ++ ['\n']) := by
    rw [← head, ← left]
    exact retreat_eq_self (isCharBoundary_seam _ _)
  have long : maxLiveCommandOutput <
      byteLen ((List.replicate n 'a' ++ ['\n']) ++ (marker ++ List.replicate m 'b')) := by
    rw [byteLen_append _ (marker ++ _), byteLen_append marker, left, right]
    omega
  rw [split, compactCommandOutput_of_cuts long boundary (by omega), byteLen_append _ (List.replicate m 'b'),
    byteLen_append _ liveCommandOutputTruncated, byteLen_append _ (marker ++ _),
    byteLen_append marker, markers]
  omega

end

/-- The chunk arrives at once. -/
def wideOutputRun (n m : ℕ) : List Op :=
  [.ensureTurn sampleThread sampleTurn none,
    .append sampleThread (.itemDelta sampleThread sampleTurn (sampleItem 0).id
      (.commandOutput (String.ofList (wideOutput n m)))) none none]

theorem wideOutputRun_outputOf (n m : ℕ) :
    ∃ turn, (run (wideOutputRun n m)).turnOf sampleThread = some turn ∧
      turn.outputOf (sampleItem 0).id = compactCommandOutput (wideOutput n m) := by
  refine ⟨_, rfl, ?_⟩
  simp only [LiveTurn.appendEvent]
  rw [LiveTurn.modifyEntry_of_fresh rfl, String.toList_ofList,
    LiveItemEntry.pushOutput_of_empty rfl]
  simp [LiveTurn.outputOf, LiveTurn.item, LiveTurn.itemAt, LiveTurn.new, LiveEntry.asItem]

/-- The output that a snapshot carries for this run is not what a turn that replays the
snapshot keeps of it. SOURCE: live.rs:400-405, 930-948. -/
theorem replay_compacts_again :
    ∃ turn, (run (wideOutputRun 8191 8192)).turnOf sampleThread = some turn ∧
      turn.replayed.outputOf (sampleItem 0).id ≠ turn.outputOf (sampleItem 0).id := by
  obtain ⟨turn, live, output⟩ := wideOutputRun_outputOf 8191 8192
  obtain ⟨valid, stored⟩ := stored_run _ turn (turn_of_turnOf live)
  have replayed := ((LiveTurn.rebuilt_replayed valid stored).1.same valid (sampleItem 0).id).2.2.2
  refine ⟨turn, live, ?_⟩
  intro same
  rw [replayed, output] at same
  have longer := @compactCommandOutput_wide_twice 8191 8192 rfl rfl
  rw [same] at longer
  omega

end Analysis

end Giskard
