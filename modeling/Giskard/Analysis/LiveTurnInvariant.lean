import Mathlib
import Giskard.Model.LiveTurn

/-!
# What every live turn satisfies

`LiveTurn.Valid` says that the slot map names exactly the item entries, so an item has one
entry, that a start is pending only for an item without an entry, that starts and
completions carry the identifier of the entry they sit in, and that item events, turn starts
and usage are never stored as plain events. Every operation goes through
`modifyEntry` or pushes an event, so the invariant is proved once for each of these
(`valid_modifyEntry`, `valid_pushEvent`) and then holds in every run (`valid_run`).
-/

set_option autoImplicit false

namespace Giskard

open Foundation

namespace LiveTurn

/-- Whether an event is kept as an entry of its own. SOURCE: live.rs:78-82, 595. -/
def isPlain : AgentEvent → Bool
  | .turnStarted _ _ | .turnUsageUpdated _ _ _ _ _ | .itemStarted _ _ _ | .itemDelta _ _ _ _
  | .itemCompleted _ _ _ => false
  | _ => true

/-- The invariant of the reconnect buffer. SOURCE: live.rs:37-70, 124-157. -/
structure Valid (turn : LiveTurn) : Prop where
  slots_iff : ∀ id slot, turn.slots id = some slot ↔
    ∃ entry, turn.entries[slot]? = some (.item entry) ∧ entry.id = id
  pending_slot : ∀ id ∈ turn.pendingStarts.keys, turn.slots id = none
  pending_id : ∀ id thread turnId start,
    (id, thread, turnId, start) ∈ turn.pendingStarts.entries → start.id = id
  start_id : ∀ entry, .item entry ∈ turn.entries → ∀ start, entry.start = some start →
    start.id = entry.id
  completed_id : ∀ entry, .item entry ∈ turn.entries → ∀ item, entry.completed = some item →
    item.id = entry.id
  plain : ∀ event, .event event ∈ turn.entries → isPlain event = true
  started : ∀ event, turn.turnStarted = some event → ∃ thread tid, event = .turnStarted thread tid
  usage : ∀ event, turn.latestUsage = some event →
    ∃ thread tid usage window model, event = .turnUsageUpdated thread tid usage window model

theorem valid_new (turnId : TurnId) (userInput : Option UserInput) :
    (new turnId userInput).Valid where
  slots_iff id slot := by simp [new]
  pending_slot id member := by simp [new] at member
  pending_id id thread turn start member := by simp [new, IndexMap.empty] at member
  start_id entry member := by simp [new] at member
  completed_id entry member := by simp [new] at member
  plain event member := by simp [new] at member
  started event kept := by simp [new] at kept
  usage event kept := by simp [new] at kept

/-- An entry an item may have: what it holds carries its identifier. -/
structure EntryValid (entry : LiveItemEntry) : Prop where
  start_id : ∀ start, entry.start = some start → start.id = entry.id
  completed_id : ∀ item, entry.completed = some item → item.id = entry.id

namespace Valid

variable {turn : LiveTurn}

theorem entryValid (valid : turn.Valid) {entry : LiveItemEntry}
    (member : .item entry ∈ turn.entries) : EntryValid entry :=
  ⟨valid.start_id entry member, valid.completed_id entry member⟩

theorem itemAt_of_slots (valid : turn.Valid) {id : ItemId} {slot : ℕ}
    (found : turn.slots id = some slot) :
    ∃ entry, turn.itemAt slot = some entry ∧ turn.entries[slot]? = some (.item entry) ∧
      entry.id = id := by
  obtain ⟨entry, here, same⟩ := (valid.slots_iff id slot).1 found
  exact ⟨entry, by simp [itemAt, here, LiveEntry.asItem], here, same⟩

theorem slots_of_mem (valid : turn.Valid) {slot : ℕ} {entry : LiveItemEntry}
    (here : turn.entries[slot]? = some (.item entry)) : turn.slots entry.id = some slot :=
  (valid.slots_iff entry.id slot).2 ⟨entry, here, rfl⟩

theorem slot_unique (valid : turn.Valid) {i j : ℕ} {left right : LiveItemEntry}
    (hi : turn.entries[i]? = some (.item left)) (hj : turn.entries[j]? = some (.item right))
    (same : left.id = right.id) : i = j := by
  have first := valid.slots_of_mem hi
  have second := valid.slots_of_mem hj
  rw [same, second] at first
  exact (Option.some.inj first).symm

theorem slot_lt (valid : turn.Valid) {id : ItemId} {slot : ℕ}
    (found : turn.slots id = some slot) : slot < turn.entries.length := by
  obtain ⟨entry, -, here, -⟩ := valid.itemAt_of_slots found
  exact (List.getElem?_eq_some_iff.1 here).1

end Valid

/-! ## Writing one entry -/

@[simp] theorem freshEntry_id (turn : LiveTurn) (thread : ThreadId) (turnId : TurnId)
    (itemId : ItemId) : (turn.freshEntry thread turnId itemId).id = itemId := by
  unfold freshEntry
  split <;> rfl

@[simp] theorem freshEntry_completed (turn : LiveTurn) (thread : ThreadId) (turnId : TurnId)
    (itemId : ItemId) : (turn.freshEntry thread turnId itemId).completed = none := by
  unfold freshEntry
  split <;> rfl

section
variable {turn : LiveTurn} {thread : ThreadId} {turnId : TurnId} {itemId : ItemId}
  {change : LiveItemEntry → LiveItemEntry}

theorem modifyEntry_of_slot {slot : ℕ} {entry : LiveItemEntry}
    (found : turn.slots itemId = some slot) (here : turn.itemAt slot = some entry) :
    turn.modifyEntry thread turnId itemId change =
      { turn with entries := turn.entries.set slot (.item (change entry)) } := by
  simp [modifyEntry, entryFor, found, here]

theorem modifyEntry_of_fresh (absent : turn.slots itemId = none) :
    turn.modifyEntry thread turnId itemId change =
      { turn with
        pendingStarts := turn.pendingStarts.shiftRemove itemId
        entries := turn.entries ++ [.item (change (turn.freshEntry thread turnId itemId))]
        slots := Function.update turn.slots itemId (some turn.entries.length) } := by
  simp [modifyEntry, entryFor, absent, pushEntry]

theorem entryValid_freshEntry (valid : turn.Valid) :
    EntryValid (turn.freshEntry thread turnId itemId) := by
  refine ⟨?_, by simp⟩
  intro start started
  rw [freshEntry_id]
  unfold freshEntry at started
  split at started
  · next thread turnId pending found =>
    obtain rfl : pending = start := by simpa using started
    exact valid.pending_id itemId thread turnId pending (IndexMap.get?_eq_some.1 found)
  · simp at started

/-- A change that keeps the identifier and the identifiers inside keeps the invariant. -/
theorem valid_modifyEntry (valid : turn.Valid) (keeps_id : ∀ entry, (change entry).id = entry.id)
    (keeps_valid : ∀ entry, entry.id = itemId → EntryValid entry → EntryValid (change entry)) :
    (turn.modifyEntry thread turnId itemId change).Valid := by
  cases found : turn.slots itemId with
  | some slot =>
    obtain ⟨entry, item_eq, here, same⟩ := valid.itemAt_of_slots found
    have member : .item entry ∈ turn.entries := List.mem_of_getElem? here
    have changed := keeps_valid entry same (valid.entryValid member)
    rw [modifyEntry_of_slot found item_eq]
    refine ⟨?_, valid.pending_slot, valid.pending_id, ?_, ?_, ?_, valid.started, valid.usage⟩
    · intro id other
      rw [valid.slots_iff]
      by_cases at_slot : other = slot
      · subst at_slot
        simp [here, List.getElem?_set_self (valid.slot_lt found), keeps_id]
      · simp [List.getElem?_set_ne (Ne.symm at_slot)]
    · intro other inside start started
      rcases List.mem_or_eq_of_mem_set inside with old | new
      · exact valid.start_id other old start started
      · obtain rfl : other = change entry := by simpa using new
        exact changed.start_id start started
    · intro other inside item completed
      rcases List.mem_or_eq_of_mem_set inside with old | new
      · exact valid.completed_id other old item completed
      · obtain rfl : other = change entry := by simpa using new
        exact changed.completed_id item completed
    · intro event inside
      rcases List.mem_or_eq_of_mem_set inside with old | new
      · exact valid.plain event old
      · cases new
  | none =>
    have fresh : EntryValid (turn.freshEntry thread turnId itemId) := entryValid_freshEntry valid
    have changed := keeps_valid _ (freshEntry_id turn thread turnId itemId) fresh
    rw [modifyEntry_of_fresh found]
    refine ⟨?_, ?_, ?_, ?_, ?_, ?_, valid.started, valid.usage⟩
    · intro id other
      dsimp only
      have iff := valid.slots_iff id other
      rcases Nat.lt_trichotomy other turn.entries.length with before | rfl | after
      · rw [List.getElem?_append_left before, ← iff]
        by_cases same : id = itemId
        · subst same
          simp [found, Nat.ne_of_gt before]
        · rw [Function.update_of_ne same]
      · simp only [List.getElem?_concat_length]
        constructor
        · intro pushed
          by_cases same : id = itemId
          · exact ⟨_, rfl, by rw [keeps_id, freshEntry_id, same]⟩
          · rw [Function.update_of_ne same] at pushed
            exact absurd (valid.slot_lt pushed) (lt_irrefl _)
        · rintro ⟨entry, same, rfl⟩
          obtain rfl : change (turn.freshEntry thread turnId itemId) = entry := by simpa using same
          simp [keeps_id]
      · have beyond : turn.entries.length + 1 ≤ other := after
        rw [List.getElem?_eq_none (by simpa using beyond)]
        constructor
        · intro pushed
          by_cases same : id = itemId
          · subst same
            simp only [Function.update_self, Option.some.injEq] at pushed
            omega
          · rw [Function.update_of_ne same] at pushed
            have := valid.slot_lt pushed
            omega
        · rintro ⟨entry, none_, -⟩
          cases none_
    · intro id pending
      obtain ⟨member, other⟩ := IndexMap.mem_keys_shiftRemove.1 pending
      dsimp only
      rw [Function.update_of_ne other]
      exact valid.pending_slot id member
    · intro id thread turnId start member
      exact valid.pending_id id thread turnId start (List.mem_of_mem_filter member)
    · intro other inside start started
      rcases List.mem_append.1 inside with old | new
      · exact valid.start_id other old start started
      · obtain rfl : other = change (turn.freshEntry thread turnId itemId) := by simpa using new
        exact changed.start_id start started
    · intro other inside item completed
      rcases List.mem_append.1 inside with old | new
      · exact valid.completed_id other old item completed
      · obtain rfl : other = change (turn.freshEntry thread turnId itemId) := by simpa using new
        exact changed.completed_id item completed
    · intro event inside
      rcases List.mem_append.1 inside with old | new
      · exact valid.plain event old
      · simp at new

end

theorem valid_pushEvent {turn : LiveTurn} (valid : turn.Valid) {event : AgentEvent}
    (other : isPlain event = true) :
    Valid { turn with entries := turn.entries ++ [.event event] } where
  slots_iff id slot := by
    rw [valid.slots_iff]
    rcases Nat.lt_trichotomy slot turn.entries.length with before | rfl | after
    · simp [List.getElem?_append_left before]
    · simp
    · simp [List.getElem?_eq_none (l := turn.entries) (i := slot) (by omega),
        List.getElem?_append_right (Nat.le_of_lt after),
        show slot - turn.entries.length ≠ 0 by omega]
  pending_slot := valid.pending_slot
  pending_id := valid.pending_id
  start_id entry member := valid.start_id entry (by simpa using member)
  completed_id entry member := valid.completed_id entry (by simpa using member)
  plain event' member := by
    rcases List.mem_append.1 member with old | new
    · exact valid.plain event' old
    · obtain rfl : event' = event := by simpa using new
      exact other
  started := valid.started
  usage := valid.usage

theorem Valid.congr {turn other : LiveTurn} (valid : turn.Valid)
    (entries : other.entries = turn.entries) (slots : other.slots = turn.slots)
    (pending : other.pendingStarts = turn.pendingStarts)
    (started : other.turnStarted = turn.turnStarted)
    (usage : other.latestUsage = turn.latestUsage) : other.Valid where
  slots_iff := by rw [entries, slots]; exact valid.slots_iff
  pending_slot := by rw [pending, slots]; exact valid.pending_slot
  pending_id := by rw [pending]; exact valid.pending_id
  start_id := by rw [entries]; exact valid.start_id
  completed_id := by rw [entries]; exact valid.completed_id
  plain := by rw [entries]; exact valid.plain
  started := by rw [started]; exact valid.started
  usage := by rw [usage]; exact valid.usage

theorem valid_startItem {turn : LiveTurn} (valid : turn.Valid) (thread : ThreadId)
    (turnId : TurnId) (start : ItemStart) : (turn.startItem thread turnId start).Valid := by
  unfold startItem
  split
  · next waits =>
    simp only [Bool.and_eq_true, Option.isNone_iff_eq_none] at waits
    refine ⟨valid.slots_iff, ?_, ?_, valid.start_id, valid.completed_id, valid.plain,
      valid.started, valid.usage⟩
    · intro id pending
      rcases IndexMap.mem_keys_insert.1 pending with rfl | old
      · exact waits.1
      · exact valid.pending_slot id old
    · intro id otherThread otherTurn other member
      rcases IndexMap.mem_insert.1 member with ⟨rfl, same⟩ | ⟨-, old⟩
      · simp only [Prod.mk.injEq] at same
        rw [same.2.2]
      · exact valid.pending_id id otherThread otherTurn other old
  · refine valid_modifyEntry valid (fun _ => rfl) ?_
    intro entry same entryValid
    refine ⟨?_, entryValid.completed_id⟩
    intro other started
    obtain rfl := Option.some.inj started
    exact same.symm

theorem storeOutputs_spec (turn : LiveTurn) (item : Item)
    (commandOutput : Option CommandOutputDescriptor) (toolOutput : Option ToolOutputDescriptor) :
    (turn.storeOutputs item commandOutput toolOutput).1.entries = turn.entries ∧
      (turn.storeOutputs item commandOutput toolOutput).1.slots = turn.slots ∧
      (turn.storeOutputs item commandOutput toolOutput).1.pendingStarts = turn.pendingStarts ∧
      (turn.storeOutputs item commandOutput toolOutput).1.turnStarted = turn.turnStarted ∧
      (turn.storeOutputs item commandOutput toolOutput).1.latestUsage = turn.latestUsage ∧
      (turn.storeOutputs item commandOutput toolOutput).2.id = item.id := by
  unfold storeOutputs
  split <;> exact ⟨rfl, rfl, rfl, rfl, rfl, rfl⟩

theorem valid_completeItem {turn : LiveTurn} (valid : turn.Valid) (thread : ThreadId)
    (turnId : TurnId) (item : Item) (commandOutput : Option CommandOutputDescriptor)
    (toolOutput : Option ToolOutputDescriptor) :
    (turn.completeItem thread turnId item commandOutput toolOutput).Valid := by
  obtain ⟨entries, slots, pending, started, usage, -⟩ :=
    turn.storeOutputs_spec item commandOutput toolOutput
  unfold completeItem
  refine valid_modifyEntry (valid.congr entries slots pending started usage) (fun _ => rfl) ?_
  intro entry same entryValid
  refine ⟨entryValid.start_id, ?_⟩
  intro other completed
  obtain rfl := Option.some.inj completed
  exact same.symm

theorem valid_appendEvent {turn : LiveTurn} (valid : turn.Valid) (event : AgentEvent)
    (commandOutput : Option CommandOutputDescriptor) (toolOutput : Option ToolOutputDescriptor) :
    (turn.appendEvent event commandOutput toolOutput).Valid := by
  cases event with
  | turnStarted thread tid =>
    exact { valid with
      started := fun event kept => ⟨thread, tid, (Option.some.inj kept).symm⟩ }
  | turnUsageUpdated thread tid usage window model =>
    exact { valid with
      usage := fun event kept =>
        ⟨thread, tid, usage, window, model, (Option.some.inj kept).symm⟩ }
  | itemStarted thread tid item => exact valid_startItem valid thread tid item
  | itemCompleted thread tid item =>
    exact valid_completeItem valid thread tid item commandOutput toolOutput
  | itemDelta thread tid itemId delta =>
    unfold appendEvent
    refine valid_modifyEntry valid ?_ ?_
    · intro entry
      cases delta <;> rfl
    · intro entry _ entryValid
      cases delta <;> exact ⟨entryValid.start_id, entryValid.completed_id⟩
  | _ => exact valid_pushEvent valid rfl

end LiveTurn

namespace LiveTurnState

/-- What holds of a new turn and is kept by every event holds of the live turn of every run,
when it does not depend on the user's input and answers. -/
theorem run_invariant {P : LiveTurn → Prop}
    (new : ∀ turnId userInput, P (LiveTurn.new turnId userInput))
    (append : ∀ turn event commandOutput toolOutput, P turn →
      P (LiveTurn.appendEvent turn event commandOutput toolOutput))
    (frame : ∀ turn userInput resolvedApprovals resolvedServerRequests, P turn →
      P { turn with
          userInput := userInput
          resolvedApprovals := resolvedApprovals
          resolvedServerRequests := resolvedServerRequests })
    (ops : List Op) : ∀ turn, (run ops).turn = some turn → P turn := by
  have modified (state : LiveTurnState) (holds : ∀ turn, state.turn = some turn → P turn)
      (threadId : ThreadId) (change : LiveTurn → LiveTurn) (keeps : ∀ turn, P turn → P (change turn)) :
      ∀ turn, (state.modifyTurn threadId change).turn = some turn → P turn := by
    intro turn result
    unfold modifyTurn at result
    split at result
    · obtain ⟨old, was, rfl⟩ := Option.map_eq_some_iff.1 result
      exact keeps old (holds old was)
    · exact holds turn result
  have step (state : LiveTurnState) (holds : ∀ turn, state.turn = some turn → P turn) (op : Op) :
      ∀ turn, (state.apply op).turn = some turn → P turn := by
    cases op with
    | replaceTurn threadId turnId userInput =>
      intro turn result
      obtain rfl := Option.some.inj result
      exact new turnId userInput
    | ensureTurn threadId turnId userInput =>
      intro turn result
      simp only [apply, ensureTurnWithUserInput] at result
      split at result
      · obtain rfl := Option.some.inj result
        exact new turnId userInput
      · next old was =>
        split_ifs at result
        · obtain rfl := Option.some.inj result
          exact frame old userInput old.resolvedApprovals old.resolvedServerRequests (holds old was)
        · exact holds turn result
        · exact holds turn result
    | append threadId event commandOutput toolOutput =>
      exact modified state holds threadId _ fun turn was =>
        append turn event commandOutput toolOutput was
    | resolveApproval threadId approvalId decision =>
      exact modified state holds threadId _ fun turn was =>
        frame turn turn.userInput _ turn.resolvedServerRequests was
    | resolveServerRequest threadId requestId =>
      exact modified state holds threadId _ fun turn was =>
        frame turn turn.userInput turn.resolvedApprovals _ was
    | clearTurn threadId =>
      intro turn result
      simp only [apply, clearTurn] at result
      split at result
      · cases result
      · exact holds turn result
  have fold (state : LiveTurnState) (holds : ∀ turn, state.turn = some turn → P turn) :
      ∀ turn, (ops.foldl apply state).turn = some turn → P turn := by
    induction ops generalizing state with
    | nil => exact holds
    | cons op ops ih => exact ih _ (step state holds op)
  exact fold empty fun turn result => by cases result

theorem valid_run (ops : List Op) : ∀ turn, (run ops).turn = some turn → turn.Valid := by
  apply run_invariant
  · exact LiveTurn.valid_new
  · intro turn event commandOutput toolOutput valid
    exact LiveTurn.valid_appendEvent valid event commandOutput toolOutput
  · intro turn userInput approvals requests valid
    exact valid.congr rfl rfl rfl rfl rfl

theorem turn_of_turnOf {state : LiveTurnState} {threadId : ThreadId} {turn : LiveTurn}
    (live : state.turnOf threadId = some turn) : state.turn = some turn := by
  unfold turnOf at live
  split at live
  · exact live
  · cases live

theorem valid_of_turnOf {ops : List Op} {threadId : ThreadId} {turn : LiveTurn}
    (live : (run ops).turnOf threadId = some turn) : turn.Valid :=
  valid_run ops turn (turn_of_turnOf live)

end LiveTurnState

end Giskard
