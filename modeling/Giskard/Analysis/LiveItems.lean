import Mathlib
import Giskard.Analysis.LiveReplay

/-!
# The entry of one item of a live turn

What an event does to the entry that a live turn has for an item: an event about another item leaves
it alone, a completion replaces what it holds, and a chunk of output is pushed onto its buffer.
-/

set_option autoImplicit false

namespace Giskard

open Foundation

namespace LiveTurn

variable {turn : LiveTurn} {thread : ThreadId} {turnId : TurnId} {id other : ItemId}

/-! ## Writing an entry -/

/-- A write changes the entry of its item, a fresh one if there is none. -/
theorem item_modifyEntry (valid : turn.Valid) (change : LiveItemEntry → LiveItemEntry) :
    (turn.modifyEntry thread turnId id change).item other =
      if other = id then some (change ((turn.item id).getD (turn.freshEntry thread turnId id)))
      else turn.item other := by
  cases found : turn.slots id with
  | some slot =>
    obtain ⟨entry, at_slot, here, same⟩ := valid.itemAt_of_slots found
    rw [modifyEntry_of_slot found at_slot]
    have current : turn.item id = some entry := by
      unfold item
      rw [found, Option.bind_some, at_slot]
    rw [current, Option.getD_some]
    split
    · next equal =>
      subst equal
      unfold item
      dsimp only
      rw [found, Option.bind_some]
      unfold itemAt
      dsimp only
      rw [List.getElem?_set_self (valid.slot_lt found), Option.bind_some]
      rfl
    · next apart =>
      unfold item
      dsimp only
      cases slots : turn.slots other with
      | none => rfl
      | some place =>
        have moved : slot ≠ place := by
          rintro rfl
          obtain ⟨there, -, at_, name⟩ := valid.itemAt_of_slots slots
          cases here.symm.trans at_
          exact apart (name.symm.trans same)
        rw [Option.bind_some, Option.bind_some]
        unfold itemAt
        dsimp only
        rw [List.getElem?_set_ne moved]
  | none =>
    have absent : turn.item id = none := by
      unfold item
      rw [found, Option.bind_none]
    rw [modifyEntry_of_fresh found, absent, Option.getD_none]
    split
    · next equal =>
      subst equal
      unfold item
      dsimp only
      rw [Function.update_self, Option.bind_some]
      unfold itemAt
      dsimp only
      rw [List.getElem?_concat_length, Option.bind_some]
      rfl
    · next apart =>
      unfold item
      dsimp only
      rw [Function.update_of_ne apart]
      cases slots : turn.slots other with
      | none => rfl
      | some place =>
        rw [Option.bind_some, Option.bind_some]
        unfold itemAt
        dsimp only
        rw [List.getElem?_append_left (valid.slot_lt slots)]

@[simp] theorem freshEntry_output : (turn.freshEntry thread turnId id).output = [] := by
  unfold freshEntry
  split <;> rfl

theorem item_pushEvent (valid : turn.Valid) (event : AgentEvent) :
    LiveTurn.item { turn with entries := turn.entries ++ [.event event] } id = turn.item id := by
  unfold item
  dsimp only
  cases slots : turn.slots id with
  | none => rfl
  | some place =>
    rw [Option.bind_some, Option.bind_some]
    unfold itemAt
    dsimp only
    rw [List.getElem?_append_left (valid.slot_lt slots)]

theorem item_storeOutputs (item : Item) (commandOutput : Option CommandOutputDescriptor)
    (toolOutput : Option ToolOutputDescriptor) :
    (turn.storeOutputs item commandOutput toolOutput).1.item id = turn.item id := by
  obtain ⟨entries, slots, -⟩ := turn.storeOutputs_spec item commandOutput toolOutput
  unfold LiveTurn.item itemAt
  rw [entries, slots]

theorem item_completeItem (valid : turn.Valid) (item : Item)
    (commandOutput : Option CommandOutputDescriptor) (toolOutput : Option ToolOutputDescriptor) :
    (turn.completeItem thread turnId item commandOutput toolOutput).item other =
      if other = item.id then
        some { (turn.item item.id).getD (turn.freshEntry thread turnId item.id) with
          completed := some (turn.storeOutputs item commandOutput toolOutput).2
          text := []
          output := [] }
      else turn.item other := by
  obtain ⟨entries, slots, pending, started, usage, same⟩ :=
    turn.storeOutputs_spec item commandOutput toolOutput
  have fresh : (turn.storeOutputs item commandOutput toolOutput).1.freshEntry thread turnId item.id =
      turn.freshEntry thread turnId item.id := by
    unfold freshEntry
    rw [pending]
  unfold completeItem
  dsimp only
  rw [item_modifyEntry (valid.congr entries slots pending started usage), same]
  simp only [item_storeOutputs]
  rw [fresh]

/-! ## What a write leaves alone -/

theorem read_modifyEntry {β : Type} (valid : turn.Valid) (read : LiveItemEntry → β) {blank : β}
    (fresh : ∀ thread turnId id, read (turn.freshEntry thread turnId id) = blank)
    {change : LiveItemEntry → LiveItemEntry} (keeps : ∀ entry, read (change entry) = read entry) :
    (((turn.modifyEntry thread turnId other change).item id).map read).getD blank =
      ((turn.item id).map read).getD blank := by
  rw [item_modifyEntry valid]
  split
  · next same =>
    subst same
    rw [Option.map_some, Option.getD_some, keeps]
    cases turn.item id with
    | none => rw [Option.getD_none, fresh, Option.map_none, Option.getD_none]
    | some entry => rfl
  · rfl

/-! ## The buffered output -/

/-- Push a chunk onto a buffer. -/
def pushChunk (output chunk : List Char) : List Char :=
  if maxLiveCommandOutput < byteLen (output ++ chunk) then compactCommandOutput (output ++ chunk)
  else output ++ chunk

/-- The chunk of output that an event has for an item. -/
def chunkOf (id : ItemId) : AgentEvent → Option (List Char)
  | .itemDelta _ _ itemId (.commandOutput chunk) => if itemId = id then some chunk.toList else none
  | _ => none

/-- An event completes an item. -/
def Completes (id : ItemId) : AgentEvent → Prop
  | .itemCompleted _ _ item => item.id = id
  | _ => False

theorem outputOf_modifyEntry (valid : turn.Valid) {change : LiveItemEntry → LiveItemEntry}
    (keeps : ∀ entry, (change entry).output = entry.output) :
    (turn.modifyEntry thread turnId other change).outputOf id = turn.outputOf id :=
  read_modifyEntry valid LiveItemEntry.output (fun _ _ _ => freshEntry_output) keeps

theorem outputOf_push (valid : turn.Valid) (chunk : List Char) :
    (turn.modifyEntry thread turnId other fun entry => entry.pushOutput chunk).outputOf id =
      if id = other then pushChunk (turn.outputOf id) chunk else turn.outputOf id := by
  unfold outputOf
  rw [item_modifyEntry valid]
  split
  · next same =>
    subst same
    rw [Option.map_some, Option.getD_some]
    cases turn.item id with
    | none =>
      rw [Option.getD_none, Option.map_none, Option.getD_none]
      unfold LiveItemEntry.pushOutput
      rw [freshEntry_output]
      rfl
    | some entry => rfl
  · rfl

/-- Unless it completes the item, an event pushes its chunk of the item's output, if it has one. -/
theorem outputOf_appendEvent (valid : turn.Valid) {event : AgentEvent}
    {commandOutput : Option CommandOutputDescriptor} {toolOutput : Option ToolOutputDescriptor}
    (goesOn : ¬Completes id event) :
    (turn.appendEvent event commandOutput toolOutput).outputOf id =
      match chunkOf id event with
      | some chunk => pushChunk (turn.outputOf id) chunk
      | none => turn.outputOf id := by
  cases event with
  | itemStarted thread tid start =>
    change (turn.startItem thread tid start).outputOf id = turn.outputOf id
    unfold startItem
    split
    · rfl
    · exact outputOf_modifyEntry valid fun _ => rfl
  | itemDelta thread tid itemId delta =>
    cases delta with
    | text text =>
      change (turn.modifyEntry _ _ _ _).outputOf id = turn.outputOf id
      exact outputOf_modifyEntry valid fun _ => rfl
    | commandOutput chunk =>
      change (turn.modifyEntry _ _ _ fun entry => entry.pushOutput chunk.toList).outputOf id = _
      rw [outputOf_push valid]
      dsimp only [chunkOf]
      by_cases same : itemId = id
      · rw [if_pos same.symm, if_pos same]
      · rw [if_neg (Ne.symm same), if_neg same]
  | itemCompleted thread tid item =>
    change (turn.completeItem thread tid item commandOutput toolOutput).outputOf id = turn.outputOf id
    unfold outputOf
    rw [item_completeItem valid, if_neg fun named => goesOn (Eq.symm named)]
  | turnStarted thread tid => rfl
  | turnUsageUpdated thread tid usage window model => rfl
  | _ =>
    change LiveTurn.outputOf { turn with entries := turn.entries ++ [.event _] } id = turn.outputOf id
    unfold outputOf
    rw [item_pushEvent valid]

theorem outputOf_replay {arrivals : List Arrival} (valid : turn.Valid)
    (goesOn : ∀ arrival ∈ arrivals, ¬Completes id arrival.event) :
    (turn.replay arrivals).outputOf id =
      (arrivals.filterMap fun arrival => chunkOf id arrival.event).foldl pushChunk
        (turn.outputOf id) := by
  induction arrivals generalizing turn with
  | nil => rfl
  | cons arrival arrivals ih =>
    have later := ih (valid_appendEvent valid arrival.event arrival.commandOutput arrival.toolOutput)
      fun arrival member => goesOn arrival (List.mem_cons_of_mem _ member)
    rw [replay_cons, later, outputOf_appendEvent valid (goesOn arrival List.mem_cons_self)]
    rw [List.filterMap_cons]
    split
    · next chunk found => rw [found]; rfl
    · next found => rw [found]

/-! ## The latest completion -/

theorem completedOf_eq (turn : LiveTurn) (id : ItemId) :
    turn.completedOf id = ((turn.item id).map LiveItemEntry.completed).getD none := by
  unfold completedOf
  cases turn.item id <;> rfl

theorem completedOf_modifyEntry (valid : turn.Valid) {change : LiveItemEntry → LiveItemEntry}
    (keeps : ∀ entry, (change entry).completed = entry.completed) :
    (turn.modifyEntry thread turnId other change).completedOf id = turn.completedOf id := by
  rw [completedOf_eq, completedOf_eq]
  exact read_modifyEntry valid LiveItemEntry.completed
    (fun thread turnId id => freshEntry_completed turn thread turnId id) keeps

/-- An event that does not complete an item leaves its completion alone. -/
theorem completedOf_appendEvent (valid : turn.Valid) {event : AgentEvent}
    {commandOutput : Option CommandOutputDescriptor} {toolOutput : Option ToolOutputDescriptor}
    (goesOn : ¬Completes id event) :
    (turn.appendEvent event commandOutput toolOutput).completedOf id = turn.completedOf id := by
  cases event with
  | itemStarted thread tid start =>
    change (turn.startItem thread tid start).completedOf id = turn.completedOf id
    unfold startItem
    split
    · rfl
    · exact completedOf_modifyEntry valid fun _ => rfl
  | itemDelta thread tid itemId delta =>
    cases delta with
    | text text =>
      change (turn.modifyEntry _ _ _ _).completedOf id = turn.completedOf id
      exact completedOf_modifyEntry valid fun _ => rfl
    | commandOutput chunk =>
      change (turn.modifyEntry _ _ _ _).completedOf id = turn.completedOf id
      exact completedOf_modifyEntry valid fun _ => rfl
  | itemCompleted thread tid item =>
    change (turn.completeItem thread tid item commandOutput toolOutput).completedOf id =
      turn.completedOf id
    unfold completedOf
    rw [item_completeItem valid, if_neg fun named => goesOn (Eq.symm named)]
  | turnStarted thread tid => rfl
  | turnUsageUpdated thread tid usage window model => rfl
  | _ =>
    change LiveTurn.completedOf { turn with entries := turn.entries ++ [.event _] } id =
      turn.completedOf id
    unfold completedOf
    rw [item_pushEvent valid]

theorem completedOf_completeItem (valid : turn.Valid) (item : Item)
    (commandOutput : Option CommandOutputDescriptor) (toolOutput : Option ToolOutputDescriptor) :
    (turn.completeItem thread turnId item commandOutput toolOutput).completedOf item.id =
      some (turn.storeOutputs item commandOutput toolOutput).2 := by
  unfold completedOf
  rw [item_completeItem valid, if_pos rfl]
  rfl

end LiveTurn

end Giskard
