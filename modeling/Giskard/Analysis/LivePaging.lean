import Mathlib
import Giskard.Analysis.LiveTurnInvariant

/-!
# A bounded snapshot and its pages

`snapshot` carries the tail of the turn and, of the entries before the cut, those that still
change or wait; `itemsPage` serves settled items before a cursor. Both are scans over the
same entries, and they agree on which item entries are left to the pages: `pageable` before
the cut. The cursor a snapshot announces may stand after the cut, but the items in between
have not completed, so no page contains them (`pageable_cursor`). A walk then takes the last
`limit` of what is left, over and over, until nothing is (`pageWalk_eq`).
-/

set_option autoImplicit false

namespace Giskard

open Foundation

namespace LiveTurn

/-! ## Item entries with their indices -/

theorem asItem_eq_some {kept : LiveEntry} {entry : LiveItemEntry} :
    kept.asItem = some entry ↔ kept = .item entry := by
  cases kept <;> simp [LiveEntry.asItem]

theorem mem_indexedItems {turn : LiveTurn} {index : ℕ} {entry : LiveItemEntry} :
    (index, entry) ∈ turn.indexedItems ↔ turn.entries[index]? = some (.item entry) := by
  simp only [indexedItems, List.mem_filterMap, Prod.exists, Option.map_eq_some_iff,
    asItem_eq_some, Prod.mk.injEq, List.mem_zipIdx_iff_getElem?]
  constructor
  · rintro ⟨kept, i, here, other, rfl, rfl, rfl⟩
    exact here
  · intro here
    exact ⟨.item entry, index, here, entry, rfl, rfl, rfl⟩

theorem indexedItems_sorted (turn : LiveTurn) :
    turn.indexedItems.Pairwise fun left right => left.1 < right.1 := by
  have sorted : turn.entries.zipIdx.Pairwise fun left right => left.2 < right.2 := by
    rw [← List.pairwise_map (f := Prod.snd), List.zipIdx_map_snd]
    exact List.pairwise_lt_range'
  refine sorted.filterMap _ ?_
  rintro ⟨left, i⟩ ⟨right, j⟩ less x hx y hy
  obtain ⟨a, -, rfl⟩ := Option.map_eq_some_iff.1 hx
  obtain ⟨b, -, rfl⟩ := Option.map_eq_some_iff.1 hy
  exact less

/-- Whether a page may carry the item entry at an index. SOURCE: live.rs:716-722. -/
def isPageable (turn : LiveTurn) (index : ℕ) (entry : LiveItemEntry) : Bool :=
  entry.isSettled && decide (turn.promptSlot ≠ some index)

/-- What the pages before an index carry in all, oldest first. -/
def pageable (turn : LiveTurn) (stop : ℕ) : List (ℕ × LiveItemEntry) :=
  turn.indexedItems.filter fun (index, entry) =>
    decide (index < stop) && turn.isPageable index entry

theorem mem_pageable {turn : LiveTurn} {stop index : ℕ} {entry : LiveItemEntry} :
    (index, entry) ∈ turn.pageable stop ↔
      turn.entries[index]? = some (.item entry) ∧ index < stop ∧
        turn.isPageable index entry = true := by
  simp [pageable, mem_indexedItems]

theorem pageable_sorted (turn : LiveTurn) (stop : ℕ) :
    (turn.pageable stop).Pairwise fun left right => left.1 < right.1 :=
  turn.indexedItems_sorted.sublist List.filter_sublist

/-- The pages before one of the page's own items carry what comes before it. -/
theorem pageable_before {turn : LiveTurn} {stop index : ℕ} {entry : LiveItemEntry}
    {before after : List (ℕ × LiveItemEntry)}
    (split : turn.pageable stop = before ++ (index, entry) :: after) :
    turn.pageable index = before := by
  have here : (index, entry) ∈ turn.pageable stop := by simp [split]
  have inside := (mem_pageable.1 here).2.1
  have narrowed : turn.pageable index =
      (turn.pageable stop).filter fun (i, _) => decide (i < index) := by
    rw [pageable, pageable, List.filter_filter]
    refine List.filter_congr fun pair _ => ?_
    obtain ⟨i, other⟩ := pair
    by_cases less : i < index
    · simp [less, less.trans inside]
    · simp [less]
  have sorted := turn.pageable_sorted stop
  rw [split, List.pairwise_append] at sorted
  obtain ⟨-, tail, across⟩ := sorted
  rw [narrowed, split, List.filter_append, List.filter_eq_self.2, List.filter_eq_nil_iff.2,
    List.append_nil]
  · rintro ⟨i, other⟩ member
    rcases List.mem_cons.1 member with same | later
    · obtain ⟨rfl, -⟩ : i = index ∧ other = entry := by simpa using same
      simp
    · have := (List.pairwise_cons.1 tail).1 (i, other) later
      simp only [decide_eq_true_eq, not_lt]
      exact this.le
  · rintro ⟨i, other⟩ member
    simpa using across (i, other) member (index, entry) (by simp)

end LiveTurn

/-! ## One page -/

section

variable (crates : Crates)

theorem WireItem.withReasoningPreview_id (item : WireItem) :
    item.withReasoningPreview.id = item.id := by
  unfold WireItem.withReasoningPreview
  split
  · dsimp only
    split <;> rfl
  · rfl

theorem WireItem.fromItemWithOutputs_id (item : Item)
    (commandOutput : Option CommandOutputDescriptor) (toolOutput : Option ToolOutputDescriptor) :
    (WireItem.fromItemWithOutputs crates item commandOutput toolOutput).id = item.id := by
  unfold WireItem.fromItemWithOutputs
  split
  · rfl
  · simp only [WireItem.fromItemWithCommandOutput]
    split <;> rfl

variable {crates}

theorem LiveItemEntry.wireCompleted_id {turn : LiveTurn} {entry : LiveItemEntry} {wire : WireItem}
    (valid : LiveTurn.EntryValid entry) (result : entry.wireCompleted crates turn = some wire) :
    wire.id = entry.id := by
  obtain ⟨item, completed, rfl⟩ := Option.map_eq_some_iff.1 result
  rw [WireItem.withReasoningPreview_id, WireItem.fromItemWithOutputs_id]
  exact valid.completed_id item completed

theorem LiveItemEntry.wireCompleted_isSome {turn : LiveTurn} {entry : LiveItemEntry} :
    (entry.wireCompleted crates turn).isSome = entry.completed.isSome := by
  simp [LiveItemEntry.wireCompleted]

theorem LiveItemEntry.completed_of_isSettled {entry : LiveItemEntry}
    (settled : entry.isSettled = true) : entry.completed.isSome = true := by
  unfold LiveItemEntry.isSettled at settled
  split at settled
  · simp at settled
  · next item completed => simp [completed]

variable (crates)

/-- The wire forms of a list of entries. -/
def wireItems (turn : LiveTurn) (entries : List (ℕ × LiveItemEntry)) : List WireItem :=
  entries.filterMap fun (_, entry) => entry.wireCompleted crates turn

variable {crates}

theorem wireItems_append (turn : LiveTurn) (left right : List (ℕ × LiveItemEntry)) :
    wireItems crates turn (left ++ right) =
      wireItems crates turn left ++ wireItems crates turn right :=
  List.filterMap_append

theorem wireItems_cons {turn : LiveTurn} {index : ℕ} {entry : LiveItemEntry}
    {entries : List (ℕ × LiveItemEntry)} (settled : entry.isSettled = true) :
    ∃ wire, entry.wireCompleted crates turn = some wire ∧
      wireItems crates turn ((index, entry) :: entries) =
        wire :: wireItems crates turn entries := by
  have some_ := LiveItemEntry.completed_of_isSettled settled
  rw [← @LiveItemEntry.wireCompleted_isSome crates turn] at some_
  obtain ⟨wire, result⟩ := Option.isSome_iff_exists.1 some_
  exact ⟨wire, result, by simp [wireItems, result]⟩

namespace LiveTurnState

theorem settledBefore_eq (turn : LiveTurn) (stop : ℕ) :
    settledBefore turn stop = (turn.pageable stop).reverse.map Prod.snd := rfl

/-- A page before an item of the turn: the last `limit` pageable entries before it. SOURCE:
live.rs:690-734. -/
theorem itemsPage_eq {state : LiveTurnState} {threadId : ThreadId} {turn : LiveTurn}
    (live : state.turnOf threadId = some turn) (valid : turn.Valid) {before : ItemId} {stop : ℕ}
    (slot : turn.slots before = some stop) (limit : ℕ) :
    state.itemsPage crates threadId turn.turnId (some before) limit =
      .page
        { items := wireItems crates turn
            ((turn.pageable stop).drop ((turn.pageable stop).length - max limit 1))
          hasMore := decide (max limit 1 < (turn.pageable stop).length) } := by
  obtain ⟨entry, here, -, -⟩ := valid.itemAt_of_slots slot
  have whole : (state.turnOf threadId).filter (fun other => other.turnId = turn.turnId) =
      some turn := by simp [live, Option.filter]
  simp only [itemsPage, whole, slot, here, Option.isSome_some, if_true, settledBefore_eq]
  congr 2
  · rw [← List.map_take, List.take_reverse, List.filterMap_map, ← List.filterMap_reverse,
      List.reverse_reverse]
    rfl
  · rw [Bool.eq_iff_iff]
    simp only [isSome_getElem?, List.length_map, List.length_reverse, decide_eq_true_eq]

/-! ## The walk -/

variable (crates)

/-- A client's walk back from a cursor: fetch the page before it, go on from the page's first
item while there is more, and put the older pages in front. -/
def pageWalk (state : LiveTurnState) (threadId : ThreadId) (turnId : TurnId) (limit : ℕ) :
    ℕ → ItemId → Option (List WireItem)
  | 0, _ => none
  | fuel + 1, before =>
    match state.itemsPage crates threadId turnId (some before) limit with
    | .page page =>
      if page.hasMore then
        page.items.head?.bind fun first =>
          (pageWalk state threadId turnId limit fuel first.id).map (· ++ page.items)
      else some page.items
    | _ => none

variable {crates}

/-- The walk from an item returns every pageable entry before it, once and in order. -/
theorem pageWalk_eq {state : LiveTurnState} {threadId : ThreadId} {turn : LiveTurn}
    (live : state.turnOf threadId = some turn) (valid : turn.Valid) (limit : ℕ) {fuel : ℕ}
    {before : ItemId} {stop : ℕ} (slot : turn.slots before = some stop)
    (enough : (turn.pageable stop).length < fuel) :
    pageWalk crates state threadId turn.turnId limit fuel before =
      some (wireItems crates turn (turn.pageable stop)) := by
  induction fuel generalizing before stop with
  | zero => omega
  | succ fuel ih =>
    rw [pageWalk, itemsPage_eq live valid slot limit]
    dsimp only
    by_cases more : max limit 1 < (turn.pageable stop).length
    · -- the page is not empty, and the pages before its first item carry the rest
      have pos : 0 < max limit 1 := by omega
      obtain ⟨⟨index, entry⟩, after, page⟩ : ∃ first after, (turn.pageable stop).drop
          ((turn.pageable stop).length - max limit 1) = first :: after :=
        List.exists_cons_of_ne_nil (by
          rw [ne_eq, List.drop_eq_nil_iff]
          omega)
      have split : turn.pageable stop = (turn.pageable stop).take
          ((turn.pageable stop).length - max limit 1) ++ (index, entry) :: after := by
        rw [← page, List.take_append_drop]
      have member : (index, entry) ∈ turn.pageable stop := by
        rw [split]
        simp
      obtain ⟨here, -, pageable⟩ := LiveTurn.mem_pageable.1 member
      have settled : entry.isSettled = true := by
        rw [LiveTurn.isPageable, Bool.and_eq_true] at pageable
        exact pageable.1
      have older := LiveTurn.pageable_before split
      obtain ⟨wire, result, first⟩ :=
        @wireItems_cons crates turn index _ after settled
      have entryValid := valid.entryValid (List.mem_of_getElem? here)
      have next := @ih wire.id index
        (by rw [LiveItemEntry.wireCompleted_id entryValid result]; exact valid.slots_of_mem here)
        (by rw [older, List.length_take]; omega)
      rw [if_pos (by simpa using more), page, first, List.head?_cons, Option.bind_some, next,
        Option.map_some, older, ← first, ← wireItems_append, ← split]
    · have all : (turn.pageable stop).length - max limit 1 = 0 := by omega
      rw [if_neg (by simpa using more), all, List.drop_zero]

end LiveTurnState

end

/-! ## The cut, the cursor and the riders -/

namespace LiveTurn

/-- A cut after the start stands on an item entry. SOURCE: live.rs:173-187. -/
theorem cut_item {turn : LiveTurn} {tailItems : ℕ} (cuts : turn.cut tailItems ≠ 0) :
    ∃ entry, turn.entries[turn.cut tailItems]? = some (.item entry) := by
  simp only [cut] at cuts ⊢
  split at cuts
  · next index entry _ first _ =>
    have member : (index, entry) ∈ turn.indexedItems := by
      rw [← List.mem_reverse]
      exact List.mem_of_getElem? first
    exact ⟨entry, mem_indexedItems.1 member⟩
  · exact absurd rfl cuts

/-- The first completed item of a list of entries has only open items before it. -/
theorem find_completed {entries : List LiveEntry} {cursor : LiveItemEntry}
    (found : (entries.filterMap LiveEntry.asItem).find? (fun entry => entry.completed.isSome) =
      some cursor) :
    ∃ index : ℕ, entries[index]? = some (.item cursor) ∧
      ∀ (i : ℕ) (other : LiveItemEntry), i < index → entries[i]? = some (.item other) →
        other.completed = none := by
  induction entries with
  | nil => simp at found
  | cons first entries ih =>
    have later (rest : (entries.filterMap LiveEntry.asItem).find?
          (fun entry => entry.completed.isSome) = some cursor)
        (start : ∀ other, first = .item other → other.completed = none) :
        ∃ index : ℕ, (first :: entries)[index]? = some (.item cursor) ∧
          ∀ (i : ℕ) (other : LiveItemEntry), i < index →
            (first :: entries)[i]? = some (.item other) → other.completed = none := by
      obtain ⟨index, here, open_⟩ := ih rest
      refine ⟨index + 1, here, ?_⟩
      intro i other less at_i
      cases i with
      | zero => exact start other (by simpa using at_i)
      | succ i => exact open_ i other (by omega) (by simpa using at_i)
    cases first with
    | event event =>
      simp only [List.filterMap_cons, LiveEntry.asItem] at found
      exact later found (by simp)
    | item entry =>
      simp only [List.filterMap_cons, LiveEntry.asItem] at found
      cases completed : entry.completed.isSome with
      | true =>
        simp only [List.find?_cons, completed] at found
        obtain rfl := Option.some.inj found
        exact ⟨0, rfl, by omega⟩
      | false =>
        simp only [List.find?_cons, completed] at found
        refine later found ?_
        intro other same
        obtain rfl : entry = other := by simpa using same
        simpa using completed

/-- The cursor stands at an item at or after the cut, with no completed item in between.
SOURCE: live.rs:189-203. -/
theorem pageCursor_spec {turn : LiveTurn} {cut : ℕ} {entry : LiveItemEntry}
    (here : turn.entries[cut]? = some (.item entry)) :
    ∃ index cursor, turn.pageCursor cut = some cursor.id ∧ cut ≤ index ∧
      turn.entries[index]? = some (.item cursor) ∧
      ∀ i other, cut ≤ i → i < index → turn.entries[i]? = some (.item other) →
        other.completed = none := by
  have tail : turn.entries.drop cut = .item entry :: turn.entries.drop (cut + 1) := by
    obtain ⟨inside, same⟩ := List.getElem?_eq_some_iff.1 here
    rw [List.drop_eq_getElem_cons inside, same]
  cases found : ((turn.entries.drop cut).filterMap LiveEntry.asItem).find?
      (fun entry => entry.completed.isSome) with
  | some cursor =>
    obtain ⟨k, at_k, open_⟩ := find_completed found
    rw [List.getElem?_drop] at at_k
    refine ⟨cut + k, cursor, ?_, by omega, at_k, ?_⟩
    · simp only [pageCursor, found, Option.some_or, Option.map_some]
    · intro i other above less at_i
      refine open_ (i - cut) other (by omega) ?_
      rw [List.getElem?_drop, Nat.add_sub_cancel' above, at_i]
  | none =>
    refine ⟨cut, entry, ?_, le_rfl, here, by omega⟩
    simp only [pageCursor, found, Option.none_or]
    rw [tail]
    rfl

theorem pageable_cursor {turn : LiveTurn} {cut index : ℕ} (above : cut ≤ index)
    (open_ : ∀ i other, cut ≤ i → i < index → turn.entries[i]? = some (.item other) →
      other.completed = none) : turn.pageable index = turn.pageable cut := by
  refine List.filter_congr ?_
  rintro ⟨i, entry⟩ member
  have at_i := mem_indexedItems.1 member
  by_cases before : i < cut
  · simp [before, before.trans_le above]
  · by_cases between : i < index
    · have unsettled : entry.isSettled = false := by
        simp [LiveItemEntry.isSettled, open_ i entry (by omega) between at_i]
      simp [before, between, isPageable, unsettled]
    · simp [before, between]

theorem mem_ridersFrom {turn : LiveTurn} {entries : List LiveEntry} {start : ℕ}
    {requestId : ServerRequestId} :
    requestId ∈ (turn.ridersFrom start entries).2 ↔
      ∃ thread turnId, .event (.serverRequestResolved thread turnId requestId) ∈ entries := by
  induction entries generalizing start with
  | nil => simp [ridersFrom]
  | cons first entries ih =>
    simp only [ridersFrom, List.mem_cons]
    split
    · next thread turnId resolved =>
      rw [Finset.mem_insert, ih]
      constructor
      · rintro (rfl | ⟨thread, turnId, later⟩)
        · exact ⟨thread, turnId, .inl rfl⟩
        · exact ⟨thread, turnId, .inr later⟩
      · rintro ⟨thread, turnId, same | later⟩
        · injection same with same
          injection same with _ _ same
          exact .inl same
        · exact .inr ⟨thread, turnId, later⟩
    · next other =>
      rw [ih]
      constructor
      · rintro ⟨thread, turnId, later⟩
        exact ⟨thread, turnId, .inr later⟩
      · rintro ⟨thread, turnId, same | later⟩
        · exact absurd same.symm (other thread turnId requestId)
        · exact ⟨thread, turnId, later⟩

/-- Whether an entry rides along depends on the entry and on what the entries after it
resolve. SOURCE: live.rs:225-247. -/
theorem ridersFrom_getElem (turn : LiveTurn) (entries : List LiveEntry) (start index : ℕ)
    {entry : LiveEntry} (here : entries[index]? = some entry) :
    (turn.ridersFrom start entries).1[index]? =
      some (turn.rides (turn.ridersFrom (start + index + 1) (entries.drop (index + 1))).2
        (start + index) entry) := by
  induction entries generalizing start index with
  | nil => simp at here
  | cons first entries ih =>
    cases index with
    | zero =>
      obtain rfl : first = entry := by simpa using here
      simp [ridersFrom]
    | succ index =>
      have := ih (start + 1) index (by simpa using here)
      rw [show start + (index + 1) = start + 1 + index by omega, List.drop_succ_cons, ← this]
      simp [ridersFrom]

/-- Of the entries before the cut, a snapshot carries those that ride along. SOURCE:
live.rs:774. -/
theorem carries_eq {turn : LiveTurn} {cut index : ℕ} {entry : LiveEntry}
    (here : turn.entries[index]? = some entry) :
    turn.carries cut index = (!decide (index < cut) ||
      turn.rides (turn.ridersFrom (index + 1) (turn.entries.drop (index + 1))).2 index entry) := by
  have rider := turn.ridersFrom_getElem turn.entries 0 index here
  rw [Nat.zero_add] at rider
  by_cases before : index < cut
  · simp [carries, riders, before, rider]
  · simp [carries, before]

/-- Of the item entries before the cut, a snapshot carries those no page carries. SOURCE:
live.rs:229, 774. -/
theorem carries_item {turn : LiveTurn} {cut index : ℕ} {entry : LiveItemEntry}
    (here : turn.entries[index]? = some (.item entry)) :
    turn.carries cut index = !(decide (index < cut) && turn.isPageable index entry) := by
  rw [carries_eq here, rides, isPageable]
  by_cases before : index < cut <;> simp [before]

/-- As many item entries are left out as pages carry. SOURCE: live.rs:773-777. -/
theorem omitted_countP (turn : LiveTurn) (cut : ℕ) :
    (turn.entries.zipIdx.filter fun (_, index) => !turn.carries cut index).countP
        (fun (entry, _) => entry.asItem.isSome) = (turn.pageable cut).length := by
  rw [pageable, ← List.countP_eq_length_filter, indexedItems, List.countP_filterMap,
    List.countP_filter]
  refine List.countP_congr ?_
  rintro ⟨kept, index⟩ member
  have here := List.mem_zipIdx_iff_getElem?.1 member
  cases kept with
  | event other => simp [LiveEntry.asItem]
  | item entry => simp [LiveEntry.asItem, carries_item here]

end LiveTurn

/-! ## Which events of the snapshot belong to an item -/

/-- The item a wire event is about. -/
def WireAgentEvent.itemId : WireAgentEvent → Option ItemId
  | .itemStarted _ _ item => some item.id
  | .itemDelta _ _ itemId _ => some itemId
  | .itemCompleted _ _ item => some item.id
  | _ => none

section

variable {crates : Crates}

/-- Every event an entry expands to is about the entry's item. SOURCE: live.rs:423-450. -/
theorem LiveItemEntry.expand_itemId {turn : LiveTurn} {entry : LiveItemEntry}
    (valid : LiveTurn.EntryValid entry) {event : WireAgentEvent}
    (member : event ∈ entry.expand crates turn) : event.itemId = some entry.id := by
  simp only [LiveItemEntry.expand, List.mem_append, Option.mem_toList, List.mem_filterMap]
    at member
  rcases member with (started | completed) | ⟨delta, -, result⟩
  · obtain ⟨event', result, wire⟩ := Option.bind_eq_some_iff.1 started
    obtain ⟨start, kept, rfl⟩ := Option.map_eq_some_iff.1 result
    obtain rfl := Option.some.inj wire
    exact congrArg some (valid.start_id start kept)
  · obtain ⟨wire, result, rfl⟩ := Option.map_eq_some_iff.1 completed
    exact congrArg some (LiveItemEntry.wireCompleted_id valid result)
  · obtain rfl := Option.some.inj result
    rfl

theorem WireAgentEvent.itemId_of_isPlain {event : AgentEvent} (plain : LiveTurn.isPlain event = true)
    {wire : WireAgentEvent} (result : WireAgentEvent.fromAgentEvent crates event = some wire) :
    wire.itemId = none := by
  cases event
  all_goals first
    | (obtain rfl := Option.some.inj result; rfl)
    | cases plain

theorem flatMap_eq_of_unique {α β : Type} [DecidableEq α] {list : List α} {f : α → List β} {a : α}
    (nodup : list.Nodup) (others : ∀ x ∈ list, x ≠ a → f x = []) :
    list.flatMap f = if a ∈ list then f a else [] := by
  by_cases member : a ∈ list
  · obtain ⟨before, after, rfl⟩ := List.append_of_mem member
    rw [List.nodup_append, List.nodup_cons] at nodup
    obtain ⟨-, ⟨absent, -⟩, apart⟩ := nodup
    have left : before.flatMap f = [] := by
      rw [List.flatMap_eq_nil_iff]
      intro x inside
      exact others x (by simp [inside]) (apart x inside a (by simp))
    have right : after.flatMap f = [] := by
      rw [List.flatMap_eq_nil_iff]
      intro x inside
      refine others x (by simp [inside]) ?_
      rintro rfl
      exact absent inside
    simp [left, right]
  · rw [if_neg member, List.flatMap_eq_nil_iff]
    intro x inside
    refine others x inside ?_
    rintro rfl
    exact member inside

namespace LiveTurn

theorem zipIdx_nodup (turn : LiveTurn) : turn.entries.zipIdx.Nodup := by
  have distinct : (turn.entries.zipIdx.map Prod.snd).Nodup := by
    rw [List.zipIdx_map_snd]
    exact List.nodup_range'
  exact distinct.of_map _

/-- The event of a start that waits. -/
abbrev waitingStart (crates : Crates) :
    ThreadId × TurnId × ItemStart → Option WireAgentEvent :=
  fun (thread, turnId, start) =>
    WireAgentEvent.fromAgentEvent crates (.itemStarted thread turnId start)

/-- The events of an item in a snapshot: its entry's expansion when the entry is carried,
nothing when it is not. SOURCE: live.rs:744-831. -/
theorem snapshotTurn_filter {turn : LiveTurn} (valid : turn.Valid) (threadId : ThreadId)
    (tailItems : ℕ) {index : ℕ} {entry : LiveItemEntry}
    (here : turn.entries[index]? = some (.item entry)) :
    (LiveTurnState.snapshotTurn crates threadId turn tailItems).accumulated.filter
        (fun event => event.itemId = some entry.id) =
      if turn.carries (turn.cut tailItems) index then entry.expand crates turn else [] := by
  have entryValid := valid.entryValid (List.mem_of_getElem? here)
  have started : (turn.turnStarted.bind (WireAgentEvent.fromAgentEvent crates)).toList.filter
      (fun event => event.itemId = some entry.id) = [] := by
    rw [List.filter_eq_nil_iff]
    intro event member
    obtain ⟨core, kept, result⟩ := Option.bind_eq_some_iff.1 (Option.mem_toList.1 member)
    obtain ⟨thread, tid, rfl⟩ := valid.started core kept
    obtain rfl := Option.some.inj result
    simp [WireAgentEvent.itemId]
  have usage : (turn.latestUsage.bind (WireAgentEvent.fromAgentEvent crates)).toList.filter
      (fun event => event.itemId = some entry.id) = [] := by
    rw [List.filter_eq_nil_iff]
    intro event member
    obtain ⟨core, kept, result⟩ := Option.bind_eq_some_iff.1 (Option.mem_toList.1 member)
    obtain ⟨thread, tid, usage, window, model, rfl⟩ := valid.usage core kept
    obtain rfl := Option.some.inj result
    simp [WireAgentEvent.itemId]
  have pending : (turn.pendingStarts.values.filterMap (waitingStart crates)).filter
      (fun event => event.itemId = some entry.id) = [] := by
    rw [List.filter_eq_nil_iff]
    intro event member
    obtain ⟨⟨thread, turnId, start⟩, kept, result⟩ := List.mem_filterMap.1 member
    obtain rfl := Option.some.inj result
    obtain ⟨⟨id, value⟩, stored, rfl⟩ := List.mem_map.1 kept
    have same := valid.pending_id id thread turnId start stored
    have free := valid.pending_slot id (List.mem_map.2 ⟨_, stored, rfl⟩)
    intro about
    have : start.id = entry.id := by simpa [WireAgentEvent.itemId, ItemStart.toWire] using about
    rw [← same, this, valid.slots_of_mem here] at free
    cases free
  have carried : ((turn.entries.zipIdx.filter fun (_, index) =>
        turn.carries (turn.cut tailItems) index).flatMap
          fun (kept, _) => kept.expand crates turn).filter
        (fun event => event.itemId = some entry.id) =
      if turn.carries (turn.cut tailItems) index then entry.expand crates turn else [] := by
    rw [List.filter_flatMap, flatMap_eq_of_unique (a := (LiveEntry.item entry, index))
      (turn.zipIdx_nodup.sublist List.filter_sublist)]
    · have all : (entry.expand crates turn).filter
          (fun event => event.itemId = some entry.id) = entry.expand crates turn := by
        rw [List.filter_eq_self]
        intro event member
        simpa using LiveItemEntry.expand_itemId entryValid member
      simp only [List.mem_filter, List.mem_zipIdx_iff_getElem?, here, true_and]
      split
      · exact all
      · rfl
    · rintro ⟨kept, i⟩ member other
      rw [List.mem_filter, List.mem_zipIdx_iff_getElem?] at member
      rw [List.filter_eq_nil_iff]
      intro event inside about
      have about : event.itemId = some entry.id := by simpa using about
      cases kept with
      | event core =>
        have := WireAgentEvent.itemId_of_isPlain
          (valid.plain core (List.mem_of_getElem? member.1)) (Option.mem_toList.1 inside)
        rw [this] at about
        cases about
      | item entry' =>
        have entryValid' := valid.entryValid (List.mem_of_getElem? member.1)
        rw [LiveItemEntry.expand_itemId entryValid' inside, Option.some.injEq] at about
        have same := valid.slot_unique member.1 here about
        subst same
        rw [here] at member
        simp_all
  simp only [LiveTurnState.snapshotTurn, List.filter_append, started, usage, pending, carried,
    List.nil_append, List.append_nil]

/-! ## The partition -/

/-- The items of the turn in entry order. -/
def itemIds (turn : LiveTurn) : List ItemId :=
  (turn.entries.filterMap LiveEntry.asItem).map LiveItemEntry.id

theorem itemIds_eq (turn : LiveTurn) :
    turn.itemIds = turn.indexedItems.map fun (_, entry) => entry.id := by
  have entries : turn.entries = turn.entries.zipIdx.map Prod.fst := by simp
  rw [itemIds, indexedItems, List.map_filterMap, List.map_filterMap]
  conv_lhs => rw [entries, List.filterMap_map]
  congr 1
  funext ⟨kept, index⟩
  cases kept <;> rfl

theorem itemIds_nodup {turn : LiveTurn} (valid : turn.Valid) : turn.itemIds.Nodup := by
  rw [itemIds_eq, List.nodup_iff_pairwise_ne, List.pairwise_map]
  refine turn.indexedItems_sorted.imp_of_mem ?_
  rintro ⟨i, left⟩ ⟨j, right⟩ hi hj less same
  have := valid.slot_unique (mem_indexedItems.1 hi) (mem_indexedItems.1 hj) same
  omega

theorem wireItems_map_id {turn : LiveTurn} {list : List (ℕ × LiveItemEntry)}
    (all : ∀ pair ∈ list, EntryValid pair.2 ∧ pair.2.isSettled = true) :
    (wireItems crates turn list).map WireItem.id = list.map fun (_, entry) => entry.id := by
  induction list with
  | nil => rfl
  | cons pair rest ih =>
    obtain ⟨index, entry⟩ := pair
    obtain ⟨entryValid, settled⟩ := all (index, entry) (by simp)
    obtain ⟨wire, result, first⟩ :=
      @wireItems_cons crates turn index _ rest settled
    rw [first, List.map_cons, List.map_cons, ih fun pair member => all pair (by simp [member]),
      LiveItemEntry.wireCompleted_id entryValid result]

theorem pageable_settled {turn : LiveTurn} (valid : turn.Valid) (stop : ℕ) :
    ∀ pair ∈ turn.pageable stop, EntryValid pair.2 ∧ pair.2.isSettled = true := by
  rintro ⟨index, entry⟩ member
  obtain ⟨here, -, pageable⟩ := mem_pageable.1 member
  rw [isPageable, Bool.and_eq_true] at pageable
  exact ⟨valid.entryValid (List.mem_of_getElem? here), pageable.1⟩

theorem wireItems_ids {turn : LiveTurn} (valid : turn.Valid) (stop : ℕ) :
    (wireItems crates turn (turn.pageable stop)).map WireItem.id =
      (turn.pageable stop).map fun (_, entry) => entry.id :=
  wireItems_map_id (pageable_settled valid stop)

theorem mem_wireItems {turn : LiveTurn} {stop : ℕ} {wire : WireItem}
    (member : wire ∈ wireItems crates turn (turn.pageable stop)) :
    ∃ index entry, turn.entries[index]? = some (.item entry) ∧ index < stop ∧
      entry.isSettled = true ∧ turn.promptSlot ≠ some index ∧
      entry.wireCompleted crates turn = some wire := by
  obtain ⟨⟨index, entry⟩, inside, result⟩ := List.mem_filterMap.1 member
  obtain ⟨here, before, pageable⟩ := mem_pageable.1 inside
  rw [isPageable, Bool.and_eq_true, decide_eq_true_eq] at pageable
  exact ⟨index, entry, here, before, pageable.1, pageable.2, result⟩

theorem mem_wireItems_ids {turn : LiveTurn} (valid : turn.Valid) {stop index : ℕ}
    {entry : LiveItemEntry} (here : turn.entries[index]? = some (.item entry)) :
    entry.id ∈ (wireItems crates turn (turn.pageable stop)).map WireItem.id ↔
      index < stop ∧ turn.isPageable index entry = true := by
  rw [wireItems_ids valid, List.mem_map]
  constructor
  · rintro ⟨⟨i, other⟩, member, same⟩
    obtain ⟨there, before, pageable⟩ := mem_pageable.1 member
    obtain rfl := valid.slot_unique there here same
    obtain rfl : other = entry := by simpa [here] using there.symm
    exact ⟨before, pageable⟩
  · rintro ⟨before, pageable⟩
    exact ⟨(index, entry), mem_pageable.2 ⟨here, before, pageable⟩, rfl⟩

/-- What a snapshot says is omitted: the number of pageable entries before the cut, as far as
the count reaches, and a cursor whose pages carry exactly these. SOURCE: live.rs:786-792. -/
theorem snapshotTurn_omitted {turn : LiveTurn} (valid : turn.Valid) (threadId : ThreadId)
    (tailItems : ℕ) :
    match (LiveTurnState.snapshotTurn crates threadId turn tailItems).omitted with
    | none => turn.pageable (turn.cut tailItems) = []
    | some omitted =>
      omitted.count = saturatingU32 (turn.pageable (turn.cut tailItems)).length ∧
        ∃ stop, turn.slots omitted.before = some stop ∧
          turn.pageable stop = turn.pageable (turn.cut tailItems) := by
  simp only [LiveTurnState.snapshotTurn, omitted_countP]
  by_cases none_ : turn.pageable (turn.cut tailItems) = []
  · simp [none_]
  · have cuts : turn.cut tailItems ≠ 0 := by
      intro zero
      rw [zero] at none_
      exact none_ (by simp [pageable])
    obtain ⟨entry, here⟩ := cut_item cuts
    obtain ⟨index, cursor, cursor_eq, above, there, open_⟩ := pageCursor_spec here
    rw [if_pos (List.length_pos_iff.2 none_), cursor_eq]
    exact ⟨rfl, index, valid.slots_of_mem there, pageable_cursor above open_⟩

end LiveTurn

end

namespace Analysis

open LiveTurnState

/-- In every run, a bounded snapshot and the walk from its cursor share out the item entries
of the turn. The walk ends and returns settled items other than the prompt echo, each once
and in entry order; the announced count is their number, up to the largest 32-bit number; and
for every item entry either the snapshot holds exactly its start, its completion and the
deltas since, or it holds nothing of it and a page carries its completion. SOURCE:
live.rs:173-250, 690-832. -/
theorem snapshot_and_pages_partition (crates : Crates) (ops : List Op) (threadId : ThreadId)
    (turn : LiveTurn) (live : (run ops).turnOf threadId = some turn) (tailItems limit : ℕ) :
    ∃ snapshot pages, (run ops).snapshot crates threadId tailItems = some snapshot ∧
      (match snapshot.omitted with
        | none => pages = []
        | some omitted => omitted.count = saturatingU32 pages.length ∧
          ∃ fuel, pageWalk crates (run ops) threadId turn.turnId limit fuel omitted.before =
            some pages) ∧
      turn.itemIds.Nodup ∧ (pages.map WireItem.id).Sublist turn.itemIds ∧
      (∀ wire ∈ pages, ∃ (index : ℕ) (entry : LiveItemEntry),
        turn.entries[index]? = some (.item entry) ∧ entry.isSettled = true ∧
        turn.promptSlot ≠ some index ∧ entry.wireCompleted crates turn = some wire) ∧
      ∀ (index : ℕ) (entry : LiveItemEntry), turn.entries[index]? = some (.item entry) →
        (entry.id ∉ pages.map WireItem.id ∧
          snapshot.accumulated.filter (fun event => event.itemId = some entry.id) =
            entry.expand crates turn) ∨
        (entry.id ∈ pages.map WireItem.id ∧
          snapshot.accumulated.filter (fun event => event.itemId = some entry.id) = []) := by
  have valid := valid_of_turnOf live
  have omitted := @LiveTurn.snapshotTurn_omitted crates _ valid threadId tailItems
  refine ⟨snapshotTurn crates threadId turn tailItems,
    wireItems crates turn (turn.pageable (turn.cut tailItems)), by simp [snapshot, live], ?_,
    LiveTurn.itemIds_nodup valid, ?_, ?_, ?_⟩
  · cases result : (snapshotTurn crates threadId turn tailItems).omitted with
    | none =>
      rw [result] at omitted
      simp only at omitted
      simp [omitted, wireItems]
    | some cursor =>
      rw [result] at omitted
      obtain ⟨count, stop, slot, same⟩ := omitted
      have length : (wireItems crates turn (turn.pageable (turn.cut tailItems))).length =
          (turn.pageable (turn.cut tailItems)).length := by
        have := congrArg List.length (@LiveTurn.wireItems_ids crates _ valid
          (turn.cut tailItems))
        simpa using this
      refine ⟨by rw [count, length], (turn.pageable stop).length + 1, ?_⟩
      rw [pageWalk_eq live valid limit slot (by omega), same]
  · rw [LiveTurn.wireItems_ids valid, LiveTurn.itemIds_eq]
    exact List.filter_sublist.map _
  · intro wire member
    obtain ⟨index, entry, here, -, settled, prompt, result⟩ := LiveTurn.mem_wireItems member
    exact ⟨index, entry, here, settled, prompt, result⟩
  · intro index entry here
    rw [LiveTurn.mem_wireItems_ids valid here, LiveTurn.snapshotTurn_filter valid threadId
      tailItems here, LiveTurn.carries_item here]
    by_cases paged : index < turn.cut tailItems ∧ turn.isPageable index entry = true
    · exact .inr ⟨paged, by simp [paged]⟩
    · refine .inl ⟨paged, ?_⟩
      have kept : (decide (index < turn.cut tailItems) && turn.isPageable index entry) = false := by
        rw [Bool.eq_false_iff]
        simpa using paged
      rw [kept]
      rfl

/-! ### Runs of completions -/

/-- The thread and the turn of the runs below. -/
def sampleThread : ThreadId := ⟨⟨1⟩⟩

def sampleTurn : TurnId := ⟨⟨2⟩⟩

/-- The `k`-th message of a run. -/
def sampleItem (k : ℕ) : Item := ⟨⟨⟨BitVec.ofNat 128 k⟩⟩, "", .agentMessage "", ⟨0, 0⟩⟩

/-- Its entry. -/
def sampleEntry (k : ℕ) : LiveItemEntry :=
  ⟨(sampleItem k).id, sampleThread, sampleTurn, none, some (sampleItem k), [], []⟩

/-- A turn in which the first `n` messages complete one after another. -/
def completions (n : ℕ) : List Op :=
  .ensureTurn sampleThread sampleTurn none ::
    (List.range n).map fun k =>
      .append sampleThread (.itemCompleted sampleThread sampleTurn (sampleItem k)) none none

theorem sampleItem_id_inj {j k : ℕ} (hj : j < 2 ^ 128) (hk : k < 2 ^ 128)
    (same : (sampleItem j).id = (sampleItem k).id) : j = k := by
  have bits : BitVec.ofNat 128 j = BitVec.ofNat 128 k := by
    simpa [sampleItem] using same
  have := congrArg BitVec.toNat bits
  rwa [BitVec.toNat_ofNat, BitVec.toNat_ofNat, Nat.mod_eq_of_lt hj, Nat.mod_eq_of_lt hk] at this

/-- Each message has an entry, in order. -/
theorem completions_entries {n : ℕ} (room : n ≤ 2 ^ 128) :
    ∃ turn, (LiveTurnState.run (completions n)).threadId = some sampleThread ∧
      (LiveTurnState.run (completions n)).turn = some turn ∧ turn.turnId = sampleTurn ∧
      turn.entries = (List.range n).map (fun k => .item (sampleEntry k)) ∧
      turn.pendingStarts = IndexMap.empty ∧
      ∀ k, n ≤ k → k < 2 ^ 128 → turn.slots (sampleItem k).id = none := by
  induction n with
  | zero => exact ⟨LiveTurn.new sampleTurn none, rfl, rfl, rfl, rfl, rfl, fun _ _ _ => rfl⟩
  | succ n ih =>
    obtain ⟨turn, thread, live, id, entries, pending, free⟩ := ih (by omega)
    have last : LiveTurnState.run (completions (n + 1)) =
        (LiveTurnState.run (completions n)).apply
          (.append sampleThread (.itemCompleted sampleThread sampleTurn (sampleItem n))
            none none) := by
      simp only [LiveTurnState.run, completions, List.range_succ, List.map_append, List.map_cons,
        List.map_nil, ← List.cons_append, List.foldl_append, List.foldl_cons, List.foldl_nil]
    have absent := free n le_rfl (by omega)
    have fresh : turn.freshEntry sampleThread sampleTurn (sampleItem n).id =
        ⟨(sampleItem n).id, sampleThread, sampleTurn, none, none, [], []⟩ := by
      rw [LiveTurn.freshEntry, pending]
      rfl
    have pushed : turn.completeItem sampleThread sampleTurn (sampleItem n) none none =
        { turn with
          pendingStarts := turn.pendingStarts.shiftRemove (sampleItem n).id
          entries := turn.entries ++ [.item (sampleEntry n)]
          slots := Function.update turn.slots (sampleItem n).id (some turn.entries.length) } := by
      change turn.modifyEntry sampleThread sampleTurn (sampleItem n).id (fun entry =>
        { entry with completed := some (sampleItem n), text := [], output := [] }) = _
      rw [LiveTurn.modifyEntry_of_fresh absent, fresh]
      rfl
    refine ⟨turn.completeItem sampleThread sampleTurn (sampleItem n) none none, ?_, ?_, ?_⟩
    · simp [last, apply, appendWithOutputs, modifyTurn, thread]
    · simp [last, apply, appendWithOutputs, modifyTurn, thread, live, LiveTurn.appendEvent]
    rw [pushed]
    refine ⟨id, ?_, ?_, ?_⟩
    · rw [entries, List.range_succ, List.map_append]
      rfl
    · rw [pending]
      rfl
    · intro k above below
      have other : (sampleItem k).id ≠ (sampleItem n).id := by
        intro same
        have := sampleItem_id_inj below (by omega) same
        omega
      dsimp only
      rw [Function.update_of_ne other]
      exact free k (by omega) below

theorem sampleEntries_indexedItems {turn : LiveTurn} {n : ℕ}
    (entries : turn.entries = (List.range n).map (fun k => .item (sampleEntry k))) :
    turn.indexedItems = (List.range n).map fun k => (k, sampleEntry k) := by
  have indexed : turn.entries.zipIdx = (List.range n).map fun k => (.item (sampleEntry k), k) := by
    rw [entries]
    apply List.ext_getElem <;> simp
  rw [LiveTurn.indexedItems, indexed, List.filterMap_map]
  exact congrFun List.filterMap_eq_map (List.range n)

theorem sampleEntries_pageable {turn : LiveTurn} {n : ℕ}
    (entries : turn.entries = (List.range (n + 2)).map (fun k => .item (sampleEntry k))) :
    (turn.pageable (turn.cut 1)).length = n + 1 := by
  have items := sampleEntries_indexedItems entries
  have cut : turn.cut 1 = n + 1 := by
    simp [LiveTurn.cut, items, List.range_succ]
  have prompt : turn.promptSlot = none := by
    rw [LiveTurn.promptSlot, entries, List.findIdx?_eq_none_iff]
    intro kept member
    obtain ⟨k, -, rfl⟩ := List.mem_map.1 member
    rfl
  have page : turn.pageable (n + 1) = (List.range (n + 1)).map fun k => (k, sampleEntry k) := by
    rw [LiveTurn.pageable, items, List.filter_map, List.range_succ, List.filter_append,
      List.filter_eq_self.2, List.filter_eq_nil_iff.2, List.append_nil]
    · simp
    · intro k member
      have settled : (sampleEntry k).isSettled = true := rfl
      simpa [LiveTurn.isPageable, prompt, settled] using member
  rw [cut, page, List.length_map, List.length_range]

/-- A snapshot of three messages with a tail of one, and the pages of one item each. -/
theorem snapshot_and_pages_partition_completions :
    ∃ turn, (LiveTurnState.run (completions 3)).turnOf sampleThread = some turn ∧
      ∃ snapshot pages,
        (LiveTurnState.run (completions 3)).snapshot Crates.reference sampleThread 1 = some snapshot ∧
        (match snapshot.omitted with
          | none => pages = []
          | some omitted => omitted.count = saturatingU32 pages.length ∧
            ∃ fuel, pageWalk Crates.reference (LiveTurnState.run (completions 3)) sampleThread turn.turnId 1 fuel
              omitted.before = some pages) ∧
        (pages.map WireItem.id).Sublist turn.itemIds := by
  obtain ⟨turn, thread, live, -⟩ := completions_entries (n := 3) (by decide)
  have here : (LiveTurnState.run (completions 3)).turnOf sampleThread = some turn := by
    rw [turnOf, if_pos thread, live]
  obtain ⟨snapshot, pages, taken, walked, -, order, -⟩ :=
    snapshot_and_pages_partition Crates.reference (completions 3) sampleThread turn here 1 1
  exact ⟨turn, here, snapshot, pages, taken, walked, order⟩

/-- The turn's one entry has neither a start nor a completion, and an empty delta. -/
def emptyDelta : List Op :=
  [.ensureTurn sampleThread sampleTurn none,
    .append sampleThread
      (.itemDelta sampleThread sampleTurn (sampleItem 0).id (.text "")) none none]

/-- An entry whose deltas are empty is in the turn but neither in the snapshot, which has no
event for it, nor in a page; and past the largest 32-bit number the announced count is not the
number of paged items. SOURCE: live.rs:423-450, 789. -/
theorem snapshot_omits_uncounted :
    (∃ turn snapshot, (run emptyDelta).turnOf sampleThread = some turn ∧
      turn.itemIds = [(sampleItem 0).id] ∧
      (run emptyDelta).snapshot Crates.reference sampleThread 1 = some snapshot ∧
      snapshot.accumulated = [] ∧ snapshot.omitted = none) ∧
    ∃ turn snapshot omitted fuel pages,
      (LiveTurnState.run (completions (2 ^ 32 + 2))).turnOf sampleThread = some turn ∧
      (LiveTurnState.run (completions (2 ^ 32 + 2))).snapshot Crates.reference sampleThread 1 = some snapshot ∧
      snapshot.omitted = some omitted ∧
      pageWalk Crates.reference (LiveTurnState.run (completions (2 ^ 32 + 2))) sampleThread turn.turnId 1 fuel
        omitted.before = some pages ∧
      omitted.count.toNat ≠ pages.length := by
  refine ⟨⟨_, _, rfl, rfl, rfl, rfl, rfl⟩, ?_⟩
  generalize large : 2 ^ 32 = n
  obtain ⟨turn, thread, live, -, entries, -⟩ := completions_entries (n := n + 2) (by omega)
  have valid := valid_run _ turn live
  have here : (LiveTurnState.run (completions (n + 2))).turnOf sampleThread = some turn := by
    rw [turnOf, if_pos thread, live]
  have paged := sampleEntries_pageable entries
  have omitted := @LiveTurn.snapshotTurn_omitted Crates.reference _ valid sampleThread 1
  cases result : (snapshotTurn Crates.reference sampleThread turn 1).omitted with
  | none =>
    rw [result] at omitted
    simp [omitted] at paged
  | some cursor =>
    rw [result] at omitted
    obtain ⟨count, stop, slot, same⟩ := omitted
    have walk := @pageWalk_eq Crates.reference _ _ _ here valid 1 _ _ _ slot (Nat.lt_succ_self _)
    refine ⟨turn, _, cursor, _, _, here, by simp [snapshot, here], result, walk, ?_⟩
    have length := congrArg List.length (@LiveTurn.wireItems_ids Crates.reference _ valid stop)
    rw [List.length_map, List.length_map, same, paged] at length
    rw [same, length, count, paged]
    have saturates : ¬ n + 1 < 2 ^ 32 := by omega
    rw [saturatingU32, if_neg saturates]
    have largest : (UInt32.ofNat (2 ^ 32 - 1)).toNat = 2 ^ 32 - 1 := rfl
    omega

end Analysis

end Giskard
