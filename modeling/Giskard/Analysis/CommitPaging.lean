import Mathlib
import Giskard.Model.TurnItems
import Giskard.Analysis.LivePaging

/-!
# Paging across a commit

A client that pages through the items a snapshot left out may be served by two stores: the
reconnect buffer, which orders items by their first row, and the persisted turn, which orders
them by their first completion. While the turn is live each page takes the next omitted items
before the cursor. Once it is committed the walk returns whatever was completed before the
cursor's item. So the walk always ends, and it returns every omitted item exactly once when
the items with a row before the cursor at the commit are those completed before it.
-/

set_option autoImplicit false

namespace Giskard

open Foundation

/-! ## The assembled items -/

namespace CurrentTurnItems

/-- The index names exactly the items. -/
def Valid (buffer : CurrentTurnItems) : Prop :=
  ∀ id idx, buffer.indexes id = some idx ↔ ∃ item, buffer.items[idx]? = some item ∧ item.id = id

theorem valid_empty : empty.Valid := by
  intro id idx
  simp [empty]

theorem valid_appendIndexed {buffer : CurrentTurnItems} (valid : buffer.Valid) {item : Item}
    (absent : buffer.indexes item.id = none) : (buffer.appendIndexed item).Valid := by
  intro id idx
  simp only [appendIndexed]
  by_cases same : id = item.id
  · subst same
    rw [Function.update_self, Option.some.injEq]
    constructor
    · rintro rfl
      exact ⟨item, by simp, rfl⟩
    · rintro ⟨other, here, same⟩
      rcases Nat.lt_or_ge idx buffer.items.length with inside | after
      · rw [List.getElem?_append_left inside] at here
        have := (valid item.id idx).2 ⟨other, here, same⟩
        rw [absent] at this
        cases this
      · have := (List.getElem?_eq_some_iff.1 here).1
        rw [List.length_append, List.length_singleton] at this
        omega
  · rw [Function.update_of_ne same, valid id idx]
    constructor
    · rintro ⟨other, here, rfl⟩
      exact ⟨other, by rw [List.getElem?_append_left (List.getElem?_eq_some_iff.1 here).1, here],
        rfl⟩
    · rintro ⟨other, here, rfl⟩
      refine ⟨other, ?_, rfl⟩
      rcases Nat.lt_or_ge idx buffer.items.length with inside | after
      · rwa [List.getElem?_append_left inside] at here
      · rw [List.getElem?_append_right after] at here
        have : other = item := by
          cases gap : idx - buffer.items.length with
          | zero => simpa [gap] using here.symm
          | succ n => simp [gap] at here
        exact absurd (congrArg Item.id this) same

/-- With a valid index an upsert replaces the item in place or appends it. SOURCE:
event_forwarder.rs:330-357. -/
theorem upsert_spec {buffer : CurrentTurnItems} (valid : buffer.Valid) (item : Item) :
    (buffer.upsert item).1.Valid ∧
      (buffer.upsert item).1.items.map Item.id =
        if item.id ∈ buffer.items.map Item.id then buffer.items.map Item.id
        else buffer.items.map Item.id ++ [item.id] := by
  cases found : buffer.indexes item.id with
  | some idx =>
    obtain ⟨existing, here, same⟩ := (valid item.id idx).1 found
    have inside : idx < buffer.items.length := (List.getElem?_eq_some_iff.1 here).1
    have member : item.id ∈ buffer.items.map Item.id :=
      same ▸ List.mem_map_of_mem (List.mem_of_getElem? here)
    have replaced : (buffer.upsert item).1 = { buffer with items := buffer.items.set idx item } := by
      simp [upsert, found, here, same]
    have ids : (buffer.items.set idx item).map Item.id = buffer.items.map Item.id := by
      rw [List.map_set]
      apply List.ext_getElem?
      intro i
      by_cases at_i : i = idx
      · subst at_i
        rw [List.getElem?_set_self (by simpa using inside), List.getElem?_map, here, ← same]
        rfl
      · rw [List.getElem?_set_ne (Ne.symm at_i)]
    rw [replaced, if_pos member]
    refine ⟨?_, ids⟩
    intro id i
    rw [valid id i]
    have pointwise := congrArg (fun list : List ItemId => list[i]?) ids
    simp only [List.getElem?_map] at pointwise
    constructor
    · rintro ⟨other, there, rfl⟩
      rw [there] at pointwise
      obtain ⟨other', there', same'⟩ := Option.map_eq_some_iff.1 pointwise
      exact ⟨other', there', same'⟩
    · rintro ⟨other, there, rfl⟩
      dsimp only at there
      rw [there] at pointwise
      obtain ⟨other', there', same'⟩ := Option.map_eq_some_iff.1 pointwise.symm
      exact ⟨other', there', same'⟩
  | none =>
    have absent : item.id ∉ buffer.items.map Item.id := by
      intro member
      obtain ⟨existing, inside, same⟩ := List.mem_map.1 member
      obtain ⟨idx, here⟩ := List.mem_iff_getElem?.1 inside
      rw [(valid item.id idx).2 ⟨existing, here, same⟩] at found
      cases found
    have appended : (buffer.upsert item).1 = buffer.appendIndexed item := by simp [upsert, found]
    rw [appended, if_neg absent]
    exact ⟨valid_appendIndexed valid found, by simp [appendIndexed]⟩

theorem Valid.nodup {buffer : CurrentTurnItems} (valid : buffer.Valid) :
    (buffer.items.map Item.id).Nodup := by
  rw [List.nodup_iff_getElem?_ne_getElem?]
  intro i j less inside same
  rw [List.length_map] at inside
  have first : buffer.items[i]? = some buffer.items[i] := List.getElem?_eq_getElem (by omega)
  have second : buffer.items[j]? = some buffer.items[j] := List.getElem?_eq_getElem inside
  rw [List.getElem?_map, List.getElem?_map, first, second, Option.map_some, Option.map_some,
    Option.some.injEq] at same
  have left := (valid _ i).2 ⟨_, first, rfl⟩
  have right := (valid _ j).2 ⟨_, second, rfl⟩
  rw [same, right] at left
  have := Option.some.inj left
  omega

end CurrentTurnItems

/-! ## The live phase -/

namespace LiveTurn

section

variable {turn : LiveTurn} (valid : turn.Valid)

include valid

theorem modifyEntry_frame (thread : ThreadId) (turnId : TurnId) (itemId : ItemId)
    (change : LiveItemEntry → LiveItemEntry) :
    (turn.modifyEntry thread turnId itemId change).turnId = turn.turnId ∧
      ∀ id slot, turn.slots id = some slot →
        (turn.modifyEntry thread turnId itemId change).slots id = some slot := by
  cases found : turn.slots itemId with
  | some slot =>
    obtain ⟨entry, item_eq, -, -⟩ := valid.itemAt_of_slots found
    rw [modifyEntry_of_slot found item_eq]
    exact ⟨rfl, fun id slot kept => kept⟩
  | none =>
    rw [modifyEntry_of_fresh found]
    refine ⟨rfl, ?_⟩
    intro id slot kept
    have other : id ≠ itemId := by
      rintro rfl
      rw [found] at kept
      cases kept
    dsimp only
    rwa [Function.update_of_ne other]

theorem startItem_frame (thread : ThreadId) (turnId : TurnId) (start : ItemStart) :
    (turn.startItem thread turnId start).turnId = turn.turnId ∧
      ∀ id slot, turn.slots id = some slot →
        (turn.startItem thread turnId start).slots id = some slot := by
  unfold startItem
  split
  · exact ⟨rfl, fun id slot kept => kept⟩
  · exact modifyEntry_frame valid thread turnId start.id _

theorem completeItem_frame (thread : ThreadId) (turnId : TurnId) (item : Item)
    (commandOutput : Option CommandOutputDescriptor) (toolOutput : Option ToolOutputDescriptor) :
    (turn.completeItem thread turnId item commandOutput toolOutput).turnId = turn.turnId ∧
      ∀ id slot, turn.slots id = some slot →
        (turn.completeItem thread turnId item commandOutput toolOutput).slots id = some slot := by
  obtain ⟨entries, slots, pending, started, usage, -⟩ :=
    turn.storeOutputs_spec item commandOutput toolOutput
  have same : (turn.storeOutputs item commandOutput toolOutput).1.turnId = turn.turnId := by
    unfold storeOutputs
    split <;> rfl
  have valid' := valid.congr entries slots pending started usage
  obtain ⟨turnId_eq, kept⟩ := modifyEntry_frame valid' thread turnId
    (turn.storeOutputs item commandOutput toolOutput).2.id fun entry =>
      { entry with
        completed := some (turn.storeOutputs item commandOutput toolOutput).2
        text := []
        output := [] }
  refine ⟨turnId_eq.trans same, ?_⟩
  intro id slot found
  exact kept id slot (by rw [slots]; exact found)

end

end LiveTurn

/-- A server whose thread is in the turn. -/
structure TurnServer.Live (server : TurnServer) (threadId : ThreadId) (turnId : TurnId)
    (turn : LiveTurn) : Prop where
  runtime : server.runtime = ⟨some threadId, some turn⟩
  turnId : turn.turnId = turnId
  valid : turn.Valid
  current : server.current.Valid

namespace TurnServer

section

variable {server : TurnServer} {threadId : ThreadId} {turnId : TurnId} {turn : LiveTurn}

theorem Live.turnOf (live : server.Live threadId turnId turn) :
    server.runtime.turnOf threadId = some turn := by
  rw [live.runtime, LiveTurnState.turnOf, if_pos rfl]

/-- What a delta adds to the entry of its item. -/
def pushDelta (delta : ItemDelta) (entry : LiveItemEntry) : LiveItemEntry :=
  match delta with
  | .text text => entry.pushText text.toList
  | .commandOutput chunk => entry.pushOutput chunk.toList

/-- An event keeps the turn live and every item its row. -/
theorem Live.applyEvent (live : server.Live threadId turnId turn) (event : ItemEvent) :
    ∃ next, (server.applyEvent threadId turnId event).Live threadId turnId next ∧
      ∀ id slot, turn.slots id = some slot → next.slots id = some slot := by
  have appended (other : AgentEvent) (commandOutput : Option CommandOutputDescriptor)
      (toolOutput : Option ToolOutputDescriptor) :
      server.runtime.appendWithOutputs threadId other commandOutput toolOutput =
        ⟨some threadId, some (turn.appendEvent other commandOutput toolOutput)⟩ := by
    rw [live.runtime, LiveTurnState.appendWithOutputs, LiveTurnState.modifyTurn, if_pos rfl]
    rfl
  cases event with
  | started start =>
    obtain ⟨same, kept⟩ := LiveTurn.startItem_frame live.valid threadId turnId start
    exact ⟨_, ⟨appended _ none none, same.trans live.turnId,
      LiveTurn.valid_appendEvent live.valid _ none none, live.current⟩, kept⟩
  | delta itemId delta =>
    have frame := LiveTurn.modifyEntry_frame live.valid threadId turnId itemId (pushDelta delta)
    exact ⟨_, ⟨appended _ none none, frame.1.trans live.turnId,
      LiveTurn.valid_appendEvent live.valid _ none none, live.current⟩, frame.2⟩
  | completed item commandOutput toolOutput =>
    obtain ⟨same, kept⟩ :=
      LiveTurn.completeItem_frame live.valid threadId turnId item commandOutput toolOutput
    exact ⟨_, ⟨appended _ commandOutput toolOutput, same.trans live.turnId,
      LiveTurn.valid_appendEvent live.valid _ commandOutput toolOutput,
      (CurrentTurnItems.upsert_spec live.current item).1⟩, kept⟩

/-- The server of a turn after its first events. -/
def opened (threadId : ThreadId) (turnId : TurnId) (userInput : Option UserInput)
    (past : List ItemEvent) : TurnServer :=
  past.foldl (fun server event => server.applyEvent threadId turnId event)
    ⟨LiveTurnState.empty.replaceTurnWithUserInput threadId turnId userInput,
      CurrentTurnItems.empty, none⟩

theorem opened_live (threadId : ThreadId) (turnId : TurnId) (userInput : Option UserInput)
    (past : List ItemEvent) :
    ∃ turn, (opened threadId turnId userInput past).Live threadId turnId turn := by
  have fold (server : TurnServer) (start : ∃ turn, server.Live threadId turnId turn) :
      ∃ turn, (past.foldl (fun server event => server.applyEvent threadId turnId event)
        server).Live threadId turnId turn := by
    induction past generalizing server with
    | nil => exact start
    | cons event past ih =>
      obtain ⟨turn, live⟩ := start
      obtain ⟨next, live, -⟩ := live.applyEvent event
      exact ih _ ⟨next, live⟩
  exact fold _ ⟨_, rfl, rfl, LiveTurn.valid_new turnId userInput, CurrentTurnItems.valid_empty⟩

end

end TurnServer

/-- The items a snapshot leaves to the pages. SOURCE: live.rs:773-777. -/
def LiveTurn.omittedIds (turn : LiveTurn) (tailItems : ℕ) : List ItemId :=
  ((turn.entries.zipIdx.filter fun (_, index) => !turn.carries (turn.cut tailItems) index).filterMap
    fun (entry, _) => entry.asItem).map LiveItemEntry.id

theorem LiveTurn.mem_omittedIds {turn : LiveTurn} {tailItems : ℕ} {id : ItemId} :
    id ∈ turn.omittedIds tailItems ↔ ∃ (index : ℕ) (entry : LiveItemEntry),
      turn.entries[index]? = some (.item entry) ∧ entry.id = id ∧
        index < turn.cut tailItems ∧ turn.isPageable index entry = true := by
  simp only [omittedIds, List.mem_map, List.mem_filterMap, List.mem_filter, Prod.exists,
    asItem_eq_some, List.mem_zipIdx_iff_getElem?]
  constructor
  · rintro ⟨entry, ⟨kept, index, ⟨here, left⟩, rfl⟩, same⟩
    rw [carries_item here] at left
    exact ⟨index, entry, here, same, by simpa using left⟩
  · rintro ⟨index, entry, here, same, before, pageable⟩
    refine ⟨entry, ⟨_, index, ⟨here, ?_⟩, rfl⟩, same⟩
    rw [carries_item here]
    simp [before, pageable]

/-- Whether a page may carry an item now. -/
def TurnServer.Pageable (server : TurnServer) (id : ItemId) : Prop :=
  ∃ (turn : LiveTurn) (index : ℕ) (entry : LiveItemEntry), server.runtime.turn = some turn ∧
    turn.entries[index]? = some (.item entry) ∧ entry.id = id ∧
    turn.isPageable index entry = true

/-- How far a live walk has come: it has returned the omitted items from the cursor on, each
once. -/
def Progress (omitted : List ItemId) (turn : LiveTurn) (walk : PageWalk) : Prop :=
  match walk.cursor with
  | none => ∀ id ∈ omitted, (walk.items.map WireItem.id).count id = 1
  | some before => ∃ stop, turn.slots before = some stop ∧ ∀ id ∈ omitted, ∀ index,
      turn.slots id = some index →
        (walk.items.map WireItem.id).count id = if index < stop then 0 else 1

theorem Progress.frame {omitted : List ItemId} {turn next : LiveTurn} {walk : PageWalk}
    (kept : ∀ id slot, turn.slots id = some slot → next.slots id = some slot)
    (known : ∀ id ∈ omitted, turn.slots id ≠ none) (progress : Progress omitted turn walk) :
    Progress omitted next walk := by
  unfold Progress at progress ⊢
  split
  · next last => rwa [last] at progress
  · next before at_before =>
    rw [at_before] at progress
    obtain ⟨stop, slot, counts⟩ := progress
    refine ⟨stop, kept before stop slot, ?_⟩
    intro id member index found
    obtain ⟨old, was⟩ := Option.ne_none_iff_exists'.1 (known id member)
    have : some old = some index := by rw [← kept id old was, found]
    exact counts id member index (this ▸ was)

section

variable {crates : Crates} {server : TurnServer} {threadId : ThreadId} {turnId : TurnId}
  {turn : LiveTurn}

/-- A page of a live turn. SOURCE: routes.rs:5254-5262. -/
theorem TurnServer.Live.turnItems (live : server.Live threadId turnId turn) {before : ItemId}
    {stop : ℕ} (slot : turn.slots before = some stop) (limit : ℕ) :
    ∃ width, 0 < width ∧ server.turnItems crates threadId turnId (some before) limit = .ok
      { items := wireItems crates turn
          ((turn.pageable stop).drop ((turn.pageable stop).length - width))
        hasMore := decide (width < (turn.pageable stop).length) } := by
  refine ⟨max (max 1 (min limit maxItemPageItems)) 1, by omega, ?_⟩
  have page := @LiveTurnState.itemsPage_eq crates _ _ _ live.turnOf live.valid _ _ slot
    (max 1 (min limit maxItemPageItems))
  rw [live.turnId] at page
  simp only [TurnServer.turnItems, page]

theorem LiveTurn.mem_part {turn : LiveTurn} (valid : turn.Valid) {stop index : ℕ}
    {entry : LiveItemEntry} (here : turn.entries[index]? = some (.item entry))
    {part : List (ℕ × LiveItemEntry)} (sub : part.Sublist (turn.pageable stop)) :
    entry.id ∈ part.map (fun (_, entry) => entry.id) ↔ (index, entry) ∈ part := by
  rw [List.mem_map]
  constructor
  · rintro ⟨⟨i, other⟩, member, same⟩
    have there := (mem_pageable.1 (sub.subset member)).1
    obtain rfl := valid.slot_unique there here same
    obtain rfl : other = entry := by simpa [here] using there.symm
    exact member
  · intro member
    exact ⟨_, member, rfl⟩

theorem LiveTurn.part_nodup {turn : LiveTurn} (valid : turn.Valid) {stop : ℕ}
    {part : List (ℕ × LiveItemEntry)} (sub : part.Sublist (turn.pageable stop)) :
    (part.map fun (_, entry) => entry.id).Nodup := by
  have all := itemIds_nodup valid
  rw [itemIds_eq] at all
  exact all.sublist ((sub.trans List.filter_sublist).map _)

/-- A request to a live turn is answered and brings the walk forward. -/
theorem Progress.request (live : server.Live threadId turnId turn) {omitted : List ItemId}
    {walk : PageWalk} (progress : Progress omitted turn walk)
    (pageable : ∀ id ∈ omitted, server.Pageable id) (limit : ℕ) :
    ∃ next, walk.request (fun before =>
        server.turnItems crates threadId turnId (some before) limit) = .ok next ∧
      Progress omitted turn next := by
  cases at_cursor : walk.cursor with
  | none => exact ⟨walk, by simp [PageWalk.request, at_cursor], progress⟩
  | some before =>
    simp only [Progress, at_cursor] at progress
    obtain ⟨stop, slot, counts⟩ := progress
    obtain ⟨width, pos, page⟩ := @TurnServer.Live.turnItems crates _ _ _ _ live before stop slot limit
    have valid := live.valid
    have entry (id : ItemId) (member : id ∈ omitted) : ∃ (index : ℕ) (entry : LiveItemEntry),
        turn.slots id = some index ∧ turn.entries[index]? = some (.item entry) ∧ entry.id = id ∧
          turn.isPageable index entry = true := by
      obtain ⟨turn', index, entry, was, here, rfl, able⟩ := pageable id member
      rw [live.runtime] at was
      obtain rfl := Option.some.inj was
      exact ⟨index, entry, valid.slots_of_mem here, here, rfl, able⟩
    have sub := List.drop_sublist ((turn.pageable stop).length - width) (turn.pageable stop)
    have ids := @LiveTurn.wireItems_map_id crates turn _ fun pair member =>
      LiveTurn.pageable_settled valid stop pair (sub.subset member)
    -- what the page adds to an omitted item's count
    have adds (id : ItemId) (member : id ∈ omitted) (index : ℕ) (found : turn.slots id = some index)
        (entry : LiveItemEntry) (here : turn.entries[index]? = some (.item entry))
        (same : entry.id = id) :
        ((wireItems crates turn ((turn.pageable stop).drop
            ((turn.pageable stop).length - width)) ++ walk.items).map WireItem.id).count id =
          (if (index, entry) ∈ (turn.pageable stop).drop
            ((turn.pageable stop).length - width) then 1 else 0) +
            if index < stop then 0 else 1 := by
      subst same
      have part := LiveTurn.mem_part valid here sub
      rw [List.map_append, List.count_append, ids, counts _ member index found,
        (LiveTurn.part_nodup valid sub).count]
      simp only [part]
    refine ⟨_, by simp only [PageWalk.request, at_cursor, page]; rfl, ?_⟩
    by_cases more : width < (turn.pageable stop).length
    · obtain ⟨⟨first, top⟩, after, page_eq⟩ : ∃ top after, (turn.pageable stop).drop
          ((turn.pageable stop).length - width) = top :: after :=
        List.exists_cons_of_ne_nil (by
          rw [ne_eq, List.drop_eq_nil_iff]
          omega)
      have inside : (first, top) ∈ turn.pageable stop := sub.subset (by rw [page_eq]; simp)
      obtain ⟨there, below, able⟩ := LiveTurn.mem_pageable.1 inside
      rw [LiveTurn.isPageable, Bool.and_eq_true] at able
      obtain ⟨wire, result, head⟩ := @wireItems_cons crates turn first _ after able.1
      have wire_id := LiveItemEntry.wireCompleted_id
        (valid.entryValid (List.mem_of_getElem? there)) result
      have sorted := turn.pageable_sorted stop
      rw [← List.take_append_drop ((turn.pageable stop).length - width) (turn.pageable stop),
        page_eq, List.pairwise_append, List.pairwise_cons] at sorted
      obtain ⟨-, ⟨later, -⟩, across⟩ := sorted
      have cursor : (if decide (width < (turn.pageable stop).length) = true then
          (wireItems crates turn ((turn.pageable stop).drop
            ((turn.pageable stop).length - width))).head?.map WireItem.id else none) =
          some top.id := by
        rw [if_pos (by simpa using more), page_eq, head, List.head?_cons, Option.map_some, wire_id]
      simp only [Progress, cursor]
      refine ⟨first, valid.slots_of_mem there, ?_⟩
      intro id member index found
      obtain ⟨i, kept, found', here, same, pageable'⟩ := entry id member
      obtain rfl : i = index := Option.some.inj (found'.symm.trans found)
      rw [adds id member i found kept here same, page_eq]
      by_cases before_stop : i < stop
      · have known : (i, kept) ∈ turn.pageable stop :=
          LiveTurn.mem_pageable.2 ⟨here, before_stop, pageable'⟩
        by_cases older : i < first
        · have absent : (i, kept) ∉ (first, top) :: after := by
            intro present
            rcases List.mem_cons.1 present with same | rest
            · have : i = first := congrArg Prod.fst same
              omega
            · have := later _ rest
              simp only at this
              omega
          simp [absent, older, before_stop]
        · have present : (i, kept) ∈ (first, top) :: after := by
            rw [← List.take_append_drop ((turn.pageable stop).length - width)
              (turn.pageable stop), page_eq, List.mem_append] at known
            rcases known with early | present
            · exact absurd (across _ early (first, top) (by simp)) older
            · exact present
          rw [if_pos present, if_pos before_stop, if_neg older]
      · have absent : (i, kept) ∉ (first, top) :: after := by
          rw [← page_eq]
          intro present
          exact before_stop (LiveTurn.mem_pageable.1 (sub.subset present)).2.1
        rw [if_neg absent, if_neg before_stop, if_neg (by omega)]
    · have all : (turn.pageable stop).length - width = 0 := by omega
      have cursor : (if decide (width < (turn.pageable stop).length) = true then
          (wireItems crates turn ((turn.pageable stop).drop
            ((turn.pageable stop).length - width))).head?.map WireItem.id else none) = none :=
        if_neg (by simpa using more)
      simp only [Progress, cursor]
      intro id member
      obtain ⟨index, kept, found, here, same, pageable'⟩ := entry id member
      rw [adds id member index found kept here same, all, List.drop_zero]
      by_cases before_stop : index < stop
      · rw [if_pos (LiveTurn.mem_pageable.2 ⟨here, before_stop, pageable'⟩), if_pos before_stop]
      · rw [if_neg fun present => before_stop (LiveTurn.mem_pageable.1 present).2.1,
          if_neg before_stop]

end

/-! ## The persisted phase -/

section

variable {crates : Crates} {threadId : ThreadId} {turnId : TurnId} {limit : ℕ}

/-- A page of a persisted turn. SOURCE: routes.rs:5277-5293. -/
theorem TurnServer.turnItems_persisted {server : TurnServer}
    (committed : server.runtime.turnOf threadId = none) {items : List Item}
    (stored : server.persisted = some items) {before : ItemId} {stop : ℕ}
    (found : items.findIdx? (fun item => item.id = before) = some stop) :
    ∃ start, (start = 0 ∨ start < stop) ∧ start ≤ stop ∧
      server.turnItems crates threadId turnId (some before) limit = .ok
        { items := ((items.drop start).take (stop - start)).map (WireItem.fromPersistedItem crates)
          hasMore := decide (0 < start) } := by
  refine ⟨stop - max 1 (min limit maxItemPageItems), by omega, by omega, ?_⟩
  simp only [TurnServer.turnItems, LiveTurnState.itemsPage, committed, Option.filter_none, stored,
    found]

theorem findIdx?_of_nodup {items : List Item} (nodup : (items.map Item.id).Nodup) {start : ℕ}
    (inside : start < items.length) :
    items.findIdx? (fun item => item.id = items[start].id) = some start := by
  rw [List.findIdx?_eq_some_iff_getElem]
  refine ⟨inside, by simp, ?_⟩
  intro j less
  have distinct := List.nodup_iff_injective_get.1 nodup
  simp only [decide_eq_true_eq]
  intro same
  have := @distinct ⟨j, by simp; omega⟩ ⟨start, by simpa using inside⟩ (by simpa using same)
  simp only [Fin.mk.injEq] at this
  omega

namespace PageSession

theorem run_finished (server : TurnServer) (items : List WireItem) (n : ℕ) :
    run crates threadId turnId limit ⟨server, .ok ⟨none, items⟩⟩ (List.replicate n .request) =
      ⟨server, .ok ⟨none, items⟩⟩ := by
  induction n with
  | zero => rfl
  | succ n ih => exact ih

/-- The walk from an item of a persisted turn returns what was completed before it. -/
theorem run_persisted {server : TurnServer} (committed : server.runtime.turnOf threadId = none)
    {items : List Item} (stored : server.persisted = some items)
    (nodup : (items.map Item.id).Nodup) {before : ItemId} {stop : ℕ}
    (found : items.findIdx? (fun item => item.id = before) = some stop) (read : List WireItem)
    {n : ℕ} (enough : stop < n) :
    run crates threadId turnId limit ⟨server, .ok ⟨some before, read⟩⟩
        (List.replicate n .request) =
      ⟨server, .ok ⟨none,
        (items.take stop).map (WireItem.fromPersistedItem crates) ++ read⟩⟩ := by
  induction stop using Nat.strong_induction_on generalizing before read n with
  | _ stop ih =>
    obtain ⟨start, older, below, page⟩ :=
      @TurnServer.turnItems_persisted crates threadId turnId limit _ committed _ stored _ _ found
    have inside : stop < items.length := (List.findIdx?_eq_some_iff_getElem.1 found).1
    obtain ⟨n, rfl⟩ : ∃ m, n = m + 1 := ⟨n - 1, by omega⟩
    have first : run crates threadId turnId limit ⟨server, .ok ⟨some before, read⟩⟩
        (List.replicate (n + 1) .request) =
        run crates threadId turnId limit ⟨server, .ok
          { cursor := if decide (0 < start) then (((items.drop start).take (stop - start)).map
              (WireItem.fromPersistedItem crates)).head?.map WireItem.id else none
            items := ((items.drop start).take (stop - start)).map
              (WireItem.fromPersistedItem crates) ++ read }⟩ (List.replicate n .request) := by
      rw [List.replicate_succ, run, List.foldl_cons]
      simp only [step, Except.bind, PageWalk.request, page]
      rfl
    have split : items.take stop = items.take start ++ (items.drop start).take (stop - start) := by
      rw [← List.drop_take]
      conv_lhs => rw [← List.take_append_drop start (items.take stop), List.take_take,
        min_eq_left below]
    rw [first]
    rcases Nat.eq_zero_or_pos start with rfl | pos
    · rw [if_neg (by simp), run_finished, split]
      rfl
    · have less : start < stop := by omega
      have top : ((items.drop start).take (stop - start)).head? = some items[start] := by
        rw [List.head?_take, if_neg (by omega), List.head?_drop,
          List.getElem?_eq_getElem (by omega)]
      have id : (WireItem.fromPersistedItem crates items[start]).id = items[start].id :=
        WireItem.withReasoningPreview_id _
      rw [if_pos (by simpa using pos), List.head?_map, top, Option.map_some, Option.map_some, id,
        ih start less (findIdx?_of_nodup nodup (by omega)) _ (by omega), split, List.map_append,
        List.append_assoc]

end PageSession

end

/-! ## The whole walk -/

/-- The place of an item's row in the reconnect buffer. -/
def TurnServer.row (server : TurnServer) (id : ItemId) : ℕ :=
  (server.runtime.turn.bind fun turn => turn.slots id).getD 0

/-- The place of an item's first completion among the assembled items. -/
def TurnServer.completion (server : TurnServer) (id : ItemId) : ℕ :=
  server.current.items.findIdx fun item => item.id = id

section

variable {crates : Crates} {threadId : ThreadId} {turnId : TurnId} {limit : ℕ}

/-- While the turn is live every request is answered and the walk makes progress. -/
theorem PageSession.run_live {session : PageSession} {omitted : List ItemId}
    {actions : List PageAction} (uncommitted : .commit ∉ actions)
    (settled : ∀ before, before <+: actions → ∀ id ∈ omitted,
      (run crates threadId turnId limit session before).server.Pageable id)
    {turn : LiveTurn} {walk : PageWalk} (live : session.server.Live threadId turnId turn)
    (answered : session.walk = .ok walk) (progress : Progress omitted turn walk) :
    ∃ turn walk,
      (run crates threadId turnId limit session actions).server.Live threadId turnId turn ∧
      (run crates threadId turnId limit session actions).walk = .ok walk ∧
      Progress omitted turn walk := by
  induction actions generalizing session turn walk with
  | nil => exact ⟨turn, walk, live, answered, progress⟩
  | cons action actions ih =>
    have now : ∀ id ∈ omitted, session.server.Pageable id := settled [] (List.nil_prefix)
    have later : ∀ before, before <+: actions → ∀ id ∈ omitted,
        (run crates threadId turnId limit (session.step crates threadId turnId limit action)
          before).server.Pageable id :=
      fun before sub => settled (action :: before) (List.cons_prefix_cons.2 ⟨rfl, sub⟩)
    rw [List.mem_cons, not_or] at uncommitted
    rw [run, List.foldl_cons]
    cases action with
    | commit => exact absurd rfl uncommitted.1
    | event event =>
      obtain ⟨next, live', kept⟩ := live.applyEvent event
      refine ih uncommitted.2 later live' answered (progress.frame kept ?_)
      intro id member
      obtain ⟨turn', index, entry, was, here, rfl, -⟩ := now id member
      rw [live.runtime] at was
      obtain rfl := Option.some.inj was
      rw [live.valid.slots_of_mem here]
      exact Option.some_ne_none _
    | request =>
      obtain ⟨next, result, progress'⟩ := @Progress.request crates _ _ _ _ live _ _ progress now limit
      refine ih uncommitted.2 later (by exact live) ?_ progress'
      simp only [step, answered, Except.bind, result]

end

/-- A client's walk while the turn is live: the turn's events before the snapshot, the snapshot
with its cursor, and the later events and page requests in the order in which they happen. -/
structure LiveWalk (crates : Crates) (threadId : ThreadId) (turnId : TurnId) where
  userInput : Option UserInput
  past : List ItemEvent
  turn : LiveTurn
  tailItems : ℕ
  cursor : OmittedItems
  limit : ℕ
  actions : List PageAction
  isTurn : (TurnServer.opened threadId turnId userInput past).runtime.turnOf threadId = some turn
  omits : (LiveTurnState.snapshotTurn crates threadId turn tailItems).omitted = some cursor
  uncommitted : .commit ∉ actions

namespace LiveWalk

variable {crates : Crates} {threadId : ThreadId} {turnId : TurnId}

/-- The server and the walk after some actions that follow the snapshot. -/
def after (w : LiveWalk crates threadId turnId) (actions : List PageAction) : PageSession :=
  PageSession.run crates threadId turnId w.limit
    ⟨TurnServer.opened threadId turnId w.userInput w.past, .ok ⟨some w.cursor.before, []⟩⟩ actions

/-- The items the snapshot left out. -/
def omittedIds (w : LiveWalk crates threadId turnId) : List ItemId :=
  w.turn.omittedIds w.tailItems

/-- The server at the commit. -/
def last (w : LiveWalk crates threadId turnId) : TurnServer := (w.after w.actions).server

/-- At every moment before the commit the omitted items are settled and none of them is the
prompt echo. -/
def StaysSettled (w : LiveWalk crates threadId turnId) : Prop :=
  ∀ before, before <+: w.actions → ∀ id ∈ w.omittedIds, (w.after before).server.Pageable id

/-- Every item of the turn has completed by the commit. -/
def CompletesAll (w : LiveWalk crates threadId turnId) : Prop :=
  ∀ turn id, w.last.runtime.turn = some turn → turn.slots id ≠ none →
    id ∈ w.last.current.items.map Item.id

/-- For the cursor the client holds at the commit, if its walk goes on, the omitted items with
a row before the cursor's are those first completed before it. -/
def KeepsSides (w : LiveWalk crates threadId turnId) : Prop :=
  ∀ walk before, (w.after w.actions).walk = .ok walk → walk.cursor = some before →
    ∀ id ∈ w.omittedIds, (w.last.row id < w.last.row before ↔
      w.last.completion id < w.last.completion before)

/-- The walk is not refused, it ends, and it has returned every omitted item exactly once. -/
def ReturnsOmittedOnce (w : LiveWalk crates threadId turnId) : Prop :=
  ∃ n items, (w.after (w.actions ++ .commit :: List.replicate n .request)).walk =
      .ok ⟨none, items⟩ ∧
    ∀ id ∈ w.omittedIds, (items.map WireItem.id).count id = 1

theorem progress_start (w : LiveWalk crates threadId turnId) :
    Progress w.omittedIds w.turn ⟨some w.cursor.before, []⟩ := by
  obtain ⟨turn, live⟩ := TurnServer.opened_live threadId turnId w.userInput w.past
  obtain rfl : turn = w.turn := Option.some.inj (live.turnOf.symm.trans w.isTurn)
  have omitted := @LiveTurn.snapshotTurn_omitted crates _ live.valid threadId w.tailItems
  rw [w.omits] at omitted
  obtain ⟨-, stop, slot, same⟩ := omitted
  refine ⟨stop, slot, ?_⟩
  intro id member index found
  obtain ⟨i, entry, here, rfl, before, pageable⟩ := LiveTurn.mem_omittedIds.1 member
  have inside : (i, entry) ∈ w.turn.pageable stop := by
    rw [same]
    exact LiveTurn.mem_pageable.2 ⟨here, before, pageable⟩
  obtain rfl : i = index := Option.some.inj ((live.valid.slots_of_mem here).symm.trans found)
  rw [if_pos (LiveTurn.mem_pageable.1 inside).2.1]
  rfl

theorem last_live (w : LiveWalk crates threadId turnId) (settled : w.StaysSettled) :
    ∃ turn walk, w.last.Live threadId turnId turn ∧ (w.after w.actions).walk = .ok walk ∧
      Progress w.omittedIds turn walk := by
  obtain ⟨turn, live⟩ := TurnServer.opened_live threadId turnId w.userInput w.past
  obtain rfl : turn = w.turn := Option.some.inj (live.turnOf.symm.trans w.isTurn)
  exact PageSession.run_live w.uncommitted settled live rfl w.progress_start

theorem after_commit (w : LiveWalk crates threadId turnId) (n : ℕ) :
    w.after (w.actions ++ .commit :: List.replicate n .request) =
      PageSession.run crates threadId turnId w.limit
        ⟨w.last.commit threadId, (w.after w.actions).walk⟩ (List.replicate n .request) := by
  rw [after, PageSession.run, List.foldl_append, List.foldl_cons]
  rfl

/-- How often the whole walk returns an omitted item: once for a row from the cursor on, and
once for a completion before the cursor's. -/
theorem after_commit_counts (w : LiveWalk crates threadId turnId) {turn : LiveTurn}
    {walk : PageWalk} (live : w.last.Live threadId turnId turn) (complete : w.CompletesAll)
    (answered : (w.after w.actions).walk = .ok walk) (progress : Progress w.omittedIds turn walk)
    (known : ∀ id ∈ w.omittedIds, turn.slots id ≠ none) {before : ItemId}
    (cursor : walk.cursor = some before) {n : ℕ} (enough : w.last.completion before < n) :
    ∃ items, (w.after (w.actions ++ .commit :: List.replicate n .request)).walk =
        .ok ⟨none, items⟩ ∧
      ∀ id ∈ w.omittedIds, (items.map WireItem.id).count id =
        (if w.last.completion id < w.last.completion before then 1 else 0) +
          if w.last.row id < w.last.row before then 0 else 1 := by
  simp only [Progress, cursor] at progress
  obtain ⟨stop, slot, counts⟩ := progress
  have turn_eq : w.last.runtime.turn = some turn := by rw [live.runtime]
  have nodup := live.current.nodup
  have completed (id : ItemId) (has : turn.slots id ≠ none) :
      w.last.current.items.findIdx? (fun item => item.id = id) =
        some (w.last.completion id) := by
    obtain ⟨item, inside, same⟩ := List.mem_map.1 (complete turn id turn_eq has)
    exact List.findIdx?_eq_some_of_exists ⟨item, inside, by simpa using same⟩
  have found := completed before (by rw [slot]; exact Option.some_ne_none _)
  have committed : (w.last.commit threadId).runtime.turnOf threadId = none := by
    rw [TurnServer.commit, live.runtime, LiveTurnState.clearTurn, if_pos rfl]
    rfl
  have ids : ((w.last.current.items.take (w.last.completion before)).map
      (WireItem.fromPersistedItem crates)).map WireItem.id =
      (w.last.current.items.map Item.id).take (w.last.completion before) := by
    rw [List.map_map, ← List.map_take]
    apply List.map_congr_left
    intro item _
    exact WireItem.withReasoningPreview_id _
  refine ⟨(w.last.current.items.take (w.last.completion before)).map
    (WireItem.fromPersistedItem crates) ++ walk.items, ?_, ?_⟩
  · have walk_eq : walk = ⟨some before, walk.items⟩ := by rw [← cursor]
    rw [after_commit, answered, walk_eq,
      PageSession.run_persisted committed rfl nodup found _ enough]
  · intro id member
    obtain ⟨index, at_index⟩ := Option.ne_none_iff_exists'.1 (known id member)
    have row : w.last.row id = index := by
      rw [TurnServer.row, turn_eq, Option.bind_some, at_index, Option.getD_some]
    have row' : w.last.row before = stop := by
      rw [TurnServer.row, turn_eq, Option.bind_some, slot, Option.getD_some]
    have prefix_iff : id ∈ (w.last.current.items.map Item.id).take (w.last.completion before) ↔
        w.last.completion id < w.last.completion before := by
      have place := List.findIdx?_eq_some_iff_getElem.1 (completed id (known id member))
      obtain ⟨inside, here, first⟩ := place
      have here : w.last.current.items[w.last.completion id].id = id := by simpa using here
      constructor
      · intro present
        obtain ⟨i, bound, at_i⟩ := List.mem_take_iff_getElem.1 present
        rw [List.length_map] at bound
        rw [List.getElem_map] at at_i
        by_contra later
        have := first i (by omega)
        simp [at_i] at this
      · intro less
        rw [List.mem_take_iff_getElem]
        refine ⟨w.last.completion id, by rw [List.length_map]; omega, ?_⟩
        rw [List.getElem_map]
        exact here
    rw [List.map_append, List.count_append, ids, counts id member index at_index, row, row',
      (nodup.sublist (List.take_sublist _ _)).count]
    simp only [prefix_iff]

theorem after_commit_unique (w : LiveWalk crates threadId turnId) {m n : ℕ}
    {left right : List WireItem}
    (hm : (w.after (w.actions ++ .commit :: List.replicate m .request)).walk = .ok ⟨none, left⟩)
    (hn : (w.after (w.actions ++ .commit :: List.replicate n .request)).walk = .ok ⟨none, right⟩) :
    left = right := by
  have more (k : ℕ) {j : ℕ} {items : List WireItem}
      (ended : (w.after (w.actions ++ .commit :: List.replicate j .request)).walk =
        .ok ⟨none, items⟩) :
      (w.after (w.actions ++ .commit :: List.replicate (j + k) .request)).walk =
        .ok ⟨none, items⟩ := by
    rw [after_commit] at ended ⊢
    rw [List.replicate_add, PageSession.run, List.foldl_append, ← PageSession.run,
      ← PageSession.run]
    generalize PageSession.run crates threadId turnId w.limit
      ⟨w.last.commit threadId, (w.after w.actions).walk⟩ (List.replicate j .request) = session at ended ⊢
    obtain ⟨server, answer⟩ := session
    obtain rfl := ended
    rw [PageSession.run_finished]
  have both := (more n hm).symm.trans (Nat.add_comm m n ▸ more m hn)
  injection both with both
  injection both

end LiveWalk

namespace Analysis

/-- A walk that starts at a snapshot's cursor while the turn is live and goes on after the
turn's commit returns every omitted item exactly once if and only if, for the cursor the
client holds at the commit, the omitted items with a row before the cursor's are those first
completed before it. The walk is answered and ends in either case. SOURCE:
routes.rs:5190-5294, live.rs:124-334, 687-734, event_forwarder.rs:308-363. -/
theorem walk_across_commit_iff {crates : Crates} {threadId : ThreadId} {turnId : TurnId}
    (w : LiveWalk crates threadId turnId) (settled : w.StaysSettled)
    (complete : w.CompletesAll) :
    (∃ n items, (w.after (w.actions ++ .commit :: List.replicate n .request)).walk =
      .ok ⟨none, items⟩) ∧ (w.ReturnsOmittedOnce ↔ w.KeepsSides) := by
  obtain ⟨turn, walk, live, answered, progress⟩ := w.last_live settled
  have known : ∀ id ∈ w.omittedIds, turn.slots id ≠ none := by
    intro id member
    obtain ⟨turn', index, entry, was, here, rfl, -⟩ :=
      settled w.actions (List.prefix_refl _) id member
    have : turn' = turn := by
      rw [show (w.after w.actions).server = w.last from rfl, live.runtime] at was
      exact (Option.some.inj was).symm
    subst this
    rw [live.valid.slots_of_mem here]
    exact Option.some_ne_none _
  cases cursor : walk.cursor with
  | none =>
    simp only [Progress, cursor] at progress
    have ended : (w.after (w.actions ++ .commit :: List.replicate 0 .request)).walk =
        .ok ⟨none, walk.items⟩ := by
      rw [w.after_commit, answered, ← cursor]
      rfl
    refine ⟨⟨0, walk.items, ended⟩, ?_, fun _ => ⟨0, walk.items, ended, progress⟩⟩
    intro _ walk' before answered' cursor'
    rw [answered] at answered'
    injection answered' with same
    rw [← same, cursor] at cursor'
    cases cursor'
  | some before =>
    obtain ⟨items, ended, counts⟩ := w.after_commit_counts live complete answered progress known
      cursor (Nat.lt_succ_self _)
    refine ⟨⟨_, items, ended⟩, ?_, ?_⟩
    · rintro ⟨n, items', ended', once⟩ walk' before' answered' cursor' id member
      rw [answered] at answered'
      injection answered' with same
      rw [← same, cursor] at cursor'
      obtain rfl := Option.some.inj cursor'
      have count := once id member
      rw [← w.after_commit_unique ended ended', counts id member] at count
      by_cases older : w.last.row id < w.last.row before
      · by_cases earlier : w.last.completion id < w.last.completion before
        · exact iff_of_true older earlier
        · rw [if_neg earlier, if_pos older] at count
          cases count
      · by_cases earlier : w.last.completion id < w.last.completion before
        · rw [if_pos earlier, if_neg older] at count
          cases count
        · exact iff_of_false older earlier
    · intro sides
      refine ⟨_, items, ended, ?_⟩
      intro id member
      have same := sides walk before answered cursor id member
      rw [counts id member]
      by_cases older : w.last.row id < w.last.row before
      · rw [if_pos older, if_pos (same.1 older)]
      · rw [if_neg older, if_neg fun earlier => older (same.2 earlier)]

/-! ### Two turns of three items -/

/-- Three messages complete one after another; the client has read one page when the turn is
committed. -/
def orderlyWalk : LiveWalk Crates.reference sampleThread sampleTurn where
  userInput := none
  past := [.completed (sampleItem 0) none none, .completed (sampleItem 1) none none,
    .completed (sampleItem 2) none none]
  turn := (((LiveTurn.new sampleTurn none).completeItem sampleThread sampleTurn (sampleItem 0) none
    none).completeItem sampleThread sampleTurn (sampleItem 1) none none).completeItem sampleThread
      sampleTurn (sampleItem 2) none none
  tailItems := 1
  cursor := ⟨2, (sampleItem 2).id⟩
  limit := 1
  actions := [.request]
  isTurn := rfl
  omits := rfl
  uncommitted := by simp

theorem orderlyWalk_omittedIds :
    orderlyWalk.omittedIds = [(sampleItem 0).id, (sampleItem 1).id] := rfl

theorem orderlyWalk_staysSettled : orderlyWalk.StaysSettled := by
  intro before sub id member
  have same : (orderlyWalk.after before).server = (orderlyWalk.after []).server := by
    rcases List.prefix_cons_iff.1 sub with rfl | ⟨rest, rfl, inner⟩
    · rfl
    · rw [List.prefix_nil.1 inner]
      rfl
  rw [same]
  rw [orderlyWalk_omittedIds, List.mem_cons, List.mem_singleton] at member
  rcases member with rfl | rfl
  · exact ⟨_, 0, sampleEntry 0, rfl, rfl, rfl, rfl⟩
  · exact ⟨_, 1, sampleEntry 1, rfl, rfl, rfl, rfl⟩

theorem orderlyWalk_completesAll : orderlyWalk.CompletesAll := by
  intro turn id here known
  obtain ⟨slot, found⟩ := Option.ne_none_iff_exists'.1 known
  have valid : turn.Valid := by
    obtain ⟨turn', walk, live, -⟩ := orderlyWalk.last_live orderlyWalk_staysSettled
    rw [live.runtime] at here
    exact Option.some.inj here ▸ live.valid
  obtain ⟨entry, at_slot, same⟩ := (valid.slots_iff id slot).1 found
  obtain rfl := Option.some.inj here
  have member := List.mem_of_getElem? at_slot
  change .item entry ∈ [LiveEntry.item (sampleEntry 0), .item (sampleEntry 1),
    .item (sampleEntry 2)] at member
  change id ∈ [(sampleItem 0).id, (sampleItem 1).id, (sampleItem 2).id]
  simp only [List.mem_cons, LiveEntry.item.injEq, List.not_mem_nil, or_false] at member ⊢
  rcases member with rfl | rfl | rfl
  · exact .inl same.symm
  · exact .inr (.inl same.symm)
  · exact .inr (.inr same.symm)

theorem walk_across_commit_orderly :
    orderlyWalk.StaysSettled ∧ orderlyWalk.CompletesAll ∧
      (orderlyWalk.ReturnsOmittedOnce ↔ orderlyWalk.KeepsSides) :=
  ⟨orderlyWalk_staysSettled, orderlyWalk_completesAll,
    (walk_across_commit_iff orderlyWalk orderlyWalk_staysSettled orderlyWalk_completesAll).2⟩

/-- The start of a command, which has a row at once. -/
def commandStart : ItemStart :=
  ⟨(sampleItem 0).id, "", .commandExecution, some ⟨"make", none, "/", none, none, none⟩, none⟩

def commandItem : Item :=
  ⟨(sampleItem 0).id, "", .commandExecution "make" none "/" "" false none none (some 0) none none
    none, ⟨0, 0⟩⟩

/-- A command starts, a message completes, the command completes, and a last message
completes. -/
def overtakenWalk : LiveWalk Crates.reference sampleThread sampleTurn where
  userInput := none
  past := [.started commandStart, .completed (sampleItem 1) none none,
    .completed commandItem none none, .completed (sampleItem 2) none none]
  turn := ((((LiveTurn.new sampleTurn none).startItem sampleThread sampleTurn
    commandStart).completeItem sampleThread sampleTurn (sampleItem 1) none none).completeItem
      sampleThread sampleTurn commandItem none none).completeItem sampleThread sampleTurn
        (sampleItem 2) none none
  tailItems := 1
  cursor := ⟨2, (sampleItem 2).id⟩
  limit := 1
  actions := [.request]
  isTurn := rfl
  omits := rfl
  uncommitted := by simp

/-- The client has read the page with the message when the turn is committed; before the
message the persisted turn holds nothing, and the command is never returned. SOURCE:
routes.rs:5277-5293. -/
theorem walk_across_commit_loses_command :
    overtakenWalk.last.current.items.map Item.id =
        [(sampleItem 1).id, (sampleItem 0).id, (sampleItem 2).id] ∧
      overtakenWalk.omittedIds = [(sampleItem 0).id, (sampleItem 1).id] ∧
      ¬ overtakenWalk.ReturnsOmittedOnce := by
  refine ⟨rfl, rfl, ?_⟩
  rintro ⟨n, items, ended, once⟩
  obtain ⟨items', ended', ids⟩ : ∃ items', (overtakenWalk.after (overtakenWalk.actions ++
      .commit :: List.replicate 1 .request)).walk = .ok ⟨none, items'⟩ ∧
      items'.map WireItem.id = [(sampleItem 1).id] := ⟨_, rfl, rfl⟩
  have count := once (sampleItem 0).id (by
    rw [show overtakenWalk.omittedIds = [(sampleItem 0).id, (sampleItem 1).id] from rfl]
    exact List.mem_cons_self)
  rw [overtakenWalk.after_commit_unique ended ended', ids] at count
  revert count
  decide

end Analysis

end Giskard
