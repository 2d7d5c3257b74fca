import Mathlib
import Giskard.Foundation.Journal
import Giskard.Analysis.ForwarderFrames

/-!
# The turns a forwarder stores

Events of any thread and of any turn reach a forwarder in any order, with gaps between them.
What one event can do to the turn that is being assembled is said once: it is kept apart, it
enters the turn, or the turn is written and the next one begins. From this follows what a stored
turn is made of: the last completion of each of its items and the last diff of each of its
paths, all of events that name this turn, and no turn is stored twice.
-/

set_option autoImplicit false

namespace Giskard

open Foundation Journal

/-! ## What a stored turn is made of -/

section

variable (crates : Crates) (maxBytes : ℕ) (thread : ThreadId)

/-- The item that is stored for a completion: its command output is bounded and its diff bodies
are taken out. -/
def StoredItem (raw item : Item) : Prop :=
  ∃ fuel prepared, normalizeItemOutput fuel maxBytes raw = some prepared ∧
    item = (CapturedDiffState.captureItem crates prepared).1

/-- A completion of this item that entered the turn. -/
def CompletionOf (turn : TurnId) (item : Item) (note : ForwarderNote) : Prop :=
  ∃ raw attaches completes,
    note = .handled (.itemCompleted thread turn raw) (.owned attaches completes) ∧
      StoredItem crates maxBytes raw item

/-- A note that is of no completion of the item, unless it was dropped for its identity. -/
def LeavesItem (turn : TurnId) (id : ItemId) (note : ForwarderNote) : Prop :=
  ∀ other disposition, note = .handled (.itemCompleted thread turn other) disposition →
    other.id = id → ∃ conflict, disposition = .drop (.itemIdentityConflict conflict)

/-- A diff of this thread and this turn, with its body taken out. -/
def DiffOf (turn : TurnId) (diff : FileDiff) (note : ForwarderNote) : Prop :=
  ∃ raw attaches completes,
    note = .handled (.diffUpdated thread turn raw) (.owned attaches completes) ∧
      diff = (captureStructuredDiff crates raw).1

/-- A note that is of no diff of a path. -/
def LeavesPath (turn : TurnId) (path : PathComponents) (note : ForwarderNote) : Prop :=
  ∀ other disposition, note = .handled (.diffUpdated thread turn other) disposition →
    other.pathKey ≠ path

/-- The item is the last completion received for its id. -/
def LastCompletion (turn : TurnId) (item : Item) : List ForwarderNote → Prop :=
  Since (CompletionOf crates maxBytes thread turn item) (LeavesItem thread turn item.id)

/-- The diff is the last one received for its path. -/
def LastDiff (turn : TurnId) (diff : FileDiff) : List ForwarderNote → Prop :=
  Since (DiffOf crates thread turn diff) (LeavesPath thread turn diff.pathKey)

/-- What a turn is made of when it is stored. -/
structure MadeOf (turn : Turn) (earlier : List ForwarderNote) : Prop where
  itemIds : (turn.items.map Item.id).Nodup
  paths : (turn.diffs.map FileDiff.pathKey).Nodup
  items : ∀ item ∈ turn.items, LastCompletion crates maxBytes thread turn.id item earlier
  diffs : ∀ diff ∈ turn.diffs, LastDiff crates thread turn.id diff earlier

/-- A stored turn is made of what was received before. -/
def StoredNote (earlier : List ForwarderNote) (note : ForwarderNote) : Prop :=
  ∀ turn context captured, note = .appended turn context captured →
    MadeOf crates maxBytes thread turn earlier

end

/-- The turn a note says was stored. -/
def ForwarderNote.stored? : ForwarderNote → Option Turn
  | .appended turn _ _ => some turn
  | _ => none

/-- The turns that were stored, in order. -/
def storedTurns (journal : List ForwarderNote) : List Turn :=
  journal.filterMap ForwarderNote.stored?

/-- An event that entered a turn. -/
def Entered (journal : List ForwarderNote) (event : AgentEvent) : Prop :=
  ∃ attaches completes, .handled event (.owned attaches completes) ∈ journal

section

variable {crates : Crates} {maxBytes : ℕ} {thread : ThreadId} {turn : TurnId}

theorem StoredItem.id {raw item : Item} (stored : StoredItem crates maxBytes raw item) :
    item.id = raw.id := by
  obtain ⟨fuel, prepared, normalized, rfl⟩ := stored
  have kept : prepared.id = raw.id := by
    unfold normalizeItemOutput at normalized
    split at normalized
    · obtain ⟨output, _, rfl⟩ := Option.map_eq_some_iff.1 normalized
      rfl
    · cases normalized
      rfl
  rw [← kept]
  unfold CapturedDiffState.captureItem
  split <;> rfl

theorem storedTurns_append (journal more : List ForwarderNote) :
    storedTurns (journal ++ more) = storedTurns journal ++ storedTurns more :=
  List.filterMap_append

theorem storedTurns_quiet {notes : List ForwarderNote} (quiet : ∀ note ∈ notes, note.Quiet) :
    storedTurns notes = [] := by
  unfold storedTurns
  rw [List.filterMap_eq_nil_iff]
  intro note member
  have silent := quiet note member
  cases note <;> first | rfl | exact absurd silent id

theorem entered_append_quiet {journal notes : List ForwarderNote}
    (quiet : ∀ note ∈ notes, note.Quiet) {event : AgentEvent} :
    Entered (journal ++ notes) event ↔ Entered journal event := by
  constructor
  · rintro ⟨attaches, completes, member⟩
    rcases List.mem_append.1 member with old | new
    · exact ⟨attaches, completes, old⟩
    · exact absurd (quiet _ new) id
  · rintro ⟨attaches, completes, member⟩
    exact ⟨attaches, completes, List.mem_append_left _ member⟩

theorem leavesItem_quiet {note : ForwarderNote} (quiet : note.Quiet) (id : ItemId) :
    LeavesItem thread turn id note := by
  rintro other disposition rfl
  exact absurd quiet (fun h => h)

theorem leavesPath_quiet {note : ForwarderNote} (quiet : note.Quiet) (path : PathComponents) :
    LeavesPath thread turn path note := by
  rintro other disposition rfl
  exact absurd quiet (fun h => h)

theorem storedNote_quiet {note : ForwarderNote} (quiet : note.Quiet)
    (earlier : List ForwarderNote) : StoredNote crates maxBytes thread earlier note := by
  rintro turn context captured rfl
  exact absurd quiet (fun h => h)

end

/-! ## The invariant -/

section

variable (crates : Crates) (maxBytes : ℕ) (thread : ThreadId) (persisted : Finset TurnId)

/-- What holds of the turns stored so far, whatever comes next. -/
structure Past (seen : Finset TurnId) (journal : List ForwarderNote) : Prop where
  seen : seen = persisted ∪ ((storedTurns journal).map Turn.id).toFinset
  ids : ((storedTurns journal).map Turn.id).Nodup
  fresh : ∀ turn ∈ storedTurns journal, turn.id ∉ persisted
  stored : Justified (StoredNote crates maxBytes thread) journal
  natives : ∀ first second turn native item other, Entered journal first →
    Entered journal second → eventItemIdentity first = some (turn, native, item) →
    eventItemIdentity second = some (turn, native, other) → item = other

/-- The owned turn is not stored, and what entered before is of it or of a stored turn. -/
structure Bound (assembly : Assembly) (journal : List ForwarderNote) : Prop where
  here : assembly.binding.handle.thread = thread
  bytes : assembly.maxCommandOutputBytes = maxBytes
  unstored : ∀ turn, assembly.owned = some turn → turn ∉ assembly.seen
  observed : ∀ turn, assembly.observed = some turn → assembly.owned = some turn
  entered : ∀ event turn, Entered journal event → event.turn = some turn →
    assembly.owned = some turn ∨ turn ∈ assembly.seen
  identities : ∀ event turn native item, assembly.owned = some turn → Entered journal event →
    eventItemIdentity event = some (turn, native, item) →
    assembly.identities (turn, native) = some item

/-- What the owned turn is made of so far. -/
structure Contents (owned : Option TurnId) (items : CurrentTurnItems) (diffs : List FileDiff)
    (journal : List ForwarderNote) : Prop where
  idle : owned = none → items.items = [] ∧ diffs = []
  valid : items.Valid
  paths : (diffs.map FileDiff.pathKey).Nodup
  completions : ∀ turn, owned = some turn → ∀ item ∈ items.items,
    LastCompletion crates maxBytes thread turn item journal
  updates : ∀ turn, owned = some turn → ∀ diff ∈ diffs, LastDiff crates thread turn diff journal

/-- The invariant of a forwarder that has not exited. -/
structure Live (forwarder : ThreadEventForwarder) : Prop where
  past : Past crates maxBytes thread persisted forwarder.seenTurnIds forwarder.journal
  bound : Bound maxBytes thread forwarder.assembly forwarder.journal
  contents : Contents crates maxBytes thread forwarder.turn.ownedTurn forwarder.turn.items
    forwarder.turn.diffs forwarder.journal

end

section

variable {crates : Crates} {maxBytes : ℕ} {thread : ThreadId} {persisted : Finset TurnId}

theorem Past.quiet {seen : Finset TurnId} {journal notes : List ForwarderNote}
    (past : Past crates maxBytes thread persisted seen journal)
    (quiet : ∀ note ∈ notes, note.Quiet) :
    Past crates maxBytes thread persisted seen (journal ++ notes) := by
  have same : storedTurns (journal ++ notes) = storedTurns journal := by
    rw [storedTurns_append, storedTurns_quiet quiet, List.append_nil]
  exact
    { seen := by rw [same]; exact past.seen
      ids := by rw [same]; exact past.ids
      fresh := by rw [same]; exact past.fresh
      stored := past.stored.append fun note member earlier =>
        storedNote_quiet (quiet note member) earlier
      natives := by
        intro first second turn native item other one two
        exact past.natives first second turn native item other
          ((entered_append_quiet quiet).1 one) ((entered_append_quiet quiet).1 two) }

theorem Bound.quiet {assembly : Assembly} {journal notes : List ForwarderNote}
    (bound : Bound maxBytes thread assembly journal) (quiet : ∀ note ∈ notes, note.Quiet) :
    Bound maxBytes thread assembly (journal ++ notes) :=
  { bound with
    entered := fun event turn entered => bound.entered event turn
      ((entered_append_quiet quiet).1 entered)
    identities := fun event turn native item owned entered => bound.identities event turn native
      item owned ((entered_append_quiet quiet).1 entered) }

theorem Contents.leave {owned : Option TurnId} {items : CurrentTurnItems} {diffs : List FileDiff}
    {journal notes : List ForwarderNote}
    (contents : Contents crates maxBytes thread owned items diffs journal)
    (leaves : ∀ turn, owned = some turn → ∀ note ∈ notes,
      (∀ item ∈ items.items, LeavesItem thread turn item.id note) ∧
        ∀ diff ∈ diffs, LeavesPath thread turn diff.pathKey note) :
    Contents crates maxBytes thread owned items diffs (journal ++ notes) :=
  { contents with
    completions := fun turn here item member => (contents.completions turn here item member).append
      fun note noted => (leaves turn here note noted).1 item member
    updates := fun turn here diff member => (contents.updates turn here diff member).append
      fun note noted => (leaves turn here note noted).2 diff member }

theorem Contents.quiet {owned : Option TurnId} {items : CurrentTurnItems} {diffs : List FileDiff}
    {journal notes : List ForwarderNote}
    (contents : Contents crates maxBytes thread owned items diffs journal)
    (quiet : ∀ note ∈ notes, note.Quiet) :
    Contents crates maxBytes thread owned items diffs (journal ++ notes) :=
  contents.leave fun _ _ note member =>
    ⟨fun item _ => leavesItem_quiet (quiet note member) item.id,
      fun diff _ => leavesPath_quiet (quiet note member) diff.pathKey⟩

theorem Live.kept {before after : ThreadEventForwarder}
    (live : Live crates maxBytes thread persisted before)
    (kept : ThreadEventForwarder.Kept before after) :
    Live crates maxBytes thread persisted after := by
  obtain ⟨notes, grown, quiet⟩ := kept.journal
  have same := kept.assembly
  refine ⟨?_, ?_, ?_⟩
  · rw [grown, show after.seenTurnIds = before.seenTurnIds from congrArg Assembly.seen same]
    exact live.past.quiet quiet
  · rw [grown, same]
    exact live.bound.quiet quiet
  · rw [grown, show after.turn.ownedTurn = before.turn.ownedTurn from congrArg Assembly.owned same,
      show after.turn.items = before.turn.items from congrArg Assembly.items same,
      show after.turn.diffs = before.turn.diffs from congrArg Assembly.diffs same]
    exact live.contents.quiet quiet

theorem Past.kept {before after : ThreadEventForwarder}
    (past : Past crates maxBytes thread persisted before.seenTurnIds before.journal)
    (kept : ThreadEventForwarder.Kept before after) :
    Past crates maxBytes thread persisted after.seenTurnIds after.journal := by
  obtain ⟨notes, grown, quiet⟩ := kept.journal
  rw [grown, show after.seenTurnIds = before.seenTurnIds from
    congrArg Assembly.seen kept.assembly]
  exact past.quiet quiet

/-! ## One event -/

variable {forwarder : ThreadEventForwarder} {event : AgentEvent}

theorem entered_concat {journal : List ForwarderNote} {disposition : EventDisposition}
    {other : AgentEvent} :
    Entered (journal ++ [.handled event disposition]) other ↔
      Entered journal other ∨
        (other = event ∧ ∃ attaches completes, disposition = .owned attaches completes) := by
  constructor
  · rintro ⟨attaches, completes, member⟩
    rcases List.mem_append.1 member with old | new
    · exact Or.inl ⟨attaches, completes, old⟩
    · cases List.mem_singleton.1 new
      exact Or.inr ⟨rfl, attaches, completes, rfl⟩
  · rintro (⟨attaches, completes, old⟩ | ⟨rfl, attaches, completes, rfl⟩)
    · exact ⟨attaches, completes, List.mem_append_left _ old⟩
    · exact ⟨attaches, completes, List.mem_append_right _ (List.mem_singleton_self _)⟩

/-- What was stored does not change by an event, and an event that enters a turn has the item id
of the events before it under its native item id. -/
theorem Live.handled (live : Live crates maxBytes thread persisted forwarder)
    {disposition : EventDisposition}
    (classified : classify forwarder.threadId forwarder.turn forwarder.seenTurnIds event =
      disposition) :
    Past crates maxBytes thread persisted forwarder.seenTurnIds
      (forwarder.journal ++ [.handled event disposition]) := by
  have same : storedTurns (forwarder.journal ++ [.handled event disposition]) =
      storedTurns forwarder.journal := by
    rw [storedTurns_append]
    exact List.append_nil _
  -- An earlier event of the turn entered under the identity the forwarder remembers.
  have agrees : ∀ first turn native item other, Entered forwarder.journal first →
      (∃ attaches completes, disposition = .owned attaches completes) →
      eventItemIdentity first = some (turn, native, item) →
      eventItemIdentity event = some (turn, native, other) → item = other := by
    rintro first turn native item other entered ⟨attaches, completes, rfl⟩ one two
    obtain ⟨_, clear, _, _, unstored⟩ := classify_owned classified
    have named := eventItemIdentity_turn two
    have owned := (live.bound.entered first turn entered (eventItemIdentity_turn one)).resolve_right
      (unstored turn named)
    have remembered := live.bound.identities first turn native item owned entered one
    simp only [itemIdentityConflict, two] at clear
    rw [show forwarder.turn.itemIdsByHarness (turn, native) = some item from remembered] at clear
    by_contra apart
    simp [apart] at clear
  exact
    { seen := by rw [same]; exact live.past.seen
      ids := by rw [same]; exact live.past.ids
      fresh := by rw [same]; exact live.past.fresh
      stored := justified_concat.2 ⟨live.past.stored, by rintro _ _ _ ⟨⟩⟩
      natives := by
        intro first second turn native item other one two left right
        rcases entered_concat.1 one with old | ⟨rfl, owned⟩
        · rcases entered_concat.1 two with older | ⟨rfl, owned⟩
          · exact live.past.natives first second turn native item other old older left right
          · exact agrees first turn native item other old owned left right
        · rcases entered_concat.1 two with older | ⟨rfl, _⟩
          · exact (agrees second turn native other item older owned right left).symm
          · rw [left] at right
            simpa using right }

theorem leaves_of_not_owned {turn : TurnId} (owned : forwarder.turn.ownedTurn = some turn)
    (fresh : turn ∉ forwarder.seenTurnIds) {disposition : EventDisposition}
    (classified : classify forwarder.threadId forwarder.turn forwarder.seenTurnIds event =
      disposition)
    (apart : ∀ attaches completes, disposition ≠ .owned attaches completes)
    (id : ItemId) (path : PathComponents) :
    LeavesItem forwarder.threadId turn id (.handled event disposition) ∧
      LeavesPath forwarder.threadId turn path (.handled event disposition) := by
  constructor
  · rintro other found ⟨⟩ _
    rcases @classify_of_owned_turn _ forwarder.turn forwarder.seenTurnIds
        (.itemCompleted forwarder.threadId turn other) _ rfl rfl owned fresh rfl with
      ⟨conflict, _, dropped⟩ | entered
    · exact ⟨conflict, classified.symm.trans dropped⟩
    · exact absurd (classified.symm.trans entered) (apart _ _)
  · rintro other found ⟨⟩
    rcases @classify_of_owned_turn _ forwarder.turn forwarder.seenTurnIds
        (.diffUpdated forwarder.threadId turn other) _ rfl rfl owned fresh rfl with
      ⟨conflict, clash, _⟩ | entered
    · cases clash
    · exact absurd (classified.symm.trans entered) (apart _ _)

/-- An event that does not enter the turn is only noted and remembered. -/
theorem Live.passed (live : Live crates maxBytes thread persisted forwarder)
    {disposition : EventDisposition}
    (classified : classify forwarder.threadId forwarder.turn forwarder.seenTurnIds event =
      disposition)
    (apart : ∀ attaches completes, disposition ≠ .owned attaches completes) :
    Live crates maxBytes thread persisted (forwarder.remembered event disposition) := by
  have noted : (forwarder.remembered event disposition).journal =
      forwarder.journal ++ [.handled event disposition] := by
    unfold ThreadEventForwarder.remembered
    dsimp only
    split <;> rfl
  have identities : ∀ key item, forwarder.turn.itemIdsByHarness key = some item →
      (forwarder.remembered event disposition).turn.itemIdsByHarness key = some item := by
    intro key item there
    unfold ThreadEventForwarder.remembered
    dsimp only
    split
    · exact there
    · exact trackItemIdentity_keeps there event
  have same : (forwarder.remembered event disposition).assembly =
      { forwarder.assembly with
        identities := (forwarder.remembered event disposition).turn.itemIdsByHarness } := by
    unfold ThreadEventForwarder.remembered
    dsimp only
    split <;> rfl
  have still : ∀ other, Entered (forwarder.journal ++ [.handled event disposition]) other →
      Entered forwarder.journal other := by
    intro other entered
    rcases entered_concat.1 entered with old | ⟨_, attaches, completes, owned⟩
    · exact old
    · exact absurd owned (apart attaches completes)
  refine ⟨?_, ?_, ?_⟩
  · rw [noted, show (forwarder.remembered event disposition).seenTurnIds = forwarder.seenTurnIds
      from congrArg Assembly.seen same]
    exact live.handled classified
  · rw [noted, same]
    exact
      { live.bound with
        entered := fun other turn entered => live.bound.entered other turn (still other entered)
        identities := fun other turn native item owned entered identity => identities _ _
          (live.bound.identities other turn native item owned (still other entered) identity) }
  · rw [noted, show (forwarder.remembered event disposition).turn.ownedTurn =
        forwarder.turn.ownedTurn from congrArg Assembly.owned same,
      show (forwarder.remembered event disposition).turn.items = forwarder.turn.items from
        congrArg Assembly.items same,
      show (forwarder.remembered event disposition).turn.diffs = forwarder.turn.diffs from
        congrArg Assembly.diffs same]
    refine live.contents.leave ?_
    intro turn owned note member
    rw [List.mem_singleton.1 member, ← live.bound.here]
    have leaves := leaves_of_not_owned owned (live.bound.unstored turn owned) classified apart
    exact ⟨fun item _ => (leaves item.id ⟨false, []⟩).1,
      fun diff _ => (leaves ⟨⟨0⟩⟩ diff.pathKey).2⟩

/-! ## An event that enters the turn -/

/-- An event as it reaches the turn: a completion with its item as it is stored, a diff without
its body. -/
def Rendered (crates : Crates) (maxBytes : ℕ) : AgentEvent → AgentEvent → Prop
  | .itemCompleted here turn raw, rendered =>
    ∃ item, StoredItem crates maxBytes raw item ∧ rendered = .itemCompleted here turn item
  | .diffUpdated here turn raw, rendered =>
    rendered = .diffUpdated here turn (captureStructuredDiff crates raw).1
  | event, rendered => rendered = event

/-- What an event does to the items. -/
def noteItems (items : CurrentTurnItems) : AgentEvent → CurrentTurnItems
  | .turnStarted _ _ => items.rebuildIndexes
  | .itemCompleted _ _ item => (items.upsert item).1
  | _ => items

/-- What an event does to the diffs. -/
def noteDiffs (diffs : List FileDiff) : AgentEvent → List FileDiff
  | .diffUpdated _ _ diff => ForwardedTurnState.upsertDiff diffs diff
  | _ => diffs

/-- What an event does to the turn that was observed to start. -/
def noteObserved (observed : Option TurnId) : AgentEvent → Option TurnId
  | .turnStarted _ turn => some turn
  | _ => observed

theorem Contents.own {owned : Option TurnId} (turn : TurnId) {items : CurrentTurnItems}
    {diffs : List FileDiff} {journal : List ForwarderNote}
    (contents : Contents crates maxBytes thread owned items diffs journal)
    (holder : owned = some turn ∨ owned = none) :
    Contents crates maxBytes thread (some turn) items diffs journal := by
  rcases holder with rfl | none_
  · exact contents
  · obtain ⟨noItems, noDiffs⟩ := contents.idle none_
    exact
      { idle := by rintro ⟨⟩
        valid := contents.valid
        paths := contents.paths
        completions := by
          rintro owner _ item member
          rw [noItems] at member
          exact absurd member List.not_mem_nil
        updates := by
          rintro owner _ diff member
          rw [noDiffs] at member
          exact absurd member List.not_mem_nil }

/-- What the turn is made of once an event has entered it. -/
theorem Contents.enter {turn : TurnId} {items : CurrentTurnItems} {diffs : List FileDiff}
    {journal : List ForwarderNote} {rendered : AgentEvent} {attaches : Option TurnId}
    {completes : Option (TurnId × TokenUsage × TurnStatus)}
    (contents : Contents crates maxBytes thread (some turn) items diffs journal)
    (here : event.threadId = thread) (named : ∀ other, event.turn = some other → other = turn)
    (becomes : Rendered crates maxBytes event rendered) :
    Contents crates maxBytes thread (some turn) (noteItems items rendered)
      (noteDiffs diffs rendered)
      (journal ++ [.handled event (.owned attaches completes)]) := by
  -- An event of another kind is only written down.
  have noted : (∀ owner item, event ≠ .itemCompleted thread owner item) →
      (∀ owner diff, event ≠ .diffUpdated thread owner diff) →
      Contents crates maxBytes thread (some turn) items diffs
        (journal ++ [.handled event (.owned attaches completes)]) := by
    intro noItem noDiff
    refine contents.leave ?_
    intro owner _ note member
    rw [List.mem_singleton.1 member]
    refine ⟨?_, ?_⟩
    · rintro item _ other disposition ⟨⟩
      exact absurd rfl (noItem owner other)
    · rintro diff _ other disposition ⟨⟩
      exact absurd rfl (noDiff owner other)
  cases event with
  | itemCompleted source owner raw =>
    obtain ⟨item, stored, rfl⟩ := becomes
    obtain rfl : source = thread := here
    obtain rfl : owner = turn := named owner rfl
    have nodup := contents.valid.nodup
    exact
      { idle := by rintro ⟨⟩
        valid := (CurrentTurnItems.upsert_spec contents.valid item).1
        paths := contents.paths
        completions := by
          rintro _ ⟨⟩ other member
          rw [show noteItems items (.itemCompleted source owner item) = (items.upsert item).1 from
            rfl, CurrentTurnItems.upsert_items contents.valid] at member
          rcases KeyedList.mem_upsert nodup member with rfl | ⟨old, apart⟩
          · exact since_concat ⟨raw, attaches, completes, rfl, stored⟩
          · refine (contents.completions owner rfl other old).concat ?_
            rintro _ disposition ⟨⟩ same
            rw [stored.id] at apart
            exact absurd same.symm apart
        updates := by
          rintro _ ⟨⟩ diff member
          refine (contents.updates owner rfl diff member).concat ?_
          rintro _ disposition ⟨⟩ }
  | diffUpdated source owner raw =>
    obtain rfl : rendered = .diffUpdated source owner (captureStructuredDiff crates raw).1 := becomes
    obtain rfl : source = thread := here
    obtain rfl : owner = turn := named owner rfl
    exact
      { idle := by rintro ⟨⟩
        valid := contents.valid
        paths := KeyedList.upsert_nodup contents.paths
        completions := by
          rintro _ ⟨⟩ item member
          refine (contents.completions owner rfl item member).concat ?_
          rintro _ disposition ⟨⟩
        updates := by
          rintro _ ⟨⟩ diff member
          rcases KeyedList.mem_upsert contents.paths member with rfl | ⟨old, apart⟩
          · exact since_concat ⟨raw, attaches, completes, rfl, rfl⟩
          · refine (contents.updates owner rfl diff old).concat ?_
            rintro other disposition ⟨⟩ same
            exact apart same.symm }
  | turnStarted source owner =>
    obtain rfl : rendered = .turnStarted source owner := becomes
    have still := noted (by rintro _ _ ⟨⟩) (by rintro _ _ ⟨⟩)
    exact { still with valid := CurrentTurnItems.valid_rebuildIndexes contents.valid }
  | _ =>
    cases becomes
    exact noted (by rintro _ _ ⟨⟩) (by rintro _ _ ⟨⟩)

/-- Whose turn is owned once an event has entered it. -/
def Holder (owned attaches : Option TurnId) (turn : TurnId) : Prop :=
  (owned = some turn ∧ attaches = none) ∨ (owned = none ∧ attaches = some turn)

/-- What the forwarder remembers of an event that entered the turn. -/
theorem Bound.enter (bound : Bound maxBytes thread forwarder.assembly forwarder.journal)
    {turn : TurnId} {attaches : Option TurnId}
    {completes : Option (TurnId × TokenUsage × TurnStatus)}
    (classified : classify forwarder.threadId forwarder.turn forwarder.seenTurnIds event =
      .owned attaches completes)
    (holder : Holder forwarder.turn.ownedTurn attaches turn) :
    Bound maxBytes thread
      { forwarder.assembly with
        owned := some turn
        identities := trackItemIdentity forwarder.turn.itemIdsByHarness event }
      (forwarder.journal ++ [.handled event (.owned attaches completes)]) := by
  obtain ⟨_, clear, _, cases_, unstored⟩ := classify_owned classified
  have names : ∀ other, event.turn = some other → other = turn := by
    intro other named
    rcases holder with ⟨owned, rfl⟩ | ⟨owned, rfl⟩
    · rcases cases_ with ⟨owner, same, _, only⟩ | ⟨_, none_, _⟩
      · rw [owned, Option.some.injEq] at same
        exact (only other named).trans same.symm
      · rw [owned] at none_
        cases none_
    · rcases cases_ with ⟨owner, same, _⟩ | ⟨attached, _, same, only⟩
      · rw [owned] at same
        cases same
      · rw [only, Option.some.injEq] at named
        rw [Option.some.injEq] at same
        exact named.symm.trans same.symm
  have fresh : turn ∉ forwarder.seenTurnIds := by
    rcases holder with ⟨owned, _⟩ | ⟨owned, rfl⟩
    · exact bound.unstored turn owned
    · rcases cases_ with ⟨_, same, _⟩ | ⟨attached, _, same, named⟩
      · rw [owned] at same
        cases same
      · cases same
        exact unstored turn named
  exact
    { here := bound.here
      bytes := bound.bytes
      unstored := by
        rintro _ ⟨⟩
        exact fresh
      observed := by
        intro other seen
        have owned := bound.observed other seen
        rcases holder with ⟨same, _⟩ | ⟨none_, _⟩
        · exact same.symm.trans owned
        · exact absurd (none_.symm.trans owned) (by simp)
      entered := by
        intro other named entered names_
        rcases entered_concat.1 entered with old | ⟨rfl, _⟩
        · rcases bound.entered other named old names_ with owned | stored
          · refine Or.inl ?_
            rcases holder with ⟨same, _⟩ | ⟨none_, _⟩
            · exact same.symm.trans owned
            · exact absurd (none_.symm.trans owned) (by simp)
          · exact Or.inr stored
        · exact Or.inl (congrArg some (names named names_).symm)
      identities := by
        rintro other _ native item ⟨⟩ entered identity
        rcases entered_concat.1 entered with old | ⟨rfl, _⟩
        · have owned := (bound.entered other turn old (eventItemIdentity_turn identity)).resolve_right
            fresh
          exact trackItemIdentity_keeps
            (bound.identities other turn native item owned old identity) event
        · exact trackItemIdentity_self clear identity }

theorem normalizeItemOutput_of_not_addressable {here : ThreadId} {turn : TurnId} {item : Item}
    (plain : isCompletedAddressableOutput (.itemCompleted here turn item) = false) (fuel : ℕ) :
    normalizeItemOutput fuel maxBytes item = some item := by
  unfold normalizeItemOutput
  split
  · rename_i payload
    simp [isCompletedAddressableOutput, payload] at plain
  · rfl

/-- Preparation and capture render an event. -/
theorem prepareOutput_rendered {env : ForwarderEnv} {prepared : PreparedEvent}
    (ready : prepareOutput crates env maxBytes event = .ok prepared)
    (captured : CapturedDiffState) :
    Rendered crates maxBytes event (captured.capture crates prepared.event).2 := by
  unfold prepareOutput at ready
  split at ready
  · rename_i plain
    cases ready
    rw [Bool.not_eq_true', ] at plain
    cases event with
    | itemCompleted here turn raw =>
      exact ⟨_, ⟨0, raw, normalizeItemOutput_of_not_addressable plain 0, rfl⟩, rfl⟩
    | _ => rfl
  · split at ready
    · cases ready
    · split at ready
      · cases ready
      · cases event with
        | itemCompleted here turn raw =>
          dsimp only at ready
          split at ready
          · cases ready
          · rename_i item normalized
            cases ready
            exact ⟨_, ⟨env.fuel, item, normalized, rfl⟩, rfl⟩
        | _ =>
          cases ready
          rfl

namespace ThreadEventForwarder

/-- The forwarder once an event has entered its turn, but for what is left alone. -/
def entered (forwarder : ThreadEventForwarder) (turn : TurnId) (event rendered : AgentEvent)
    (disposition : EventDisposition) : ThreadEventForwarder :=
  { forwarder with
    journal := forwarder.journal ++ [.handled event disposition]
    turn :=
      { forwarder.turn with
        ownedTurn := some turn
        itemIdsByHarness := trackItemIdentity forwarder.turn.itemIdsByHarness event
        items := noteItems forwarder.turn.items rendered
        diffs := noteDiffs forwarder.turn.diffs rendered
        observedTurn := noteObserved forwarder.turn.observedTurn rendered } }

theorem noteOwnedEvent_kept (env : ForwarderEnv) (forwarder : ThreadEventForwarder)
    (rendered : AgentEvent) :
    Kept
      { forwarder with turn :=
        { forwarder.turn with
          items := noteItems forwarder.turn.items rendered
          diffs := noteDiffs forwarder.turn.diffs rendered
          observedTurn := noteObserved forwarder.turn.observedTurn rendered } }
      (forwarder.noteOwnedEvent env rendered) := by
  cases rendered with
  | itemStarted here turn item => exact sendSubagentLink_kept _ _ _ _ _
  | itemCompleted here turn item =>
    have linked := sendSubagentLink_kept forwarder turn item.id "item_completed"
      (subagentActivityInfo item)
    have same := linked.assembly
    simp only [assembly, Assembly.mk.injEq] at same
    refine ⟨?_, linked.journal⟩
    simp only [noteOwnedEvent, assembly, same]
    rfl
  | _ => exact .still rfl rfl

theorem Kept.noted {before after : ThreadEventForwarder} (kept : Kept before after)
    (rendered : AgentEvent) :
    Kept
      { before with turn :=
        { before.turn with
          items := noteItems before.turn.items rendered
          diffs := noteDiffs before.turn.diffs rendered
          observedTurn := noteObserved before.turn.observedTurn rendered } }
      { after with turn :=
        { after.turn with
          items := noteItems after.turn.items rendered
          diffs := noteDiffs after.turn.diffs rendered
          observedTurn := noteObserved after.turn.observedTurn rendered } } := by
  have same := kept.assembly
  simp only [ThreadEventForwarder.assembly, Assembly.mk.injEq] at same
  refine ⟨?_, kept.journal⟩
  simp [ThreadEventForwarder.assembly, same]

theorem resetTurn_assembly (env : ForwarderEnv) (forwarder : ThreadEventForwarder) :
    (forwarder.resetTurn env).assembly =
      { forwarder.assembly with
        owned := none
        observed := none
        items := CurrentTurnItems.empty
        diffs := []
        identities := fun _ => none } := by
  have same := (releaseLease_kept forwarder forwarder.turn.lease).assembly
  simp only [assembly, Assembly.mk.injEq] at same
  simp [assembly, resetTurn, same, ForwardedTurnState.new]

theorem resetTurn_journal (env : ForwarderEnv) (forwarder : ThreadEventForwarder) :
    (forwarder.resetTurn env).journal = forwarder.journal := by
  show (forwarder.releaseLease forwarder.turn.lease).journal = forwarder.journal
  unfold releaseLease
  split
  · rfl
  · split <;> rfl

/-- The turn that is written, written or refused. -/
theorem completeForwardedTurn_cases (env : ForwarderEnv) (forwarder : ThreadEventForwarder)
    (turn : TurnId) (usage : TokenUsage) (status : TurnStatus) :
    (∃ captured,
      (forwarder.completeForwardedTurn env turn usage status).2 =
          some (forwarder.assembledTurn env turn usage status).id ∧
        (forwarder.completeForwardedTurn env turn usage status).1.assembly =
          { forwarder.assembly with
            seen := insert (forwarder.assembledTurn env turn usage status).id
              forwarder.seenTurnIds
            items := CurrentTurnItems.empty
            diffs := [] } ∧
        (forwarder.completeForwardedTurn env turn usage status).1.journal =
          forwarder.journal ++ [.appended (forwarder.assembledTurn env turn usage status)
            forwarder.turn.context captured]) ∨
      ((forwarder.completeForwardedTurn env turn usage status).2 = none ∧
        (forwarder.completeForwardedTurn env turn usage status).1.seenTurnIds =
          forwarder.seenTurnIds ∧
        ∃ notes, (forwarder.completeForwardedTurn env turn usage status).1.journal =
          forwarder.journal ++ notes ∧ ∀ note ∈ notes, note.Quiet) := by
  unfold completeForwardedTurn
  dsimp only
  cases env.appendFault with
  | none => exact Or.inl ⟨_, rfl, rfl, rfl⟩
  | some error =>
    refine Or.inr ⟨rfl, rfl, [_], rfl, ?_⟩
    intro note member
    rw [List.mem_singleton.1 member]
    trivial

end ThreadEventForwarder

theorem Live.entered (live : Live crates maxBytes thread persisted forwarder) {turn : TurnId}
    {rendered : AgentEvent} {attaches : Option TurnId}
    {completes : Option (TurnId × TokenUsage × TurnStatus)}
    (classified : classify forwarder.threadId forwarder.turn forwarder.seenTurnIds event =
      .owned attaches completes)
    (holder : Holder forwarder.turn.ownedTurn attaches turn)
    (becomes : Rendered crates maxBytes event rendered) :
    Live crates maxBytes thread persisted
      (forwarder.entered turn event rendered (.owned attaches completes)) := by
  have bound := live.bound.enter classified holder
  obtain ⟨here, _⟩ := classify_owned classified
  have names : ∀ other, event.turn = some other → other = turn := by
    intro other named
    have holds := (bound.entered event other
      (entered_concat.2 (Or.inr ⟨rfl, attaches, completes, rfl⟩)) named).resolve_right
      ((classify_owned classified).2.2.2.2 other named)
    exact (Option.some.inj holds).symm
  have own := live.contents.own turn (holder.elim (fun same => Or.inl same.1)
    fun same => Or.inr same.1)
  refine ⟨live.handled classified, ?_, own.enter (here.trans live.bound.here) names becomes⟩
  exact
    { bound with
      observed := by
        intro other seen
        change noteObserved forwarder.turn.observedTurn rendered = some other at seen
        cases event with
        | turnStarted source owner =>
          obtain rfl : rendered = .turnStarted source owner := becomes
          cases seen
          exact congrArg some (names other rfl).symm
        | itemCompleted source owner raw =>
          obtain ⟨item, _, rfl⟩ := becomes
          exact bound.observed other seen
        | _ =>
          cases becomes
          exact bound.observed other seen }

/-! ## A turn that is written -/

section

variable {env : ForwarderEnv} {turn : TurnId} {usage : TokenUsage} {status : TurnStatus}
  {after : ThreadEventForwarder}

variable (env usage status) in
theorem Live.assembledTurn_id (live : Live crates maxBytes thread persisted forwarder)
    (owned : forwarder.turn.ownedTurn = some turn) :
    (forwarder.assembledTurn env turn usage status).id = turn := by
  show forwarder.turn.observedTurn.getD turn = turn
  cases seen : forwarder.turn.observedTurn with
  | none => rfl
  | some other =>
    have same := live.bound.observed other seen
    exact Option.some.inj (same.symm.trans owned)

variable (env usage status) in
theorem Live.appended_past (live : Live crates maxBytes thread persisted forwarder)
    (owned : forwarder.turn.ownedTurn = some turn) (context : TurnContext)
    (captured : List CapturedDiffRecord) :
    Past crates maxBytes thread persisted (insert turn forwarder.seenTurnIds)
      (forwarder.journal ++
        [.appended (forwarder.assembledTurn env turn usage status) context captured]) := by
  have id := live.assembledTurn_id env usage status owned
  have unstored := live.bound.unstored turn owned
  have grown : storedTurns (forwarder.journal ++
      [.appended (forwarder.assembledTurn env turn usage status) context captured]) =
      storedTurns forwarder.journal ++ [forwarder.assembledTurn env turn usage status] :=
    storedTurns_append _ _
  have still : ∀ other, Entered (forwarder.journal ++
      [.appended (forwarder.assembledTurn env turn usage status) context captured]) other →
      Entered forwarder.journal other := by
    rintro other ⟨attaches, completes, member⟩
    rcases List.mem_append.1 member with old | new
    · exact ⟨attaches, completes, old⟩
    · cases List.mem_singleton.1 new
  have apart : turn ∉ (storedTurns forwarder.journal).map Turn.id := by
    intro member
    apply unstored
    show turn ∈ forwarder.seenTurnIds
    rw [live.past.seen]
    exact Finset.mem_union_right _ (List.mem_toFinset.2 member)
  exact
    { seen := by
        rw [grown, List.map_append, List.map_singleton, id, live.past.seen]
        ext other
        simp only [Finset.mem_insert, Finset.mem_union, List.mem_toFinset, List.mem_append,
          List.mem_singleton]
        tauto
      ids := by
        rw [grown, List.map_append, List.map_singleton, id, List.nodup_append]
        refine ⟨live.past.ids, List.nodup_singleton _, ?_⟩
        rintro first inside second single rfl
        rw [List.mem_singleton.1 single] at inside
        exact apart inside
      fresh := by
        intro stored member
        rw [grown] at member
        rcases List.mem_append.1 member with old | new
        · exact live.past.fresh stored old
        · rw [List.mem_singleton.1 new, id]
          intro before
          apply unstored
          show turn ∈ forwarder.seenTurnIds
          rw [live.past.seen]
          exact Finset.mem_union_left _ before
      stored := by
        refine justified_concat.2 ⟨live.past.stored, ?_⟩
        rintro stored _ _ ⟨⟩
        exact
          { itemIds := live.contents.valid.nodup
            paths := live.contents.paths
            items := by
              intro item member
              rw [id]
              exact live.contents.completions turn owned item member
            diffs := by
              intro diff member
              rw [id]
              exact live.contents.updates turn owned diff member }
      natives := fun first second named native item other one two =>
        live.past.natives first second named native item other (still first one)
          (still second two) }

variable (env usage status) in
/-- A turn that was written is followed by an empty one. -/
theorem Live.completed (live : Live crates maxBytes thread persisted forwarder)
    (owned : forwarder.turn.ownedTurn = some turn) :
    Past crates maxBytes thread persisted
        (forwarder.completeForwardedTurn env turn usage status).1.seenTurnIds
        (forwarder.completeForwardedTurn env turn usage status).1.journal ∧
      ((forwarder.completeForwardedTurn env turn usage status).2.isSome →
        Live crates maxBytes thread persisted
          ((forwarder.completeForwardedTurn env turn usage status).1.resetTurn env)) := by
  have id := live.assembledTurn_id env usage status owned
  rcases ThreadEventForwarder.completeForwardedTurn_cases env forwarder turn usage status with
    ⟨captured, _, same, noted⟩ | ⟨refused, same, notes, noted, quiet⟩
  · generalize (forwarder.completeForwardedTurn env turn usage status).1 = after at same noted ⊢
    rw [id] at same
    have past := live.appended_past env usage status owned
      forwarder.turn.context captured
    rw [← noted, show insert turn forwarder.seenTurnIds = after.seenTurnIds from
      (congrArg Assembly.seen same).symm] at past
    refine ⟨past, fun _ => ?_⟩
    have reset := ThreadEventForwarder.resetTurn_assembly env after
    rw [same] at reset
    have journal := ThreadEventForwarder.resetTurn_journal env after
    have still : ∀ other, Entered after.journal other → Entered forwarder.journal other := by
      rintro other ⟨attaches, completes, member⟩
      rw [noted] at member
      rcases List.mem_append.1 member with old | new
      · exact ⟨attaches, completes, old⟩
      · cases List.mem_singleton.1 new
    refine ⟨?_, ?_, ?_⟩
    · rw [journal, show (after.resetTurn env).seenTurnIds = after.seenTurnIds from
        (congrArg Assembly.seen reset).trans (congrArg Assembly.seen same).symm]
      exact past
    · rw [reset, journal]
      exact
        { here := live.bound.here
          bytes := live.bound.bytes
          unstored := by rintro _ ⟨⟩
          observed := by rintro _ ⟨⟩
          entered := by
            intro other named entered names
            refine Or.inr (Finset.mem_insert.2 ?_)
            rcases live.bound.entered other named (still other entered) names with here | stored
            · exact Or.inl (Option.some.inj (here.symm.trans owned))
            · exact Or.inr stored
          identities := by rintro _ _ _ _ ⟨⟩ }
    · rw [show (after.resetTurn env).turn.ownedTurn = none from congrArg Assembly.owned reset,
        show (after.resetTurn env).turn.items = CurrentTurnItems.empty from
          congrArg Assembly.items reset,
        show (after.resetTurn env).turn.diffs = [] from congrArg Assembly.diffs reset]
      exact
        { idle := fun _ => ⟨rfl, rfl⟩
          valid := CurrentTurnItems.valid_empty
          paths := List.nodup_nil
          completions := by rintro _ ⟨⟩
          updates := by rintro _ ⟨⟩ }
  · rw [same, noted]
    refine ⟨live.past.quiet quiet, ?_⟩
    rw [refused]
    rintro ⟨⟩

end

/-! ## Steps and runs -/

variable (crates maxBytes thread persisted) in
/-- The invariant of a forwarder: of what it stored, and while it runs of what it assembles. -/
def Sound (forwarder : ThreadEventForwarder) : Prop :=
  Past crates maxBytes thread persisted forwarder.seenTurnIds forwarder.journal ∧
    (forwarder.exited = none → Live crates maxBytes thread persisted forwarder)

/-- What an outcome must satisfy before the loop goes on or is left. -/
def SoundOutcome (crates : Crates) (maxBytes : ℕ) (thread : ThreadId) (persisted : Finset TurnId)
    (outcome : ThreadEventForwarder × Option ForwarderExitReason) : Prop :=
  Past crates maxBytes thread persisted outcome.1.seenTurnIds outcome.1.journal ∧
    (outcome.2 = none → Live crates maxBytes thread persisted outcome.1)

theorem Live.sound (live : Live crates maxBytes thread persisted forwarder) :
    Sound crates maxBytes thread persisted forwarder := ⟨live.past, fun _ => live⟩

theorem Live.outcome (live : Live crates maxBytes thread persisted forwarder)
    (reason : Option ForwarderExitReason) :
    SoundOutcome crates maxBytes thread persisted (forwarder, reason) := ⟨live.past, fun _ => live⟩

theorem finish_sound {after : ThreadEventForwarder}
    (past : Past crates maxBytes thread persisted after.seenTurnIds after.journal)
    (reason : ForwarderExitReason) :
    Sound crates maxBytes thread persisted (after.finish crates reason) := by
  refine ⟨past.kept (ThreadEventForwarder.finish_kept crates after reason), ?_⟩
  rintro ⟨⟩

theorem control_sound {outcome : ThreadEventForwarder × Option ForwarderExitReason}
    (sound : SoundOutcome crates maxBytes thread persisted outcome) :
    Sound crates maxBytes thread persisted (ThreadEventForwarder.control crates outcome) := by
  obtain ⟨after, reason⟩ := outcome
  cases reason with
  | none => exact (sound.2 rfl).sound
  | some reason => exact finish_sound sound.1 reason

variable {env : ForwarderEnv}

theorem finishOwnedTurn_sound (live : Live crates maxBytes thread persisted forwarder)
    {turn : TurnId} (owned : forwarder.turn.ownedTurn = some turn) (usage : TokenUsage)
    (status : TurnStatus) :
    SoundOutcome crates maxBytes thread persisted
      (forwarder.finishOwnedTurn env (turn, usage, status)) := by
  have completed := live.completed env usage status owned
  unfold ThreadEventForwarder.finishOwnedTurn
  dsimp only
  generalize forwarder.completeForwardedTurn env turn usage status = outcome at completed ⊢
  obtain ⟨after, stored⟩ := outcome
  cases stored with
  | none => exact ⟨completed.1, by rintro ⟨⟩⟩
  | some stored =>
    have reset := completed.2 rfl
    exact reset.outcome none

/-- The forwarder once it owns the turn of an event, but for what is left alone. -/
def ThreadEventForwarder.owning (forwarder : ThreadEventForwarder) (turn : TurnId)
    (event : AgentEvent) (disposition : EventDisposition) : ThreadEventForwarder :=
  { forwarder with
    journal := forwarder.journal ++ [.handled event disposition]
    turn :=
      { forwarder.turn with
        ownedTurn := some turn
        itemIdsByHarness := trackItemIdentity forwarder.turn.itemIdsByHarness event } }

/-- An event that has entered the turn, and the turn's completion when it is one. -/
theorem applyPrepared_sound {turn : TurnId} {rendered : AgentEvent} {prepared : PreparedEvent}
    {disposition : EventDisposition} {attached : ThreadEventForwarder}
    (live : Live crates maxBytes thread persisted
      (forwarder.entered turn event rendered disposition))
    (kept : ThreadEventForwarder.Kept (forwarder.owning turn event disposition) attached)
    (becomes : (attached.captured.capture crates prepared.event).2 = rendered)
    (eventTurn : Option TurnId) (completes : Option (TurnId × TokenUsage × TurnStatus))
    (names : ∀ completion, completes = some completion → completion.1 = turn) :
    SoundOutcome crates maxBytes thread persisted
      (attached.applyPrepared crates env eventTurn prepared completes) := by
  have captured := kept.trans
    (ThreadEventForwarder.captureEventDiffs_kept crates attached prepared.event)
  have used := captured.trans (ThreadEventForwarder.recordTurnUsage_kept _ rendered)
  have noted := (used.noted rendered).trans
    (ThreadEventForwarder.noteOwnedEvent_kept env _ rendered)
  have buffered := noted.trans
    (ThreadEventForwarder.admitToLiveBuffer_kept _ eventTurn rendered)
  unfold ThreadEventForwarder.applyPrepared
  rw [show attached.captureEventDiffs crates prepared.event =
    ((attached.captureEventDiffs crates prepared.event).1, rendered) from
    Prod.ext rfl becomes]
  dsimp only
  generalize ThreadEventForwarder.admitToLiveBuffer _ eventTurn rendered = outcome
    at buffered ⊢
  obtain ⟨ready, append⟩ := outcome
  have after : Live crates maxBytes thread persisted ready := live.kept buffered
  have owned : ready.turn.ownedTurn = some turn := congrArg Assembly.owned buffered.assembly
  cases completes with
  | none =>
    dsimp only
    split
    · exact after.outcome _
    · rename_i applied there
      exact (after.kept (ThreadEventForwarder.applyToRuntime_kept there)).outcome none
  | some completion =>
    obtain ⟨completed, usage, status⟩ := completion
    obtain rfl : completed = turn := names _ rfl
    exact finishOwnedTurn_sound after owned usage status

/-- The event of a turn enters it, if its output can be stored. -/
def ThreadEventForwarder.enterOwned (crates : Crates) (env : ForwarderEnv) (event : AgentEvent)
    (completes : Option (TurnId × TokenUsage × TurnStatus)) (forwarder : ThreadEventForwarder) :
    ThreadEventForwarder × Option ForwarderExitReason :=
  match prepareOutput crates env forwarder.maxCommandOutputBytes event with
  | .error reason => (forwarder, some reason)
  | .ok prepared => forwarder.applyPrepared crates env event.turn prepared completes

theorem applyOwned_sound (live : Live crates maxBytes thread persisted forwarder)
    {attaches : Option TurnId} {completes : Option (TurnId × TokenUsage × TurnStatus)}
    (classified : classify forwarder.threadId forwarder.turn forwarder.seenTurnIds event =
      .owned attaches completes) :
    SoundOutcome crates maxBytes thread persisted
      ((forwarder.remembered event (.owned attaches completes)).applyOwned crates env event
        attaches completes) := by
  have noted := live.handled classified
  obtain ⟨_, _, completion, cases_, _⟩ := classify_owned classified
  -- Once the turn is attached, or was owned before, the event enters it.
  have enters : ∀ turn attached, Holder forwarder.turn.ownedTurn attaches turn →
      ThreadEventForwarder.Kept (forwarder.owning turn event (.owned attaches completes)) attached →
      (∀ other, event.turn = some other → other = turn) →
      SoundOutcome crates maxBytes thread persisted
        (attached.enterOwned crates env event completes) := by
    intro turn attached holder kept names
    unfold ThreadEventForwarder.enterOwned
    have bytes : attached.maxCommandOutputBytes = maxBytes :=
      (congrArg Assembly.maxCommandOutputBytes kept.assembly).trans live.bound.bytes
    rw [bytes]
    cases ready : prepareOutput crates env maxBytes event with
    | error reason =>
      refine ⟨?_, by rintro ⟨⟩⟩
      exact @Past.kept _ _ _ _ (forwarder.owning turn event (.owned attaches completes)) _ noted kept
    | ok prepared =>
      have becomes := prepareOutput_rendered ready attached.captured
      refine applyPrepared_sound (live.entered classified holder becomes) kept rfl event.turn
        completes ?_
      rintro ⟨completed, usage, status⟩ rfl
      refine names completed ?_
      cases event <;> simp [completionOf] at completion
      obtain ⟨rfl, _⟩ := completion
      rfl
  unfold ThreadEventForwarder.applyOwned
  rcases cases_ with ⟨owner, owned, rfl, names⟩ | ⟨named, none_, rfl, names⟩
  · refine enters owner _ (Or.inl ⟨owned, rfl⟩) (.still ?_ rfl) names
    simp [ThreadEventForwarder.owning, ThreadEventForwarder.remembered,
      ThreadEventForwarder.assembly, ThreadEventForwarder.log, ForwardedTurnState.remember, owned]
  · dsimp only
    cases outcome : (forwarder.remembered event (.owned (some named) completes)).attachToTurn env
        named with
    | mk attached reason =>
      cases reason with
      | some reason =>
        refine ⟨?_, by rintro ⟨⟩⟩
        exact Past.kept noted (ThreadEventForwarder.attachToTurn_refused outcome)
      | none =>
        refine enters named attached (Or.inr ⟨none_, rfl⟩) ?_ ?_
        · refine ThreadEventForwarder.Kept.trans ?_ (ThreadEventForwarder.attachToTurn_kept outcome)
          exact .still rfl rfl
        · intro other same
          exact Option.some.inj (same.symm.trans names)

theorem handleEvent_sound (live : Live crates maxBytes thread persisted forwarder)
    (event : AgentEvent) :
    SoundOutcome crates maxBytes thread persisted (forwarder.handleEvent crates env event) := by
  unfold ThreadEventForwarder.handleEvent
  dsimp only
  generalize classified : classify forwarder.threadId forwarder.turn forwarder.seenTurnIds event =
    disposition
  cases disposition with
  | drop reason => exact (live.passed classified (by rintro _ _ ⟨⟩)).outcome none
  | lateForPersistedTurn turn =>
    have passed := live.passed classified (by rintro _ _ ⟨⟩)
    exact (passed.kept (ThreadEventForwarder.applyLate_kept crates env _ event)).outcome _
  | turnless =>
    have passed := live.passed classified (by rintro _ _ ⟨⟩)
    exact (passed.kept (ThreadEventForwarder.applyTurnless_kept crates _ event)).outcome none
  | owned attaches completes => exact applyOwned_sound live classified

theorem handleStreamError_sound (live : Live crates maxBytes thread persisted forwarder)
    (error : EventStreamError) :
    SoundOutcome crates maxBytes thread persisted (forwarder.handleStreamError env error) := by
  unfold ThreadEventForwarder.handleStreamError
  dsimp only
  generalize error.isGap = gap
  cases incomplete : forwarder.turn.observedTurn.or forwarder.turn.ownedTurn with
  | none =>
    cases gap
    · exact live.outcome _
    · exact live.outcome none
  | some turn =>
    have owned : forwarder.turn.ownedTurn = some turn := by
      cases seen : forwarder.turn.observedTurn with
      | none => rwa [seen, Option.none_or] at incomplete
      | some other =>
        rw [seen, Option.some_or, Option.some.injEq] at incomplete
        exact incomplete ▸ live.bound.observed other seen
    have completed := live.completed env (forwarder.turn.liveUsage.getD ⟨0, 0, 0⟩)
      (ThreadEventForwarder.interruptedStatus gap) owned
    dsimp only
    generalize forwarder.completeForwardedTurn env turn _ _ = outcome at completed ⊢
    obtain ⟨after, stored⟩ := outcome
    cases stored with
    | none => exact ⟨completed.1, by rintro ⟨⟩⟩
    | some stored =>
      cases gap
      · exact ⟨completed.1, by rintro ⟨⟩⟩
      · exact (completed.2 rfl).outcome none

/-- One step keeps the invariant. -/
theorem step_sound (sound : Sound crates maxBytes thread persisted forwarder)
    (action : ForwarderEnv × ThreadEventForwarder.Action) :
    Sound crates maxBytes thread persisted (forwarder.step crates action) := by
  unfold ThreadEventForwarder.step
  cases running : forwarder.exited with
  | some reason => exact sound
  | none =>
    have live := sound.2 running
    obtain ⟨env, action⟩ := action
    cases action with
    | sendStart input overrides effectiveModel =>
      exact (live.kept (ThreadEventForwarder.send_kept forwarder _)).sound
    | sendCompact effectiveModel mode =>
      exact (live.kept (ThreadEventForwarder.send_kept forwarder _)).sound
    | setCancel =>
      have kept : ThreadEventForwarder.Kept forwarder { forwarder with cancel := true } :=
        .still rfl rfl
      exact (live.kept kept).sound
    | cancelled senderGone =>
      unfold ThreadEventForwarder.advance
      dsimp only
      split
      · exact finish_sound live.past _
      · exact sound
    | event event => exact control_sound (handleEvent_sound live event)
    | streamError error => exact control_sound (handleStreamError_sound live error)
    | answered outcome => exact (live.kept (ThreadEventForwarder.handleAnswer_kept _ outcome)).sound
    | intent =>
      unfold ThreadEventForwarder.advance
      dsimp only
      split
      · exact sound
      · rename_i intent intents _
        have taken : ThreadEventForwarder.Kept forwarder { forwarder with intents := intents } :=
          .still rfl rfl
        exact (live.kept (taken.trans
          (ThreadEventForwarder.admitIntent_kept crates env _ intent))).sound

theorem new_live (binding : LoadedThreadBinding) (maxBytes : ℕ) (entry : ThreadRuntimeEntry)
    (captured : CapturedDiffState) (threadFile : Option ThreadFile) (now : DateTime) :
    Live crates maxBytes binding.handle.thread persisted
      (.new binding maxBytes entry captured threadFile persisted now) where
  past :=
    { seen := (Finset.union_empty persisted).symm
      ids := List.nodup_nil
      fresh := by simp [storedTurns, ThreadEventForwarder.new]
      stored := justified_nil
      natives := by
        rintro first second turn native item other ⟨_, _, member⟩
        exact absurd member List.not_mem_nil }
  bound :=
    { here := rfl
      bytes := rfl
      unstored := by rintro _ ⟨⟩
      observed := by rintro _ ⟨⟩
      entered := by
        rintro event turn ⟨_, _, member⟩
        exact absurd member List.not_mem_nil
      identities := by rintro _ _ _ _ ⟨⟩ }
  contents :=
    { idle := fun _ => ⟨rfl, rfl⟩
      valid := CurrentTurnItems.valid_empty
      paths := List.nodup_nil
      completions := by rintro _ ⟨⟩
      updates := by rintro _ ⟨⟩ }

end

/-! ## Stored turns -/

/-- For every run of a forwarder, from any set of persisted turns: no turn is stored twice and none
that was persisted; a stored turn is made of the last completion of each item and the last diff
of each path among the events of this thread that name this turn, a completion that was dropped
for its identity apart; and two items never enter a turn under one native item id that is not
empty. -/
theorem stored_turns_apart (crates : Crates) (binding : LoadedThreadBinding) (maxBytes : ℕ)
    (entry : ThreadRuntimeEntry) (captured : CapturedDiffState) (threadFile : Option ThreadFile)
    (persisted : Finset TurnId) (now : DateTime)
    (actions : List (ForwarderEnv × ThreadEventForwarder.Action)) :
    let journal := ((ThreadEventForwarder.new binding maxBytes entry captured threadFile persisted
      now).run crates actions).journal
    ((storedTurns journal).map Turn.id).Nodup ∧
      (∀ turn ∈ storedTurns journal, turn.id ∉ persisted) ∧
      (∀ earlier turn context records,
        earlier ++ [.appended turn context records] <+: journal →
        MadeOf crates maxBytes binding.handle.thread turn earlier) ∧
      ∀ first second turn native item other, Entered journal first → Entered journal second →
        eventItemIdentity first = some (turn, native, item) →
        eventItemIdentity second = some (turn, native, other) → item = other := by
  intro journal
  have sound : Sound crates maxBytes binding.handle.thread persisted
      ((ThreadEventForwarder.new binding maxBytes entry captured threadFile persisted now).run
        crates actions) :=
    Schedule.run_preserves (new_live binding maxBytes entry captured threadFile now).sound
      (fun _ action sound => step_sound sound action) actions
  refine ⟨sound.1.ids, sound.1.fresh, ?_, sound.1.natives⟩
  intro earlier turn context records start
  exact sound.1.stored earlier _ start turn context records rfl

/-! ### What the identity gate keeps out -/

def forwardedThread : ThreadId := ⟨⟨1⟩⟩

def forwardedTurn : TurnId := ⟨⟨5⟩⟩

def forwardedBinding : LoadedThreadBinding where
  projectId := ⟨⟨9⟩⟩
  harness := "codex"
  handle := .opened forwardedThread "native" "/workspace"
  turnSteering := false
  nativeModel := none

/-- An environment in which nothing fails. -/
def sampleForwarderEnv : ForwarderEnv where
  now := ⟨0, 0⟩
  fuel := 2
  threadFile := none
  classification := .primary
  harnessThere := true
  permitTaken := true
  permitCurrent := true
  preparationFails := false
  appendFault := none

def sampleForwarder : ThreadEventForwarder :=
  .new forwardedBinding 1000 ThreadRuntimeEntry.empty CapturedDiffState.empty none ∅ ⟨0, 0⟩

/-- The events of a run, in an environment in which nothing fails. -/
def receiving (events : List AgentEvent) : List (ForwarderEnv × ThreadEventForwarder.Action) :=
  events.map fun event => (sampleForwarderEnv, .event event)

def forwardedMessage (id : ItemId) (native text : String) : Item :=
  ⟨id, native, .agentMessage text, ⟨0, 0⟩⟩

def forwardedCompletion : AgentEvent :=
  .turnCompleted forwardedThread forwardedTurn ⟨0, 0, 0⟩ ⟨.completed, none⟩

/-- The second completion of the first item comes under the native id of the second item, and two
items come without one. -/
def remappedItems : List Item :=
  [forwardedMessage ⟨⟨1⟩⟩ "a" "draft", forwardedMessage ⟨⟨2⟩⟩ "b" "other",
    forwardedMessage ⟨⟨1⟩⟩ "b" "final", forwardedMessage ⟨⟨3⟩⟩ "" "first", forwardedMessage ⟨⟨4⟩⟩ "" "second"]

def remappedEvents : List AgentEvent :=
  remappedItems.map (.itemCompleted forwardedThread forwardedTurn) ++ [forwardedCompletion]

/-- The stored turn has the draft of an item whose last completion was received, and two items
under the empty native id. -/
theorem remapped_items_stored :
    let stored := storedTurns
      (sampleForwarder.run Crates.reference (receiving remappedEvents)).journal
    (∃ turn ∈ stored, ∃ item ∈ turn.items, ∃ last,
        remappedItems.reverse.find? (fun other => other.id = item.id) = some last ∧
          last.payload ≠ item.payload) ∧
      ∃ turn ∈ stored, ∃ first ∈ turn.items, ∃ second ∈ turn.items,
        first.harnessItemId = second.harnessItemId ∧ first.id ≠ second.id := by
  intro stored
  have items : stored.map Turn.items =
      [[forwardedMessage ⟨⟨1⟩⟩ "a" "draft", forwardedMessage ⟨⟨2⟩⟩ "b" "other",
        forwardedMessage ⟨⟨3⟩⟩ "" "first", forwardedMessage ⟨⟨4⟩⟩ "" "second"]] := rfl
  obtain ⟨turn, only, made⟩ := List.map_eq_singleton_iff.1 items
  have member : turn ∈ stored := by
    rw [only]
    exact List.mem_singleton_self turn
  refine ⟨⟨turn, member, _, made ▸ List.mem_cons_self, forwardedMessage ⟨⟨1⟩⟩ "b" "final", rfl, ?_⟩,
    turn, member, forwardedMessage ⟨⟨3⟩⟩ "" "first", ?_, forwardedMessage ⟨⟨4⟩⟩ "" "second", ?_, rfl, ?_⟩
  · decide
  · rw [made]
    decide
  · rw [made]
    decide
  · decide

end Giskard
