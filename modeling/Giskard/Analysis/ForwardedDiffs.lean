import Mathlib
import Giskard.Foundation.IndexMap
import Giskard.Foundation.KeyedList
import Giskard.Analysis.CapturedDiffSlots
import Giskard.Analysis.ForwardedTurns
import Giskard.Analysis.PayloadRoundTrip

/-!
# The diffs of an assembled turn

The descriptors of a turn's diffs are kept twice: in the slots that say which bodies stay, and in
the items and diffs that are assembled. Both are fed by the same events, each with its own rule of
replacement. They agree: the changes of an assembled item are those of the slots of that item, and
an assembled diff is that of the slot of its path. So the bodies that are kept are the bodies the
assembled turn is written with.
-/

set_option autoImplicit false

namespace Giskard

open Foundation

/-! ## What becomes of a slot -/

namespace ActiveCapturedDiffs

variable {state : ActiveCapturedDiffs} {slot : CapturedDiffSlot}

theorem installCapturedDiff_currentBySlot (state : ActiveCapturedDiffs) (capture : Capture) :
    (state.installCapturedDiff capture).currentBySlot =
      state.currentBySlot.insert capture.slot capture.descriptor := rfl

theorem omitSlot_currentBySlot (state : ActiveCapturedDiffs) (slot : CapturedDiffSlot) :
    (state.omitSlot slot).currentBySlot = state.currentBySlot.shiftRemove slot := rfl

theorem install_other {captures : List Capture} (other : slot ∉ captures.map Capture.slot) :
    (captures.foldl installCapturedDiff state).currentBySlot.get? slot =
      state.currentBySlot.get? slot := by
  induction captures generalizing state with
  | nil => rfl
  | cons capture captures ih =>
    rw [List.map_cons, List.mem_cons, not_or] at other
    rw [List.foldl_cons, ih other.2, installCapturedDiff_currentBySlot,
      IndexMap.get?_insert_of_ne _ other.1]

theorem install_all {captures : List Capture} (distinct : (captures.map Capture.slot).Nodup)
    {capture : Capture} (member : capture ∈ captures) :
    (captures.foldl installCapturedDiff state).currentBySlot.get? capture.slot =
      some capture.descriptor := by
  induction captures generalizing state with
  | nil => cases member
  | cons head captures ih =>
    rw [List.map_cons, List.nodup_cons] at distinct
    rw [List.foldl_cons]
    rcases List.mem_cons.1 member with rfl | rest
    · rw [install_other distinct.1, installCapturedDiff_currentBySlot,
        IndexMap.get?_insert_self]
    · exact ih distinct.2 rest

theorem omit_other {omitted : List CapturedDiffSlot} (other : slot ∉ omitted) :
    (omitted.foldl omitSlot state).currentBySlot.get? slot = state.currentBySlot.get? slot := by
  induction omitted generalizing state with
  | nil => rfl
  | cons head omitted ih =>
    rw [List.mem_cons, not_or] at other
    rw [List.foldl_cons, ih other.2, omitSlot_currentBySlot, IndexMap.get?_shiftRemove,
      if_neg other.1]

theorem reconcile_other {itemId : ItemId} {captures : List Capture}
    (owned : ∀ capture ∈ captures, ownedBy itemId capture.slot = true)
    (other : ownedBy itemId slot = false) :
    (state.reconcileItemCapturedDiffs itemId captures).currentBySlot.get? slot =
      state.currentBySlot.get? slot := by
  unfold reconcileItemCapturedDiffs
  dsimp only
  rw [install_other, omit_other]
  · intro member
    have mine := (List.mem_filter.1 member).2
    rw [other] at mine
    cases mine
  · intro member
    obtain ⟨capture, captured, rfl⟩ := List.mem_map.1 member
    rw [owned capture captured] at other
    cases other

/-! ## The bodies that are kept -/

/-- Every body that is kept was captured. -/
def Kept (captures : List Capture) (state : ActiveCapturedDiffs) : Prop :=
  ∀ id record, state.contents.get? id = some record → ∃ c ∈ captures, c.record = record

theorem installCapturedDiff_kept {captures : List Capture} (kept : Kept captures state)
    {c : Capture} (member : c ∈ captures) : Kept captures (state.installCapturedDiff c) := by
  have inserted : ∀ contents : IndexMap DiffId CapturedDiffRecord,
      (∀ id record, contents.get? id = some record → ∃ c ∈ captures, c.record = record) →
      ∀ id record, (contents.insert c.record.id c.record).get? id = some record →
        ∃ c ∈ captures, c.record = record := by
    intro contents before id record found
    rw [IndexMap.get?_insert] at found
    split at found
    · exact ⟨c, member, Option.some.inj found⟩
    · exact before id record found
  unfold installCapturedDiff
  cases state.currentBySlot.get? c.slot with
  | none => exact inserted state.contents kept
  | some previous =>
    dsimp only
    split
    · exact inserted state.contents kept
    · exact inserted _ fun id record found => kept id record (get?_release found)

theorem omitSlot_kept {captures : List Capture} (kept : Kept captures state)
    (slot : CapturedDiffSlot) : Kept captures (state.omitSlot slot) := by
  intro id record found
  unfold omitSlot at found
  dsimp only at found
  split at found
  · exact kept id record found
  · exact kept id record (get?_release found)

theorem reconcile_kept {captures : List Capture} (kept : Kept captures state) (itemId : ItemId)
    {new : List Capture} (subset : new ⊆ captures) :
    Kept captures (state.reconcileItemCapturedDiffs itemId new) := by
  have retired (omitted : List CapturedDiffSlot) : Kept captures (omitted.foldl omitSlot state) :=
    List.foldlRecOn omitted omitSlot kept fun _ kept slot _ => omitSlot_kept kept slot
  unfold reconcileItemCapturedDiffs
  exact List.foldlRecOn new installCapturedDiff (retired _) fun _ kept c member =>
    installCapturedDiff_kept kept (subset member)

end ActiveCapturedDiffs

/-! ## The captures of one item -/

namespace CapturedDiffState

variable {crates : Crates} {itemId : ItemId}

theorem captureChanges_slot {seen : List PathComponents} {changes : List FileChangeEntry}
    {c : Capture} (member : c ∈ (captureChanges crates itemId seen changes).2) :
    ∃ path occurrence, c.slot = .item itemId path occurrence ∧ seen.count path ≤ occurrence := by
  induction changes generalizing seen with
  | nil => cases member
  | cons change changes ih =>
    have rest : c ∈ (captureChanges crates itemId
        (pathComponents change.path :: seen) changes).2 →
        ∃ path occurrence, c.slot = .item itemId path occurrence ∧ seen.count path ≤ occurrence := by
      intro later
      obtain ⟨path, occurrence, slot, counted⟩ := ih later
      exact ⟨path, occurrence, slot, (List.count_le_count_cons).trans counted⟩
    unfold captureChanges at member
    dsimp only at member
    split at member
    · exact rest member
    · rcases List.mem_cons.1 member with rfl | later
      · exact ⟨_, _, rfl, le_refl _⟩
      · exact rest later

theorem captureChanges_slots_nodup (seen : List PathComponents) (changes : List FileChangeEntry) :
    ((captureChanges crates itemId seen changes).2.map Capture.slot).Nodup := by
  induction changes generalizing seen with
  | nil => exact List.nodup_nil
  | cons change changes ih =>
    unfold captureChanges
    dsimp only
    split
    · exact ih _
    · refine List.nodup_cons.2 ⟨?_, ih _⟩
      intro member
      obtain ⟨c, later, same⟩ := List.mem_map.1 member
      obtain ⟨path, occurrence, slot, counted⟩ := captureChanges_slot later
      rw [slot] at same
      cases same
      rw [List.count_cons_self] at counted
      omega

/-- A change of an item whose body was taken out: its capture, or no body at all. -/
theorem captureChanges_entry {seen : List PathComponents} {changes : List FileChangeEntry}
    (inline : ∀ change ∈ changes, change.capturedDiff = none) {entry : FileChangeEntry}
    (member : entry ∈ (captureChanges crates itemId seen changes).1) :
    entry.diff = none ∧ ∀ descriptor, entry.capturedDiff = some descriptor →
      ∃ text, ∃ c ∈ (captureChanges crates itemId seen changes).2, c.descriptor = descriptor ∧
        Files crates ⟨entry.path, entry.change, .unified text⟩ c ∧
        (captureUnifiedDiff crates entry.path entry.change (some itemId) text).1 = descriptor := by
  induction changes generalizing seen with
  | nil => cases member
  | cons change changes ih =>
    have here := inline change List.mem_cons_self
    have rest := @ih (pathComponents change.path :: seen) fun other later =>
      inline other (List.mem_cons_of_mem _ later)
    cases diff : change.diff with
    | none =>
      simp only [captureChanges, diff, List.mem_cons] at member ⊢
      rcases member with rfl | later
      · refine ⟨diff, ?_⟩
        intro descriptor found
        rw [here] at found
        cases found
      · exact rest later
    | some text =>
      simp only [captureChanges, diff, List.mem_cons] at member ⊢
      rcases member with rfl | later
      · refine ⟨rfl, ?_⟩
        rintro descriptor ⟨⟩
        exact ⟨text, _, Or.inl rfl, rfl, .item itemId change.path change.change text _, rfl⟩
      · obtain ⟨bare, captured⟩ := rest later
        refine ⟨bare, ?_⟩
        intro descriptor found
        obtain ⟨text, c, filed, same⟩ := captured descriptor found
        exact ⟨text, c, Or.inr filed, same⟩

theorem captureItem_id (item : Item) : (captureItem crates item).1.id = item.id := by
  unfold captureItem
  split <;> rfl

theorem captureItem_slots (item : Item) :
    ((captureItem crates item).2.map Capture.slot).Nodup ∧
      ∀ c ∈ (captureItem crates item).2, ActiveCapturedDiffs.ownedBy item.id c.slot = true := by
  unfold captureItem
  split
  · refine ⟨captureChanges_slots_nodup _ _, ?_⟩
    intro c member
    obtain ⟨path, occurrence, slot, _⟩ := captureChanges_slot member
    rw [slot]
    exact decide_eq_true rfl
  · refine ⟨List.nodup_nil, ?_⟩
    intro c member
    cases member

theorem captureItem_entry {item : Item} (inline : item.Inline) {entry : FileChangeEntry}
    (member : entry ∈ (captureItem crates item).1.changes) :
    entry.diff = none ∧ ∀ descriptor, entry.capturedDiff = some descriptor →
      ∃ text, ∃ c ∈ (captureItem crates item).2, c.descriptor = descriptor ∧
        Files crates ⟨entry.path, entry.change, .unified text⟩ c ∧
        (captureUnifiedDiff crates entry.path entry.change (some item.id) text).1 = descriptor := by
  unfold Item.Inline Item.descriptors at inline
  unfold captureItem Item.changes at member
  unfold captureItem
  cases payload : item.payload with
  | fileChange path change changes status =>
    rw [payload] at inline member
    exact captureChanges_entry (List.filterMap_eq_nil_iff.1 inline) member
  | _ =>
    rw [payload] at member
    simp only [payload] at member
    cases member

end CapturedDiffState

/-! ## The agreement -/

/-- The capture of a diff of a turn. -/
def FileDiff.capture (crates : Crates) (raw : FileDiff) (descriptor : CapturedDiffDescriptor) :
    Capture :=
  ⟨.turn (pathComponents descriptor.path), descriptor, (captureStructuredDiff crates raw).2⟩

/-- The assembled items and diffs have the descriptors of their slots. -/
structure DiffsAgree (crates : Crates) (captures : List Capture) (active : ActiveCapturedDiffs)
    (items : List Item) (diffs : List FileDiff) : Prop where
  holds : active.Holds captures
  kept : active.Kept captures
  items : ∀ item ∈ items, ∃ raw, raw.Inline ∧ item = (CapturedDiffState.captureItem crates raw).1 ∧
    ∀ c ∈ (CapturedDiffState.captureItem crates raw).2, c ∈ captures ∧
      active.currentBySlot.get? c.slot = some c.descriptor
  diffs : ∀ diff ∈ diffs, ∃ raw descriptor, diff = (captureStructuredDiff crates raw).1 ∧
    diff.captured = some descriptor ∧ raw.capture crates descriptor ∈ captures ∧
    active.currentBySlot.get? (.turn diff.pathKey) = some descriptor

section

variable {crates : Crates} {captures : List Capture} {active : ActiveCapturedDiffs}
  {items : List Item} {diffs : List FileDiff}

theorem DiffsAgree.completed (agree : DiffsAgree crates captures active items diffs)
    (coherent : ActiveCapturedDiffs.Coherent captures) (distinct : (items.map Item.id).Nodup)
    {raw : Item} (inline : raw.Inline)
    (subset : (CapturedDiffState.captureItem crates raw).2 ⊆ captures) :
    DiffsAgree crates captures
      (active.reconcileItemCapturedDiffs raw.id (CapturedDiffState.captureItem crates raw).2)
      (KeyedList.upsert Item.id items (CapturedDiffState.captureItem crates raw).1) diffs := by
  obtain ⟨slots, owned⟩ := @CapturedDiffState.captureItem_slots crates raw
  refine ⟨ActiveCapturedDiffs.reconcileItemCapturedDiffs_holds coherent agree.holds raw.id subset,
    ActiveCapturedDiffs.reconcile_kept agree.kept raw.id subset, ?_, ?_⟩
  · intro item member
    rcases KeyedList.mem_upsert distinct member with rfl | ⟨before, other⟩
    · refine ⟨raw, inline, rfl, ?_⟩
      intro c filed
      exact ⟨subset filed, ActiveCapturedDiffs.install_all slots filed⟩
    · obtain ⟨old, oldInline, rfl, installed⟩ := agree.items item before
      refine ⟨old, oldInline, rfl, ?_⟩
      intro c filed
      obtain ⟨captured, current⟩ := installed c filed
      refine ⟨captured, ?_⟩
      rw [ActiveCapturedDiffs.reconcile_other owned, current]
      -- The slots of another item are not this item's.
      have mine := (@CapturedDiffState.captureItem_slots crates old).2 c filed
      rw [CapturedDiffState.captureItem_id, CapturedDiffState.captureItem_id] at other
      cases slot : c.slot with
      | turn path =>
        rw [slot] at mine
        cases mine
      | item owner path occurrence =>
        rw [slot] at mine
        have same : owner = old.id := of_decide_eq_true mine
        rw [same]
        exact decide_eq_false other
  · intro diff member
    obtain ⟨old, descriptor, captured, described, filed, current⟩ := agree.diffs diff member
    refine ⟨old, descriptor, captured, described, filed, ?_⟩
    rw [ActiveCapturedDiffs.reconcile_other owned rfl, current]

theorem DiffsAgree.updated (agree : DiffsAgree crates captures active items diffs)
    (coherent : ActiveCapturedDiffs.Coherent captures)
    (distinct : (diffs.map FileDiff.pathKey).Nodup) {raw : FileDiff}
    {descriptor : CapturedDiffDescriptor}
    (projected : (captureStructuredDiff crates raw).1.captured = some descriptor)
    (filed : raw.capture crates descriptor ∈ captures) :
    DiffsAgree crates captures (active.installCapturedDiff (raw.capture crates descriptor)) items
      (KeyedList.upsert FileDiff.pathKey diffs (captureStructuredDiff crates raw).1) := by
  have path : descriptor.path = raw.path := by
    cases projected
    rfl
  refine ⟨ActiveCapturedDiffs.installCapturedDiff_holds coherent agree.holds filed,
    ActiveCapturedDiffs.installCapturedDiff_kept agree.kept filed, ?_, ?_⟩
  · intro item member
    obtain ⟨old, inline, captured, installed⟩ := agree.items item member
    refine ⟨old, inline, captured, ?_⟩
    intro c mine
    obtain ⟨before, current⟩ := installed c mine
    refine ⟨before, ?_⟩
    have owned := (@CapturedDiffState.captureItem_slots crates old).2 c mine
    rw [ActiveCapturedDiffs.installCapturedDiff_currentBySlot, IndexMap.get?_insert_of_ne, current]
    intro same
    rw [same] at owned
    cases owned
  · intro diff member
    rw [ActiveCapturedDiffs.installCapturedDiff_currentBySlot]
    rcases KeyedList.mem_upsert distinct member with rfl | ⟨before, other⟩
    · refine ⟨raw, descriptor, rfl, projected, filed, ?_⟩
      rw [show CapturedDiffSlot.turn (captureStructuredDiff crates raw).1.pathKey =
        (raw.capture crates descriptor).slot from
        congrArg (fun path => CapturedDiffSlot.turn (pathComponents path)) path.symm]
      exact IndexMap.get?_insert_self _ _ _
    · obtain ⟨old, held, captured, described, oldFiled, current⟩ := agree.diffs diff before
      refine ⟨old, held, captured, described, oldFiled, ?_⟩
      rw [IndexMap.get?_insert_of_ne, current]
      intro same
      have key : diff.pathKey = pathComponents descriptor.path := CapturedDiffSlot.turn.inj same
      rw [path] at key
      exact other key

/-! ## The bodies an assembled turn is written with -/

theorem files_content {body : DiffBody} {c : Capture} (files : Files crates body c) :
    c.record.content = body.content := by
  cases files <;> rfl

theorem capturedContent_eq {records : List CapturedDiffRecord} {id : DiffId}
    {content : CapturedDiffContent} (there : ∃ record ∈ records, record.id = id)
    (same : ∀ record ∈ records, record.id = id → record.content = content) :
    capturedContent records id = some content := by
  unfold capturedContent
  cases found : records.reverse.find? fun record => record.id = id with
  | none =>
    obtain ⟨record, member, here⟩ := there
    have absent := List.find?_eq_none.1 found record (List.mem_reverse.2 member)
    simp [here] at absent
  | some record =>
    have member := List.mem_reverse.1 (List.mem_of_find?_eq_some found)
    have here : record.id = id := by simpa using List.find?_some found
    exact congrArg some (same record member here)

theorem DiffsAgree.content (agree : DiffsAgree crates captures active items diffs)
    {bodies : List DiffBody} (free : CollisionFree crates bodies)
    (filed : ∀ c ∈ captures, ∃ body ∈ bodies, Files crates body c) {c : Capture}
    (captured : c ∈ captures) (current : active.currentBySlot.get? c.slot = some c.descriptor) :
    (∃ record ∈ active.contents.values, record.id = c.descriptor.id ∧
        record.content = c.record.content) ∧
      capturedContent active.contents.values c.descriptor.id = some c.record.content := by
  obtain ⟨body, brought, files⟩ := filed c captured
  have same : ∀ record ∈ active.contents.values, record.id = c.descriptor.id →
      record.content = c.record.content := by
    intro record member id
    obtain ⟨key, found⟩ := IndexMap.mem_values_iff.1 member
    obtain ⟨other, otherCaptured, rfl⟩ := agree.kept key record found
    obtain ⟨otherBody, otherBrought, otherFiles⟩ := filed other otherCaptured
    rw [(files_id otherFiles).2, (files_id files).1] at id
    rw [files_content otherFiles, files_content files,
      free otherBody otherBrought body brought id]
  have key := (agree.holds.contents_keys c.descriptor.id).2 ⟨c.slot, c.descriptor, current, rfl⟩
  obtain ⟨record, found⟩ := IndexMap.mem_keys_iff.1 key
  have member : record ∈ active.contents.values := IndexMap.mem_values_iff.2 ⟨_, found⟩
  have id := agree.holds.content_id _ record found
  exact ⟨⟨record, member, id, same record member id⟩,
    capturedContent_eq ⟨record, member, id⟩ same⟩

/-- The records that are kept cover the items and diffs that are assembled. -/
theorem DiffsAgree.covers (agree : DiffsAgree crates captures active items diffs)
    {bodies : List DiffBody} (free : CollisionFree crates bodies)
    (filed : ∀ c ∈ captures, ∃ body ∈ bodies, Files crates body c) {turn : Turn}
    (assembledItems : turn.items = items) (assembledDiffs : turn.diffs = diffs) :
    Covers crates active.contents.values turn := by
  refine ⟨?_, ?_⟩
  · intro item member entry inside descriptor found
    rw [assembledItems] at member
    obtain ⟨raw, inline, rfl, installed⟩ := agree.items item member
    obtain ⟨_, captured⟩ := CapturedDiffState.captureItem_entry inline inside
    obtain ⟨text, c, mine, rfl, files, described⟩ := captured descriptor found
    obtain ⟨there, current⟩ := installed c mine
    refine ⟨text, ?_, ?_⟩
    · rw [(agree.content free filed there current).2, files_content files]
    · rw [CapturedDiffState.captureItem_id]
      exact described
  · intro diff member descriptor found
    rw [assembledDiffs] at member
    obtain ⟨raw, held, rfl, described, there, current⟩ := agree.diffs diff member
    cases described.symm.trans found
    have path : descriptor.path = raw.path := by
      cases described
      rfl
    have slot : active.currentBySlot.get? (raw.capture crates descriptor).slot =
        some descriptor := by
      rw [← current]
      exact congrArg (fun path => active.currentBySlot.get? (.turn (pathComponents path))) path
    refine ⟨{ raw with captured := none }, (agree.content free filed there slot).2, rfl, ?_⟩
    cases described
    rfl

theorem Item.descriptors_eq (item : Item) :
    item.descriptors = item.changes.filterMap FileChangeEntry.capturedDiff := by
  unfold Item.descriptors Item.changes
  cases item.payload <;> rfl

/-- The records have, for every descriptor that is assembled, one of its identity and its kind. -/
theorem DiffsAgree.recorded (agree : DiffsAgree crates captures active items diffs)
    {bodies : List DiffBody} (free : CollisionFree crates bodies)
    (filed : ∀ c ∈ captures, ∃ body ∈ bodies, Files crates body c) :
    (∀ item ∈ items, ∀ descriptor ∈ item.descriptors,
        ∃ record ∈ active.contents.values, record.id = descriptor.id ∧
          ∃ text, record.content = .unified text) ∧
      ∀ diff ∈ diffs, ∀ descriptor, diff.captured = some descriptor →
        ∃ record ∈ active.contents.values, record.id = descriptor.id ∧
          ∃ content, record.content = .structured content := by
  refine ⟨?_, ?_⟩
  · intro item member descriptor described
    obtain ⟨raw, inline, rfl, installed⟩ := agree.items item member
    rw [Item.descriptors_eq] at described
    obtain ⟨entry, inside, found⟩ := List.mem_filterMap.1 described
    obtain ⟨_, captured⟩ := CapturedDiffState.captureItem_entry inline inside
    obtain ⟨text, c, mine, rfl, files, _⟩ := captured descriptor found
    obtain ⟨there, current⟩ := installed c mine
    obtain ⟨record, kept, id, content⟩ := (agree.content free filed there current).1
    exact ⟨record, kept, id, text, content.trans (files_content files)⟩
  · intro diff member descriptor found
    obtain ⟨raw, held, rfl, described, there, current⟩ := agree.diffs diff member
    cases described.symm.trans found
    have path : descriptor.path = raw.path := by
      cases described
      rfl
    have slot : active.currentBySlot.get? (raw.capture crates descriptor).slot =
        some descriptor := by
      rw [← current]
      exact congrArg (fun path => active.currentBySlot.get? (.turn (pathComponents path))) path
    obtain ⟨record, kept, id, content⟩ := (agree.content free filed there slot).1
    exact ⟨record, kept, id, _, content⟩

end

/-! ## Capturing again -/

/-- An event as the harness reports it: its changes have no descriptors yet. -/
def AgentEvent.Raw : AgentEvent → Prop
  | .itemCompleted _ _ item => item.Inline
  | _ => True

namespace ThreadEventForwarder

variable {crates : Crates} {env : ForwarderEnv} {turn : TurnId}

/-- An owned event, captured and noted. -/
def assembleOwned (crates : Crates) (env : ForwarderEnv) (forwarder : ThreadEventForwarder)
    (event : AgentEvent) : ThreadEventForwarder :=
  (forwarder.captureEventDiffs crates event).1.noteOwnedEvent env
    (forwarder.captureEventDiffs crates event).2

/-- The assembled items and diffs agree with the slots of the turn. -/
structure Assembling (crates : Crates) (captures : List Capture) (turn : TurnId)
    (forwarder : ThreadEventForwarder) : Prop where
  agree : DiffsAgree crates captures (forwarder.captured.turnOrDefault turn)
    forwarder.turn.items.items forwarder.turn.diffs
  valid : forwarder.turn.items.Valid
  paths : (forwarder.turn.diffs.map FileDiff.pathKey).Nodup

theorem setTurn_turnOrDefault (state : CapturedDiffState) (turn : TurnId)
    (active : ActiveCapturedDiffs) : (state.setTurn turn active).turnOrDefault turn = active := by
  simp [CapturedDiffState.turnOrDefault, CapturedDiffState.setTurn]

theorem sendSubagentLink_assembled (forwarder : ThreadEventForwarder) (turn : TurnId)
    (itemId : ItemId) (origin : String) (info : Option SubagentActivityInfo) :
    (forwarder.sendSubagentLink turn itemId origin info).turn = forwarder.turn ∧
      (forwarder.sendSubagentLink turn itemId origin info).captured = forwarder.captured := by
  cases info <;> exact ⟨rfl, rfl⟩

theorem Assembling.owned {captures : List Capture} {forwarder : ThreadEventForwarder}
    (assembling : Assembling crates captures turn forwarder)
    (coherent : ActiveCapturedDiffs.Coherent captures) {event : AgentEvent}
    (named : event.turn = some turn) (raw : event.Raw)
    (subset : capturesOf crates turn event ⊆ captures) :
    Assembling crates captures turn (forwarder.assembleOwned crates env event) := by
  cases event with
  | itemCompleted thread owner item =>
    cases named
    rw [capturesOf, if_pos rfl] at subset
    have completed := assembling.agree.completed coherent assembling.valid.nodup raw subset
    have linked := sendSubagentLink_assembled (forwarder.captureEventDiffs crates
      (.itemCompleted thread turn item)).1 turn (CapturedDiffState.captureItem crates item).1.id
      "item_completed" (subagentActivityInfo (CapturedDiffState.captureItem crates item).1)
    unfold assembleOwned noteOwnedEvent
    dsimp only [captureEventDiffs, CapturedDiffState.capture] at linked ⊢
    refine ⟨?_, ?_, ?_⟩
    · dsimp only
      rw [linked.1, linked.2, setTurn_turnOrDefault, CurrentTurnItems.upsert_items assembling.valid]
      exact completed
    · dsimp only
      rw [linked.1]
      exact (CurrentTurnItems.upsert_spec assembling.valid _).1
    · dsimp only
      rw [linked.1]
      exact assembling.paths
  | diffUpdated thread owner diff =>
    cases named
    cases projected : (captureStructuredDiff crates diff).1.captured with
    | none => cases projected
    | some descriptor =>
      rw [capturesOf, if_pos rfl, projected] at subset
      have updated := assembling.agree.updated coherent assembling.paths projected
        (subset (List.mem_singleton_self _))
      have captured : forwarder.captureEventDiffs crates (.diffUpdated thread turn diff) =
          ({ forwarder with
              captured := forwarder.captured.setTurn turn
                ((forwarder.captured.turnOrDefault turn).installCapturedDiff
                  (diff.capture crates descriptor)) },
            .diffUpdated thread turn (captureStructuredDiff crates diff).1) := by
        cases projected
        rfl
      unfold assembleOwned
      rw [captured]
      refine ⟨?_, assembling.valid, ?_⟩
      · dsimp only [noteOwnedEvent]
        rw [setTurn_turnOrDefault, ForwardedTurnState.upsertDiff_eq]
        exact updated
      · dsimp only [noteOwnedEvent]
        rw [ForwardedTurnState.upsertDiff_eq]
        exact KeyedList.upsert_nodup assembling.paths
  | turnStarted thread started =>
    exact ⟨assembling.agree, CurrentTurnItems.valid_rebuildIndexes assembling.valid,
      assembling.paths⟩
  | itemStarted thread owner start =>
    have linked := sendSubagentLink_assembled forwarder owner start.id "item_started"
      (subagentStartInfo start)
    change Assembling crates captures turn (forwarder.sendSubagentLink owner start.id
      "item_started" (subagentStartInfo start))
    refine ⟨?_, ?_, ?_⟩
    · rw [linked.1, linked.2]
      exact assembling.agree
    · rw [linked.1]
      exact assembling.valid
    · rw [linked.1]
      exact assembling.paths
  | _ => exact ⟨assembling.agree, assembling.valid, assembling.paths⟩

end ThreadEventForwarder

end Giskard
