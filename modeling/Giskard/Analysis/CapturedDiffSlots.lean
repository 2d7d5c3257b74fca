import Mathlib
import Giskard.Foundation.IndexMap
import Giskard.Model.CapturedDiffs

/-!
# The slots of captured diffs

Three maps are kept aligned while a turn's diffs are captured: the current descriptor of each
slot, the bodies the slots refer to, and the redirects of the identities they had before. A body
stays while some slot refers to it, and a redirect stays while its slot has the descriptor it
points at. Both rest on descriptors being determined by slot and identity, which is where the
identities have to be free of collisions.

SOURCE: crates/giskard-server/src/thread_runtime/diffs.rs.
-/

set_option autoImplicit false

namespace Giskard

open Foundation

/-! ## The invariant -/

namespace ActiveCapturedDiffs

/-- Some slot has a descriptor of this identity. -/
def Referenced (current : IndexMap CapturedDiffSlot CapturedDiffDescriptor) (id : DiffId) : Prop :=
  ∃ slot descriptor, current.get? slot = some descriptor ∧ descriptor.id = id

theorem refers_iff {current : IndexMap CapturedDiffSlot CapturedDiffDescriptor} {id : DiffId} :
    refers current id = true ↔ Referenced current id := by
  simp only [refers, List.any_eq_true, decide_eq_true_eq, IndexMap.mem_values_iff]
  constructor
  · rintro ⟨descriptor, ⟨slot, found⟩, same⟩
    exact ⟨slot, descriptor, found, same⟩
  · rintro ⟨slot, descriptor, found, same⟩
    exact ⟨descriptor, ⟨slot, found⟩, same⟩

/-- The three maps agree. -/
structure Consistent (state : ActiveCapturedDiffs) : Prop where
  contents_keys : ∀ id, id ∈ state.contents.keys ↔ Referenced state.currentBySlot id
  content_id : ∀ id record, state.contents.get? id = some record → record.id = id
  redirect_slot : ∀ id id' redirect redirect', state.superseded.get? id = some redirect →
    state.superseded.get? id' = some redirect' → redirect.slot = redirect'.slot → id = id'
  redirect_current : ∀ id redirect, state.superseded.get? id = some redirect →
    state.currentBySlot.get? redirect.slot = some redirect.current

/-- What may be installed: descriptors are determined by slot and identity, and a body is
recorded under the identity of its descriptor. -/
structure Coherent (captures : List Capture) : Prop where
  descriptor_eq : ∀ c ∈ captures, ∀ c' ∈ captures, c.slot = c'.slot →
    c.descriptor.id = c'.descriptor.id → c.descriptor = c'.descriptor
  record_id : ∀ c ∈ captures, c.record.id = c.descriptor.id

/-- The maps agree, and every slot has a descriptor that was captured for it. -/
structure Holds (captures : List Capture) (state : ActiveCapturedDiffs) : Prop
    extends Consistent state where
  captured : ∀ slot descriptor, state.currentBySlot.get? slot = some descriptor →
    ∃ c ∈ captures, c.slot = slot ∧ c.descriptor = descriptor

theorem empty_holds (captures : List Capture) : Holds captures empty where
  contents_keys := by simp [empty, Referenced]
  content_id := by simp [empty]
  redirect_slot := by simp [empty]
  redirect_current := by simp [empty]
  captured := by simp [empty]

/-! ## One slot at a time -/

section Steps

variable {captures : List Capture} {state : ActiveCapturedDiffs}

theorem mem_keys_release {contents : IndexMap DiffId CapturedDiffRecord} {old id : DiffId}
    {current : IndexMap CapturedDiffSlot CapturedDiffDescriptor} :
    id ∈ (if refers current old then contents else contents.shiftRemove old).keys ↔
      id ∈ contents.keys ∧ (id = old → Referenced current id) := by
  split
  · next refers =>
    rw [refers_iff] at refers
    constructor
    · intro member
      exact ⟨member, fun same => same ▸ refers⟩
    · exact And.left
  · next unreferenced =>
    rw [refers_iff] at unreferenced
    rw [IndexMap.mem_keys_shiftRemove]
    constructor
    · rintro ⟨member, other⟩
      exact ⟨member, fun same => absurd same other⟩
    · rintro ⟨member, kept⟩
      refine ⟨member, ?_⟩
      rintro rfl
      exact unreferenced (kept rfl)

theorem get?_release {contents : IndexMap DiffId CapturedDiffRecord} {old id : DiffId}
    {keep : Bool} {record : CapturedDiffRecord}
    (found : (if keep then contents else contents.shiftRemove old).get? id = some record) :
    contents.get? id = some record := by
  split at found
  · exact found
  · rw [IndexMap.get?_shiftRemove] at found
    split at found
    · cases found
    · exact found

theorem get?_retain_slot {superseded : IndexMap DiffId SupersededCapturedDiff} {id : DiffId}
    {slot : CapturedDiffSlot} {redirect : SupersededCapturedDiff}
    (found : (superseded.retain fun _ redirect => redirect.slot ≠ slot).get? id =
      some redirect) :
    superseded.get? id = some redirect ∧ redirect.slot ≠ slot := by
  rw [IndexMap.get?_retain, Option.filter_eq_some_iff] at found
  exact ⟨found.1, by simpa using found.2⟩

theorem referenced_insert {current : IndexMap CapturedDiffSlot CapturedDiffDescriptor}
    {slot : CapturedDiffSlot} {descriptor : CapturedDiffDescriptor} {id : DiffId} :
    Referenced (current.insert slot descriptor) id ↔ descriptor.id = id ∨
      ∃ other held, other ≠ slot ∧ current.get? other = some held ∧ held.id = id := by
  constructor
  · rintro ⟨other, held, found, same⟩
    rw [IndexMap.get?_insert] at found
    split at found
    · cases found
      exact .inl same
    · next different => exact .inr ⟨other, held, different, found, same⟩
  · rintro (same | ⟨other, held, different, found, same⟩)
    · exact ⟨slot, descriptor, IndexMap.get?_insert_self _ _ _, same⟩
    · exact ⟨other, held, (IndexMap.get?_insert_of_ne _ different _).trans found, same⟩

theorem insert_captured {c : Capture} (member : c ∈ captures) (holds : Holds captures state) :
    ∀ slot descriptor,
      (state.currentBySlot.insert c.slot c.descriptor).get? slot = some descriptor →
        ∃ c ∈ captures, c.slot = slot ∧ c.descriptor = descriptor := by
  intro slot descriptor found
  rw [IndexMap.get?_insert] at found
  split at found
  · next same =>
    cases found
    exact ⟨c, member, same.symm, rfl⟩
  · exact holds.captured slot descriptor found

theorem insert_content_id {contents : IndexMap DiffId CapturedDiffRecord}
    (filed : ∀ id record, contents.get? id = some record → record.id = id)
    (new : CapturedDiffRecord) :
    ∀ id record, (contents.insert new.id new).get? id = some record → record.id = id := by
  intro id record found
  rw [IndexMap.get?_insert] at found
  split at found
  · next same =>
    cases found
    exact same.symm
  · exact filed id record found

/-- A body for a slot that is free, or has the same descriptor already. -/
theorem keep_holds (holds : Holds captures state) {c : Capture} (member : c ∈ captures)
    (recorded : c.record.id = c.descriptor.id)
    (same : ∀ previous, state.currentBySlot.get? c.slot = some previous →
      previous = c.descriptor) :
    Holds captures
      { contents := state.contents.insert c.record.id c.record
        currentBySlot := state.currentBySlot.insert c.slot c.descriptor
        superseded := state.superseded } := by
  refine ⟨⟨?_, insert_content_id holds.content_id c.record, holds.redirect_slot, ?_⟩,
    insert_captured member holds⟩
  · intro id
    rw [IndexMap.mem_keys_insert, holds.contents_keys, referenced_insert, recorded]
    constructor
    · rintro (rfl | ⟨slot, held, found, rfl⟩)
      · exact .inl rfl
      · by_cases here : slot = c.slot
        · subst here
          exact .inl (congrArg CapturedDiffDescriptor.id (same held found)).symm
        · exact .inr ⟨slot, held, here, found, rfl⟩
    · rintro (same | ⟨slot, held, -, found, same⟩)
      · exact .inl same.symm
      · exact .inr ⟨slot, held, found, same⟩
  · intro id redirect found
    have current := holds.redirect_current id redirect found
    rw [IndexMap.get?_insert]
    split
    · next here =>
      rw [here] at current
      rw [same _ current]
    · exact current

/-- A body for a slot that had another one: the old one is released and redirected. -/
theorem replace_holds (holds : Holds captures state) {c : Capture} (member : c ∈ captures)
    (recorded : c.record.id = c.descriptor.id) {previous : CapturedDiffDescriptor}
    (before : state.currentBySlot.get? c.slot = some previous) :
    Holds captures
      { contents :=
          (if refers (state.currentBySlot.insert c.slot c.descriptor) previous.id then
            state.contents
          else state.contents.shiftRemove previous.id).insert c.record.id c.record
        currentBySlot := state.currentBySlot.insert c.slot c.descriptor
        superseded := (state.superseded.retain fun _ redirect => redirect.slot ≠ c.slot).insert
          previous.id ⟨c.slot, c.descriptor⟩ } := by
  refine ⟨⟨?_, insert_content_id ?_ c.record, ?_, ?_⟩, insert_captured member holds⟩
  · intro id
    rw [IndexMap.mem_keys_insert, mem_keys_release, holds.contents_keys, referenced_insert,
      recorded]
    constructor
    · rintro (rfl | ⟨⟨slot, held, found, rfl⟩, kept⟩)
      · exact .inl rfl
      · by_cases here : slot = c.slot
        · subst here
          rw [before, Option.some.injEq] at found
          rw [← found] at kept ⊢
          exact kept rfl
        · exact .inr ⟨slot, held, here, found, rfl⟩
    · rintro (same | ⟨slot, held, here, found, same⟩)
      · exact .inl same.symm
      · exact .inr ⟨⟨slot, held, found, same⟩, fun _ => .inr ⟨slot, held, here, found, same⟩⟩
  · intro id record found
    exact holds.content_id id record (get?_release found)
  · intro id id' redirect redirect' found found' same
    rw [IndexMap.get?_insert] at found found'
    split at found <;> split at found'
    · next here here' => rw [here, here']
    · cases found
      exact absurd same.symm (get?_retain_slot found').2
    · cases found'
      exact absurd same (get?_retain_slot found).2
    · exact holds.redirect_slot id id' redirect redirect' (get?_retain_slot found).1
        (get?_retain_slot found').1 same
  · intro id redirect found
    rw [IndexMap.get?_insert] at found
    split at found
    · cases found
      exact IndexMap.get?_insert_self _ _ _
    · obtain ⟨old, other⟩ := get?_retain_slot found
      exact (IndexMap.get?_insert_of_ne _ other _).trans (holds.redirect_current id redirect old)

theorem installCapturedDiff_holds (coherent : Coherent captures) (holds : Holds captures state)
    {c : Capture} (member : c ∈ captures) :
    Holds captures (state.installCapturedDiff c) := by
  have recorded := coherent.record_id c member
  unfold installCapturedDiff
  cases before : state.currentBySlot.get? c.slot with
  | none =>
    apply keep_holds holds member recorded
    intro previous found
    rw [before] at found
    cases found
  | some previous =>
    dsimp only
    split
    · next same =>
      apply keep_holds holds member recorded
      intro held found
      rw [before, Option.some.injEq] at found
      subst found
      obtain ⟨c', member', slot, rfl⟩ := holds.captured c.slot previous before
      exact coherent.descriptor_eq c' member' c member slot same
    · exact replace_holds holds member recorded before

theorem omitSlot_holds (holds : Holds captures state) (slot : CapturedDiffSlot) :
    Holds captures (state.omitSlot slot) := by
  have current : ∀ other descriptor,
      (state.currentBySlot.shiftRemove slot).get? other = some descriptor ↔
        other ≠ slot ∧ state.currentBySlot.get? other = some descriptor := by
    intro other descriptor
    rw [IndexMap.get?_shiftRemove]
    split
    · next same => simp [same]
    · next different => simp [different]
  refine ⟨⟨?_, ?_, ?_, ?_⟩, ?_⟩
  · intro id
    unfold omitSlot
    cases before : state.currentBySlot.get? slot with
    | none =>
      dsimp only
      rw [holds.contents_keys]
      constructor
      · rintro ⟨other, held, found, same⟩
        refine ⟨other, held, (current other held).2 ⟨?_, found⟩, same⟩
        rintro rfl
        rw [before] at found
        cases found
      · rintro ⟨other, held, found, same⟩
        exact ⟨other, held, ((current other held).1 found).2, same⟩
    | some previous =>
      dsimp only
      rw [mem_keys_release, holds.contents_keys]
      constructor
      · rintro ⟨⟨other, held, found, rfl⟩, kept⟩
        by_cases here : other = slot
        · subst here
          rw [before, Option.some.injEq] at found
          exact kept (by rw [found])
        · exact ⟨other, held, (current other held).2 ⟨here, found⟩, rfl⟩
      · intro referenced
        refine ⟨?_, fun _ => referenced⟩
        obtain ⟨other, held, found, same⟩ := referenced
        exact ⟨other, held, ((current other held).1 found).2, same⟩
  · intro id record found
    unfold omitSlot at found
    dsimp only at found
    split at found
    · exact holds.content_id id record found
    · exact holds.content_id id record (get?_release found)
  · intro id id' redirect redirect' found found'
    exact holds.redirect_slot id id' redirect redirect' (get?_retain_slot found).1
      (get?_retain_slot found').1
  · intro id redirect found
    obtain ⟨old, other⟩ := get?_retain_slot found
    exact (current _ _).2 ⟨other, holds.redirect_current id redirect old⟩
  · intro other descriptor found
    exact holds.captured other descriptor ((current _ _).1 found).2

theorem reconcileItemCapturedDiffs_holds (coherent : Coherent captures)
    (holds : Holds captures state) (itemId : ItemId) {new : List Capture}
    (subset : new ⊆ captures) :
    Holds captures (state.reconcileItemCapturedDiffs itemId new) := by
  have retired (omitted : List CapturedDiffSlot) : Holds captures (omitted.foldl omitSlot state) :=
    List.foldlRecOn omitted omitSlot holds fun _ holds slot _ => omitSlot_holds holds slot
  unfold reconcileItemCapturedDiffs
  exact List.foldlRecOn new installCapturedDiff (retired _) fun _ holds c member =>
    installCapturedDiff_holds coherent holds (subset member)

end Steps

end ActiveCapturedDiffs

/-! ## The bodies of a run -/

/-- A diff body with what its identity is made from. -/
structure DiffBody where
  path : String
  change : FileChangeKind
  content : CapturedDiffContent
  deriving DecidableEq

def DiffBody.id (crates : Crates) (body : DiffBody) : DiffId :=
  capturedDiffId crates body.path body.change body.content

/-- The body of one change of an item. -/
def FileChangeEntry.body (entry : FileChangeEntry) : Option DiffBody :=
  entry.diff.map fun text => ⟨entry.path, entry.change, .unified text⟩

def FileDiff.body (diff : FileDiff) : DiffBody :=
  ⟨diff.path, diff.change, .structured { diff with captured := none }⟩

/-- The bodies that an event brings for a turn. -/
def bodiesOf (turn : TurnId) : AgentEvent → List DiffBody
  | .itemCompleted _ owner item =>
    if owner = turn then
      match item.payload with
      | .fileChange _ _ changes _ => changes.filterMap FileChangeEntry.body
      | _ => []
    else []
  | .diffUpdated _ owner diff => if owner = turn then [diff.body] else []
  | _ => []

/-- Different bodies have different identities. -/
def CollisionFree (crates : Crates) (bodies : List DiffBody) : Prop :=
  ∀ b ∈ bodies, ∀ b' ∈ bodies, b.id crates = b'.id crates → b = b'

/-- How a body is filed in a slot. -/
inductive Files (crates : Crates) : DiffBody → Capture → Prop
  | item (itemId : ItemId) (path : String) (change : FileChangeKind) (text : String)
      (occurrence : ℕ) : Files crates ⟨path, change, .unified text⟩
        ⟨.item itemId (pathComponents path) occurrence,
          (captureUnifiedDiff crates path change (some itemId) text).1,
          (captureUnifiedDiff crates path change (some itemId) text).2⟩
  | turn (diff : FileDiff) (descriptor : CapturedDiffDescriptor)
      (projected : (captureStructuredDiff crates diff).1.captured = some descriptor) :
      Files crates diff.body
        ⟨.turn (pathComponents descriptor.path), descriptor, (captureStructuredDiff crates diff).2⟩

/-- The bodies that an event brings for a turn, with their slots. -/
def capturesOf (crates : Crates) (turn : TurnId) : AgentEvent → List Capture
  | .itemCompleted _ owner item =>
    if owner = turn then (CapturedDiffState.captureItem crates item).2 else []
  | .diffUpdated _ owner diff =>
    if owner = turn then
      match (captureStructuredDiff crates diff).1.captured with
      | some descriptor =>
        [⟨.turn (pathComponents descriptor.path), descriptor, (captureStructuredDiff crates diff).2⟩]
      | none => []
    else []
  | _ => []

section Filing

variable {crates : Crates}

theorem captureStructuredDiff_captured (diff : FileDiff) {descriptor : CapturedDiffDescriptor}
    (projected : (captureStructuredDiff crates diff).1.captured = some descriptor) :
    descriptor.id = diff.body.id crates ∧
      (captureStructuredDiff crates diff).2.id = diff.body.id crates := by
  rw [← Option.some.inj projected]
  exact ⟨rfl, rfl⟩

theorem captureStructuredDiff_congr {diff diff' : FileDiff} (same : diff.body = diff'.body) :
    captureStructuredDiff crates diff = captureStructuredDiff crates diff' := by
  injection same with _ _ same
  injection same with same
  change captureStructuredDiff crates { diff with captured := none } =
    captureStructuredDiff crates { diff' with captured := none }
  rw [same]

theorem files_id {body : DiffBody} {c : Capture} (files : Files crates body c) :
    c.descriptor.id = body.id crates ∧ c.record.id = body.id crates := by
  cases files with
  | item itemId path change text occurrence => exact ⟨rfl, rfl⟩
  | turn diff descriptor projected => exact captureStructuredDiff_captured diff projected

/-- Without collisions a slot and an identity determine the descriptor. -/
theorem coherent_of_collisionFree {bodies : List DiffBody} {captures : List Capture}
    (free : CollisionFree crates bodies)
    (filed : ∀ c ∈ captures, ∃ body ∈ bodies, Files crates body c) :
    ActiveCapturedDiffs.Coherent captures := by
  refine ⟨?_, ?_⟩
  · intro c member c' member' slot id
    obtain ⟨body, present, files⟩ := filed c member
    obtain ⟨body', present', files'⟩ := filed c' member'
    rw [(files_id files).1, (files_id files').1] at id
    have same := free body present body' present' id
    cases files with
    | item itemId path change text occurrence =>
      cases files' with
      | item itemId' path' change' text' occurrence' =>
        cases same
        cases slot
        rfl
      | turn diff descriptor projected => cases slot
    | turn diff descriptor projected =>
      cases files' with
      | item itemId' path' change' text' occurrence' => cases slot
      | turn diff' descriptor' projected' =>
        rw [captureStructuredDiff_congr same, projected'] at projected
        exact (Option.some.inj projected).symm
  · intro c member
    obtain ⟨body, -, files⟩ := filed c member
    rw [(files_id files).1, (files_id files).2]

theorem captureChanges_files (itemId : ItemId) (changes : List FileChangeEntry)
    (seen : List PathComponents) :
    ∀ c ∈ (CapturedDiffState.captureChanges crates itemId seen changes).2,
      ∃ body ∈ changes.filterMap FileChangeEntry.body, Files crates body c := by
  induction changes generalizing seen with
  | nil =>
    intro c member
    cases member
  | cons change changes ih =>
    intro c member
    cases diff : change.diff with
    | none =>
      simp only [CapturedDiffState.captureChanges, diff] at member
      obtain ⟨body, present, files⟩ := ih _ c member
      refine ⟨body, ?_, files⟩
      rwa [List.filterMap_cons, FileChangeEntry.body, diff]
    | some text =>
      have bodies : (change :: changes).filterMap FileChangeEntry.body =
          ⟨change.path, change.change, .unified text⟩ ::
            changes.filterMap FileChangeEntry.body := by
        simp [FileChangeEntry.body, diff]
      simp only [CapturedDiffState.captureChanges, diff, List.mem_cons] at member
      rw [bodies]
      rcases member with rfl | member
      · exact ⟨_, List.mem_cons_self, .item itemId change.path change.change text _⟩
      · obtain ⟨body, present, files⟩ := ih _ c member
        exact ⟨body, List.mem_cons_of_mem _ present, files⟩

theorem capturesOf_files (turn : TurnId) (event : AgentEvent) :
    ∀ c ∈ capturesOf crates turn event, ∃ body ∈ bodiesOf turn event, Files crates body c := by
  intro c member
  cases event with
  | itemCompleted thread owner item =>
    simp only [capturesOf, bodiesOf] at member ⊢
    split at member
    · next same =>
      rw [if_pos same]
      unfold CapturedDiffState.captureItem at member
      cases payload : item.payload with
      | fileChange path change changes status =>
        rw [payload] at member
        exact captureChanges_files item.id changes [] c member
      | _ =>
        rw [payload] at member
        cases member
    · cases member
  | diffUpdated thread owner diff =>
    simp only [capturesOf, bodiesOf] at member ⊢
    split at member
    · next same =>
      rw [if_pos same]
      split at member
      · next descriptor projected =>
        rw [List.mem_singleton] at member
        exact ⟨_, List.mem_singleton_self _, member ▸ .turn diff descriptor projected⟩
      · cases member
    · cases member
  | _ => cases member

end Filing

/-! ## Runs -/

namespace CapturedDiffState

variable {crates : Crates}

/-- The invariant of the bodies kept for a turn. -/
def TurnHolds (captures : List Capture) (turn : TurnId) (state : CapturedDiffState) : Prop :=
  ∀ active, state.turns turn = some active → active.Holds captures

theorem turnOrDefault_holds {captures : List Capture} {turn : TurnId} {state : CapturedDiffState}
    (holds : TurnHolds captures turn state) : (state.turnOrDefault turn).Holds captures := by
  unfold turnOrDefault
  cases found : state.turns turn with
  | none => exact ActiveCapturedDiffs.empty_holds captures
  | some active => exact holds active found

theorem setTurn_holds {captures : List Capture} {turn owner : TurnId} {state : CapturedDiffState}
    (holds : TurnHolds captures turn state) {active : ActiveCapturedDiffs}
    (new : owner = turn → active.Holds captures) :
    TurnHolds captures turn (state.setTurn owner active) := by
  intro found stored
  by_cases same : owner = turn
  · subst same
    rw [setTurn] at stored
    dsimp only at stored
    rw [Function.update_self, Option.some.injEq] at stored
    exact stored ▸ new rfl
  · rw [setTurn] at stored
    dsimp only at stored
    rw [Function.update_of_ne (Ne.symm same)] at stored
    exact holds found stored

/-- One captured event keeps the maps of every turn aligned. -/
theorem capture_holds {captures : List Capture} {turn : TurnId} {state : CapturedDiffState}
    (coherent : ActiveCapturedDiffs.Coherent captures) (event : AgentEvent)
    (subset : capturesOf crates turn event ⊆ captures) (holds : TurnHolds captures turn state) :
    TurnHolds captures turn (state.capture crates event).1 := by
  cases event with
  | itemCompleted thread owner item =>
    apply setTurn_holds holds
    rintro rfl
    rw [capturesOf, if_pos rfl] at subset
    exact ActiveCapturedDiffs.reconcileItemCapturedDiffs_holds coherent
      (turnOrDefault_holds holds) item.id subset
  | diffUpdated thread owner diff =>
    have next : (state.capture crates (.diffUpdated thread owner diff)).1 =
        (captureStructuredDiff crates diff).1.captured.elim state fun descriptor =>
          state.setTurn owner ((state.turnOrDefault owner).installCapturedDiff
            ⟨.turn (pathComponents descriptor.path), descriptor,
              (captureStructuredDiff crates diff).2⟩) := by
      unfold capture
      dsimp only
      cases (captureStructuredDiff crates diff).1.captured <;> rfl
    rw [capturesOf] at subset
    rw [next]
    cases projected : (captureStructuredDiff crates diff).1.captured with
    | none => exact holds
    | some descriptor =>
      rw [projected] at subset
      apply setTurn_holds holds
      rintro rfl
      rw [if_pos rfl] at subset
      exact ActiveCapturedDiffs.installCapturedDiff_holds coherent (turnOrDefault_holds holds)
        (subset (List.mem_singleton_self _))
  | _ => exact holds

theorem captureAll_holds (turn : TurnId) (events : List AgentEvent)
    (free : CollisionFree crates (events.flatMap (bodiesOf turn))) :
    TurnHolds (events.flatMap (capturesOf crates turn)) turn (captureAll crates events) := by
  have coherent : ActiveCapturedDiffs.Coherent (events.flatMap (capturesOf crates turn)) := by
    apply coherent_of_collisionFree free
    intro c member
    obtain ⟨event, present, filed⟩ := List.mem_flatMap.1 member
    obtain ⟨body, brought, files⟩ := capturesOf_files turn event c filed
    exact ⟨body, List.mem_flatMap.2 ⟨event, present, brought⟩, files⟩
  unfold captureAll
  refine List.foldlRecOn events _ ?_ ?_
  · intro active found
    cases found
  · intro state holds event member
    exact capture_holds coherent event
      (fun c filed => List.mem_flatMap.2 ⟨event, member, filed⟩) holds

section Answers

variable {state : CapturedDiffState} {turn : TurnId}

theorem lookup_superseded {id : DiffId} {descriptor : CapturedDiffDescriptor}
    (consistent : (state.turnOrDefault turn).Consistent)
    (answer : state.lookup turn id = .superseded descriptor) :
    ∃ record, state.lookup turn descriptor.id = .found record ∧ record.id = descriptor.id := by
  unfold lookup at answer ⊢
  unfold turnOrDefault at consistent
  cases found : state.turns turn with
  | none =>
    rw [found] at answer
    cases answer
  | some active =>
    rw [found] at answer consistent
    dsimp only [Option.getD_some] at answer consistent ⊢
    split at answer
    · cases answer
    · split at answer
      · next redirect redirected =>
        cases answer
        have current := consistent.redirect_current id redirect redirected
        have kept := (consistent.contents_keys redirect.current.id).2 ⟨_, _, current, rfl⟩
        obtain ⟨record, content⟩ := IndexMap.mem_keys_iff.1 kept
        refine ⟨record, ?_, consistent.content_id _ _ content⟩
        rw [content]
      · cases answer

theorem records_ids (consistent : (state.turnOrDefault turn).Consistent) :
    (state.records turn).map CapturedDiffRecord.id =
      (state.turnOrDefault turn).contents.keys := by
  have filed : (state.records turn) = (state.turnOrDefault turn).contents.values := by
    unfold records turnOrDefault
    cases state.turns turn with
    | none => rfl
    | some active => rfl
  rw [filed, IndexMap.values, IndexMap.keys, List.map_map]
  apply List.map_congr_left
  rintro ⟨id, record⟩ member
  exact consistent.content_id id record (IndexMap.get?_eq_some.2 member)

end Answers

/-- While a turn's events are captured, the bodies kept for it are exactly those its slots refer
to; each slot has at most one redirect and that one points at the slot's descriptor. So a
superseded identity leads to a body that is there, and the turn's records have one body for each
identity in a slot. -/
theorem captured_diffs_consistent (crates : Crates) (turn : TurnId) (events : List AgentEvent)
    (free : CollisionFree crates (events.flatMap (bodiesOf turn))) :
    let state := captureAll crates events
    let active := state.turnOrDefault turn
    (∀ id, id ∈ active.contents.keys ↔
      ∃ descriptor ∈ active.currentBySlot.values, descriptor.id = id) ∧
    (∀ id id' redirect redirect', active.superseded.get? id = some redirect →
      active.superseded.get? id' = some redirect' → redirect.slot = redirect'.slot → id = id') ∧
    (∀ id redirect, active.superseded.get? id = some redirect →
      active.currentBySlot.get? redirect.slot = some redirect.current) ∧
    (∀ id descriptor, state.lookup turn id = .superseded descriptor →
      ∃ record, state.lookup turn descriptor.id = .found record ∧ record.id = descriptor.id) ∧
    ((state.records turn).map CapturedDiffRecord.id).Nodup ∧
    (∀ id, id ∈ (state.records turn).map CapturedDiffRecord.id ↔
      ∃ descriptor ∈ active.currentBySlot.values, descriptor.id = id) := by
  intro state active
  have consistent : active.Consistent :=
    (turnOrDefault_holds (captureAll_holds turn events free)).toConsistent
  have referenced (id : DiffId) : ActiveCapturedDiffs.Referenced active.currentBySlot id ↔
      ∃ descriptor ∈ active.currentBySlot.values, descriptor.id = id := by
    rw [← ActiveCapturedDiffs.refers_iff]
    simp [ActiveCapturedDiffs.refers]
  have keys (id : DiffId) : id ∈ active.contents.keys ↔
      ∃ descriptor ∈ active.currentBySlot.values, descriptor.id = id :=
    (consistent.contents_keys id).trans (referenced id)
  refine ⟨keys, consistent.redirect_slot, consistent.redirect_current, ?_, ?_, ?_⟩
  · intro id descriptor answer
    exact lookup_superseded consistent answer
  · rw [records_ids consistent]
    exact active.contents.nodup
  · intro id
    rw [records_ids consistent]
    exact keys id

/-- The new text of a file, as a diff of a turn. -/
def sampleDiff (text : String) : FileDiff :=
  ⟨"a", .modified, none, some text, [], false, none⟩

/-- The digests of the bodies of the sample diffs with texts x and y. -/
noncomputable def sampleDigests : Crates :=
  { Crates.reference with
    sha256Hex := fun bytes =>
      if bytes = utf8
          "\x7b\"path\":\"a\",\"change\":\"modified\",\"content\":\x7b\"kind\":\"structured\",\"diff\":\x7b\"path\":\"a\",\"change\":\"modified\",\"new_text\":\"x\",\"hunks\":[],\"binary\":false\x7d\x7d\x7d".toList then
        "816cfa3cd50ab8e85dc18684977615b0e1328fd0025e621f72801346b871811f"
      else if bytes = utf8
          "\x7b\"path\":\"a\",\"change\":\"modified\",\"content\":\x7b\"kind\":\"structured\",\"diff\":\x7b\"path\":\"a\",\"change\":\"modified\",\"new_text\":\"y\",\"hunks\":[],\"binary\":false\x7d\x7d\x7d".toList then
        "2b0ce253dd227cf5b20824f8fbd651cf02ad4e20975d5530083f07b63ff86f5f"
      else "" }

/-- A diff that is replaced and comes back. -/
def sampleDiffEvents : List AgentEvent :=
  [.diffUpdated ⟨⟨1⟩⟩ ⟨⟨2⟩⟩ (sampleDiff "x"), .diffUpdated ⟨⟨1⟩⟩ ⟨⟨2⟩⟩ (sampleDiff "y"),
    .diffUpdated ⟨⟨1⟩⟩ ⟨⟨2⟩⟩ (sampleDiff "x")]

theorem captured_diffs_consistent_sample :
    CollisionFree sampleDigests (sampleDiffEvents.flatMap (bodiesOf ⟨⟨2⟩⟩)) ∧
    ∀ id descriptor,
      (captureAll sampleDigests sampleDiffEvents).lookup ⟨⟨2⟩⟩ id = .superseded descriptor →
      ∃ record, (captureAll sampleDigests sampleDiffEvents).lookup ⟨⟨2⟩⟩ descriptor.id =
        .found record ∧ record.id = descriptor.id := by
  have free : CollisionFree sampleDigests (sampleDiffEvents.flatMap (bodiesOf ⟨⟨2⟩⟩)) := by
    unfold CollisionFree
    decide +kernel
  exact ⟨free, (captured_diffs_consistent sampleDigests ⟨⟨2⟩⟩ sampleDiffEvents free).2.2.2.1⟩

end CapturedDiffState

end Giskard
