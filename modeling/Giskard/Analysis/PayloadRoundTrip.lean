import Mathlib
import Giskard.Analysis.CapturedDiffSlots
import Giskard.Analysis.PayloadFile

/-!
# The round trip of a payload file

A turn is written with its diff bodies inline and read with them taken out. What comes back is the
turn without the bytes of its attachments, with a descriptor for every body; a descriptor that the
turn had comes back as it was when the record under its identity has the body it describes.

SOURCE: crates/giskard-persist/src/history.rs, crates/giskard-core/src/diff.rs.
-/

set_option autoImplicit false

namespace Giskard

open Foundation Json

/-! ## What comes back -/

/-- A change with its descriptor: the one it has, or the one of its text. -/
def FileChangeEntry.settled (crates : Crates) (itemId : ItemId) (change : FileChangeEntry) :
    FileChangeEntry :=
  match change.capturedDiff with
  | some _ => { change with diff := none }
  | none => (change.takeBody crates itemId).1

def Item.settled (crates : Crates) (item : Item) : Item :=
  match item.payload with
  | .fileChange path change changes status =>
    { item with
      payload := .fileChange path change (changes.map (FileChangeEntry.settled crates item.id))
        status }
  | _ => item

/-- A diff without its body. -/
def FileDiff.withoutBody (diff : FileDiff) : FileDiff :=
  { diff with oldText := none, newText := none, hunks := [] }

def FileDiff.settled (crates : Crates) (diff : FileDiff) : FileDiff :=
  match diff.captured with
  | some _ => diff.withoutBody
  | none => (captureStructuredDiff crates diff).1

/-- The turn that is read back. -/
def Turn.settled (crates : Crates) (turn : Turn) : Turn :=
  { turn with
    userInput := turn.userInput.withoutAttachmentData
    items := turn.items.map (Item.settled crates)
    diffs := turn.diffs.map (FileDiff.settled crates) }

/-- The descriptors of a turn. -/
def Turn.descriptors (turn : Turn) : List CapturedDiffDescriptor :=
  turn.items.flatMap Item.descriptors ++ turn.diffs.filterMap FileDiff.captured

/-- The changes of an item. -/
def Item.changes (item : Item) : List FileChangeEntry :=
  match item.payload with
  | .fileChange _ _ changes _ => changes
  | _ => []

/-- The bodies of a turn that has them inline. -/
def Turn.bodies (turn : Turn) : List DiffBody :=
  turn.items.flatMap (fun item => item.changes.filterMap FileChangeEntry.body) ++
    turn.diffs.map FileDiff.body

/-- The captured records have, under the identity of each descriptor, the body it describes. -/
structure Covers (crates : Crates) (captured : List CapturedDiffRecord) (turn : Turn) : Prop where
  changes : ∀ item ∈ turn.items, ∀ entry ∈ item.changes, ∀ descriptor,
    entry.capturedDiff = some descriptor → ∃ text,
      capturedContent captured descriptor.id = some (.unified text) ∧
      (captureUnifiedDiff crates entry.path entry.change (some item.id) text).1 = descriptor
  diffs : ∀ diff ∈ turn.diffs, ∀ descriptor, diff.captured = some descriptor → ∃ content,
    capturedContent captured descriptor.id = some (.structured content) ∧
    content.captured = none ∧ (captureStructuredDiff crates content).1 = diff.withoutBody

/-! ## Inlining -/

theorem mapM_ok {α β : Type} {f : α → Except PersistError β} {related : α → β → Prop}
    {values : List α} (all : ∀ value ∈ values, ∃ result, f value = .ok result ∧ related value result) :
    ∃ results, values.mapM f = .ok results ∧ List.Forall₂ related values results := by
  induction values with
  | nil => exact ⟨[], rfl, .nil⟩
  | cons value values ih =>
    obtain ⟨result, here, holds⟩ := all value List.mem_cons_self
    obtain ⟨results, rest, held⟩ := ih fun other member => all other (List.mem_cons_of_mem _ member)
    refine ⟨result :: results, ?_, .cons holds held⟩
    rw [List.mapM_cons, here]
    change ((List.mapM f values) >>= fun results => pure (result :: results)) = _
    rw [rest]
    rfl

section Related

variable {α β γ : Type} {related : α → β → Prop} {values : List α} {results : List β}

theorem forall₂_map_eq (held : List.Forall₂ related values results) {f : α → γ} {g : β → γ}
    (same : ∀ value result, related value result → f value = g result) :
    values.map f = results.map g := by
  induction held with
  | nil => rfl
  | cons here _ ih => rw [List.map_cons, List.map_cons, same _ _ here, ih]

theorem forall₂_forall_mem (held : List.Forall₂ related values results) {p : α → Prop}
    {q : β → Prop} (all : ∀ value ∈ values, p value)
    (carries : ∀ value result, related value result → p value → q result) :
    ∀ result ∈ results, q result := by
  induction held with
  | nil => simp
  | cons here _ ih =>
    rw [List.forall_mem_cons] at all ⊢
    exact ⟨carries _ _ here all.1, ih all.2⟩

end Related

/-- A change with its body inline settles to what the change settles to. -/
structure InlinedChange (crates : Crates) (itemId : ItemId) (change inlined : FileChangeEntry) :
    Prop where
  inline : inlined.capturedDiff = none
  settled : (inlined.takeBody crates itemId).1 = change.settled crates itemId

/-- An item with its bodies inline settles to what the item settles to. -/
structure InlinedItem (crates : Crates) (item inlined : Item) : Prop where
  id : inlined.id = item.id
  inline : inlined.Inline
  settled : (inlined.takeBodies crates).1 = item.settled crates
  valid : validateCommandOutputPayload inlined.payload = validateCommandOutputPayload item.payload
  recorded : item.recorded = item → inlined.recorded = inlined

/-- A diff with its body inline settles to what the diff settles to. -/
structure InlinedDiff (crates : Crates) (diff inlined : FileDiff) : Prop where
  pathKey : inlined.pathKey = diff.pathKey
  inline : inlined.captured = none
  settled : (inlined.takeBody crates).1 = diff.settled crates

section Inlining

variable {crates : Crates} {captured : List CapturedDiffRecord}

theorem inlineChange_ok {itemId : ItemId} {change : FileChangeEntry}
    (covered : ∀ descriptor, change.capturedDiff = some descriptor → ∃ text,
      capturedContent captured descriptor.id = some (.unified text) ∧
      (captureUnifiedDiff crates change.path change.change (some itemId) text).1 = descriptor) :
    ∃ inlined, inlineChange captured change = .ok inlined ∧
      InlinedChange crates itemId change inlined := by
  cases found : change.capturedDiff with
  | none =>
    refine ⟨change, by rw [inlineChange, found], found, ?_⟩
    rw [FileChangeEntry.settled, found]
  | some descriptor =>
    obtain ⟨text, content, described⟩ := covered descriptor found
    refine ⟨{ change with diff := some text, capturedDiff := none },
      by rw [inlineChange, found]; dsimp only; rw [content], rfl, ?_⟩
    rw [FileChangeEntry.settled, found]
    simp only [FileChangeEntry.takeBody, described, ← found]

theorem inlineItem_ok {item : Item}
    (covered : ∀ entry ∈ item.changes, ∀ descriptor,
      entry.capturedDiff = some descriptor → ∃ text,
        capturedContent captured descriptor.id = some (.unified text) ∧
        (captureUnifiedDiff crates entry.path entry.change (some item.id) text).1 = descriptor) :
    ∃ inlined, inlineItem captured item = .ok inlined ∧ InlinedItem crates item inlined := by
  unfold Item.changes at covered
  unfold inlineItem
  cases payload : item.payload with
  | fileChange path change changes status =>
    rw [payload] at covered
    obtain ⟨inlined, result, held⟩ := @mapM_ok _ _ (inlineChange captured)
      (InlinedChange crates item.id) changes
      (fun entry member => inlineChange_ok (covered entry member))
    refine ⟨{ item with payload := .fileChange path change inlined status }, ?_, rfl, ?_, ?_, ?_, ?_⟩
    · dsimp only
      rw [result]
      rfl
    · rw [Item.Inline, Item.descriptors, List.filterMap_eq_nil_iff]
      exact forall₂_forall_mem held (fun _ _ => trivial) fun _ _ here _ => here.inline
    · have same := forall₂_map_eq held fun _ _ here => here.settled.symm
      simp only [Item.takeBodies, Item.settled, payload, List.map_map, same]
      rfl
    · rw [payload]
      rfl
    · exact fun _ => rfl
  | _ =>
    refine ⟨item, rfl, rfl, ?_, ?_, rfl, id⟩
    · simp only [Item.Inline, Item.descriptors, payload]
    · simp only [Item.takeBodies, Item.settled, payload]

theorem inlineDiff_ok {diff : FileDiff}
    (covered : ∀ descriptor, diff.captured = some descriptor → ∃ content,
      capturedContent captured descriptor.id = some (.structured content) ∧
      content.captured = none ∧ (captureStructuredDiff crates content).1 = diff.withoutBody) :
    ∃ inlined, inlineDiff captured diff = .ok inlined ∧ InlinedDiff crates diff inlined := by
  cases found : diff.captured with
  | none =>
    refine ⟨diff, by rw [inlineDiff, found], rfl, found, ?_⟩
    rw [FileDiff.takeBody_captured found, FileDiff.settled, found]
  | some descriptor =>
    obtain ⟨content, body, inline, described⟩ := covered descriptor found
    refine ⟨content, by rw [inlineDiff, found]; dsimp only; rw [body], ?_, inline, ?_⟩
    · have path := congrArg FileDiff.path described
      change content.path = diff.path at path
      rw [FileDiff.pathKey, FileDiff.pathKey, path]
    · rw [FileDiff.takeBody_captured inline, FileDiff.settled, found]
      exact described

theorem turnWithInlineDiffs_eq {turn : Turn} {items : List Item} {diffs : List FileDiff}
    (inlined : turn.items.mapM (inlineItem captured) = .ok items)
    (bodied : turn.diffs.mapM (inlineDiff captured) = .ok diffs) :
    turnWithInlineDiffs turn captured = .ok { turn with items := items, diffs := diffs } := by
  rw [turnWithInlineDiffs, inlined]
  change (turn.diffs.mapM (inlineDiff captured) >>= _) = _
  rw [bodied]
  rfl

end Inlining

/-! ## Bodies -/

theorem captureStructuredDiff_record (crates : Crates) (diff : FileDiff) :
    (captureStructuredDiff crates diff).2 = ⟨diff.body.id crates, diff.body.content⟩ := rfl

theorem takeBody_changes (crates : Crates) (itemId : ItemId) (changes : List FileChangeEntry) :
    (changes.map (FileChangeEntry.takeBody crates itemId)).filterMap Prod.snd =
      (changes.filterMap FileChangeEntry.body).map fun body => ⟨body.id crates, body.content⟩ := by
  induction changes with
  | nil => rfl
  | cons change changes ih =>
    rw [List.map_cons, List.filterMap_cons, List.filterMap_cons, ih]
    cases diff : change.diff with
    | none => simp [FileChangeEntry.takeBody, FileChangeEntry.body, diff]
    | some text =>
      simp only [FileChangeEntry.takeBody, FileChangeEntry.body, diff, Option.map_some,
        List.map_cons]
      rfl

theorem descriptor_changes (crates : Crates) (itemId : ItemId) {changes : List FileChangeEntry}
    (inline : ∀ change ∈ changes, change.capturedDiff = none) :
    ((changes.map fun change => (change.takeBody crates itemId).1).filterMap
        FileChangeEntry.capturedDiff).map CapturedDiffDescriptor.id =
      (changes.filterMap FileChangeEntry.body).map (DiffBody.id crates) := by
  induction changes with
  | nil => rfl
  | cons change changes ih =>
    have here := inline change List.mem_cons_self
    have rest := ih fun other member => inline other (List.mem_cons_of_mem _ member)
    rw [List.map_cons, List.filterMap_cons, List.filterMap_cons]
    cases diff : change.diff with
    | none =>
      simp only [FileChangeEntry.takeBody, FileChangeEntry.body, diff, here, Option.map_none]
      exact rest
    | some text =>
      simp only [FileChangeEntry.takeBody, FileChangeEntry.body, diff, Option.map_some,
        List.map_cons]
      rw [← rest]
      rfl

theorem takeBodies_item (crates : Crates) (item : Item) :
    (item.takeBodies crates).2 =
      (item.changes.filterMap FileChangeEntry.body).map fun body =>
        ⟨body.id crates, body.content⟩ := by
  unfold Item.takeBodies Item.changes
  cases item.payload with
  | fileChange path change changes status => exact takeBody_changes crates item.id changes
  | _ => rfl

theorem descriptors_item (crates : Crates) {item : Item} (inline : item.Inline) :
    (item.takeBodies crates).1.descriptors.map CapturedDiffDescriptor.id =
      (item.changes.filterMap FileChangeEntry.body).map (DiffBody.id crates) := by
  unfold Item.Inline Item.descriptors at inline
  unfold Item.takeBodies Item.changes
  cases payload : item.payload with
  | fileChange path change changes status =>
    rw [payload] at inline
    dsimp only at inline
    rw [List.filterMap_eq_nil_iff] at inline
    have same := descriptor_changes crates item.id inline
    simp only [Item.descriptors, List.map_map]
    exact same
  | _ => simp only [Item.descriptors, payload, List.map_nil, List.filterMap_nil]

theorem bodiesTaken_eq (crates : Crates) {turn : Turn}
    (diffs : ∀ diff ∈ turn.diffs, diff.captured = none) :
    bodiesTaken crates turn.items turn.diffs =
      turn.bodies.map fun body => ⟨body.id crates, body.content⟩ := by
  have structured : (turn.diffs.map (FileDiff.takeBody crates)).filterMap Prod.snd =
      (turn.diffs.map FileDiff.body).map fun body => ⟨body.id crates, body.content⟩ := by
    rw [List.map_map, List.filterMap_map, ← List.filterMap_eq_map]
    apply List.filterMap_congr
    intro diff member
    simp only [Function.comp_apply, FileDiff.takeBody_captured (diffs diff member),
      captureStructuredDiff_record]
  rw [bodiesTaken, Turn.bodies, List.map_append, structured, List.flatMap_map, List.map_flatMap]
  congr 1
  apply List.flatMap_congr
  intro item _
  exact takeBodies_item crates item

theorem get?_bodies {crates : Crates} {bodies : List DiffBody}
    (free : CollisionFree crates bodies) {body : DiffBody} (member : body ∈ bodies) :
    (contentsOf (bodies.map fun body => ⟨body.id crates, body.content⟩)).get? (body.id crates) =
      some body.content := by
  rw [get?_contentsOf, List.find?_map]
  cases found : bodies.find? ((fun record : CapturedDiffRecord =>
      decide (record.id = body.id crates)) ∘ fun body => ⟨body.id crates, body.content⟩) with
  | none =>
    rw [List.find?_eq_none] at found
    exact absurd (by simp) (found body member)
  | some first =>
    have same : first.id crates = body.id crates := by simpa using List.find?_some found
    rw [free first (List.mem_of_find?_eq_some found) body member same]
    rfl

/-! ## The round trip -/

/-- What is read from the file of a turn whose bodies are inline. -/
theorem parseTurnPayload_inline {crates : Crates} {path : String} {turn : Turn}
    (items : (turn.items.map Item.id).Nodup) (diffs : (turn.diffs.map FileDiff.pathKey).Nodup)
    (texts : ∀ value ∈ payloadValues crates turn,
      fromStr jsonDepthLimit value.print = some value)
    (recorded : ∀ item ∈ turn.items, item.recorded = item)
    (valid : ∀ item ∈ turn.items, validateCommandOutputPayload item.payload = .ok ())
    (inline : ∀ item ∈ turn.items, item.Inline)
    (plain : ∀ diff ∈ turn.diffs, diff.captured = none) :
    parseTurnPayload crates path ((payloadValues crates turn).flatMap lineOf) =
      .ok { userInput := turn.userInput.withoutAttachmentData
            status := some turn.status
            items := turn.items.map fun item => (item.takeBodies crates).1
            diffs := turn.diffs.map fun diff => (diff.takeBody crates).1
            diffContents := contentsOf
              (turn.bodies.map fun body => ⟨body.id crates, body.content⟩)
            skippedRecords := 0 } := by
  have legible : ∀ value ∈ payloadValues crates turn, Legible value := fun value member =>
    ⟨payloadValues_object crates turn value member, texts value member⟩
  have recordedItems : turn.items.map Item.recorded = turn.items := by
    rw [List.map_congr_left recorded, List.map_id']
  have sortedItems : sortedByIndex (PayloadFold.ofTurn turn).items = turn.items := by
    rw [PayloadFold.ofTurn, sortedByIndex_zipIdx, recordedItems]
  have sortedDiffs : sortedByIndex (PayloadFold.ofTurn turn).diffs = turn.diffs :=
    sortedByIndex_zipIdx turn.diffs
  have finished := @finishPayload_inline crates path (.ofTurn turn) _ rfl
    (by rw [sortedItems]; exact valid) (by rw [sortedItems]; exact inline)
    (by rw [sortedDiffs]; exact plain)
  rw [parseTurnPayload, lines_lineOf, filter_notBlank legible, foldlM_payloadLine _ _ _ legible,
    foldlM_payloadValues crates path turn items diffs]
  change finishPayload crates path (.ofTurn turn) = _
  rw [finished, takenPayload, sortedItems, sortedDiffs, bodiesTaken_eq crates plain]
  rfl

/-- The payload file of a turn reads back as the turn: without the bytes of attachments, and with
a descriptor for every diff body, which is kept under the descriptor's identity. -/
theorem payload_roundTrip (crates : Crates) (path : String) (turn : Turn)
    (captured : List CapturedDiffRecord) (items : (turn.items.map Item.id).Nodup)
    (diffs : (turn.diffs.map FileDiff.pathKey).Nodup) (covers : Covers crates captured turn)
    (complete : turn.skippedRecords = 0)
    (valid : ∀ item ∈ turn.items, validateCommandOutputPayload item.payload = .ok ())
    (texts : ∀ projected, turnWithInlineDiffs turn captured = .ok projected →
      ∀ value ∈ payloadValues crates projected, fromStr jsonDepthLimit value.print = some value)
    (values : ∀ item ∈ turn.items, Item.fromValue crates (item.toValue crates) = some item) :
    ∃ projected data payload,
      turnWithInlineDiffs turn captured = .ok projected ∧
      payloadFileBytesWithDiffs crates turn captured = .ok (utf8 data) ∧
      parseTurnPayload crates path data = .ok payload ∧
      (TurnRecord.fromTurn turn).intoTurn payload = turn.settled crates ∧
      (turn.settled crates).descriptors.map CapturedDiffDescriptor.id =
        projected.bodies.map (DiffBody.id crates) ∧
      (∀ body ∈ projected.bodies, ∃ content,
        payload.diffContents.get? (body.id crates) = some content) ∧
      (CollisionFree crates projected.bodies → ∀ body ∈ projected.bodies,
        payload.diffContents.get? (body.id crates) = some body.content) := by
  obtain ⟨inlined, inlinedResult, heldItems⟩ := @mapM_ok _ _ (inlineItem captured)
    (InlinedItem crates) turn.items (fun item member => inlineItem_ok (covers.changes item member))
  obtain ⟨bodied, bodiedResult, heldDiffs⟩ := @mapM_ok _ _ (inlineDiff captured)
    (InlinedDiff crates) turn.diffs (fun diff member => inlineDiff_ok (covers.diffs diff member))
  let projected : Turn := { turn with items := inlined, diffs := bodied }
  have projection : turnWithInlineDiffs turn captured = .ok projected :=
    turnWithInlineDiffs_eq inlinedResult bodiedResult
  have recorded : ∀ item ∈ turn.items, item.recorded = item := by
    intro item member
    have read := values item member
    rw [Item.fromValue_toValue, Option.some.injEq] at read
    exact read
  have ids := forall₂_map_eq heldItems fun _ _ here => here.id.symm
  have paths := forall₂_map_eq heldDiffs fun _ _ here => here.pathKey.symm
  have inline : ∀ item ∈ inlined, item.Inline :=
    forall₂_forall_mem heldItems (fun _ _ => trivial) fun _ _ here _ => here.inline
  have plain : ∀ diff ∈ bodied, diff.captured = none :=
    forall₂_forall_mem heldDiffs (fun _ _ => trivial) fun _ _ here _ => here.inline
  have parsed := @parseTurnPayload_inline crates path projected (ids ▸ items) (paths ▸ diffs)
    (texts projected projection)
    (forall₂_forall_mem heldItems recorded fun _ _ here => here.recorded)
    (forall₂_forall_mem heldItems valid fun _ _ here checked => here.valid.trans checked)
    inline plain
  have settledItems := forall₂_map_eq heldItems fun _ _ here => here.settled.symm
  have settledDiffs := forall₂_map_eq heldDiffs fun _ _ here => here.settled.symm
  have described : (turn.settled crates).descriptors.map CapturedDiffDescriptor.id =
      projected.bodies.map (DiffBody.id crates) := by
    rw [Turn.descriptors, Turn.bodies, List.map_append, List.map_append]
    congr 1
    · rw [Turn.settled, settledItems, List.map_flatMap, List.flatMap_map, List.map_flatMap]
      apply List.flatMap_congr
      intro item member
      exact descriptors_item crates (inline item member)
    · rw [Turn.settled, settledDiffs, List.filterMap_map, List.map_map, List.map_filterMap,
        ← List.filterMap_eq_map]
      apply List.filterMap_congr
      intro diff member
      simp only [Function.comp_apply, FileDiff.takeBody_captured (plain diff member)]
      rfl
  refine ⟨projected, (payloadValues crates projected).flatMap lineOf, _, projection, ?_, parsed, ?_,
    described, ?_, fun free body member => get?_bodies free member⟩
  · rw [payloadFileBytesWithDiffs, projection]
    rfl
  · simp only [TurnRecord.intoTurn, TurnRecord.fromTurn, Turn.settled, settledItems, settledDiffs,
      complete, Option.getD_some]
    rfl
  · intro body member
    exact IndexMap.mem_keys_iff.1
      (mem_keys_contentsOf.2 ⟨_, List.mem_map_of_mem member, rfl⟩)

/-! ## Samples -/

/-- A turn without items and diffs, read from a damaged file before. -/
def sampleDamagedTurn : Turn where
  id := ⟨⟨2⟩⟩
  userInput := ⟨"hello", []⟩
  items := []
  model := .unknown
  mode := .known .build
  status := ⟨.completed, none⟩
  usage := ⟨0, 0, 0⟩
  diffs := []
  startedAt := ⟨0, 0⟩
  completedAt := some ⟨0, 0⟩
  skippedRecords := 1

theorem payloadValues_texts {crates : Crates} {turn : Turn}
    (shallow : ∀ value ∈ payloadValues crates turn, value.depth ≤ jsonDepthLimit) :
    ∀ value ∈ payloadValues crates turn, fromStr jsonDepthLimit value.print = some value := by
  intro value member
  obtain ⟨members, rfl⟩ := payloadValues_object crates turn value member
  exact fromStr_print members (shallow _ member)

/-- The count of skipped records is the reader's own: it does not come back. -/
theorem payload_skippedRecords_lost :
    ∃ data payload,
      payloadFileBytesWithDiffs Crates.reference sampleDamagedTurn [] = .ok (utf8 data) ∧
      parseTurnPayload Crates.reference "turn.jsonl" data = .ok payload ∧
      (TurnRecord.fromTurn sampleDamagedTurn).intoTurn payload ≠
        sampleDamagedTurn.settled Crates.reference := by
  have parsed := @parseTurnPayload_inline Crates.reference "turn.jsonl" sampleDamagedTurn
    List.nodup_nil List.nodup_nil
    (payloadValues_texts (by
      intro value member
      simp only [payloadValues, sampleDamagedTurn, List.zipIdx_nil, List.map_nil, List.append_nil,
        List.mem_cons, List.not_mem_nil, or_false] at member
      rcases member with rfl | rfl | rfl <;> decide))
    (by simp [sampleDamagedTurn]) (by simp [sampleDamagedTurn]) (by simp [sampleDamagedTurn])
    (by simp [sampleDamagedTurn])
  refine ⟨_, _, rfl, parsed, ?_⟩
  intro same
  have count := congrArg Turn.skippedRecords same
  exact absurd count (by decide)

/-- A turn with a message and a diff that was captured while it ran. -/
noncomputable def sampleCapturedTurn : Turn where
  id := ⟨⟨2⟩⟩
  userInput := ⟨"hello", []⟩
  items := [⟨⟨⟨3⟩⟩, "item", .agentMessage "done", ⟨0, 0⟩⟩]
  model := .unknown
  mode := .known .build
  status := ⟨.completed, none⟩
  usage := ⟨0, 0, 0⟩
  diffs := [(captureStructuredDiff CapturedDiffState.sampleDigests
    (CapturedDiffState.sampleDiff "x")).1]
  startedAt := ⟨0, 0⟩
  completedAt := some ⟨0, 0⟩
  skippedRecords := 0

noncomputable def sampleCaptured : List CapturedDiffRecord :=
  [(captureStructuredDiff CapturedDiffState.sampleDigests (CapturedDiffState.sampleDiff "x")).2]

theorem capturedContent_singleton (record : CapturedDiffRecord) :
    capturedContent [record] record.id = some record.content := by
  simp [capturedContent]

theorem sampleCaptured_content (descriptor : CapturedDiffDescriptor)
    (found : (captureStructuredDiff CapturedDiffState.sampleDigests
      (CapturedDiffState.sampleDiff "x")).1.captured = some descriptor) :
    capturedContent sampleCaptured descriptor.id =
      some (.structured (CapturedDiffState.sampleDiff "x")) := by
  obtain ⟨same, same'⟩ := captureStructuredDiff_captured (CapturedDiffState.sampleDiff "x") found
  rw [same, ← same', sampleCaptured, capturedContent_singleton]
  rfl

theorem sampleCaptured_covers :
    Covers CapturedDiffState.sampleDigests sampleCaptured sampleCapturedTurn := by
  refine ⟨?_, ?_⟩
  · intro item member entry there
    rw [sampleCapturedTurn, List.mem_singleton] at member
    subst member
    cases there
  · intro diff member descriptor found
    rw [sampleCapturedTurn, List.mem_singleton] at member
    subst member
    exact ⟨CapturedDiffState.sampleDiff "x", sampleCaptured_content descriptor found, rfl, rfl⟩

theorem sampleCaptured_inlined :
    turnWithInlineDiffs sampleCapturedTurn sampleCaptured =
      .ok { sampleCapturedTurn with diffs := [CapturedDiffState.sampleDiff "x"] } := by
  obtain ⟨descriptor, found, -⟩ := captureStructuredDiff_descriptor CapturedDiffState.sampleDigests
    (CapturedDiffState.sampleDiff "x")
  have inlined : inlineDiff sampleCaptured (captureStructuredDiff CapturedDiffState.sampleDigests
      (CapturedDiffState.sampleDiff "x")).1 = .ok (CapturedDiffState.sampleDiff "x") := by
    rw [inlineDiff, found]
    dsimp only
    rw [sampleCaptured_content descriptor found]
  have items : sampleCapturedTurn.items.mapM (inlineItem sampleCaptured) =
      .ok sampleCapturedTurn.items := rfl
  have diffs : sampleCapturedTurn.diffs.mapM (inlineDiff sampleCaptured) =
      .ok [CapturedDiffState.sampleDiff "x"] := by
    rw [sampleCapturedTurn]
    dsimp only
    rw [List.mapM_cons, inlined]
    rfl
  exact turnWithInlineDiffs_eq items diffs

theorem payload_roundTrip_sample :
    ∃ projected data payload,
      turnWithInlineDiffs sampleCapturedTurn sampleCaptured = .ok projected ∧
      payloadFileBytesWithDiffs CapturedDiffState.sampleDigests sampleCapturedTurn
        sampleCaptured = .ok (utf8 data) ∧
      parseTurnPayload CapturedDiffState.sampleDigests "turn.jsonl" data = .ok payload ∧
      (TurnRecord.fromTurn sampleCapturedTurn).intoTurn payload =
        sampleCapturedTurn.settled CapturedDiffState.sampleDigests := by
  obtain ⟨projected, data, payload, projection, bytes, parsed, turn, -⟩ :=
    payload_roundTrip CapturedDiffState.sampleDigests "turn.jsonl" sampleCapturedTurn
      sampleCaptured (List.nodup_singleton _) (List.nodup_singleton _) sampleCaptured_covers rfl
      (by simp [sampleCapturedTurn, validateCommandOutputPayload])
      (by
        intro projected projection
        rw [sampleCaptured_inlined, Except.ok.injEq] at projection
        subst projection
        apply payloadValues_texts
        intro value member
        simp only [payloadValues, sampleCapturedTurn, List.zipIdx_cons, List.zipIdx_nil,
          List.map_cons, List.map_nil, List.mem_append, List.mem_cons, List.not_mem_nil,
          or_false] at member
        rcases member with ((rfl | rfl | rfl) | rfl) | rfl <;> decide)
      (by simp [sampleCapturedTurn, Item.recorded, ItemPayload.recorded])
  exact ⟨projected, data, payload, projection, bytes, parsed, turn⟩

end Giskard
