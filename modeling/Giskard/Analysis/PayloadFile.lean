import Mathlib
import Giskard.Foundation.IndexMap
import Giskard.Model.TurnPayload

/-!
# Payload files

What the reader of a payload file makes of the lines that the writer produces: one lemma for each
kind of record, the fold of a collection, and the bodies that are taken out at the end.

SOURCE: crates/giskard-persist/src/history.rs.
-/

set_option autoImplicit false

namespace Giskard

open Foundation Json

/-! ## Lines -/

/-- A record: an object, which the reader takes back from its text. -/
structure Legible (value : Json) : Prop where
  object : ∃ members, value = .obj members
  read : fromStr jsonDepthLimit value.print = some value

theorem isBlankLine_obj (members : List (String × Json)) :
    isBlankLine (Json.obj members).print = false := by
  have brace : isWhiteSpace '\x7b' = false := by decide
  cases members with
  | nil => simp [Json.print, isBlankLine, brace]
  | cons member members => simp [Json.print, isBlankLine, brace]

theorem Legible.notBlank {value : Json} (legible : Legible value) :
    isBlankLine value.print = false := by
  obtain ⟨members, rfl⟩ := legible.object
  exact isBlankLine_obj members

theorem flatMap_lineOf (values : List Json) :
    values.flatMap lineOf = (values.map Json.print).flatMap (· ++ ['\n']) := by
  rw [List.flatMap_map]
  rfl

theorem lines_lineOf_tail (values : List Json) {tail : List Char} (printable : Printable tail) :
    lines (values.flatMap lineOf ++ tail) =
      values.map Json.print ++ if tail = [] then [] else [tail] := by
  rw [flatMap_lineOf]
  refine lines_closed ?_ printable
  intro line member
  obtain ⟨value, -, rfl⟩ := List.mem_map.1 member
  exact Json.print_printable value

theorem lines_lineOf (values : List Json) : lines (values.flatMap lineOf) = values.map Json.print := by
  have closed := @lines_lineOf_tail values [] (by simp [Printable])
  rwa [List.append_nil, if_pos rfl, List.append_nil] at closed

theorem filter_notBlank {values : List Json} (legible : ∀ value ∈ values, Legible value) :
    ((values.map Json.print).filter fun line => !isBlankLine line) = values.map Json.print := by
  rw [List.filter_eq_self]
  intro line member
  obtain ⟨value, present, rfl⟩ := List.mem_map.1 member
  rw [(legible value present).notBlank]
  rfl

/-! ## Records -/

section Records

variable (crates : Crates) (path : String) (fold : PayloadFold)

theorem payloadLine_print {value : Json} (legible : Legible value) :
    payloadLine crates path fold value.print = payloadRecord crates path fold value := by
  rw [payloadLine, legible.read]

theorem foldlM_payloadLine {values : List Json} (legible : ∀ value ∈ values, Legible value) :
    (values.map Json.print).foldlM (payloadLine crates path) fold =
      values.foldlM (payloadRecord crates path) fold := by
  induction values generalizing fold with
  | nil => rfl
  | cons value values ih =>
    rw [List.map_cons, List.foldlM_cons, List.foldlM_cons,
      payloadLine_print crates path fold (legible value List.mem_cons_self)]
    congr 1
    funext next
    exact ih next fun other member => legible other (List.mem_cons_of_mem _ member)

theorem payloadRecord_turnHeader (turnId : TurnId) :
    payloadRecord crates path fold (turnHeaderValue crates turnId) = .ok fold := by
  simp [payloadRecord, turnHeaderValue, recordKind, payloadHeader, required]

theorem payloadRecord_userInput (input : UserInput) :
    payloadRecord crates path fold (userInputValue input) =
      .ok { fold with userInput := some input.withoutAttachmentData } := by
  simp [payloadRecord, userInputValue, recordKind, required]

theorem payloadRecord_status (status : TurnStatus) :
    payloadRecord crates path fold (statusValue status) =
      .ok { fold with status := some status } := by
  simp [payloadRecord, statusValue, recordKind, required]

@[simp] theorem readOption_nat (value : Option ℕ) :
    readOption asNat (value.map ofNat) = some value :=
  readOption_write asNat_ofNat (fun _ => Json.noConfusion) value

theorem payloadRecord_item (index : Option ℕ) (item : Item) :
    payloadRecord crates path fold (itemValue crates index item) =
      .ok { fold with items := upsertRecord Item.id fold.items index item.recorded } := by
  simp [payloadRecord, itemValue, recordKind, payloadItem, required, optionalField]

theorem payloadRecord_diff (index : ℕ) (diff : FileDiff) :
    payloadRecord crates path fold (diffValue crates index diff) =
      .ok { fold with diffs := upsertRecord FileDiff.pathKey fold.diffs (some index) diff } := by
  have number : readOption asNat (some (ofNat index)) = some (some index) :=
    readOption_nat (some index)
  simp [payloadRecord, diffValue, recordKind, payloadDiff, required, optionalField, number]

end Records

/-! ## Collections -/

section Collections

variable {α κ : Type} [DecidableEq κ] {key : α → κ}

theorem upsertRecord_fresh {entries : List (ℕ × α)} {value : α}
    (fresh : ∀ entry ∈ entries, key entry.2 ≠ key value) (index : Option ℕ) :
    upsertRecord key entries index value = entries ++ [(index.getD entries.length, value)] := by
  have none : (entries.any fun entry => key entry.2 = key value) = false := by
    rw [List.any_eq_false]
    intro entry member
    simpa using fresh entry member
  rw [upsertRecord, none]
  rfl

theorem foldl_upsertRecord (values : List α) (k : ℕ) (entries : List (ℕ × α))
    (distinct : (entries.map (fun entry => key entry.2) ++ values.map key).Nodup) :
    (values.zipIdx k).foldl
        (fun entries entry => upsertRecord key entries (some entry.2) entry.1) entries =
      entries ++ (values.zipIdx k).map fun entry => (entry.2, entry.1) := by
  induction values generalizing k entries with
  | nil => simp
  | cons value values ih =>
    have fresh : ∀ entry ∈ entries, key entry.2 ≠ key value := by
      intro entry member same
      have disjoint := (List.nodup_append.1 distinct).2.2
      exact disjoint _ (List.mem_map_of_mem member) _ List.mem_cons_self same
    rw [List.zipIdx_cons, List.foldl_cons, upsertRecord_fresh fresh, ih]
    · simp
    · rw [List.map_append, List.append_assoc]
      exact distinct

theorem sortedByIndex_zipIdx (values : List α) :
    sortedByIndex (values.zipIdx.map fun entry => (entry.2, entry.1)) = values := by
  have sorted : (values.zipIdx.map fun entry => (entry.2, entry.1)).Pairwise
      fun left right => (decide (left.1 ≤ right.1)) = true := by
    rw [List.pairwise_map, List.pairwise_iff_getElem]
    intro i j below below' order
    simp only [List.getElem_zipIdx, decide_eq_true_eq]
    omega
  rw [sortedByIndex, List.mergeSort_of_pairwise sorted, List.map_map]
  have second : (Prod.snd ∘ fun (entry : α × ℕ) => (entry.2, entry.1)) = Prod.fst := rfl
  exact (congrArg (fun f => values.zipIdx.map f) second).trans (List.zipIdx_map_fst 0 values)

end Collections

theorem foldlM_items (crates : Crates) (path : String) (items : List Item) (k : ℕ)
    (fold : PayloadFold) :
    ((items.zipIdx k).map fun entry => itemValue crates (some entry.2) entry.1).foldlM
        (payloadRecord crates path) fold =
      .ok { fold with
        items := ((items.map Item.recorded).zipIdx k).foldl
          (fun entries entry => upsertRecord Item.id entries (some entry.2) entry.1)
          fold.items } := by
  induction items generalizing k fold with
  | nil => rfl
  | cons item items ih =>
    rw [List.zipIdx_cons, List.map_cons, List.foldlM_cons, payloadRecord_item]
    exact ih (k + 1) _

theorem foldlM_diffs (crates : Crates) (path : String) (diffs : List FileDiff) (k : ℕ)
    (fold : PayloadFold) :
    ((diffs.zipIdx k).map fun entry => diffValue crates entry.2 entry.1).foldlM
        (payloadRecord crates path) fold =
      .ok { fold with
        diffs := (diffs.zipIdx k).foldl
          (fun entries entry => upsertRecord FileDiff.pathKey entries (some entry.2) entry.1)
          fold.diffs } := by
  induction diffs generalizing k fold with
  | nil => rfl
  | cons diff diffs ih =>
    rw [List.zipIdx_cons, List.map_cons, List.foldlM_cons, payloadRecord_diff]
    exact ih (k + 1) _

/-- A turn as its payload file records it. -/
def PayloadFold.ofTurn (turn : Turn) : PayloadFold where
  skippedRecords := 0
  userInput := some turn.userInput.withoutAttachmentData
  status := some turn.status
  items := (turn.items.map Item.recorded).zipIdx.map fun entry => (entry.2, entry.1)
  diffs := turn.diffs.zipIdx.map fun entry => (entry.2, entry.1)

theorem foldlM_payloadValues_eq (crates : Crates) (path : String) (turn : Turn) :
    (payloadValues crates turn).foldlM (payloadRecord crates path) .empty =
      .ok { PayloadFold.ofTurn turn with
        items := (turn.items.map Item.recorded).zipIdx.foldl
          (fun entries entry => upsertRecord Item.id entries (some entry.2) entry.1) []
        diffs := turn.diffs.zipIdx.foldl
          (fun entries entry => upsertRecord FileDiff.pathKey entries (some entry.2) entry.1)
          [] } := by
  rw [payloadValues, List.foldlM_append, List.foldlM_append, List.foldlM_cons,
    payloadRecord_turnHeader]
  change ((((List.foldlM (payloadRecord crates path) _ [userInputValue _, statusValue _]) >>= _))
    >>= _) = _
  rw [List.foldlM_cons, payloadRecord_userInput]
  change ((((List.foldlM (payloadRecord crates path) _ [statusValue _]) >>= _)) >>= _) = _
  rw [List.foldlM_cons, payloadRecord_status]
  change ((List.foldlM (payloadRecord crates path) _ _) >>= _) = _
  rw [foldlM_items]
  change List.foldlM (payloadRecord crates path) _ _ = _
  rw [foldlM_diffs]
  rfl

theorem payloadValues_object (crates : Crates) (turn : Turn) :
    ∀ value ∈ payloadValues crates turn, ∃ members, value = Json.obj members := by
  intro value member
  simp only [payloadValues, List.mem_append, List.mem_cons, List.not_mem_nil, or_false,
    List.mem_map] at member
  rcases member with ((rfl | rfl | rfl) | ⟨entry, -, rfl⟩) | ⟨entry, -, rfl⟩ <;> exact ⟨_, rfl⟩

theorem foldl_itemRecords {items : List Item} (distinct : (items.map Item.id).Nodup) :
    (items.map Item.recorded).zipIdx.foldl
        (fun entries entry => upsertRecord Item.id entries (some entry.2) entry.1) [] =
      (items.map Item.recorded).zipIdx.map fun entry => (entry.2, entry.1) := by
  have ids : (items.map Item.recorded).map Item.id = items.map Item.id := by
    rw [List.map_map]
    rfl
  have added := @foldl_upsertRecord _ _ _ Item.id (items.map Item.recorded) 0 []
    (by rw [List.map_nil, List.nil_append, ids]; exact distinct)
  rwa [List.nil_append] at added

theorem foldlM_payloadValues (crates : Crates) (path : String) (turn : Turn)
    (items : (turn.items.map Item.id).Nodup) (diffs : (turn.diffs.map FileDiff.pathKey).Nodup) :
    (payloadValues crates turn).foldlM (payloadRecord crates path) .empty =
      .ok (.ofTurn turn) := by
  have added := @foldl_upsertRecord _ _ _ FileDiff.pathKey turn.diffs 0 []
    (by rw [List.map_nil, List.nil_append]; exact diffs)
  rw [List.nil_append] at added
  rw [foldlM_payloadValues_eq, foldl_itemRecords items, added]
  rfl

/-! ## Bodies -/

/-- The bodies by identity: the first one of each. -/
theorem get?_contentsOf (records : List CapturedDiffRecord) (id : DiffId) :
    (contentsOf records).get? id =
      (records.find? fun record => record.id = id).map CapturedDiffRecord.content := by
  have folded (contents : IndexMap DiffId CapturedDiffContent) :
      (records.foldl (fun contents record =>
        if record.id ∈ contents.keys then contents
        else contents.insert record.id record.content) contents).get? id =
      (contents.get? id).or
        ((records.find? fun record => record.id = id).map CapturedDiffRecord.content) := by
    induction records generalizing contents with
    | nil => simp
    | cons record records ih =>
      rw [List.foldl_cons, ih]
      by_cases here : record.id = id
      · subst here
        rw [List.find?_cons_of_pos (by simp)]
        split
        · next present =>
          obtain ⟨content, found⟩ := IndexMap.mem_keys_iff.1 present
          rw [found]
          rfl
        · next absent =>
          rw [IndexMap.get?_insert_self, IndexMap.get?_eq_none.2 absent]
          rfl
      · rw [List.find?_cons_of_neg (by simpa using here)]
        split
        · rfl
        · rw [IndexMap.get?_insert_of_ne _ (Ne.symm here)]
  exact folded IndexMap.empty

theorem mem_keys_contentsOf {records : List CapturedDiffRecord} {id : DiffId} :
    id ∈ (contentsOf records).keys ↔ ∃ record ∈ records, record.id = id := by
  rw [← not_iff_not, ← IndexMap.get?_eq_none, get?_contentsOf, Option.map_eq_none_iff,
    List.find?_eq_none]
  simp

/-- No change of the item has a descriptor. -/
def Item.Inline (item : Item) : Prop := item.descriptors = []

theorem FileChangeEntry.takeBody_descriptor {crates : Crates} {itemId : ItemId}
    {change : FileChangeEntry} (inline : change.capturedDiff = none)
    {descriptor : CapturedDiffDescriptor}
    (found : (change.takeBody crates itemId).1.capturedDiff = some descriptor) :
    ∃ text, change.diff = some text ∧
      descriptor = (captureUnifiedDiff crates change.path change.change (some itemId) text).1 ∧
      (change.takeBody crates itemId).2 =
        some (captureUnifiedDiff crates change.path change.change (some itemId) text).2 := by
  unfold FileChangeEntry.takeBody at found ⊢
  cases diff : change.diff with
  | none =>
    rw [diff] at found
    dsimp only at found
    rw [inline] at found
    cases found
  | some text =>
    rw [diff] at found
    exact ⟨text, rfl, (Option.some.inj found).symm, rfl⟩

theorem Item.takeBodies_descriptor {crates : Crates} {item : Item} (inline : item.Inline)
    {descriptor : CapturedDiffDescriptor}
    (member : descriptor ∈ (item.takeBodies crates).1.descriptors) :
    ∃ record ∈ (item.takeBodies crates).2, record.id = descriptor.id := by
  unfold Item.takeBodies at member ⊢
  unfold Item.Inline Item.descriptors at inline
  cases payload : item.payload with
  | fileChange path change changes status =>
    rw [payload] at member inline
    dsimp only [Item.descriptors] at member inline
    rw [List.filterMap_eq_nil_iff] at inline
    rw [List.map_map, List.mem_filterMap] at member
    obtain ⟨taken, there, found⟩ := member
    obtain ⟨entry, present, rfl⟩ := List.mem_map.1 there
    obtain ⟨text, -, rfl, body⟩ := FileChangeEntry.takeBody_descriptor (inline entry present) found
    refine ⟨(captureUnifiedDiff crates entry.path entry.change (some item.id) text).2, ?_, rfl⟩
    rw [List.mem_filterMap]
    exact ⟨_, List.mem_map_of_mem present, body⟩
  | _ =>
    rw [payload] at member
    simp only [Item.descriptors, payload, List.not_mem_nil] at member

theorem FileDiff.takeBody_captured {crates : Crates} {diff : FileDiff}
    (inline : diff.captured = none) :
    diff.takeBody crates =
      ((captureStructuredDiff crates diff).1, some (captureStructuredDiff crates diff).2) := by
  unfold FileDiff.takeBody
  rw [inline]

theorem captureStructuredDiff_descriptor (crates : Crates) (diff : FileDiff) :
    ∃ descriptor, (captureStructuredDiff crates diff).1.captured = some descriptor ∧
      descriptor.id = (captureStructuredDiff crates diff).2.id :=
  ⟨_, rfl, rfl⟩

/-- The bodies that are taken out of items and diffs, in the reader's order. -/
def bodiesTaken (crates : Crates) (items : List Item) (diffs : List FileDiff) :
    List CapturedDiffRecord :=
  (items.map (Item.takeBodies crates)).flatMap Prod.snd ++
    (diffs.map (FileDiff.takeBody crates)).filterMap Prod.snd

/-- The payload of items and diffs whose bodies are inline. -/
def takenPayload (crates : Crates) (fold : PayloadFold) (input : UserInput) : TurnPayload where
  userInput := input
  status := fold.status
  items := (sortedByIndex fold.items).map fun item => (item.takeBodies crates).1
  diffs := (sortedByIndex fold.diffs).map fun diff => (diff.takeBody crates).1
  diffContents := contentsOf
    (bodiesTaken crates (sortedByIndex fold.items) (sortedByIndex fold.diffs))
  skippedRecords := fold.skippedRecords

theorem forM_ok {α : Type} {check : α → Except PersistError Unit} {values : List α}
    (all : ∀ value ∈ values, check value = .ok ()) : values.forM check = .ok () := by
  induction values with
  | nil => rfl
  | cons value values ih =>
    rw [List.forM_eq_forM, List.forM_cons, all value List.mem_cons_self]
    exact ih fun other member => all other (List.mem_cons_of_mem _ member)

theorem forM_ok_bind {α β : Type} {check : α → Except PersistError Unit} {values : List α}
    {next : Unit → Except PersistError β} (all : ∀ value ∈ values, check value = .ok ()) :
    (values.forM check >>= next) = next () := by
  rw [forM_ok all]
  rfl

theorem finishPayload_inline {crates : Crates} {path : String} {fold : PayloadFold}
    {input : UserInput} (prompt : fold.userInput = some input)
    (valid : ∀ item ∈ sortedByIndex fold.items, validateCommandOutputPayload item.payload = .ok ())
    (items : ∀ item ∈ sortedByIndex fold.items, item.Inline)
    (diffs : ∀ diff ∈ sortedByIndex fold.diffs, diff.captured = none) :
    finishPayload crates path fold = .ok (takenPayload crates fold input) := by
  have described : ∀ descriptor ∈
      (((sortedByIndex fold.items).map (Item.takeBodies crates)).map Prod.fst).flatMap
        Item.descriptors ++ (((sortedByIndex fold.diffs).map (FileDiff.takeBody crates)).map
          Prod.fst).filterMap FileDiff.captured,
      descriptor.id ∈ (contentsOf
        (bodiesTaken crates (sortedByIndex fold.items) (sortedByIndex fold.diffs))).keys := by
    intro descriptor member
    rw [mem_keys_contentsOf]
    unfold bodiesTaken
    rcases List.mem_append.1 member with member | member
    · obtain ⟨projected, there, found⟩ := List.mem_flatMap.1 member
      obtain ⟨taken, listed, rfl⟩ := List.mem_map.1 there
      obtain ⟨item, present, rfl⟩ := List.mem_map.1 listed
      obtain ⟨record, body, same⟩ := Item.takeBodies_descriptor (items item present) found
      exact ⟨record, List.mem_append_left _ (List.mem_flatMap.2 ⟨_, listed, body⟩), same⟩
    · obtain ⟨projected, there, found⟩ := List.mem_filterMap.1 member
      obtain ⟨taken, listed, rfl⟩ := List.mem_map.1 there
      obtain ⟨diff, present, rfl⟩ := List.mem_map.1 listed
      have taken := @FileDiff.takeBody_captured crates diff (diffs diff present)
      obtain ⟨projected, captured, same⟩ := captureStructuredDiff_descriptor crates diff
      rw [taken] at found
      rw [captured, Option.some.injEq] at found
      subst found
      refine ⟨_, List.mem_append_right _ (List.mem_filterMap.2 ⟨_, listed, ?_⟩), same.symm⟩
      rw [taken]
  unfold finishPayload
  rw [prompt]
  dsimp only
  rw [forM_ok_bind]
  · rw [forM_ok_bind]
    · simp only [takenPayload, bodiesTaken, List.map_map]
      rfl
    · intro descriptor member
      have kept := described descriptor member
      unfold bodiesTaken at kept
      rw [if_neg]
      simpa only [Bool.and_eq_true, Bool.not_eq_true', List.contains_iff_mem, not_and,
        Bool.not_eq_false] using fun _ => kept
  · intro item member
    rw [valid item member]
    rfl

end Giskard
