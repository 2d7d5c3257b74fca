import Mathlib
import Giskard.Foundation.Schedule
import Giskard.Model.TurnCommit
import Giskard.Analysis.PayloadFile

/-!
# Amendments of a payload file

An amendment closes an unfinished last line before it writes its own, so every append has a line
to itself: a whole record is folded, and a cut one is passed over and counted. A record keeps the
display slot of the first record of its item. A tear inside a character makes the whole file
unreadable.

SOURCE: crates/giskard-persist/src/store.rs, crates/giskard-persist/src/history.rs.
-/

set_option autoImplicit false

namespace Giskard

open Foundation Json

/-! ## Slots -/

section Slots

variable {α κ : Type} [DecidableEq κ] {key : α → κ}

/-- The entries of a collection whose display indices are the positions from `k` on. -/
def slotted (values : List α) (k : ℕ) : List (ℕ × α) :=
  (values.zipIdx k).map fun entry => (entry.2, entry.1)

theorem slotted_cons (value : α) (values : List α) (k : ℕ) :
    slotted (value :: values) k = (k, value) :: slotted values (k + 1) := by
  rw [slotted, List.zipIdx_cons, List.map_cons]
  rfl

theorem mem_of_mem_slotted {values : List α} {k : ℕ} {entry : ℕ × α}
    (member : entry ∈ slotted values k) : entry.2 ∈ values := by
  obtain ⟨pair, there, rfl⟩ := List.mem_map.1 member
  exact List.fst_mem_of_mem_zipIdx there

/-- Replacing the entry of a key that is there. -/
theorem upsertRecord_entries (entries : List (κ × α)) (value : α) (k : ℕ)
    (keyed : ∀ entry ∈ entries, key entry.2 = entry.1) (distinct : (entries.map Prod.fst).Nodup)
    (present : key value ∈ entries.map Prod.fst) :
    (slotted (entries.map Prod.snd) k).map
        (fun entry => if key entry.2 = key value then (entry.1, value) else entry) =
      slotted ((IndexMap.insertEntries (key value) value entries).map Prod.snd) k := by
  induction entries generalizing k with
  | nil => cases present
  | cons entry entries ih =>
    obtain ⟨first, old⟩ := entry
    have here : key old = first := keyed _ List.mem_cons_self
    have rest : ∀ entry ∈ entries, key entry.2 = entry.1 := fun entry member =>
      keyed entry (List.mem_cons_of_mem _ member)
    rw [List.map_cons, List.nodup_cons] at distinct
    rw [List.map_cons, slotted_cons, List.map_cons, IndexMap.insertEntries]
    dsimp only
    by_cases same : first = key value
    · subst same
      have others : ∀ entry ∈ slotted (entries.map Prod.snd) (k + 1),
          (if key entry.2 = key value then (entry.1, value) else entry) = entry := by
        intro entry member
        obtain ⟨source, listed, equal⟩ := List.mem_map.1 (mem_of_mem_slotted member)
        refine if_neg ?_
        intro repeated
        have key_eq : source.1 = key value := by rw [← rest source listed, equal, repeated]
        have listed' : source.1 ∈ entries.map Prod.fst := List.mem_map_of_mem listed
        rw [key_eq] at listed'
        exact distinct.1 listed'
      rw [if_pos here, if_pos rfl, List.map_cons, slotted_cons, List.map_congr_left others,
        List.map_id']
    · have later : key value ∈ entries.map Prod.fst := by
        rcases List.mem_cons.1 present with equal | member
        · exact absurd equal.symm same
        · exact member
      rw [if_neg (by rw [here]; exact same), if_neg same, List.map_cons, slotted_cons,
        ih (k + 1) rest distinct.2 later]

/-- A record without a display index takes its item's slot, or the next one. -/
theorem upsertRecord_collect (values : List α) (value : α) :
    upsertRecord key (slotted (IndexMap.collect key values).values 0) none value =
      slotted (IndexMap.collect key (values ++ [value])).values 0 := by
  have keyed : ∀ entry ∈ (IndexMap.collect key values).entries, key entry.2 = entry.1 :=
    fun entry member => IndexMap.key_of_mem_collect key member
  have seconds : (slotted (IndexMap.collect key values).values 0).map Prod.snd =
      (IndexMap.collect key values).values := by
    rw [slotted, List.map_map]
    exact List.zipIdx_map_fst 0 _
  have found : ((slotted (IndexMap.collect key values).values 0).any
      fun entry => key entry.2 = key value) = true ↔
      key value ∈ (IndexMap.collect key values).keys := by
    have any : ((slotted (IndexMap.collect key values).values 0).any
        fun entry => key entry.2 = key value) =
        ((IndexMap.collect key values).entries.any fun entry => key entry.2 = key value) := by
      have mapped := congrArg (fun list => list.any fun value' => decide (key value' = key value))
        seconds
      rw [IndexMap.values, List.any_map, List.any_map] at mapped
      exact mapped
    rw [any, List.any_eq_true, IndexMap.keys, List.mem_map]
    constructor
    · rintro ⟨entry, member, same⟩
      exact ⟨entry, member, (keyed entry member).symm.trans (by simpa using same)⟩
    · rintro ⟨entry, member, same⟩
      exact ⟨entry, member, by simpa using (keyed entry member).trans same⟩
  rw [IndexMap.collect_concat, upsertRecord]
  by_cases present : key value ∈ (IndexMap.collect key values).keys
  · rw [if_pos (found.2 present)]
    exact upsertRecord_entries _ value 0 keyed (IndexMap.collect key values).nodup present
  · rw [if_neg (fun any => present (found.1 any))]
    unfold slotted IndexMap.values
    rw [IndexMap.entries_insert_of_absent present, List.map_append, List.zipIdx_append,
      List.map_append]
    simp

theorem mem_upsertRecord {entries : List (ℕ × α)} {index : Option ℕ} {value : α} {entry : ℕ × α}
    (member : entry ∈ upsertRecord key entries index value) :
    entry.2 = value ∨ entry ∈ entries := by
  unfold upsertRecord at member
  split at member
  · obtain ⟨old, there, rfl⟩ := List.mem_map.1 member
    split
    · exact .inl rfl
    · exact .inr there
  · rcases List.mem_append.1 member with there | new
    · exact .inr there
    · rw [List.mem_singleton] at new
      subst new
      exact .inl rfl

theorem mem_foldl_upsertRecord {values : List (α × ℕ)} {entries : List (ℕ × α)} {entry : ℕ × α}
    (member : entry ∈ values.foldl
      (fun entries entry => upsertRecord key entries (some entry.2) entry.1) entries) :
    entry.2 ∈ values.map Prod.fst ∨ entry ∈ entries := by
  induction values generalizing entries with
  | nil => exact .inr member
  | cons value values ih =>
    rcases ih member with later | there
    · exact .inl (List.mem_cons_of_mem _ later)
    · rcases mem_upsertRecord there with same | old
      · rw [List.map_cons, same]
        exact .inl List.mem_cons_self
      · exact .inr old

end Slots

/-! ## Lines of a payload file -/

/-- The lines of a file; the last one may lack its newline. -/
structure PayloadLines (file : List UInt8) (lines : List (List Char)) : Prop where
  text : ∃ closed tail, file = utf8 (closed.flatMap (· ++ ['\n']) ++ tail) ∧
    lines = closed ++ if tail = [] then [] else [tail]
  plain : ∀ line ∈ lines, Printable line ∧ isBlankLine line = false

/-- What an amendment writes of its record. -/
def amendPiece (crates : Crates) (file : List UInt8) (amend : ItemAmend) : List Char :=
  match amend.torn with
  | none => (itemValue crates none amend.item).print
  | some written => takeBytes (itemValue crates none amend.item).print
      (written - if needsNewline file then 1 else 0)

/-- A torn amendment stops between two characters. -/
def AmendAligned (crates : Crates) (file : List UInt8) (amend : ItemAmend) : Prop :=
  match amend.torn with
  | none => True
  | some written => written < byteLen (amendBody crates file amend.item) →
      isCharBoundary (amendBody crates file amend.item) written = true

section Lines

variable {crates : Crates} {file : List UInt8} {lines : List (List Char)}

theorem PayloadLines.parse (shape : PayloadLines file lines) (path : String) :
    ∃ text, readUtf8 file = some text ∧
      parseTurnPayload crates path text =
        lines.foldlM (payloadLine crates path) .empty >>= finishPayload crates path := by
  obtain ⟨closed, tail, bytes, rfl⟩ := shape.text
  refine ⟨closed.flatMap (· ++ ['\n']) ++ tail, by rw [bytes, readUtf8_utf8], ?_⟩
  have closedPlain : ∀ line ∈ closed, Printable line := fun line member =>
    (shape.plain line (List.mem_append_left _ member)).1
  have tailPlain : Printable tail := by
    by_cases none_ : tail = []
    · subst none_
      intro c member
      cases member
    · refine (shape.plain tail (List.mem_append_right _ ?_)).1
      rw [if_neg none_]
      exact List.mem_singleton_self tail
  have kept : ((closed ++ if tail = [] then [] else [tail]).filter
      fun line => !isBlankLine line) = closed ++ if tail = [] then [] else [tail] := by
    rw [List.filter_eq_self]
    intro line member
    rw [(shape.plain line member).2]
    rfl
  rw [parseTurnPayload, lines_closed closedPlain tailPlain, kept]

theorem needsNewline_eq_false {text : List Char} (ends : text = [] ∨ text.getLast? = some '\n') :
    needsNewline (utf8 text) = false := by
  unfold needsNewline
  rcases ends with rfl | newline
  · rfl
  · rw [getLast?_utf8.2 newline]
    rfl

theorem needsNewline_eq_true {text : List Char} (some_ : text ≠ [])
    (open_ : text.getLast? ≠ some '\n') : needsNewline (utf8 text) = true := by
  unfold needsNewline
  rw [Ne, ← getLast?_utf8] at open_
  cases last : (utf8 text).getLast? with
  | none =>
    rw [List.getLast?_eq_none_iff] at last
    have read := readUtf8_utf8 text
    rw [last, ← utf8_nil, readUtf8_utf8, Option.some.injEq] at read
    exact absurd read.symm some_
  | some byte =>
    rw [last, Option.some.injEq] at open_
    simpa using open_

theorem needsNewline_lines {closed : List (List Char)} {tail : List Char} (plain : Printable tail) :
    needsNewline (utf8 (closed.flatMap (· ++ ['\n']) ++ tail)) = decide (tail ≠ []) := by
  by_cases none_ : tail = []
  · subst none_
    rw [List.append_nil, needsNewline_eq_false]
    · rfl
    · rcases List.eq_nil_or_concat' closed with rfl | ⟨front, line, rfl⟩
      · exact .inl rfl
      · right
        rw [List.flatMap_append, List.flatMap_singleton, ← List.append_assoc, List.getLast?_concat]
  · rw [decide_eq_true none_, needsNewline_eq_true]
    · intro empty
      exact none_ (List.append_eq_nil_iff.1 empty).2
    · rw [List.getLast?_append_of_ne_nil _ none_]
      intro newline
      exact plain.newline (List.mem_of_getLast? newline)

theorem itemValue_kind (crates : Crates) (item : Item) :
    ∃ kind members, itemValue crates none item = .obj (("kind", kind) :: members) :=
  ⟨_, _, rfl⟩

theorem amendPiece_start (crates : Crates) (file : List UInt8) (amend : ItemAmend) :
    ∃ rest, (itemValue crates none amend.item).print = amendPiece crates file amend ++ rest := by
  unfold amendPiece
  split
  · exact ⟨[], (List.append_nil _).symm⟩
  · exact ⟨dropBytes _ _, (takeBytes_append_dropBytes _ _).symm⟩

theorem piece_plain {item : Item} {piece rest : List Char}
    (whole : (itemValue crates none item).print = piece ++ rest) (some_ : piece ≠ []) :
    Printable piece ∧ isBlankLine piece = false := by
  constructor
  · intro c member
    apply Json.print_printable (itemValue crates none item)
    rw [whole]
    exact List.mem_append_left _ member
  · obtain ⟨kind, members, value⟩ := itemValue_kind crates item
    rw [value] at whole
    obtain ⟨tail, rfl⟩ := cut_head whole some_
    have brace : isWhiteSpace '\x7b' = false := by decide
    simp [isBlankLine, brace]

theorem print_ne_nil (crates : Crates) (item : Item) : (itemValue crates none item).print ≠ [] := by
  obtain ⟨kind, members, value⟩ := itemValue_kind crates item
  rw [value]
  exact List.cons_ne_nil _ _

/-- The bytes of an amendment, on its own line. -/
theorem amendPayload_text {closed : List (List Char)} {tail : List Char} {amend : ItemAmend}
    (bytes : file = utf8 (closed.flatMap (· ++ ['\n']) ++ tail)) (plain : Printable tail)
    (aligned : AmendAligned crates file amend) :
    ∃ closed' tail',
      amendPayload crates file amend = utf8 (closed'.flatMap (· ++ ['\n']) ++ tail') ∧
      (closed' ++ if tail' = [] then [] else [tail']) =
        (closed ++ if tail = [] then [] else [tail]) ++
          if amendPiece crates file amend = [] then [] else [amendPiece crates file amend] := by
  have newline := @needsNewline_lines closed tail plain
  rw [← bytes] at newline
  obtain ⟨item, torn⟩ := amend
  unfold amendPayload amendPiece amendBody
  unfold AmendAligned amendBody at aligned
  dsimp only at aligned ⊢
  by_cases none_ : tail = []
  · -- the record goes to the start of a line
    subst none_
    rw [decide_eq_false (not_not.2 rfl)] at newline
    rw [newline] at aligned ⊢
    cases torn with
    | none =>
      refine ⟨closed ++ [(itemValue crates none item).print], [], ?_, ?_⟩
      · rw [bytes, ← utf8_append]
        simp
      · simp [print_ne_nil]
    | some written =>
      refine ⟨closed, takeBytes (itemValue crates none item).print written, ?_, ?_⟩
      · dsimp only
        rw [if_neg Bool.false_ne_true, List.nil_append] at aligned ⊢
        rw [take_utf8_aligned aligned, bytes, ← utf8_append, List.append_nil]
      · simp
  · -- an unfinished line is closed first
    rw [decide_eq_true none_] at newline
    rw [newline] at aligned ⊢
    cases torn with
    | none =>
      refine ⟨closed ++ [tail, (itemValue crates none item).print], [], ?_, ?_⟩
      · rw [bytes, ← utf8_append]
        simp
      · simp [print_ne_nil, none_]
    | some written =>
      dsimp only
      rw [if_pos rfl] at aligned ⊢
      rw [take_utf8_aligned aligned, bytes, ← utf8_append, List.singleton_append, takeBytes]
      have size : ('\n' : Char).utf8Size = 1 := by decide
      rw [size]
      cases written with
      | zero =>
        refine ⟨closed, tail, ?_, ?_⟩
        · simp
        · simp
      | succ written =>
        refine ⟨closed ++ [tail], takeBytes (itemValue crates none item).print written, ?_, ?_⟩
        · simp
        · simp [none_]

theorem PayloadLines.amend (shape : PayloadLines file lines) {amend : ItemAmend}
    (aligned : AmendAligned crates file amend) :
    PayloadLines (amendPayload crates file amend)
      (lines ++ if amendPiece crates file amend = [] then []
        else [amendPiece crates file amend]) := by
  obtain ⟨closed, tail, bytes, rfl⟩ := shape.text
  have plain : Printable tail := by
    by_cases none_ : tail = []
    · subst none_
      intro c member
      cases member
    · refine (shape.plain tail (List.mem_append_right _ ?_)).1
      rw [if_neg none_]
      exact List.mem_singleton_self tail
  obtain ⟨closed', tail', bytes', lines'⟩ := amendPayload_text bytes plain aligned
  refine ⟨⟨closed', tail', bytes', lines'.symm⟩, ?_⟩
  intro line member
  rcases List.mem_append.1 member with old | new
  · exact shape.plain line old
  · split at new
    · cases new
    · next some_ =>
      rw [List.mem_singleton] at new
      subst new
      obtain ⟨rest, whole⟩ := amendPiece_start crates file amend
      exact piece_plain whole some_

end Lines

/-! ## Runs -/

/-- A payload file, with the items whose records were written in whole and the number of cut
lines. -/
structure AmendRun where
  file : List UInt8
  written : List Item
  torn : ℕ

namespace AmendRun

/-- A record that lacks only its newline is whole. -/
def step (crates : Crates) (state : AmendRun) (amend : ItemAmend) : AmendRun :=
  let piece := amendPiece crates state.file amend
  let record := (itemValue crates none amend.item).print
  { file := amendPayload crates state.file amend
    written := if piece = record then state.written ++ [amend.item] else state.written
    torn := if piece ≠ [] ∧ piece ≠ record then state.torn + 1 else state.torn }

end AmendRun

/-- An item whose record the reader takes: it nests no deeper than the reader goes, its
command-output metadata is valid, and its diffs are inline. -/
structure Recordable (crates : Crates) (item : Item) : Prop where
  depth : (itemValue crates none item).depth ≤ jsonDepthLimit
  valid : validateCommandOutputPayload item.payload = .ok ()
  inline : item.Inline

/-- An amendment that the reader can make up for. -/
def AmendRun.Sound (crates : Crates) (state : AmendRun) (amend : ItemAmend) : Prop :=
  Recordable crates amend.item ∧ AmendAligned crates state.file amend

/-- A turn as its payload file has it. -/
structure CommittedTurn (crates : Crates) (turn : Turn) (captured : List CapturedDiffRecord)
    (projected : Turn) : Prop where
  projection : turnWithInlineDiffs turn captured = .ok projected
  items : (projected.items.map Item.id).Nodup
  depth : ∀ value ∈ payloadValues crates projected, value.depth ≤ jsonDepthLimit
  valid : ∀ item ∈ projected.items, validateCommandOutputPayload item.payload = .ok ()
  inline : ∀ item ∈ projected.items, item.Inline
  diffs : ∀ diff ∈ projected.diffs, diff.captured = none

theorem validate_recorded (item : Item) :
    validateCommandOutputPayload item.recorded.payload =
      validateCommandOutputPayload item.payload := by
  unfold Item.recorded
  cases item.payload <;> rfl

theorem inline_recorded {item : Item} (inline : item.Inline) : item.recorded.Inline := by
  unfold Item.Inline Item.descriptors Item.recorded at *
  cases payload : item.payload <;> simp_all [ItemPayload.recorded]

section Runs

variable {crates : Crates} {path : String}

/-- What is folded from a file whose records so far are those of `items`. -/
def amendedFold (turn : Turn) (diffs : List (ℕ × FileDiff)) (items : List Item) (torn : ℕ) :
    PayloadFold where
  skippedRecords := UInt32.ofNat torn
  userInput := some turn.userInput.withoutAttachmentData
  status := some turn.status
  items := slotted (IndexMap.collect Item.id (items.map Item.recorded)).values 0
  diffs := diffs

/-- The lines of the file fold to the records so far. -/
structure AmendState (crates : Crates) (path : String) (turn : Turn) (diffs : List (ℕ × FileDiff))
    (items : List Item) (state : AmendRun) : Prop where
  folds : ∃ lines, PayloadLines state.file lines ∧
    lines.foldlM (payloadLine crates path) .empty =
      .ok (amendedFold turn diffs (items ++ state.written) state.torn)

/-- An amendment's line adds its record, or is passed over. -/
theorem payloadLine_piece {turn : Turn} {diffs : List (ℕ × FileDiff)} {items : List Item}
    {torn : ℕ} {item : Item} {piece rest : List Char} (recordable : Recordable crates item)
    (whole : (itemValue crates none item).print = piece ++ rest) :
    payloadLine crates path (amendedFold turn diffs items torn) piece =
      .ok (if piece = (itemValue crates none item).print
        then amendedFold turn diffs (items ++ [item]) torn
        else amendedFold turn diffs items (torn + 1)) := by
  obtain ⟨kind, members, value⟩ := itemValue_kind crates item
  by_cases complete : piece = (itemValue crates none item).print
  · rw [if_pos complete, complete]
    have legible : Legible (itemValue crates none item) := by
      refine ⟨⟨_, value⟩, ?_⟩
      have depth := recordable.depth
      rw [value] at depth ⊢
      exact fromStr_print _ depth
    rw [payloadLine_print crates path _ legible, payloadRecord_item]
    unfold amendedFold
    rw [upsertRecord_collect, List.map_append]
    rfl
  · have more : rest ≠ [] := by
      rintro rfl
      rw [List.append_nil] at whole
      exact complete whole.symm
    rw [value] at whole
    rw [if_neg complete, payloadLine, fromStr_cut whole more]
    unfold PayloadFold.skip amendedFold
    rw [UInt32.ofNat_add]
    rfl

theorem AmendState.amend {turn : Turn} {diffs : List (ℕ × FileDiff)} {items : List Item}
    {state : AmendRun} (holds : AmendState crates path turn diffs items state) {amend : ItemAmend}
    (sound : AmendRun.Sound crates state amend) :
    AmendState crates path turn diffs items (state.step crates amend) := by
  obtain ⟨lines, shape, folded⟩ := holds.folds
  obtain ⟨rest, whole⟩ := amendPiece_start crates state.file amend
  refine ⟨_, shape.amend sound.2, ?_⟩
  rw [List.foldlM_append, folded]
  change List.foldlM _ _ _ = _
  unfold AmendRun.step
  dsimp only
  generalize amendPiece crates state.file amend = piece at whole ⊢
  by_cases none_ : piece = []
  · subst none_
    have other : ¬ [] = (itemValue crates none amend.item).print :=
      fun same => print_ne_nil crates amend.item same.symm
    rw [if_pos rfl, if_neg other, if_neg (fun both => both.1 rfl)]
    rfl
  · rw [if_neg none_, List.foldlM_cons, payloadLine_piece sound.1 whole]
    change Except.ok _ = _
    by_cases complete : piece = (itemValue crates none amend.item).print
    · rw [if_pos complete, if_pos complete, if_neg (fun both => both.2 complete),
        List.append_assoc]
    · rw [if_neg complete, if_neg complete, if_pos ⟨none_, complete⟩]

/-- The file of a commit has the records of the turn. -/
theorem CommittedTurn.state {turn projected : Turn} {captured : List CapturedDiffRecord}
    (committed : CommittedTurn crates turn captured projected) :
    ∃ file diffs, payloadFileBytesWithDiffs crates turn captured = .ok file ∧
      (∀ entry ∈ diffs, entry.2 ∈ projected.diffs) ∧
      AmendState crates path projected diffs projected.items ⟨file, [], 0⟩ := by
  have legible : ∀ value ∈ payloadValues crates projected, Legible value := by
    intro value member
    obtain ⟨members, rfl⟩ := payloadValues_object crates projected value member
    exact ⟨⟨members, rfl⟩, fromStr_print members (committed.depth _ member)⟩
  have file : payloadFileBytesWithDiffs crates turn captured =
      .ok (utf8 ((payloadValues crates projected).flatMap lineOf)) := by
    rw [payloadFileBytesWithDiffs, committed.projection]
    rfl
  have shape : PayloadLines (utf8 ((payloadValues crates projected).flatMap lineOf))
      ((payloadValues crates projected).map Json.print) := by
    refine ⟨⟨(payloadValues crates projected).map Json.print, [], ?_, ?_⟩, ?_⟩
    · rw [flatMap_lineOf, List.append_nil]
    · rw [if_pos rfl, List.append_nil]
    · intro line member
      obtain ⟨value, present, rfl⟩ := List.mem_map.1 member
      exact ⟨Json.print_printable value, (legible value present).notBlank⟩
  have items : slotted (IndexMap.collect Item.id (projected.items.map Item.recorded)).values 0 =
      (projected.items.map Item.recorded).zipIdx.map fun entry => (entry.2, entry.1) := by
    rw [IndexMap.values_collect_of_nodup]
    · rfl
    · rw [List.map_map]
      exact committed.items
  refine ⟨_, projected.diffs.zipIdx.foldl
      (fun entries entry => upsertRecord FileDiff.pathKey entries (some entry.2) entry.1) [],
    file, ?_, ⟨_, shape, ?_⟩⟩
  · intro entry member
    rcases mem_foldl_upsertRecord member with listed | none_
    · rwa [List.zipIdx_map_fst] at listed
    · cases none_
  · rw [foldlM_payloadLine _ _ _ legible, foldlM_payloadValues_eq, foldl_itemRecords committed.items]
    unfold amendedFold
    rw [List.append_nil, items]
    rfl

theorem AmendState.read {turn : Turn} {diffs : List (ℕ × FileDiff)} {items : List Item}
    {state : AmendRun} (holds : AmendState crates path turn diffs items state)
    (valid : ∀ item ∈ items ++ state.written,
      validateCommandOutputPayload item.payload = .ok () ∧ item.Inline)
    (plain : ∀ entry ∈ diffs, entry.2.captured = none) (fault : Bool) :
    ∃ payload, readTurnPayload crates path fault (some state.file) =
        (some state.file, .ok (some payload)) ∧
      payload.userInput = turn.userInput.withoutAttachmentData ∧
      payload.status = some turn.status ∧
      payload.items = (IndexMap.collect Item.id (items ++ state.written)).values.map
        (fun item => (item.recorded.takeBodies crates).1) ∧
      payload.skippedRecords = UInt32.ofNat state.torn := by
  obtain ⟨lines, shape, folded⟩ := holds.folds
  obtain ⟨text, read, parsed⟩ := @PayloadLines.parse crates _ _ shape path
  rw [folded] at parsed
  have sorted : sortedByIndex (amendedFold turn diffs (items ++ state.written) state.torn).items =
      (IndexMap.collect Item.id (items ++ state.written)).values.map Item.recorded := by
    rw [amendedFold, slotted, sortedByIndex_zipIdx]
    exact @IndexMap.values_collect_map _ _ _ Item.id Item.recorded (fun _ => rfl) _
  have checked : ∀ item ∈ sortedByIndex
      (amendedFold turn diffs (items ++ state.written) state.torn).items,
      validateCommandOutputPayload item.payload = .ok () ∧ item.Inline := by
    rw [sorted]
    intro item member
    obtain ⟨source, there, rfl⟩ := List.mem_map.1 member
    obtain ⟨passes, inline⟩ := valid source (IndexMap.mem_of_mem_values_collect Item.id there)
    exact ⟨(validate_recorded source).trans passes, inline_recorded inline⟩
  have plain' : ∀ diff ∈ sortedByIndex
      (amendedFold turn diffs (items ++ state.written) state.torn).diffs, diff.captured = none := by
    intro diff member
    obtain ⟨entry, there, rfl⟩ := List.mem_map.1 member
    exact plain entry (List.mem_mergeSort.1 there)
  have finished := @finishPayload_inline crates path
    (amendedFold turn diffs (items ++ state.written) state.torn) _ rfl
    (fun item member => (checked item member).1) (fun item member => (checked item member).2) plain'
  change parseTurnPayload crates path text = finishPayload crates path
    (amendedFold turn diffs (items ++ state.written) state.torn) at parsed
  rw [finished] at parsed
  refine ⟨takenPayload crates (amendedFold turn diffs (items ++ state.written) state.torn)
    turn.userInput.withoutAttachmentData, ?_, rfl, rfl, ?_, rfl⟩
  · rw [readTurnPayload, read]
    dsimp only
    rw [parsed]
  · rw [takenPayload, sorted, List.map_map]
    rfl

theorem AmendState.run {turn : Turn} {diffs : List (ℕ × FileDiff)} {items : List Item}
    {state : AmendRun} (holds : AmendState crates path turn diffs items state)
    (valid : ∀ item ∈ state.written,
      validateCommandOutputPayload item.payload = .ok () ∧ item.Inline)
    {amends : List ItemAmend}
    (sound : Schedule.Meets (AmendRun.step crates) (AmendRun.Sound crates) state amends) :
    AmendState crates path turn diffs items (Schedule.run (AmendRun.step crates) state amends) ∧
      ∀ item ∈ (Schedule.run (AmendRun.step crates) state amends).written,
        validateCommandOutputPayload item.payload = .ok () ∧ item.Inline := by
  refine @Schedule.run_invariant _ _ _ (AmendRun.Sound crates) (fun state =>
    AmendState crates path turn diffs items state ∧ ∀ item ∈ state.written,
      validateCommandOutputPayload item.payload = .ok () ∧ item.Inline) _ _ ⟨holds, valid⟩ sound ?_
  rintro state amend ⟨folds, passes⟩ sound
  refine ⟨folds.amend sound, ?_⟩
  intro item member
  unfold AmendRun.step at member
  dsimp only at member
  split at member
  · rcases List.mem_append.1 member with old | new
    · exact passes item old
    · rw [List.mem_singleton] at new
      subst new
      exact ⟨sound.1.valid, sound.1.inline⟩
  · exact passes item member

end Runs

/-- A command, running or settled. -/
def sampleCommand (output status : String) : Item where
  id := ⟨⟨7⟩⟩
  harnessItemId := "h"
  payload := .commandExecution "make" none "/" output false none none none (some status) none none
  createdAt := ⟨0, 0⟩

/-- A turn that ended while its command was running. -/
def sampleAmendedTurn : Turn where
  id := ⟨⟨2⟩⟩
  userInput := ⟨"hello", []⟩
  items := [sampleCommand "" "running"]
  model := .unknown
  mode := .known .build
  status := ⟨.completed, none⟩
  usage := ⟨0, 0, 0⟩
  diffs := []
  startedAt := ⟨0, 0⟩
  completedAt := some ⟨0, 0⟩
  skippedRecords := 0

theorem sampleAmendedTurn_committed :
    CommittedTurn Crates.reference sampleAmendedTurn [] sampleAmendedTurn where
  projection := rfl
  items := by simp [sampleAmendedTurn]
  depth := by
    intro value member
    simp only [payloadValues, sampleAmendedTurn, List.zipIdx_cons, List.zipIdx_nil, List.map_cons,
      List.map_nil, List.append_nil, List.mem_append, List.mem_cons, List.not_mem_nil,
      or_false] at member
    rcases member with (rfl | rfl | rfl) | rfl <;> decide
  valid := by simp [sampleAmendedTurn, sampleCommand]; rfl
  inline := by simp [sampleAmendedTurn, sampleCommand, Item.Inline, Item.descriptors]
  diffs := by simp [sampleAmendedTurn]

end Giskard
