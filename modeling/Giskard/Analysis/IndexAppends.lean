import Mathlib
import Giskard.Foundation.Schedule
import Giskard.Analysis.PayloadFile

/-!
# Appends to the history index

The file has whole lines and, after torn appends, pieces of records on a last line. A record that
is appended in full to a file that ends in a newline is read back whatever comes after it, as long
as nothing in full follows a torn one: the reader passes over the last line only. A tear inside a
character makes the whole file unreadable.

SOURCE: crates/giskard-persist/src/store.rs, crates/giskard-persist/src/history.rs.
-/

set_option autoImplicit false

namespace Giskard

open Foundation Json

/-! ## Lines of the index -/

/-- A line of the index. -/
inductive IndexEntry where
  | header (thread : ThreadId) (createdAt : DateTime)
  | turn (record : TurnRecord)

namespace IndexEntry

def value (crates : Crates) : IndexEntry → Json
  | .header thread createdAt => (HistoryHeader.new thread createdAt).toValue crates
  | .turn record => record.toValue crates

def record? : IndexEntry → Option TurnRecord
  | .header _ _ => none
  | .turn record => some record

variable (crates : Crates)

theorem value_kind (entry : IndexEntry) :
    ∃ kind members, entry.value crates = .obj (("kind", kind) :: members) := by
  cases entry with
  | header thread createdAt => exact ⟨_, _, rfl⟩
  | turn record => exact ⟨_, _, rfl⟩

theorem depth_model (model : TurnModel) : model.toValue.depth ≤ 1 := by
  cases model with
  | unknown => decide
  | known model => cases effort : model.reasoningEffort <;>
      simp [TurnModel.toValue, ModelRef.toValue, effort]

theorem depth_mode (mode : TurnMode) : mode.toValue.depth = 0 := by
  cases mode <;> rfl

theorem depth_status (status : TurnStatus) : status.toValue.depth ≤ 1 := by
  cases message : status.message <;> simp [TurnStatus.toValue, message, TurnStatusKind.toValue]

theorem depth_attachment (attachment : PersistedAttachment) : attachment.toValue.depth ≤ 1 := by
  simp [PersistedAttachment.toValue, AttachmentKind.toValue]

theorem depth_dateTime (instant : Option DateTime) :
    ((instant.map (DateTime.toValue crates)).map Json.depth).getD 0 = 0 := by
  cases instant <;> rfl

theorem value_depth (entry : IndexEntry) : (entry.value crates).depth ≤ jsonDepthLimit := by
  cases entry with
  | header thread createdAt => exact (by decide : 1 ≤ jsonDepthLimit)
  | turn record =>
    have model := depth_model record.model
    have mode := depth_mode record.mode
    have status := depth_status record.status
    have usage : record.usage.toValue.depth = 1 := rfl
    have completed := depth_dateTime crates record.completedAt
    have attachments := @depth_listValue_le _ _ record.attachments 1 depth_attachment
    have turnId : (record.turnId.toValue crates).depth = 0 := rfl
    have started : (record.startedAt.toValue crates).depth = 0 := rfl
    simp only [value, TurnRecord.toValue, depth_obj, depthMembers_append, depthMembers_cons,
      depthMembers_nil, depthMembers_optional, depth_str, depth_ofNat, depth_flagValue,
      completed, turnId, started, mode, usage, jsonDepthLimit]
    omega

theorem legible (entry : IndexEntry) : Legible (entry.value crates) := by
  obtain ⟨kind, members, shape⟩ := entry.value_kind crates
  refine ⟨⟨_, shape⟩, ?_⟩
  have depth := entry.value_depth crates
  rw [shape] at depth ⊢
  exact fromStr_print _ depth

theorem piece {entry : IndexEntry} {cut rest : List Char}
    (whole : (entry.value crates).print = cut ++ rest) (some_ : cut ≠ []) : Piece cut := by
  obtain ⟨kind, members, shape⟩ := entry.value_kind crates
  rw [shape] at whole
  exact ⟨some_, "kind", kind, members, rest, 'k', ['i', 'n', 'd'], whole, rfl, by decide⟩

theorem indexRecord_value (path : String) (last i : ℕ) (records : List TurnRecord)
    (entry : IndexEntry) :
    indexRecord crates path last records (entry.value crates) i =
      .ok (match entry with
        | .header _ _ => records
        | .turn record =>
          if records.any fun earlier => earlier.turnId = record.turnId then records
          else records ++ [record]) := by
  cases entry with
  | header thread createdAt =>
    have kind : recordKind ((HistoryHeader.new thread createdAt).toValue crates) =
        some "history_header" := by simp [recordKind, HistoryHeader.toValue]
    simp only [indexRecord, value, kind, HistoryHeader.fromValue_toValue]
    rfl
  | turn record =>
    have kind : recordKind (record.toValue crates) = some record.kind := by
      simp [recordKind, TurnRecord.toValue]
    have name : record.kind = "turn" ∨ record.kind = "turn_v3" := by
      unfold TurnRecord.kind
      split
      · exact .inl rfl
      · exact .inr rfl
    rcases name with name | name <;>
      (simp only [indexRecord, value, kind, name, TurnRecord.fromValue_toValue]; split <;> rfl)

end IndexEntry

/-! ## Reading -/

/-- The records of the lines. -/
def recordsOf (entries : List IndexEntry) : List TurnRecord := entries.filterMap IndexEntry.record?

section Reading

variable (crates : Crates)

/-- Add a record unless the turn has one. -/
def addRecord (records : List TurnRecord) (record : TurnRecord) : List TurnRecord :=
  if records.any fun earlier => earlier.turnId = record.turnId then records
  else records ++ [record]

theorem addRecord_fresh {records : List TurnRecord} {record : TurnRecord}
    (fresh : record.turnId ∉ records.map TurnRecord.turnId) :
    addRecord records record = records ++ [record] := by
  refine if_neg ?_
  rw [List.any_eq_true]
  rintro ⟨earlier, member, same⟩
  exact fresh (List.mem_map.2 ⟨earlier, member, by simpa using same⟩)

theorem addRecord_repeated {records : List TurnRecord} {record : TurnRecord}
    (there : record.turnId ∈ records.map TurnRecord.turnId) :
    addRecord records record = records := by
  refine if_pos ?_
  rw [List.any_eq_true]
  obtain ⟨earlier, member, same⟩ := List.mem_map.1 there
  exact ⟨earlier, member, by simpa using same⟩

theorem foldl_addRecord_distinct (records added : List TurnRecord)
    (distinct : ((records ++ added).map TurnRecord.turnId).Nodup) :
    added.foldl addRecord records = records ++ added := by
  induction added generalizing records with
  | nil => rw [List.foldl_nil, List.append_nil]
  | cons record added ih =>
    rw [List.append_cons] at distinct
    have fresh : record.turnId ∉ records.map TurnRecord.turnId := by
      intro member
      rw [List.map_append, List.map_append] at distinct
      have disjoint := (List.nodup_append.1 (List.nodup_append.1 distinct).1).2.2
      exact disjoint _ member _ (List.mem_singleton_self _) rfl
    rw [List.foldl_cons, addRecord_fresh fresh, ih _ distinct, ← List.append_cons]

theorem foldlM_indexLine (path : String) (last : ℕ) (entries : List IndexEntry) (k : ℕ)
    (records : List TurnRecord) :
    ((entries.map fun entry => (entry.value crates).print).zipIdx k).foldlM
        (fun records line => indexLine crates path last records line.1 line.2) records =
      .ok ((recordsOf entries).foldl addRecord records) := by
  induction entries generalizing k records with
  | nil => rfl
  | cons entry entries ih =>
    rw [List.map_cons, List.zipIdx_cons, List.foldlM_cons]
    dsimp only
    rw [indexLine, (entry.legible crates).read]
    dsimp only
    rw [entry.indexRecord_value crates]
    cases entry with
    | header thread createdAt => exact ih (k + 1) records
    | turn record => exact ih (k + 1) (addRecord records record)

/-- A last line of pieces is passed over, or is a line that only lacks its newline. -/
theorem indexLine_pieces (path : String) (i : ℕ) (records : List TurnRecord)
    {pieces : List (List Char)} (more : pieces ≠ [])
    (all : ∀ piece ∈ pieces, piece ≠ [] ∧ ∃ entry rest,
      (IndexEntry.value crates entry).print = piece ++ rest) :
    ∃ extra, indexLine crates path i records pieces.flatten i = .ok (records ++ extra) := by
  have pass : fromStr jsonDepthLimit pieces.flatten = none →
      ∃ extra, indexLine crates path i records pieces.flatten i = .ok (records ++ extra) := by
    intro unread
    exact ⟨[], by rw [indexLine, unread, List.append_nil]; exact if_pos rfl⟩
  obtain ⟨first, rest, rfl⟩ := List.exists_cons_of_ne_nil more
  obtain ⟨some_, entry, left, whole⟩ := all first List.mem_cons_self
  cases rest with
  | nil =>
    rw [List.flatten_cons, List.flatten_nil, List.append_nil] at pass ⊢
    cases left with
    | nil =>
      rw [List.append_nil] at whole
      rw [← whole, indexLine, (entry.legible crates).read]
      dsimp only
      rw [entry.indexRecord_value crates]
      cases entry with
      | header thread createdAt =>
        refine ⟨[], ?_⟩
        dsimp only
        rw [List.append_nil]
      | turn record =>
        dsimp only
        split
        · exact ⟨[], by rw [List.append_nil]⟩
        · exact ⟨[record], rfl⟩
    | cons c left =>
      obtain ⟨kind, members, shape⟩ := entry.value_kind crates
      rw [shape] at whole
      exact pass (fromStr_cut whole (List.cons_ne_nil _ _))
  | cons second rest =>
    apply pass
    rw [List.flatten_cons]
    apply fromStr_pieces (entry.piece crates whole some_) _ (List.cons_ne_nil _ _)
    intro piece member
    obtain ⟨some', entry', left', whole'⟩ := all piece (List.mem_cons_of_mem _ member)
    exact entry'.piece crates whole' some'

/-- What the file has: whole lines, and pieces of lines on a last one. -/
structure IndexShape (file : List UInt8) (entries : List IndexEntry) (pieces : List (List Char)) :
    Prop where
  text : file = utf8 ((entries.map (IndexEntry.value crates)).flatMap lineOf ++ pieces.flatten)
  pieces : ∀ piece ∈ pieces, piece ≠ [] ∧ ∃ entry rest,
    (IndexEntry.value crates entry).print = piece ++ rest

variable {crates} {file : List UInt8} {entries : List IndexEntry} {pieces : List (List Char)}

theorem IndexShape.printable (shape : IndexShape crates file entries pieces) :
    Printable pieces.flatten := by
  intro c member
  obtain ⟨piece, there, inside⟩ := List.mem_flatten.1 member
  obtain ⟨-, entry, rest, whole⟩ := shape.pieces piece there
  apply Json.print_printable (entry.value crates)
  rw [whole]
  exact List.mem_append_left _ inside

theorem IndexShape.notBlank (shape : IndexShape crates file entries pieces) (more : pieces ≠ []) :
    isBlankLine pieces.flatten = false ∧ pieces.flatten ≠ [] := by
  obtain ⟨first, rest, rfl⟩ := List.exists_cons_of_ne_nil more
  obtain ⟨some_, entry, left, whole⟩ := shape.pieces first List.mem_cons_self
  obtain ⟨kind, members, value⟩ := entry.value_kind crates
  rw [value] at whole
  obtain ⟨tail, rfl⟩ := cut_head whole some_
  have brace : isWhiteSpace '\x7b' = false := by decide
  rw [List.flatten_cons, List.cons_append]
  exact ⟨by simp [isBlankLine, brace], List.cons_ne_nil _ _⟩

theorem IndexShape.lines (shape : IndexShape crates file entries pieces) :
    ((Foundation.lines ((entries.map (IndexEntry.value crates)).flatMap lineOf ++
        pieces.flatten)).filter fun line => !isBlankLine line) =
      entries.map (fun entry => (entry.value crates).print) ++
        if pieces = [] then [] else [pieces.flatten] := by
  have printed : (entries.map (IndexEntry.value crates)).map Json.print =
      entries.map fun entry => (entry.value crates).print := by
    rw [List.map_map]
    rfl
  have legible : ∀ value ∈ entries.map (IndexEntry.value crates), Legible value := by
    intro value member
    obtain ⟨entry, -, rfl⟩ := List.mem_map.1 member
    exact entry.legible crates
  rw [lines_lineOf_tail _ shape.printable, List.filter_append, filter_notBlank legible, printed]
  by_cases none_ : pieces = []
  · subst none_
    rfl
  · obtain ⟨blank, some_⟩ := shape.notBlank none_
    rw [if_neg some_, if_neg none_, List.filter_cons_of_pos (by simpa using blank),
      List.filter_nil]

theorem IndexShape.read_closed (shape : IndexShape crates file entries []) (path : String) :
    loadTurnRecords crates path (some file) = .ok ((recordsOf entries).foldl addRecord []) := by
  rw [loadTurnRecords, shape.text, readUtf8_utf8]
  dsimp only
  rw [parseHistoryIndex, shape.lines, if_pos rfl, List.append_nil]
  exact foldlM_indexLine crates path _ entries 0 []

/-- A file of this shape is read, and every record on a whole line with it. -/
theorem IndexShape.read (shape : IndexShape crates file entries pieces) (path : String)
    (distinct : ((recordsOf entries).map TurnRecord.turnId).Nodup) :
    ∃ records, loadTurnRecords crates path (some file) = .ok records ∧
      (recordsOf entries).Sublist records := by
  have all : (recordsOf entries).foldl addRecord [] = recordsOf entries := by
    rw [foldl_addRecord_distinct _ _ (by rw [List.nil_append]; exact distinct), List.nil_append]
  by_cases none_ : pieces = []
  · subst none_
    exact ⟨recordsOf entries, by rw [shape.read_closed path, all], .refl _⟩
  · obtain ⟨extra, last⟩ := indexLine_pieces crates path entries.length (recordsOf entries) none_
      shape.pieces
    refine ⟨recordsOf entries ++ extra, ?_, List.sublist_append_left _ _⟩
    have first := foldlM_indexLine crates path entries.length entries 0 []
    rw [all] at first
    have length : (entries.map (fun entry => (entry.value crates).print) ++
        [pieces.flatten]).length - 1 = entries.length := by simp
    rw [loadTurnRecords, shape.text, readUtf8_utf8]
    dsimp only
    rw [parseHistoryIndex, shape.lines, if_neg none_, List.zipIdx_append, List.foldlM_append,
      length, first]
    change (List.foldlM _ _ _ : Except PersistError (List TurnRecord)) = _
    rw [List.length_map, Nat.zero_add, List.zipIdx_cons, List.zipIdx_nil, List.foldlM_cons]
    dsimp only
    rw [last]
    rfl

end Reading

/-! ## Appends -/

/-- An append that the reader can make up for: a torn one stops between two characters, and one
that is written in full starts on a line of its own. -/
def AppendSound (crates : Crates) (thread : ThreadId) (file : Option (List UInt8))
    (append : IndexAppend) : Prop :=
  match append.torn with
  | some written =>
    written < byteLen (appendBody crates thread file append.turn) →
      isCharBoundary (appendBody crates thread file append.turn) written = true
  | none => file.getD [] = [] ∨ (file.getD []).getLast? = some 10

/-- The record of an append that was written in full. -/
def IndexAppend.written? (append : IndexAppend) : Option TurnRecord :=
  if append.torn.isNone then some (TurnRecord.fromTurn append.turn) else none

section Appends

variable {crates : Crates} {thread : ThreadId}

/-- What the file has after some appends of which `written` were in full. -/
structure IndexState (crates : Crates) (file : Option (List UInt8)) (written : List TurnRecord) :
    Prop where
  shape : ∃ entries pieces, IndexShape crates (file.getD []) entries pieces ∧
    recordsOf entries = written ∧ (file = none → entries = [] ∧ pieces = [])

theorem IndexShape.nil : IndexShape crates [] [] [] := by
  refine ⟨rfl, ?_⟩
  intro piece member
  cases member

theorem IndexShape.closed {file : List UInt8} {entries : List IndexEntry}
    {pieces : List (List Char)} (shape : IndexShape crates file entries pieces)
    (ends : file = [] ∨ file.getLast? = some 10) : pieces = [] := by
  by_contra more
  obtain ⟨-, some_⟩ := shape.notBlank more
  have last := List.getLast?_append_of_ne_nil
    ((entries.map (IndexEntry.value crates)).flatMap lineOf) some_
  rcases ends with empty | newline
  · have read := readUtf8_utf8
      ((entries.map (IndexEntry.value crates)).flatMap lineOf ++ pieces.flatten)
    rw [← shape.text, empty, ← utf8_nil, readUtf8_utf8, Option.some.injEq] at read
    exact some_ (List.append_eq_nil_iff.1 read.symm).2
  · rw [shape.text, getLast?_utf8, last] at newline
    exact shape.printable.newline (List.mem_of_getLast? newline)

theorem IndexShape.push {file : List UInt8} {entries : List IndexEntry}
    (shape : IndexShape crates file entries []) (entry : IndexEntry) :
    IndexShape crates (file ++ utf8 (lineOf (entry.value crates))) (entries ++ [entry]) [] := by
  refine ⟨?_, shape.pieces⟩
  rw [shape.text, ← utf8_append]
  simp

theorem IndexShape.tear {file : List UInt8} {entries : List IndexEntry}
    {pieces : List (List Char)} (shape : IndexShape crates file entries pieces)
    {entry : IndexEntry} {cut rest : List Char}
    (whole : (entry.value crates).print = cut ++ rest) :
    ∃ more, IndexShape crates (file ++ utf8 cut) entries more := by
  by_cases none_ : cut = []
  · subst none_
    exact ⟨pieces, by rw [utf8_nil, List.append_nil]; exact shape⟩
  · refine ⟨pieces ++ [cut], ?_, ?_⟩
    · rw [shape.text, ← utf8_append]
      simp
    · intro piece member
      rcases List.mem_append.1 member with there | here
      · exact shape.pieces piece there
      · rw [List.mem_singleton] at here
        subst here
        exact ⟨none_, entry, rest, whole⟩

theorem recordsOf_append (left right : List IndexEntry) :
    recordsOf (left ++ right) = recordsOf left ++ recordsOf right := List.filterMap_append

/-- An append in full to a file without an unfinished line. -/
theorem IndexState.full {file : Option (List UInt8)} {written : List TurnRecord}
    (state : IndexState crates file written) (turn : Turn)
    (ends : file.getD [] = [] ∨ (file.getD []).getLast? = some 10) :
    IndexState crates (appendIndex crates thread file ⟨turn, none⟩)
      (written ++ [TurnRecord.fromTurn turn]) := by
  obtain ⟨entries, pieces, shape, records, absent⟩ := state.shape
  have none_ := shape.closed ends
  subst none_
  cases file with
  | none =>
    obtain ⟨rfl, -⟩ := absent rfl
    have both := ((@IndexShape.nil crates).push (.header thread turn.startedAt)).push
      (.turn (TurnRecord.fromTurn turn))
    have bytes : (appendIndex crates thread none ⟨turn, none⟩).getD [] =
        [] ++ utf8 (lineOf ((IndexEntry.header thread turn.startedAt).value crates)) ++
          utf8 (lineOf ((IndexEntry.turn (TurnRecord.fromTurn turn)).value crates)) := by
      rw [List.nil_append, ← utf8_append]
      simp [appendIndex, appendBody, HistoryHeader.line, lineOf, IndexEntry.value, -utf8_append]
    rw [← bytes] at both
    refine ⟨_, [], both, ?_, fun gone => by cases gone⟩
    rw [← records]
    rfl
  | some bytes =>
    have next := shape.push (.turn (TurnRecord.fromTurn turn))
    have same : (appendIndex crates thread (some bytes) ⟨turn, none⟩).getD [] =
        bytes ++ utf8 (lineOf ((IndexEntry.turn (TurnRecord.fromTurn turn)).value crates)) := by
      simp [appendIndex, appendBody, lineOf, IndexEntry.value]
    rw [Option.getD_some, ← same] at next
    refine ⟨_, [], next, ?_, fun gone => by cases gone⟩
    rw [recordsOf_append, records]
    rfl

/-- A torn append that stops between two characters. -/
theorem IndexState.torn {file : Option (List UInt8)} {written : List TurnRecord}
    (state : IndexState crates file written) (turn : Turn) {count : ℕ}
    (aligned : count < byteLen (appendBody crates thread file turn) →
      isCharBoundary (appendBody crates thread file turn) count = true) :
    IndexState crates (appendIndex crates thread file ⟨turn, some count⟩) written := by
  obtain ⟨entries, pieces, shape, records, absent⟩ := state.shape
  obtain ⟨cut, rest, body, bytes⟩ := take_utf8_cut aligned
  have after : appendIndex crates thread file ⟨turn, some count⟩ =
      some (file.getD [] ++ utf8 cut) := by
    rw [appendIndex]
    dsimp only
    rw [bytes]
  rw [after]
  cases file with
  | some bytes =>
    have whole : ((IndexEntry.turn (TurnRecord.fromTurn turn)).value crates).print = cut ++ rest :=
      body
    obtain ⟨more, next⟩ := shape.tear whole
    exact ⟨entries, more, next, records, fun gone => by cases gone⟩
  | none =>
    obtain ⟨rfl, rfl⟩ := absent rfl
    have parts : ((IndexEntry.header thread turn.startedAt).value crates).print ++
        '\n' :: ((IndexEntry.turn (TurnRecord.fromTurn turn)).value crates).print = cut ++ rest := by
      rw [← body]
      simp [appendBody, HistoryHeader.line, lineOf, IndexEntry.value]
    rcases List.append_eq_append_iff.1 parts with ⟨tail, rfl, second⟩ | ⟨tail, first, -⟩
    · -- the tear is past the text of the header
      cases tail with
      | nil =>
        obtain ⟨more, next⟩ := shape.tear (List.append_nil _).symm
        refine ⟨[], more, ?_, records, fun gone => by cases gone⟩
        rw [List.append_nil]
        exact next
      | cons c tail =>
        rw [List.cons_append, List.cons.injEq] at second
        obtain ⟨rfl, left⟩ := second
        have header := shape.push (.header thread turn.startedAt)
        obtain ⟨more, next⟩ := header.tear left
        rw [List.append_assoc, ← utf8_append, lineOf, List.append_assoc,
          List.singleton_append] at next
        exact ⟨_, more, next, records, fun gone => by cases gone⟩
    · -- it is inside the text of the header
      obtain ⟨more, next⟩ := shape.tear first
      exact ⟨[], more, next, records, fun gone => by cases gone⟩

theorem IndexState.append {file : Option (List UInt8)} {written : List TurnRecord}
    (state : IndexState crates file written) {append : IndexAppend}
    (sound : AppendSound crates thread file append) :
    IndexState crates (appendIndex crates thread file append)
      (written ++ append.written?.toList) := by
  obtain ⟨turn, torn⟩ := append
  cases torn with
  | none => exact state.full turn sound
  | some count =>
    have same : written ++ (IndexAppend.written? ⟨turn, some count⟩).toList = written :=
      List.append_nil written
    rw [same]
    exact state.torn turn sound

theorem IndexState.run {file : Option (List UInt8)} {written : List TurnRecord}
    (state : IndexState crates file written) {appends : List IndexAppend}
    (sound : Schedule.Meets (appendIndex crates thread) (AppendSound crates thread) file appends) :
    IndexState crates (Schedule.run (appendIndex crates thread) file appends)
      (written ++ appends.filterMap IndexAppend.written?) := by
  induction appends generalizing file written with
  | nil =>
    rw [List.filterMap_nil, List.append_nil]
    exact state
  | cons append appends ih =>
    have next := ih (state.append sound.1) sound.2
    have split : (append :: appends).filterMap IndexAppend.written? =
        append.written?.toList ++ appends.filterMap IndexAppend.written? := by
      cases record : append.written? <;> simp [record]
    rw [split, ← List.append_assoc]
    exact next

theorem written?_turnIds (appends : List IndexAppend) :
    ((appends.filterMap IndexAppend.written?).map TurnRecord.turnId).Sublist
      (appends.map fun append => append.turn.id) := by
  induction appends with
  | nil => exact .slnil
  | cons append appends ih =>
    obtain ⟨turn, torn⟩ := append
    cases torn with
    | none => exact ih.cons_cons _
    | some count => exact ih.cons _

end Appends

/-! ## Completed turns -/

/-- An index that no turn has been appended to: absent, or the header that the creation of the
thread writes. SOURCE: store.rs:1293-1312. -/
def FreshIndex (crates : Crates) (thread : ThreadId) (file : Option (List UInt8)) : Prop :=
  file = none ∨ ∃ createdAt, file = some (utf8 ((HistoryHeader.new thread createdAt).line crates))

theorem FreshIndex.state {crates : Crates} {thread : ThreadId} {file : Option (List UInt8)}
    (fresh : FreshIndex crates thread file) : IndexState crates file [] := by
  rcases fresh with rfl | ⟨createdAt, rfl⟩
  · exact ⟨[], [], IndexShape.nil, rfl, fun _ => ⟨rfl, rfl⟩⟩
  · exact ⟨_, [], (@IndexShape.nil crates).push (.header thread createdAt), rfl,
      fun gone => by cases gone⟩

/-- Torn appends cost no completed turn, as long as each stops between two characters and nothing
is appended in full to an unfinished line. -/
theorem index_appends_kept (crates : Crates) (thread : ThreadId) (path : String)
    (start : Option (List UInt8)) (appends : List IndexAppend)
    (fresh : FreshIndex crates thread start)
    (distinct : (appends.map fun append => append.turn.id).Nodup)
    (sound : Schedule.Meets (appendIndex crates thread) (AppendSound crates thread) start appends) :
    ∃ records,
      loadTurnRecords crates path (Schedule.run (appendIndex crates thread) start appends) =
        .ok records ∧
      (appends.filterMap IndexAppend.written?).Sublist records := by
  have state := fresh.state.run sound
  rw [List.nil_append] at state
  obtain ⟨entries, pieces, shape, records, absent⟩ := state.shape
  have ids := List.Nodup.sublist (written?_turnIds appends) distinct
  cases file : Schedule.run (appendIndex crates thread) start appends with
  | none =>
    obtain ⟨rfl, -⟩ := absent file
    rw [← records]
    exact ⟨[], rfl, .refl _⟩
  | some bytes =>
    rw [file] at shape
    obtain ⟨read, loaded, kept⟩ := shape.read path (by rw [records]; exact ids)
    rw [records] at kept
    exact ⟨read, loaded, kept⟩

/-- A turn without items. -/
def sampleIndexTurn (turnId : ℕ) : Turn where
  id := ⟨⟨turnId⟩⟩
  userInput := ⟨"hello", []⟩
  items := []
  model := .unknown
  mode := .known .build
  status := ⟨.completed, none⟩
  usage := ⟨0, 0, 0⟩
  diffs := []
  startedAt := ⟨0, 0⟩
  completedAt := some ⟨0, 0⟩
  skippedRecords := 0

theorem isCharBoundary_brace (crates : Crates) (entry : IndexEntry) :
    isCharBoundary (entry.value crates).print 1 = true := by
  obtain ⟨kind, members, shape⟩ := entry.value_kind crates
  rw [shape]
  rfl

/-- The second of two appends is torn. -/
theorem index_appends_kept_sample :
    ∃ records,
      loadTurnRecords Crates.reference "history.jsonl"
          (Schedule.run (appendIndex Crates.reference ⟨⟨1⟩⟩) none
            [⟨sampleIndexTurn 1, none⟩, ⟨sampleIndexTurn 2, some 1⟩]) = .ok records ∧
      [TurnRecord.fromTurn (sampleIndexTurn 1)].Sublist records :=
  index_appends_kept Crates.reference ⟨⟨1⟩⟩ "history.jsonl" none
    [⟨sampleIndexTurn 1, none⟩, ⟨sampleIndexTurn 2, some 1⟩] (.inl rfl)
    (by simp [sampleIndexTurn])
    ⟨.inl rfl, fun _ => isCharBoundary_brace _ (.turn (TurnRecord.fromTurn (sampleIndexTurn 2))),
      trivial⟩

theorem take_brace (crates : Crates) (entry : IndexEntry) :
    (utf8 (entry.value crates).print).take 1 = utf8 ['\x7b'] := by
  obtain ⟨kind, members, shape⟩ := entry.value_kind crates
  rw [shape]
  rfl

/-- A torn line that others were appended to is damage, not a torn end. -/
theorem loadTurnRecords_shared (crates : Crates) (path : String) (header second third : IndexEntry)
    (thread : ThreadId) (createdAt : DateTime) (kind : header = .header thread createdAt) :
    ∃ message,
      loadTurnRecords crates path (some (utf8 (lineOf (header.value crates)) ++ utf8 ['\x7b'] ++
          utf8 (lineOf (second.value crates)) ++ utf8 (lineOf (third.value crates)))) =
        .error (.corrupt message) := by
  have brace : Piece ['\x7b'] := by
    obtain ⟨kind, members, shape⟩ := second.value_kind crates
    obtain ⟨tail, whole⟩ : ∃ tail, (second.value crates).print = ['\x7b'] ++ tail := by
      rw [shape]
      exact ⟨_, rfl⟩
    exact second.piece crates whole (List.cons_ne_nil _ _)
  have shared : fromStr jsonDepthLimit ('\x7b' :: (second.value crates).print) = none := by
    have pieces := @fromStr_pieces jsonDepthLimit _ [(second.value crates).print] brace
    rw [List.flatten_singleton] at pieces
    refine pieces ?_ (List.cons_ne_nil _ _)
    intro piece member
    rw [List.mem_singleton] at member
    subst member
    obtain ⟨kind, members, shape⟩ := second.value_kind crates
    refine second.piece crates (List.append_nil _).symm ?_
    rw [shape]
    exact List.cons_ne_nil _ _
  have text : utf8 (lineOf (header.value crates)) ++ utf8 ['\x7b'] ++
      utf8 (lineOf (second.value crates)) ++ utf8 (lineOf (third.value crates)) =
      utf8 ([(header.value crates).print, '\x7b' :: (second.value crates).print,
        (third.value crates).print].flatMap (· ++ ['\n']) ++ []) := by
    rw [← utf8_append, ← utf8_append, ← utf8_append]
    simp [lineOf, -utf8_append]
  have printable : ∀ line ∈ [(header.value crates).print, '\x7b' :: (second.value crates).print,
      (third.value crates).print], Printable line := by
    intro line member
    simp only [List.mem_cons, List.not_mem_nil, or_false] at member
    rcases member with rfl | rfl | rfl
    · exact Json.print_printable _
    · intro c member
      rcases List.mem_cons.1 member with rfl | inside
      · decide
      · exact Json.print_printable _ c inside
    · exact Json.print_printable _
  have blank : isBlankLine ('\x7b' :: (second.value crates).print) = false := by
    have brace : isWhiteSpace '\x7b' = false := by decide
    simp [isBlankLine, brace]
  have lines_ := lines_closed printable (show Printable [] by simp [Printable])
  have first := header.indexRecord_value crates path 2 0 []
  obtain ⟨message, damage⟩ : ∃ message, indexLine crates path 2 []
      ('\x7b' :: (second.value crates).print) 1 = .error (.corrupt message) :=
    ⟨_, by rw [indexLine, shared]; exact if_neg (by decide)⟩
  refine ⟨message, ?_⟩
  rw [loadTurnRecords, text, readUtf8_utf8]
  dsimp only
  rw [parseHistoryIndex, lines_, if_pos rfl, List.append_nil,
    List.filter_cons_of_pos (by rw [(header.legible crates).notBlank]; rfl),
    List.filter_cons_of_pos (by rw [blank]; rfl),
    List.filter_cons_of_pos (by rw [(third.legible crates).notBlank]; rfl), List.filter_nil]
  dsimp only [List.length_cons, List.length_nil]
  rw [List.zipIdx_cons, List.foldlM_cons]
  dsimp only
  rw [indexLine, (header.legible crates).read]
  dsimp only
  rw [first, kind, List.zipIdx_cons]
  change List.foldlM _ _ _ = _
  rw [List.foldlM_cons]
  dsimp only
  rw [damage]
  rfl

/-- A torn append and two further appends: the line that the first two share is not the last one,
and the thread cannot be read at all. -/
theorem index_appends_lost :
    ∃ message,
      loadTurnRecords Crates.reference "history.jsonl"
          (Schedule.run (appendIndex Crates.reference ⟨⟨1⟩⟩)
            (some (utf8 ((HistoryHeader.new ⟨⟨1⟩⟩ ⟨0, 0⟩).line Crates.reference)))
            [⟨sampleIndexTurn 1, some 1⟩, ⟨sampleIndexTurn 2, none⟩, ⟨sampleIndexTurn 3, none⟩]) =
        .error (.corrupt message) := by
  have file : Schedule.run (appendIndex Crates.reference ⟨⟨1⟩⟩)
      (some (utf8 ((HistoryHeader.new ⟨⟨1⟩⟩ ⟨0, 0⟩).line Crates.reference)))
      [⟨sampleIndexTurn 1, some 1⟩, ⟨sampleIndexTurn 2, none⟩, ⟨sampleIndexTurn 3, none⟩] =
      some (utf8 (lineOf ((IndexEntry.header ⟨⟨1⟩⟩ ⟨0, 0⟩).value Crates.reference)) ++
        (utf8 ((IndexEntry.turn (TurnRecord.fromTurn (sampleIndexTurn 1))).value
          Crates.reference).print).take 1 ++
        utf8 (lineOf ((IndexEntry.turn (TurnRecord.fromTurn (sampleIndexTurn 2))).value
          Crates.reference)) ++
        utf8 (lineOf ((IndexEntry.turn (TurnRecord.fromTurn (sampleIndexTurn 3))).value
          Crates.reference))) := rfl
  rw [file, take_brace]
  exact loadTurnRecords_shared Crates.reference "history.jsonl" _ _ _ ⟨⟨1⟩⟩ ⟨0, 0⟩ rfl

end Giskard
