import Mathlib
import Giskard.Model.ThreadDirectory
import Giskard.Analysis.IndexAppends

/-!
# Pages of history

Reading a payload does not change what the other reads return: a damaged file is as unreadable
after it was moved aside. A page ends at the position of its first turn, so that the next page
continues there, and a page that has older records before it has a first turn.

SOURCE: crates/giskard-persist/src/store.rs.
-/

set_option autoImplicit false

namespace Giskard

open Foundation

/-! ## Readable turns -/

/-- The turn of a record, unless its payload is missing or unreadable. -/
def ThreadDirectory.turn? (crates : Crates) (paths : ThreadPaths) (files : ThreadDirectory)
    (record : TurnRecord) : Option Turn :=
  match (readTurnPayload crates (paths.turnPayload crates record.turnId) false
    (files.turns record.turnId)).2 with
  | .ok (some payload) => some (record.intoTurn payload)
  | _ => none

/-- The readable turns of some records, in their order. -/
def ThreadDirectory.readable (crates : Crates) (paths : ThreadPaths) (files : ThreadDirectory)
    (records : List TurnRecord) : List Turn :=
  records.filterMap (files.turn? crates paths)

/-- Two states of a directory in which the same turns are read. -/
structure SameTurns (crates : Crates) (paths : ThreadPaths) (files files' : ThreadDirectory) :
    Prop where
  history : files'.history = files.history
  turns : ∀ record, files'.turn? crates paths record = files.turn? crates paths record

section Reads

variable {crates : Crates} {paths : ThreadPaths} {moveFault : TurnId → Bool}
  {files files' files'' : ThreadDirectory}

theorem SameTurns.refl : SameTurns crates paths files files := ⟨rfl, fun _ => rfl⟩

theorem SameTurns.trans (first : SameTurns crates paths files files')
    (second : SameTurns crates paths files' files'') : SameTurns crates paths files files'' :=
  ⟨second.history.trans first.history, fun record =>
    (second.turns record).trans (first.turns record)⟩

theorem SameTurns.readable (same : SameTurns crates paths files files')
    (records : List TurnRecord) :
    files'.readable crates paths records = files.readable crates paths records :=
  List.filterMap_congr fun record _ => same.turns record

theorem readTurnPayload_result (path : String) (fault : Bool) (file : Option (List UInt8)) :
    (readTurnPayload crates path fault file).2 = (readTurnPayload crates path false file).2 := by
  unfold readTurnPayload
  repeat' split
  all_goals rfl

theorem readTurnPayload_file (path : String) (fault : Bool) (file : Option (List UInt8)) :
    (readTurnPayload crates path fault file).1 = file ∨
      (readTurnPayload crates path fault file).1 = none ∧
        ∃ error, (readTurnPayload crates path false file).2 = .error error := by
  unfold readTurnPayload
  split
  · exact .inl rfl
  · split
    · exact .inl rfl
    · split
      · exact .inl rfl
      · exact .inl rfl
      · next error _ _ =>
        cases fault with
        | true => exact .inl rfl
        | false => exact .inr ⟨rfl, error, rfl⟩

theorem assembleTurnRecord_turn (record : TurnRecord) :
    (assembleTurnRecord crates paths moveFault files record).2 =
      files.turn? crates paths record := by
  unfold assembleTurnRecord ThreadDirectory.turn?
  dsimp only
  rw [readTurnPayload_result] <;> rfl

theorem assembleTurnRecord_same (record : TurnRecord) :
    SameTurns crates paths files (assembleTurnRecord crates paths moveFault files record).1 := by
  refine ⟨rfl, ?_⟩
  intro other
  unfold assembleTurnRecord ThreadDirectory.turn?
  dsimp only
  by_cases same : other.turnId = record.turnId
  · rw [same, Function.update_self]
    rcases @readTurnPayload_file crates (paths.turnPayload crates record.turnId)
      (moveFault record.turnId) (files.turns record.turnId) with kept | ⟨gone, error, damaged⟩
    · rw [kept]
    · rw [gone, damaged]
      rfl
  · rw [Function.update_of_ne same]

theorem assembleTurnRecords_spec (records : List TurnRecord) :
    SameTurns crates paths files (assembleTurnRecords crates paths moveFault files records).1 ∧
      (assembleTurnRecords crates paths moveFault files records).2 =
        files.readable crates paths records := by
  induction records generalizing files with
  | nil => exact ⟨.refl, rfl⟩
  | cons record records ih =>
    have first := @assembleTurnRecord_same crates paths moveFault files record
    obtain ⟨rest, turns⟩ := @ih (assembleTurnRecord crates paths moveFault files record).1
    refine ⟨first.trans rest, ?_⟩
    rw [assembleTurnRecords]
    dsimp only
    rw [turns, first.readable, assembleTurnRecord_turn]
    unfold ThreadDirectory.readable
    rw [List.filterMap_cons]
    cases files.turn? crates paths record <;> rfl

end Reads

/-! ## The records of an index -/

section Records

variable {crates : Crates} {path : String} {last : ℕ} {records next : List TurnRecord}

/-- The records with the one of a line that names a turn, if it can be read and is new. -/
def withRecord (crates : Crates) (path : String) (last : ℕ) (records : List TurnRecord)
    (value : Json) (i : ℕ) : Except PersistError (List TurnRecord) :=
  match TurnRecord.fromValue crates value with
  | none =>
    if i = last then .ok records
    else .error (.corrupt s!"{path}: line {i + 1}: {crates.dataError value}")
  | some record =>
    if records.any fun earlier => earlier.turnId = record.turnId then .ok records
    else .ok (records ++ [record])

/-- A record of the index adds a turn that is not there, or nothing. -/
theorem indexRecord_adds {value : Json} {i : ℕ}
    (read : indexRecord crates path last records value i = .ok next) :
    next = records ∨ ∃ record, next = records ++ [record] ∧
      (records.any fun earlier => earlier.turnId = record.turnId) = false := by
  have turn (same : withRecord crates path last records value i = .ok next) :
      next = records ∨ ∃ record, next = records ++ [record] ∧
        (records.any fun earlier => earlier.turnId = record.turnId) = false := by
    unfold withRecord at same
    split at same
    · split at same
      · cases same
        exact .inl rfl
      · cases same
    · next record _ =>
      split at same
      · cases same
        exact .inl rfl
      · next fresh =>
        cases same
        exact .inr ⟨record, rfl, Bool.eq_false_iff.2 fresh⟩
  unfold indexRecord at read
  split at read
  · split at read
    · cases read
    · split at read
      · cases read
      · cases read
        exact .inl rfl
  · exact turn read
  · exact turn read
  · cases read
    exact .inl rfl

theorem indexLine_distinct {line : List Char × ℕ}
    (distinct : (records.map TurnRecord.turnId).Nodup)
    (read : indexLine crates path last records line.1 line.2 = .ok next) :
    (next.map TurnRecord.turnId).Nodup := by
  unfold indexLine at read
  split at read
  · split at read
    · cases read
      exact distinct
    · cases read
  · rcases indexRecord_adds read with rfl | ⟨record, rfl, fresh⟩
    · exact distinct
    · rw [List.map_append, List.map_singleton, List.nodup_append]
      refine ⟨distinct, List.nodup_singleton _, ?_⟩
      intro id member other single
      rw [List.mem_singleton] at single
      obtain ⟨earlier, present, rfl⟩ := List.mem_map.1 member
      have other' := List.any_eq_false.1 fresh earlier present
      rw [single]
      simpa using other'

theorem foldlM_indexLine_distinct (lines : List (List Char × ℕ))
    (distinct : (records.map TurnRecord.turnId).Nodup)
    (read : lines.foldlM (fun records line =>
      indexLine crates path last records line.1 line.2) records = .ok next) :
    (next.map TurnRecord.turnId).Nodup := by
  induction lines generalizing records with
  | nil =>
    cases read
    exact distinct
  | cons line lines ih =>
    rw [List.foldlM_cons] at read
    cases first : indexLine crates path last records line.1 line.2 with
    | error error =>
      rw [first] at read
      cases read
    | ok middle =>
      rw [first] at read
      exact ih (indexLine_distinct distinct first) read

theorem loadTurnRecords_distinct {file : Option (List UInt8)}
    (read : loadTurnRecords crates path file = .ok records) :
    (records.map TurnRecord.turnId).Nodup := by
  unfold loadTurnRecords at read
  split at read
  · cases read
    exact List.nodup_nil
  · split at read
    · cases read
    · have none : (([] : List TurnRecord).map TurnRecord.turnId).Nodup := List.nodup_nil
      exact foldlM_indexLine_distinct _ none read

end Records

/-! ## Pages -/

section Pages

variable {crates : Crates} {paths : ThreadPaths} {moveFault : TurnId → Bool}
  {records : List TurnRecord} {limit : ℕ}

theorem readable_take_succ {files : ThreadDirectory} {cursor : ℕ} {record : TurnRecord}
    (there : records[cursor]? = some record) :
    files.readable crates paths (records.take (cursor + 1)) =
      files.readable crates paths (records.take cursor) ++
        (files.turn? crates paths record).toList := by
  unfold ThreadDirectory.readable
  rw [List.take_add_one, there, List.filterMap_append, Option.toList_some]
  cases turn : files.turn? crates paths record <;> simp [turn]

/-- What a page has: the readable turns from a position on. When there are older records, the
position is that of the first turn of the page. -/
structure PageFrom (crates : Crates) (paths : ThreadPaths) (files : ThreadDirectory)
    (records : List TurnRecord) (cursor start : ℕ) (turns : List Turn) (page : HistoryPage) :
    Prop where
  start_le : start ≤ cursor
  turns : files.readable crates paths (records.take cursor) ++ turns =
    files.readable crates paths (records.take start) ++ page.turns
  more : page.hasMore = decide (0 < start)
  first : 0 < start → ∃ record turn rest, records[start]? = some record ∧
    files.turn? crates paths record = some turn ∧ page.turns = turn :: rest

/-- The walk back from a cursor. The turns collected so far are in reverse order, and when they
fill the page the last one is that of the record at the cursor. -/
theorem pageRecords_spec (cursor : ℕ) (files : ThreadDirectory) (turns : List Turn)
    (attempted : ℕ) (inside : cursor ≤ records.length)
    (full : limit ≤ turns.length → ∃ record turn, records[cursor]? = some record ∧
      files.turn? crates paths record = some turn ∧ turns.getLast? = some turn) :
    SameTurns crates paths files
        (pageRecords crates paths moveFault records limit cursor files turns attempted).1 ∧
      ∃ start, PageFrom crates paths files records cursor start turns.reverse
        (pageRecords crates paths moveFault records limit cursor files turns attempted).2 := by
  induction cursor generalizing files turns attempted with
  | zero => exact ⟨.refl, 0, le_rfl, rfl, rfl, fun positive => absurd positive (lt_irrefl 0)⟩
  | succ cursor ih =>
    unfold pageRecords
    by_cases room : turns.length < limit
    · rw [if_pos room]
      obtain ⟨record, there⟩ : ∃ record, records[cursor]? = some record :=
        ⟨_, List.getElem?_eq_getElem inside⟩
      rw [there]
      dsimp only
      have same := @assembleTurnRecord_same crates paths moveFault files record
      have read := @assembleTurnRecord_turn crates paths moveFault files record
      rw [read]
      have filled : limit ≤ (turns ++ (files.turn? crates paths record).toList).length →
          ∃ record' turn, records[cursor]? = some record' ∧
            (assembleTurnRecord crates paths moveFault files record).1.turn? crates paths record' =
              some turn ∧
            (turns ++ (files.turn? crates paths record).toList).getLast? = some turn := by
        intro enough
        cases turn : files.turn? crates paths record with
        | none =>
          rw [turn, Option.toList_none, List.append_nil] at enough
          exact absurd enough (Nat.not_le.2 room)
        | some turn' =>
          refine ⟨record, turn', there, ?_, ?_⟩
          · rw [same.turns, turn]
          · rw [Option.toList_some, List.getLast?_concat]
      obtain ⟨rest, start, page⟩ := ih (assembleTurnRecord crates paths moveFault files record).1
        (turns ++ (files.turn? crates paths record).toList) (attempted + 1) (Nat.le_of_lt inside)
        filled
      refine ⟨same.trans rest, start, page.start_le.trans (Nat.le_succ cursor), ?_, page.more, ?_⟩
      · have collected := page.turns
        rw [same.readable, same.readable] at collected
        rw [readable_take_succ there, ← collected, List.reverse_append, List.append_assoc]
        cases files.turn? crates paths record <;> rfl
      · intro positive
        obtain ⟨first, turn, others, here, readable, head⟩ := page.first positive
        rw [same.turns] at readable
        exact ⟨first, turn, others, here, readable, head⟩
    · rw [if_neg room]
      refine ⟨.refl, cursor + 1, le_rfl, rfl, ?_, ?_⟩
      · rfl
      · intro _
        obtain ⟨record, turn, there, readable, last⟩ := full (Nat.not_lt.1 room)
        obtain ⟨front, rfl⟩ := List.getLast?_eq_some_iff.1 last
        exact ⟨record, turn, front.reverse, there, readable, by rw [List.reverse_concat]⟩

theorem findIdx?_of_record {position : ℕ} {record : TurnRecord}
    (distinct : (records.map TurnRecord.turnId).Nodup) (there : records[position]? = some record) :
    (records.findIdx? fun other => other.turnId = record.turnId) = some position := by
  obtain ⟨below, rfl⟩ := List.getElem?_eq_some_iff.1 there
  rw [List.findIdx?_eq_some_iff_getElem]
  refine ⟨below, by simp, ?_⟩
  intro earlier before
  rw [List.Nodup, List.pairwise_map, List.pairwise_iff_getElem] at distinct
  have different := distinct earlier position (before.trans below) below before
  simpa using different

end Pages

/-! ## Walks -/

/-- The pages of a client that goes back while there are older turns, the latest page first; the
cursor is the first turn of the page just returned. Nothing when the fuel runs out, or when there
is no turn to go on from. -/
def walkHistory (crates : Crates) (paths : ThreadPaths) (moveFault : ℕ → TurnId → Bool)
    (limit : ℕ) : ℕ → ThreadDirectory → Option TurnId →
    Option (Except PersistError (List (List Turn)))
  | 0, _, _ => none
  | fuel + 1, files, before =>
    let page := loadHistory crates paths (moveFault fuel) files before limit
    match page.2 with
    | .error error => some (.error error)
    | .ok (turns, hasMore) =>
      if hasMore then
        match turns with
        | [] => none
        | first :: _ =>
          (walkHistory crates paths moveFault limit fuel page.1 (some first.id)).map
            (Except.map fun pages => turns :: pages)
      else some (.ok [turns])

section Walks

variable {crates : Crates} {paths : ThreadPaths} {moveFault : ℕ → TurnId → Bool}
  {records : List TurnRecord} {limit : ℕ}

theorem turn?_id {files : ThreadDirectory} {record : TurnRecord} {turn : Turn}
    (readable : files.turn? crates paths record = some turn) : turn.id = record.turnId := by
  unfold ThreadDirectory.turn? at readable
  split at readable
  · cases readable
    rfl
  · cases readable

theorem readable_ids (files : ThreadDirectory) (records : List TurnRecord) :
    ((files.readable crates paths records).map Turn.id).Sublist
      (records.map TurnRecord.turnId) := by
  unfold ThreadDirectory.readable
  induction records with
  | nil => exact .slnil
  | cons record records ih =>
    cases readable : files.turn? crates paths record with
    | none =>
      rw [List.filterMap_cons_none readable]
      exact ih.cons _
    | some turn =>
      rw [List.filterMap_cons_some readable, List.map_cons, turn?_id readable]
      exact ih.cons_cons _

/-- A walk from a position has the readable turns before it. -/
theorem walkHistory_spec (positive : 0 < limit) (distinct : (records.map TurnRecord.turnId).Nodup)
    (fuel : ℕ) (files : ThreadDirectory) (before : Option TurnId)
    (indexed : loadTurnRecords crates (paths.history crates) files.history = .ok records)
    (inside : pageEnd records before ≤ records.length) (enough : pageEnd records before < fuel) :
    ∃ pages, walkHistory crates paths moveFault limit fuel files before = some (.ok pages) ∧
      pages.reverse.flatten =
        files.readable crates paths (records.take (pageEnd records before)) := by
  induction fuel generalizing files before with
  | zero => exact absurd enough (Nat.not_lt_zero _)
  | succ fuel ih =>
    obtain ⟨same, start, page⟩ := @pageRecords_spec crates paths (moveFault fuel) records limit
      (pageEnd records before) files [] 0 inside
      (fun full => absurd full (Nat.not_le.2 positive))
    unfold walkHistory loadHistory
    dsimp only
    rw [indexed]
    dsimp only [loadHistoryPageRecords]
    rw [page.more]
    have turns := page.turns
    rw [List.reverse_nil, List.append_nil] at turns
    by_cases more : 0 < start
    · obtain ⟨record, turn, rest, there, readable, head⟩ := page.first more
      have next : pageEnd records (some turn.id) = start := by
        rw [turn?_id readable, pageEnd, findIdx?_of_record distinct there, Option.getD_some]
      have earlier : start < pageEnd records before := by
        refine lt_of_le_of_ne page.start_le ?_
        rintro rfl
        rw [List.self_eq_append_right, head] at turns
        cases turns
      obtain ⟨pages, walked, older⟩ := ih _ (some turn.id)
        (by rw [same.history]; exact indexed) (by omega) (by omega)
      rw [decide_eq_true more, if_pos rfl, head]
      dsimp only
      rw [walked]
      refine ⟨(turn :: rest) :: pages, rfl, ?_⟩
      rw [List.reverse_cons, List.flatten_append, older, next, same.readable, turns, head,
        List.flatten_singleton]
    · have oldest : start = 0 := Nat.eq_zero_of_not_pos more
      rw [decide_eq_false more, if_neg Bool.false_ne_true]
      refine ⟨[_], rfl, ?_⟩
      rw [turns, oldest, List.take_zero, List.reverse_singleton, List.flatten_singleton]
      rfl

/-- The turns after a readable one are the readable turns that follow it. -/
theorem loadTurnsAfter_spec {fault : TurnId → Bool} {files : ThreadDirectory}
    (indexed : loadTurnRecords crates (paths.history crates) files.history = .ok records)
    {earlier later : List Turn} {turn : Turn}
    (split : files.readable crates paths records = earlier ++ turn :: later) :
    (loadTurnsAfter crates paths fault files turn.id).2 = .ok (some later) := by
  unfold ThreadDirectory.readable at split
  obtain ⟨front, back, rfl, -, second⟩ := List.filterMap_eq_append_iff.1 split
  obtain ⟨damaged, record, rest, rfl, unread, readable, after⟩ := List.filterMap_eq_cons_iff.1 second
  have there : (front ++ (damaged ++ record :: rest))[front.length + damaged.length]? =
      some record := by
    rw [← List.append_assoc, ← List.length_append, List.getElem?_append_right le_rfl, Nat.sub_self]
    rfl
  have position := findIdx?_of_record (loadTurnRecords_distinct indexed) there
  rw [← turn?_id readable] at position
  have suffix_ : (front ++ (damaged ++ record :: rest)).drop (front.length + damaged.length + 1) =
      rest := by
    rw [← List.append_assoc, ← List.length_append, List.drop_append, List.drop_of_length_le (by omega),
      Nat.add_sub_cancel_left]
    rfl
  unfold loadTurnsAfter
  rw [indexed]
  dsimp only
  rw [position]
  dsimp only
  rw [suffix_, (@assembleTurnRecords_spec crates paths fault files rest).2,
    ThreadDirectory.readable, after]

/-- The number of turns in the index. -/
def ThreadDirectory.indexSize (crates : Crates) (paths : ThreadPaths) (files : ThreadDirectory) :
    ℕ :=
  match loadTurnRecords crates (paths.history crates) files.history with
  | .ok records => records.length
  | .error _ => 0

end Walks

/-- Walking back by pages of any size ends, and has every readable turn once and in the order of
the index, whatever payloads are missing or damaged; the turns after a readable one are the
readable turns that follow it. An index that cannot be read fails the walk at its first page. -/
theorem history_pages_complete (crates : Crates) (paths : ThreadPaths)
    (moveFault : ℕ → TurnId → Bool) (fault : TurnId → Bool) (files : ThreadDirectory) (limit fuel : ℕ)
    (positive : 1 ≤ limit) (enough : files.indexSize crates paths < fuel) :
    match loadTurnRecords crates (paths.history crates) files.history with
    | .error error =>
      walkHistory crates paths moveFault limit fuel files none = some (.error error)
    | .ok records =>
      (∃ pages, walkHistory crates paths moveFault limit fuel files none = some (.ok pages) ∧
        pages.reverse.flatten = files.readable crates paths records) ∧
      ((files.readable crates paths records).map Turn.id).Nodup ∧
      ∀ earlier turn later, files.readable crates paths records = earlier ++ turn :: later →
        (loadTurnsAfter crates paths fault files turn.id).2 = .ok (some later) := by
  unfold ThreadDirectory.indexSize at enough
  cases indexed : loadTurnRecords crates (paths.history crates) files.history with
  | error error =>
    obtain ⟨fuel, rfl⟩ := Nat.exists_eq_succ_of_ne_zero (Nat.ne_of_gt (Nat.zero_lt_of_lt enough))
    unfold walkHistory loadHistory
    rw [indexed]
  | ok records =>
    rw [indexed] at enough
    have distinct := loadTurnRecords_distinct indexed
    refine ⟨?_, ?_, ?_⟩
    · have walk := @walkHistory_spec crates paths moveFault records limit positive distinct fuel
        files none indexed le_rfl enough
      rw [pageEnd, List.take_length] at walk
      exact walk
    · exact distinct.sublist (readable_ids files records)
    · intro earlier turn later split
      exact loadTurnsAfter_spec indexed split

def sampleEntries : List IndexEntry :=
  [.turn (TurnRecord.fromTurn (sampleIndexTurn 1)), .turn (TurnRecord.fromTurn (sampleIndexTurn 2))]

/-- Two turns, of which the first has no payload file. -/
noncomputable def sampleDirectory : ThreadDirectory where
  metadata := none
  history := some (utf8 ((sampleEntries.map (IndexEntry.value Crates.reference)).flatMap lineOf ++
    [].flatten))
  turns := Function.update (fun _ => none) ⟨⟨2⟩⟩
    (some (utf8 ((payloadValues Crates.reference (sampleIndexTurn 2)).flatMap lineOf)))

theorem sampleDirectory_records (paths : ThreadPaths) :
    loadTurnRecords Crates.reference (paths.history Crates.reference) sampleDirectory.history =
      .ok [TurnRecord.fromTurn (sampleIndexTurn 1), TurnRecord.fromTurn (sampleIndexTurn 2)] := by
  have shape : IndexShape Crates.reference (sampleDirectory.history.getD []) sampleEntries [] := by
    refine ⟨rfl, ?_⟩
    intro piece member
    cases member
  have distinct : (recordsOf sampleEntries).foldl addRecord [] =
      [TurnRecord.fromTurn (sampleIndexTurn 1), TurnRecord.fromTurn (sampleIndexTurn 2)] := by
    apply foldl_addRecord_distinct
    simp [recordsOf, sampleEntries, IndexEntry.record?, TurnRecord.fromTurn, sampleIndexTurn]
  rw [← distinct]
  exact shape.read_closed _

/-- Pages of one turn. -/
theorem history_pages_complete_sample :
    let paths : ThreadPaths := ⟨"threads", ⟨⟨1⟩⟩, .directory⟩
    let records := [TurnRecord.fromTurn (sampleIndexTurn 1), TurnRecord.fromTurn (sampleIndexTurn 2)]
    (∃ pages, walkHistory Crates.reference paths (fun _ _ => false) 1 3 sampleDirectory none =
        some (.ok pages) ∧
      pages.reverse.flatten = sampleDirectory.readable Crates.reference paths records) ∧
    ((sampleDirectory.readable Crates.reference paths records).map Turn.id).Nodup ∧
    ∀ earlier turn later,
      sampleDirectory.readable Crates.reference paths records = earlier ++ turn :: later →
      (loadTurnsAfter Crates.reference paths (fun _ => false) sampleDirectory turn.id).2 =
        .ok (some later) := by
  intro paths records
  have indexed := sampleDirectory_records paths
  generalize sampleDirectory = files at indexed ⊢
  have size : files.indexSize Crates.reference paths = 2 := by
    rw [ThreadDirectory.indexSize, indexed]
    rfl
  have complete := history_pages_complete Crates.reference paths (fun _ _ => false)
    (fun _ => false) files 1 3 le_rfl (by rw [size]; decide)
  rw [indexed] at complete
  exact complete

end Giskard
