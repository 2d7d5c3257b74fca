import Mathlib
import Giskard.Foundation.Schedule
import Giskard.Model.HistoryCache
import Giskard.Analysis.HistoryPaging
import Giskard.Analysis.PayloadAmendments

/-!
# Loads that race with amendments

What a load parses has every amendment that was appended before its read. The cache is dropped by
each amendment after its append, so that an entry has every amendment that has returned, unless a
load puts in what it read before one that has returned since.

SOURCE: crates/giskard-persist/src/store.rs.
-/

set_option autoImplicit false

namespace Giskard

open Foundation

/-! ## Committed turns -/

/-- A turn of a thread as it was committed. -/
structure Commit where
  turn : Turn
  captured : List CapturedDiffRecord
  projected : Turn

/-- The items that a log has for a turn. -/
def amendedItems (log : List Amendment) (turn : TurnId) : List Item :=
  (log.filter fun amendment => amendment.turn = turn).map Amendment.item

theorem amendedItems_concat (log : List Amendment) (amendment : Amendment) (turn : TurnId) :
    amendedItems (log ++ [amendment]) turn =
      amendedItems log turn ++ if amendment.turn = turn then [amendment.item] else [] := by
  unfold amendedItems
  rw [List.filter_append, List.map_append]
  by_cases same : amendment.turn = turn
  · rw [if_pos same, List.filter_cons_of_pos (by simpa using same)]
    rfl
  · rw [if_neg same, List.filter_cons_of_neg (by simpa using same)]
    rfl

/-- The payload of a commit has the amendments of the log. -/
structure Holds (crates : Crates) (paths : ThreadPaths) (commit : Commit) (log : List Amendment)
    (files : ThreadDirectory) : Prop where
  payload : ∃ file diffs, files.turns commit.turn.id = some file ∧
    (∀ entry ∈ diffs, entry.2 ∈ commit.projected.diffs) ∧
    AmendState crates (paths.turnPayload crates commit.turn.id) commit.projected diffs
      commit.projected.items ⟨file, amendedItems log commit.turn.id, 0⟩
  committed : CommittedTurn crates commit.turn commit.captured commit.projected
  recordable : ∀ item ∈ amendedItems log commit.turn.id, Recordable crates item

section Payloads

variable {crates : Crates} {paths : ThreadPaths} {commit : Commit} {log : List Amendment}
  {files : ThreadDirectory}

theorem Holds.read (holds : Holds crates paths commit log files) (fault : Bool) :
    ∃ payload,
      readTurnPayload crates (paths.turnPayload crates commit.turn.id) fault
        (files.turns commit.turn.id) = (files.turns commit.turn.id, .ok (some payload)) ∧
      payload.items = (IndexMap.collect Item.id
        (commit.projected.items ++ amendedItems log commit.turn.id)).values.map
          (fun item => (item.recorded.takeBodies crates).1) := by
  obtain ⟨file, diffs, stored, listed, state⟩ := holds.payload
  obtain ⟨payload, read, -, -, items, -⟩ := state.read (fun item member => by
      rcases List.mem_append.1 member with old | new
      · exact ⟨holds.committed.valid item old, holds.committed.inline item old⟩
      · exact ⟨(holds.recordable item new).valid, (holds.recordable item new).inline⟩)
    (fun entry member => holds.committed.diffs _ (listed entry member)) fault
  rw [stored]
  exact ⟨payload, read, items⟩

theorem Holds.turn (holds : Holds crates paths commit log files) {record : TurnRecord}
    (recordId : record.turnId = commit.turn.id) :
    ∃ turn, files.turn? crates paths record = some turn ∧ turn.id = commit.turn.id ∧
      turn.items = (IndexMap.collect Item.id
        (commit.projected.items ++ amendedItems log commit.turn.id)).values.map
          (fun item => (item.recorded.takeBodies crates).1) := by
  obtain ⟨payload, read, items⟩ := holds.read false
  refine ⟨record.intoTurn payload, ?_, recordId, items⟩
  unfold ThreadDirectory.turn?
  rw [recordId, read]

theorem Holds.assemble (holds : Holds crates paths commit log files) (moveFault : TurnId → Bool)
    (records : List TurnRecord) :
    Holds crates paths commit log
      (assembleTurnRecords crates paths moveFault files records).1 := by
  induction records generalizing files with
  | nil => exact holds
  | cons record records ih =>
    refine ih ⟨?_, holds.committed, holds.recordable⟩
    obtain ⟨file, diffs, stored, listed, state⟩ := holds.payload
    refine ⟨file, diffs, ?_, listed, state⟩
    unfold assembleTurnRecord
    dsimp only
    by_cases same : commit.turn.id = record.turnId
    · obtain ⟨payload, read, -⟩ := holds.read (moveFault commit.turn.id)
      rw [same] at read stored ⊢
      rw [Function.update_self, read, stored]
    · rw [Function.update_of_ne same, stored]

/-- An amendment of any turn. -/
theorem Holds.amend (holds : Holds crates paths commit log files) {amendment : Amendment}
    {file : List UInt8} (stored : files.turns amendment.turn = some file)
    (recordable : Recordable crates amendment.item) :
    Holds crates paths commit (log ++ [amendment]) { files with
      turns := Function.update files.turns amendment.turn
        (some (amendPayload crates file ⟨amendment.item, none⟩)) } := by
  obtain ⟨file', diffs, stored', listed, state⟩ := holds.payload
  refine ⟨?_, holds.committed, ?_⟩
  · rw [amendedItems_concat]
    dsimp only
    by_cases same : amendment.turn = commit.turn.id
    · rw [if_pos same]
      rw [same, stored', Option.some.injEq] at stored
      subst stored
      have next := @AmendState.amend crates _ _ _ _ _ state ⟨amendment.item, none⟩
        ⟨recordable, trivial⟩
      refine ⟨_, diffs, by rw [same, Function.update_self], listed, ?_⟩
      have written : AmendRun.step crates ⟨file', amendedItems log commit.turn.id, 0⟩
          ⟨amendment.item, none⟩ = ⟨amendPayload crates file' ⟨amendment.item, none⟩,
            amendedItems log commit.turn.id ++ [amendment.item], 0⟩ := by
        unfold AmendRun.step amendPiece
        simp
      rw [written] at next
      exact next
    · rw [if_neg same, List.append_nil]
      exact ⟨file', diffs, by rw [Function.update_of_ne (Ne.symm same), stored'], listed, state⟩
  · intro item member
    rw [amendedItems_concat] at member
    rcases List.mem_append.1 member with old | new
    · exact holds.recordable item old
    · split at new
      · rw [List.mem_singleton] at new
        subst new
        exact recordable
      · cases new

end Payloads

/-! ## What a load has seen -/

/-- The turns have each of the first amendments of the log, or a later one of its item. -/
def Seen (crates : Crates) (turns : List Turn) (log : List Amendment) (count : ℕ) : Prop :=
  ∀ k amendment, k < count → log[k]? = some amendment →
    ∃ turn ∈ turns, turn.id = amendment.turn ∧
      ∃ later item, k ≤ later ∧ log[later]? = some ⟨amendment.turn, item⟩ ∧
        item.id = amendment.item.id ∧ (item.recorded.takeBodies crates).1 ∈ turn.items

theorem Seen.extend {crates : Crates} {turns : List Turn} {log : List Amendment} {count : ℕ}
    (seen : Seen crates turns log count) (within : count ≤ log.length) (amendment : Amendment) :
    Seen crates turns (log ++ [amendment]) count := by
  intro k earlier below there
  rw [List.getElem?_append_left (below.trans_le within)] at there
  obtain ⟨turn, member, id, later, item, after, found, same, items⟩ := seen k earlier below there
  refine ⟨turn, member, id, later, item, after, ?_, same, items⟩
  have inside := (List.getElem?_eq_some_iff.1 found).1
  rw [List.getElem?_append_left inside, found]

/-- The last record of an amended item is of an amendment that is not earlier. -/
theorem lastAmendment {items : List Item} {log : List Amendment} {k : ℕ} {amendment : Amendment}
    (there : log[k]? = some amendment) :
    ∃ later item, k ≤ later ∧ log[later]? = some ⟨amendment.turn, item⟩ ∧
      item.id = amendment.item.id ∧
      (IndexMap.collect Item.id (items ++ amendedItems log amendment.turn)).get?
        amendment.item.id = some item := by
  induction log using List.reverseRecOn with
  | nil => cases there
  | append_singleton log last ih =>
    have inside := (List.getElem?_eq_some_iff.1 there).1
    rw [List.length_append, List.length_singleton] at inside
    rw [amendedItems_concat]
    by_cases here : last.turn = amendment.turn ∧ last.item.id = amendment.item.id
    · refine ⟨log.length, last.item, Nat.lt_succ_iff.1 inside, ?_, here.2, ?_⟩
      · rw [List.getElem?_concat_length, ← here.1]
      · rw [if_pos here.1, ← List.append_assoc, IndexMap.collect_concat, ← here.2,
          IndexMap.get?_insert_self]
    · have before : k < log.length := by
        refine lt_of_le_of_ne (Nat.lt_succ_iff.1 inside) ?_
        rintro rfl
        rw [List.getElem?_concat_length, Option.some.injEq] at there
        subst there
        exact here ⟨rfl, rfl⟩
      rw [List.getElem?_append_left before] at there
      obtain ⟨later, item, after, found, same, value⟩ := ih there
      refine ⟨later, item, after, ?_, same, ?_⟩
      · rw [List.getElem?_append_left (List.getElem?_eq_some_iff.1 found).1, found]
      · by_cases sameTurn : last.turn = amendment.turn
        · rw [if_pos sameTurn, ← List.append_assoc, IndexMap.collect_concat,
            IndexMap.get?_insert_of_ne _ (fun equal => here ⟨sameTurn, equal.symm⟩), value]
        · rw [if_neg sameTurn, List.append_nil, value]

/-- The commits of a thread, whose amendments the log has. -/
structure Thread (crates : Crates) (paths : ThreadPaths) (commits : List Commit)
    (records : List TurnRecord) (log : List Amendment) (files : ThreadDirectory) : Prop where
  indexed : loadTurnRecords crates (paths.history crates) files.history = .ok records
  listed : ∀ commit ∈ commits, ∃ record ∈ records, record.turnId = commit.turn.id
  holds : ∀ commit ∈ commits, Holds crates paths commit log files
  targets : ∀ amendment ∈ log, ∃ commit ∈ commits, commit.turn.id = amendment.turn

section Reads

variable {crates : Crates} {paths : ThreadPaths} {commits : List Commit}
  {records : List TurnRecord} {log : List Amendment} {files : ThreadDirectory}

theorem Thread.seen (thread : Thread crates paths commits records log files)
    (moveFault : TurnId → Bool) :
    Seen crates (assembleTurnRecords crates paths moveFault files records).2 log log.length := by
  intro k amendment _ there
  obtain ⟨commit, member, same⟩ := thread.targets amendment (List.mem_of_getElem? there)
  obtain ⟨record, listed, recordId⟩ := thread.listed commit member
  obtain ⟨turn, read, turnId, items⟩ := (thread.holds commit member).turn recordId
  obtain ⟨later, item, after, found, itemId, value⟩ :=
    @lastAmendment commit.projected.items log k amendment there
  refine ⟨turn, ?_, turnId.trans same, later, item, after, found, itemId, ?_⟩
  · rw [(assembleTurnRecords_spec records).2]
    exact List.mem_filterMap.2 ⟨record, listed, read⟩
  · rw [items, same]
    exact List.mem_map_of_mem (IndexMap.mem_values_iff.2 ⟨_, value⟩)

theorem Thread.assemble (thread : Thread crates paths commits records log files)
    (moveFault : TurnId → Bool) :
    Thread crates paths commits records log
      (assembleTurnRecords crates paths moveFault files records).1 := by
  have same := (@assembleTurnRecords_spec crates paths moveFault files records).1
  exact ⟨by rw [same.history]; exact thread.indexed, thread.listed,
    fun commit member => (thread.holds commit member).assemble moveFault records, thread.targets⟩

theorem assembleTurnRecords_absent {moveFault : TurnId → Bool} {turn : TurnId}
    (absent : files.turns turn = none) (records : List TurnRecord) :
    (assembleTurnRecords crates paths moveFault files records).1.turns turn = none := by
  induction records generalizing files with
  | nil => exact absent
  | cons record records ih =>
    apply ih
    unfold assembleTurnRecord
    dsimp only
    by_cases same : turn = record.turnId
    · subst same
      rw [Function.update_self, absent]
      rfl
    · rw [Function.update_of_ne same, absent]

theorem Thread.unindexed (thread : Thread crates paths commits records log files)
    (absent : files.history = none) : log = [] := by
  have indexed := thread.indexed
  rw [absent] at indexed
  cases indexed
  rw [List.eq_nil_iff_forall_not_mem]
  intro amendment member
  obtain ⟨commit, committed, -⟩ := thread.targets amendment member
  obtain ⟨record, listed, -⟩ := thread.listed commit committed
  cases listed

end Reads

/-! ## Runs -/

namespace CacheRace

/-- A load puts in what it has parsed only while no amendment that was appended after its read
has returned. -/
def Sound (state : CacheRace) : CacheChoice → Prop
  | .load i _ => match state.loads i with
    | .parsed _ _ readAt _ => ∀ k ∈ state.done, k < readAt
    | _ => True
  | .amend _ => True

variable (crates : Crates) (commits : List Commit)

/-- What a load has, it has seen. -/
def LoadHolds (log : List Amendment) : LoadCall → Prop
  | .checked _ _ after => ∀ k ∈ after, k < log.length
  | .parsed turns _ readAt after =>
    readAt ≤ log.length ∧ Seen crates turns log readAt ∧ ∀ k ∈ after, k < readAt
  | .returned turns after => ∃ count ≤ log.length, Seen crates turns log count ∧
      ∀ k ∈ after, k < count
  | _ => True

/-- An amendment is of a committed turn, or of one that has no payload. -/
def AmendHolds (files : ThreadDirectory) (log : List Amendment) : AmendCall → Prop
  | .start amendment => Recordable crates amendment.item ∧
      (files.turns amendment.turn = none ∨ ∃ commit ∈ commits, commit.turn.id = amendment.turn)
  | .appended index => index < log.length
  | _ => True

/-- The cache and the loads have the amendments that had returned. -/
structure Consistent (paths : ThreadPaths) (records : List TurnRecord) (state : CacheRace) :
    Prop where
  thread : Thread crates paths commits records state.log state.files
  done : ∀ k ∈ state.done, k < state.log.length
  cache : ∀ entry, state.cache = some entry → ∃ count ≤ state.log.length,
    Seen crates entry.turns state.log count ∧ ∀ k ∈ state.done, k < count
  loads : ∀ i, LoadHolds crates state.log (state.loads i)
  amends : ∀ j, AmendHolds crates commits state.files state.log (state.amends j)

section Steps

variable {crates commits} {paths : ThreadPaths} {records : List TurnRecord} {state : CacheRace}

theorem AmendHolds.assemble {files : ThreadDirectory} {log : List Amendment} {call : AmendCall}
    (holds : AmendHolds crates commits files log call) (moveFault : TurnId → Bool)
    (records : List TurnRecord) :
    AmendHolds crates commits (assembleTurnRecords crates paths moveFault files records).1 log
      call := by
  cases call with
  | start amendment =>
    obtain ⟨recordable, absent | target⟩ := holds
    · exact ⟨recordable, .inl (assembleTurnRecords_absent absent records)⟩
    · exact ⟨recordable, .inr target⟩
  | appended index => exact holds
  | _ => trivial

theorem Consistent.setLoad (holds : Consistent crates commits paths records state) {i : ℕ}
    {call : LoadCall} (mine : LoadHolds crates state.log call) :
    Consistent crates commits paths records
      { state with loads := Function.update state.loads i call } := by
  refine ⟨holds.thread, holds.done, holds.cache, ?_, holds.amends⟩
  intro j
  dsimp only
  by_cases same : j = i
  · subst same
    rw [Function.update_self]
    exact mine
  · rw [Function.update_of_ne same]
    exact holds.loads j

theorem Consistent.dropCache (holds : Consistent crates commits paths records state) :
    Consistent crates commits paths records { state with cache := none } :=
  ⟨holds.thread, holds.done, (fun _ none_ => by cases none_), holds.loads, holds.amends⟩

theorem Consistent.unindexed (holds : Consistent crates commits paths records state)
    (absent : state.files.history = none) {after : List ℕ}
    (before : ∀ k ∈ after, k < state.log.length) :
    LoadHolds crates state.log (.returned [] after) := by
  have empty := holds.thread.unindexed absent
  refine ⟨0, Nat.zero_le _, ?_, ?_⟩
  · intro k _ below
    exact absurd below (Nat.not_lt_zero k)
  · intro k member
    have inside := before k member
    rw [empty] at inside
    exact inside

theorem Consistent.checkCache (holds : Consistent crates commits paths records state) (i : ℕ) :
    Consistent crates commits paths records (state.checkCache i) := by
  unfold CacheRace.checkCache
  cases absent : state.files.history with
  | none => exact holds.dropCache.setLoad (holds.unindexed absent holds.done)
  | some bytes =>
    unfold historyFileMeta
    rw [Option.map_some]
    dsimp only
    cases valid : validEntry state.cache ⟨bytes.length, state.modified⟩ with
    | none => exact holds.setLoad holds.done
    | some entry =>
      have cached := (Option.filter_eq_some_iff.1 valid).1
      exact holds.setLoad (holds.cache entry cached)

theorem Consistent.readHistory (holds : Consistent crates commits paths records state) {i : ℕ}
    {fileMeta : HistoryFileMeta} {attempt : ℕ} {after : List ℕ}
    (before : ∀ k ∈ after, k < state.log.length) (moveFault : TurnId → Bool) :
    Consistent crates commits paths records
      (CacheRace.readHistory crates paths moveFault state i fileMeta attempt after) := by
  unfold CacheRace.readHistory
  cases stored : state.files.history with
  | none => exact holds.dropCache.setLoad (holds.unindexed stored before)
  | some bytes =>
    dsimp only
    cases decoded : readUtf8 bytes with
    | none => exact holds.setLoad trivial
    | some data =>
      dsimp only
      split
      · apply holds.setLoad
        split
        · exact before
        · trivial
      · have parsed : parseHistoryIndex crates (paths.history crates) data = .ok records := by
          have indexed := holds.thread.indexed
          rw [stored, loadTurnRecords, decoded] at indexed
          exact indexed
        unfold assembleTurns
        rw [parsed]
        dsimp only
        have read : Consistent crates commits paths records { state with
            files := (assembleTurnRecords crates paths moveFault state.files records).1 } :=
          ⟨holds.thread.assemble moveFault, holds.done, holds.cache, holds.loads,
            fun j => (holds.amends j).assemble moveFault records⟩
        exact read.setLoad ⟨le_rfl, holds.thread.seen moveFault, before⟩

theorem Consistent.loadStep (holds : Consistent crates commits paths records state) {i : ℕ}
    {moveFault : TurnId → Bool} (sound : Sound state (.load i moveFault)) :
    Consistent crates commits paths records
      (CacheRace.loadStep crates paths moveFault state i) := by
  have mine := holds.loads i
  unfold Sound at sound
  unfold CacheRace.loadStep
  dsimp only at sound
  cases place : state.loads i with
  | start => exact holds.checkCache i
  | checked fileMeta attempt after =>
    rw [place] at mine
    exact holds.readHistory mine moveFault
  | parsed turns fileMeta readAt after =>
    rw [place] at mine sound
    obtain ⟨within, seen, all⟩ := mine
    have installed : Consistent crates commits paths records
        { state with cache := some ⟨turns, fileMeta⟩ } :=
      ⟨holds.thread, holds.done, (fun entry same => by
        cases same
        exact ⟨readAt, within, seen, sound⟩), holds.loads, holds.amends⟩
    exact installed.setLoad ⟨readAt, within, seen, all⟩
  | returned turns after => exact holds
  | failed error => exact holds

theorem Consistent.append (holds : Consistent crates commits paths records state) {j : ℕ}
    {amendment : Amendment} {file : List UInt8} (place : state.amends j = .start amendment)
    (stored : state.files.turns amendment.turn = some file) :
    Consistent crates commits paths records { state with
      files := { state.files with
        turns := Function.update state.files.turns amendment.turn
          (some (amendPayload crates file ⟨amendment.item, none⟩)) }
      amends := Function.update state.amends j (.appended state.log.length)
      log := state.log ++ [amendment] } := by
  have mine := holds.amends j
  rw [place] at mine
  obtain ⟨recordable, absent | target⟩ := mine
  · rw [stored] at absent
    cases absent
  have grows : state.log.length ≤ (state.log ++ [amendment]).length := by simp
  refine ⟨⟨holds.thread.indexed, holds.thread.listed, ?_, ?_⟩, ?_, ?_, ?_, ?_⟩
  · intro commit member
    exact (holds.thread.holds commit member).amend stored recordable
  · intro other member
    rcases List.mem_append.1 member with old | new
    · exact holds.thread.targets other old
    · rw [List.mem_singleton] at new
      subst new
      exact target
  · intro k member
    exact (holds.done k member).trans_le grows
  · intro entry cached
    obtain ⟨count, within, seen, all⟩ := holds.cache entry cached
    exact ⟨count, within.trans grows, seen.extend within amendment, all⟩
  · intro i
    have load := holds.loads i
    dsimp only
    cases here : state.loads i with
    | checked fileMeta attempt after =>
      rw [here] at load
      exact fun k member => (load k member).trans_le grows
    | parsed turns fileMeta readAt after =>
      rw [here] at load
      exact ⟨load.1.trans grows, load.2.1.extend load.1 amendment, load.2.2⟩
    | returned turns after =>
      rw [here] at load
      obtain ⟨count, within, seen, all⟩ := load
      exact ⟨count, within.trans grows, seen.extend within amendment, all⟩
    | _ => trivial
  · intro i
    dsimp only
    by_cases same : i = j
    · subst same
      rw [Function.update_self]
      change state.log.length < _
      simp
    · rw [Function.update_of_ne same]
      have other := holds.amends i
      cases here : state.amends i with
      | start other' =>
        rw [here] at other
        obtain ⟨recordable', absent | target'⟩ := other
        · refine ⟨recordable', .inl ?_⟩
          dsimp only
          rw [Function.update_of_ne (fun same => by rw [same, stored] at absent; cases absent),
            absent]
        · exact ⟨recordable', .inr target'⟩
      | appended index =>
        rw [here] at other
        exact Nat.lt_of_lt_of_le other grows
      | _ => trivial

theorem Consistent.setAmend (holds : Consistent crates commits paths records state) {j : ℕ}
    {call : AmendCall} (mine : AmendHolds crates commits state.files state.log call) :
    Consistent crates commits paths records
      { state with amends := Function.update state.amends j call } := by
  refine ⟨holds.thread, holds.done, holds.cache, holds.loads, ?_⟩
  intro i
  dsimp only
  by_cases same : i = j
  · subst same
    rw [Function.update_self]
    exact mine
  · rw [Function.update_of_ne same]
    exact holds.amends i

theorem Consistent.amendStep (holds : Consistent crates commits paths records state) (j : ℕ) :
    Consistent crates commits paths records (CacheRace.amendStep crates paths state j) := by
  have mine := holds.amends j
  unfold CacheRace.amendStep
  cases place : state.amends j with
  | start amendment =>
    dsimp only
    cases stored : state.files.turns amendment.turn with
    | none => exact holds.setAmend trivial
    | some file => exact holds.append place stored
  | appended index =>
    rw [place] at mine
    have dropped : Consistent crates commits paths records
        { state with cache := none, done := state.done ++ [index] } := by
      refine ⟨holds.thread, ?_, (fun _ none_ => by cases none_), holds.loads, holds.amends⟩
      intro k member
      rcases List.mem_append.1 member with old | new
      · exact holds.done k old
      · rw [List.mem_singleton] at new
        subst new
        exact mine
    exact dropped.setAmend trivial
  | returned index => exact holds
  | failed error => exact holds

theorem Consistent.step (holds : Consistent crates commits paths records state)
    {choice : CacheChoice} (sound : Sound state choice) :
    Consistent crates commits paths records (CacheRace.step crates paths state choice) := by
  cases choice with
  | load i moveFault => exact holds.loadStep sound
  | amend j => exact holds.amendStep j

end Steps

/-- No operation has begun. The cache may have anything. -/
structure Fresh (paths : ThreadPaths) (records : List TurnRecord) (state : CacheRace) : Prop where
  thread : Thread crates paths commits records [] state.files
  log : state.log = []
  done : state.done = []
  loads : ∀ i, state.loads i = .start
  amends : ∀ j, ∃ amendment, state.amends j = .start amendment ∧
    AmendHolds crates commits state.files [] (.start amendment)

theorem Fresh.consistent {crates : Crates} {commits : List Commit} {paths : ThreadPaths}
    {records : List TurnRecord} {state : CacheRace}
    (fresh : Fresh crates commits paths records state) :
    Consistent crates commits paths records state := by
  obtain ⟨thread, log, done, loads, amends⟩ := fresh
  refine ⟨by rw [log]; exact thread, ?_, ?_, ?_, ?_⟩
  · rw [done]
    intro k member
    cases member
  · intro entry _
    refine ⟨0, Nat.zero_le _, ?_, ?_⟩
    · intro k _ below
      exact absurd below (Nat.not_lt_zero k)
    · rw [done]
      intro k member
      cases member
  · intro i
    rw [loads i]
    trivial
  · intro j
    obtain ⟨amendment, begun, holds⟩ := amends j
    rw [begun]
    exact holds

/-- A thread before any operation, all of whose amendments are the same. -/
def idle (files : ThreadDirectory) (amendment : Amendment) : CacheRace where
  files := files
  modified := none
  cache := none
  loads := fun _ => .start
  amends := fun _ => .start amendment
  log := []
  done := []

section Interleavings

variable {crates : Crates} {paths : ThreadPaths} {files : ThreadDirectory} {bytes file : List UInt8}
  {data : List Char} {records : List TurnRecord} {amendment : Amendment}
  {moveFault : TurnId → Bool}

end Interleavings

/-! ## Samples -/

end CacheRace

end Giskard
