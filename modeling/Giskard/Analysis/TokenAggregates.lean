import Mathlib
import Giskard.Model.TurnCommit
import Giskard.Analysis.IndexAppends
import Giskard.Analysis.ThreadMetadata

/-!
# The token aggregates

The metadata counts the usage of each commit; a repair counts the records of the index, one for
each turn. They agree as long as no turn is committed twice: the reader passes over the second
record of a turn, the commit counts it again.

SOURCE: crates/giskard-persist/src/store.rs.
-/

set_option autoImplicit false

namespace Giskard

open Foundation

/-! ## The index after appends in full -/

/-- The file has nothing, or ends in a newline. -/
def EndsLine (file : Option (List UInt8)) : Prop :=
  file.getD [] = [] ∨ (file.getD []).getLast? = some 10

section Index

variable {crates : Crates} {thread : ThreadId} {file : Option (List UInt8)}
  {written : List TurnRecord}

theorem IndexState.read (state : IndexState crates file written) (ends : EndsLine file)
    (path : String) :
    loadTurnRecords crates path file = .ok (written.foldl addRecord []) := by
  obtain ⟨entries, pieces, shape, records, absent⟩ := state.shape
  have closed := shape.closed ends
  subst closed
  subst records
  cases file with
  | none =>
    obtain ⟨rfl, -⟩ := absent rfl
    rfl
  | some bytes => exact shape.read_closed path

theorem appendIndex_endsLine (file : Option (List UInt8)) (turn : Turn) :
    EndsLine (appendIndex crates thread file ⟨turn, none⟩) := by
  right
  have newline : utf8 ['\n'] = [10] := by decide
  rw [appendIndex]
  dsimp only
  rw [utf8_append, newline, Option.getD_some, ← List.append_assoc, List.getLast?_concat]

theorem FreshIndex.endsLine (fresh : FreshIndex crates thread file) : EndsLine file := by
  rcases fresh with rfl | ⟨createdAt, rfl⟩
  · exact .inl rfl
  · right
    rw [Option.getD_some, getLast?_utf8, HistoryHeader.line, lineOf, List.getLast?_concat]

/-- An append that succeeds has added a whole line to the index. -/
theorem appendTurnUnlocked_history {env : AppendEnv} {files : ThreadDirectory} {turn : Turn}
    {captured : List CapturedDiffRecord}
    (appended : (appendTurnUnlocked crates thread env files turn captured).2 = .ok ()) :
    (appendTurnUnlocked crates thread env files turn captured).1.history =
      appendIndex crates thread files.history ⟨turn, none⟩ := by
  have kept {next : ThreadDirectory} (wrote : writePayload crates env files turn captured = .ok next) :
      next.history = files.history := by
    unfold writePayload at wrote
    split at wrote
    · cases wrote
      rfl
    · split at wrote
      · cases wrote
      · split at wrote
        · cases wrote
        · cases wrote
          rfl
  unfold appendTurnUnlocked at appended ⊢
  cases wrote : writePayload crates env files turn captured with
  | error error =>
    rw [wrote] at appended
    cases appended
  | ok next =>
    rw [wrote] at appended
    dsimp only at appended ⊢
    cases opened : env.openFault with
    | some message =>
      rw [opened] at appended
      cases appended
    | none =>
      rw [opened] at appended
      cases finished : env.historyFault with
      | some fault =>
        rw [finished] at appended
        cases appended
      | none =>
        dsimp only
        rw [kept wrote]

end Index

/-! ## Calls -/

section Calls

variable {crates : Crates} {paths : ThreadPaths} {stored : StoredThread}

/-- A commit whose append succeeds updates the metadata. -/
theorem commit_cases {thread : ThreadId} {env : AppendEnv} {metadataEnv : MetadataEnv} {turn : Turn}
    {captured : List CapturedDiffRecord}
    (appended : (appendTurnUnlocked crates thread env stored.files turn captured).2 = .ok ()) :
    ∃ metadata result,
      UpdateStep metadataEnv.now .recordActivity (fun file => { file with
          tokens := file.tokens.recordTurn turn.status.kind turn.model turn.usage })
        stored.metadata metadata result ∧
      appendTurnWithDiffsAndUpdateAggregates crates thread env metadataEnv stored turn captured =
        (⟨(appendTurnUnlocked crates thread env stored.files turn captured).1, metadata⟩,
          match result with
          | .ok mutation => .ok (.metadataMutation mutation)
          | .error error => .ok (.metadataFailed error)) := by
  refine ⟨_, _, @updateThreadWithRecencyUnlocked_step crates metadataEnv thread .recordActivity _
    stored.metadata, ?_⟩
  unfold appendTurnWithDiffsAndUpdateAggregates
  generalize appendTurnUnlocked crates thread env stored.files turn captured = append
    at appended ⊢
  obtain ⟨files, done⟩ := append
  dsimp only at appended
  subst appended
  dsimp only
  generalize updateThreadWithRecencyUnlocked crates metadataEnv thread .recordActivity _
    stored.metadata = update
  obtain ⟨metadata, result⟩ := update
  cases result <;> rfl

theorem recompute_cases {env : MetadataEnv} {records : List TurnRecord}
    (loaded : loadTurnRecords crates (paths.history crates) stored.files.history = .ok records) :
    ∃ recency metadata result,
      UpdateStep env.now recency (fun file => { file with tokens := ledgerOf records })
        stored.metadata metadata result ∧
      recomputeAggregates crates paths env stored = (⟨stored.files, metadata⟩, result) := by
  refine ⟨_, _, _, @updateThreadWithRecencyUnlocked_step crates env paths.thread
    (repairRecency records) _ stored.metadata, ?_⟩
  unfold recomputeAggregates
  rw [loaded]

end Calls

/-! ## Ledgers -/

theorem ledgerOf_concat (records : List TurnRecord) (record : TurnRecord) :
    ledgerOf (records ++ [record]) =
      (ledgerOf records).recordTurn record.status.kind record.model record.usage := by
  unfold ledgerOf
  rw [List.foldl_concat]

theorem recordTurn_uncounted {kind : TurnStatusKind} (uncounted : kind.isCounted = false)
    (ledger : TokenLedger) (model : TurnModel) (usage : TokenUsage) :
    ledger.recordTurn kind model usage = ledger := by
  unfold TokenLedger.recordTurn
  rw [uncounted]
  rfl

theorem ledgerOf_addRecord {records : List TurnRecord} {turn : Turn}
    (sound : turn.status.kind.isCounted = true → turn.id ∉ records.map TurnRecord.turnId) :
    ledgerOf (addRecord records (TurnRecord.fromTurn turn)) =
      (ledgerOf records).recordTurn turn.status.kind turn.model turn.usage := by
  by_cases there : turn.id ∈ records.map TurnRecord.turnId
  · have uncounted : turn.status.kind.isCounted = false := by
      rw [Bool.eq_false_iff]
      exact fun counted => sound counted there
    have kept : addRecord records (TurnRecord.fromTurn turn) = records := addRecord_repeated there
    rw [kept, recordTurn_uncounted uncounted]
  · have added : addRecord records (TurnRecord.fromTurn turn) =
        records ++ [TurnRecord.fromTurn turn] := addRecord_fresh there
    rw [added, ledgerOf_concat]
    rfl

/-! ## Runs -/

/-- A call on the thread. -/
inductive AggregateCall where
  | commit (env : AppendEnv) (metadataEnv : MetadataEnv) (turn : Turn)
      (captured : List CapturedDiffRecord)
  | recompute (env : MetadataEnv)

/-- A thread, and whether a metadata failure waits for a repair. -/
structure AggregateRun where
  stored : StoredThread
  outstanding : Bool

namespace AggregateRun

variable (crates : Crates) (paths : ThreadPaths)

def step (state : AggregateRun) : AggregateCall → AggregateRun
  | .commit env metadataEnv turn captured =>
    let result := appendTurnWithDiffsAndUpdateAggregates crates paths.thread env metadataEnv
      state.stored turn captured
    ⟨result.1, match result.2 with
      | .ok (.metadataFailed _) => true
      | _ => state.outstanding⟩
  | .recompute env =>
    let result := recomputeAggregates crates paths env state.stored
    ⟨result.1, match result.2 with
      | .ok _ => false
      | .error _ => state.outstanding⟩

/-- The append of a commit succeeds, and the turn is not in the index when its usage counts. -/
def Sound (state : AggregateRun) : AggregateCall → Prop
  | .commit env _ turn captured =>
    (appendTurnUnlocked crates paths.thread env state.stored.files turn captured).2 = .ok () ∧
      (turn.status.kind.isCounted = true → ∀ records,
        loadTurnRecords crates (paths.history crates) state.stored.files.history = .ok records →
        turn.id ∉ records.map TurnRecord.turnId)
  | .recompute _ => True

/-- A thread that was just created. -/
structure Fresh (state : AggregateRun) : Prop where
  index : FreshIndex crates paths.thread state.stored.files.history
  tokens : ∀ file, state.stored.metadata = .record file → file.tokens = .empty

/-- The index has whole lines, and the metadata counts the turns that it has. -/
structure Agrees (state : AggregateRun) : Prop where
  index : ∃ written, IndexState crates state.stored.files.history written ∧
    EndsLine state.stored.files.history ∧
    (state.outstanding = false → ∀ file, state.stored.metadata = .record file →
      file.tokens = ledgerOf (written.foldl addRecord []))

variable {crates paths} {state : AggregateRun}

theorem Fresh.agrees (fresh : Fresh crates paths state) : Agrees crates state :=
  ⟨[], fresh.index.state, fresh.index.endsLine, fun _ file stored => fresh.tokens file stored⟩

theorem durable_tokens {left right : ThreadFile} (same : left.durable = right.durable) :
    left.tokens = right.tokens := by
  have tokens := congrArg ThreadFile.tokens same
  exact tokens

theorem Agrees.commit (agrees : Agrees crates state) {env : AppendEnv} {metadataEnv : MetadataEnv}
    {turn : Turn} {captured : List CapturedDiffRecord}
    (sound : Sound crates paths state (.commit env metadataEnv turn captured)) :
    Agrees crates (step crates paths state (.commit env metadataEnv turn captured)) := by
  obtain ⟨written, index, ends, tokens⟩ := agrees.index
  obtain ⟨appended, fresh⟩ := sound
  have history := appendTurnUnlocked_history appended
  have records := index.read ends (paths.history crates)
  have counted := @ledgerOf_addRecord (written.foldl addRecord []) turn
    fun counts => fresh counts _ records
  have index' := @IndexState.full crates paths.thread _ _ index turn ends
  have ends' := @appendIndex_endsLine crates paths.thread state.stored.files.history turn
  rw [← history] at index' ends'
  obtain ⟨metadata, result, updated, call⟩ := @commit_cases crates state.stored paths.thread env
    metadataEnv turn captured appended
  unfold step
  dsimp only
  rw [call]
  refine ⟨written ++ [TurnRecord.fromTurn turn], index', ends', ?_⟩
  cases result with
  | error error =>
    intro settled
    cases settled
  | ok mutation =>
    intro settled file stored
    obtain ⟨before, had, durable⟩ := updated.ok_record stored
    rw [durable_tokens durable, List.foldl_concat, counted, ← tokens settled before had]
    rfl

theorem Agrees.recompute (agrees : Agrees crates state) (env : MetadataEnv) :
    Agrees crates (step crates paths state (.recompute env)) := by
  obtain ⟨written, index, ends, tokens⟩ := agrees.index
  obtain ⟨recency, metadata, result, updated, call⟩ := @recompute_cases crates paths state.stored
    env _ (index.read ends (paths.history crates))
  unfold step
  dsimp only
  rw [call]
  refine ⟨written, index, ends, ?_⟩
  intro settled file stored
  cases result with
  | ok mutation =>
    obtain ⟨before, -, durable⟩ := updated.ok_record stored
    rw [durable_tokens durable]
    rfl
  | error error => exact tokens settled file (updated.error_record stored)

theorem Agrees.step (agrees : Agrees crates state) {call : AggregateCall}
    (sound : Sound crates paths state call) : Agrees crates (step crates paths state call) := by
  cases call with
  | commit env metadataEnv turn captured => exact agrees.commit sound
  | recompute env => exact agrees.recompute env

/-- Once no metadata failure is outstanding the tokens are those of the index, and a repair leaves
them, as long as no commit repeats a turn that is in the index. -/
theorem tokens_rebuilt (crates : Crates) (paths : ThreadPaths) (start : AggregateRun)
    (calls : List AggregateCall) (fresh : Fresh crates paths start)
    (sound : Schedule.Meets (step crates paths) (Sound crates paths) start calls) :
    let reached := Schedule.run (step crates paths) start calls
    ∃ records,
      loadTurnRecords crates (paths.history crates) reached.stored.files.history = .ok records ∧
      (reached.outstanding = false → ∀ file, reached.stored.metadata = .record file →
        file.tokens = ledgerOf records ∧
        ∀ env after,
          (recomputeAggregates crates paths env reached.stored).1.metadata = .record after →
          after.tokens = file.tokens) := by
  intro reached
  have agrees : Agrees crates reached := Schedule.run_invariant fresh.agrees sound
    fun state call holds condition => holds.step condition
  obtain ⟨written, index, ends, tokens⟩ := agrees.index
  refine ⟨_, index.read ends _, ?_⟩
  intro settled file stored
  refine ⟨tokens settled file stored, ?_⟩
  intro env after repaired
  obtain ⟨recency, metadata, result, updated, call⟩ := @recompute_cases crates paths
    reached.stored env _ (index.read ends (paths.history crates))
  rw [call] at repaired
  cases result with
  | ok mutation =>
    obtain ⟨before, -, durable⟩ := updated.ok_record repaired
    rw [durable_tokens durable, tokens settled file stored]
    rfl
  | error error =>
    have same := (updated.error_record repaired).symm.trans stored
    cases same
    rfl

/-! ## Samples -/

/-- A turn that used a token. -/
def sampleUsedTurn (turnId : ℕ) : Turn :=
  { sampleIndexTurn turnId with usage := ⟨1, 0, 1⟩ }

/-- The metadata of a thread that was just created. -/
def sampleThreadFile : ThreadFile where
  version := threadMetadataVersion
  id := ⟨⟨1⟩⟩
  projectId := ⟨⟨1⟩⟩
  revision := 0
  title := ""
  harnessThreadId := ""
  harness := ""
  parentThreadId := none
  spawnedByTurnId := none
  kind := .primary
  mode := .known .build
  currentModel := .unknown
  contextWindow := 0
  contextWindowOverride := none
  modelContextWindows := ∅
  permissionPreset := .askFirst
  modelEfforts := ∅
  tokens := .empty
  createdAt := ⟨0, 0⟩
  updatedAt := ⟨0, 0⟩
  archived := false
  gitWorkspace := none

def sampleRun : AggregateRun :=
  ⟨⟨⟨none, none, fun _ => none⟩, .record sampleThreadFile⟩, false⟩

def sampleCommit (turnId : ℕ) (writeFault : Option String) : AggregateCall :=
  .commit ⟨none, none, none⟩ ⟨"thread.json", ⟨5, 0⟩, none, false, writeFault⟩
    (sampleUsedTurn turnId) []

def samplePaths : ThreadPaths := ⟨"threads", ⟨⟨1⟩⟩, .directory⟩

/-- One commit. -/
theorem tokens_rebuilt_sample :
    let reached := Schedule.run (step Crates.reference samplePaths) sampleRun [sampleCommit 1 none]
    ∃ records file,
      loadTurnRecords Crates.reference (samplePaths.history Crates.reference)
        reached.stored.files.history = .ok records ∧
      reached.stored.metadata = .record file ∧ file.tokens = ledgerOf records ∧
      ∀ env after,
        (recomputeAggregates Crates.reference samplePaths env reached.stored).1.metadata =
          .record after →
        after.tokens = file.tokens := by
  have rebuilt := tokens_rebuilt Crates.reference samplePaths sampleRun [sampleCommit 1 none]
    ⟨.inl rfl, by intro file stored; cases stored; rfl⟩
    ⟨⟨rfl, by intro _ records loaded; cases loaded; exact List.not_mem_nil⟩, trivial⟩
  have settled : (Schedule.run (step Crates.reference samplePaths) sampleRun
      [sampleCommit 1 none]).outstanding = false := rfl
  have stored : ∃ file, (Schedule.run (step Crates.reference samplePaths) sampleRun
      [sampleCommit 1 none]).stored.metadata = .record file := ⟨_, rfl⟩
  generalize Schedule.run (step Crates.reference samplePaths) sampleRun [sampleCommit 1 none] =
    reached at rebuilt settled stored ⊢
  obtain ⟨records, loaded, agree⟩ := rebuilt
  obtain ⟨file, stored⟩ := stored
  obtain ⟨tokens, repaired⟩ := agree settled file stored
  exact ⟨records, file, loaded, stored, tokens, repaired⟩

/-- A turn that is committed twice is counted twice; the index has it once. -/
theorem tokens_countedTwice :
    let reached := Schedule.run (step Crates.reference samplePaths) sampleRun
      [sampleCommit 1 none, sampleCommit 1 none]
    ∃ records file,
      loadTurnRecords Crates.reference (samplePaths.history Crates.reference)
        reached.stored.files.history = .ok records ∧
      reached.outstanding = false ∧ reached.stored.metadata = .record file ∧
      file.tokens ≠ ledgerOf records := by
  intro reached
  have start : IndexState Crates.reference none [] := @FreshIndex.state _ ⟨⟨1⟩⟩ _ (.inl rfl)
  have once := @IndexState.full _ ⟨⟨1⟩⟩ _ _ start (sampleUsedTurn 1) (.inl rfl)
  have twice := @IndexState.full _ ⟨⟨1⟩⟩ _ _ once (sampleUsedTurn 1) (appendIndex_endsLine _ _)
  have loaded := twice.read (appendIndex_endsLine _ _) (samplePaths.history Crates.reference)
  have history : reached.stored.files.history = appendIndex Crates.reference ⟨⟨1⟩⟩
      (appendIndex Crates.reference ⟨⟨1⟩⟩ none ⟨sampleUsedTurn 1, none⟩)
      ⟨sampleUsedTurn 1, none⟩ := rfl
  rw [← history] at loaded
  obtain ⟨file, stored, tokens⟩ : ∃ file, reached.stored.metadata = .record file ∧
      file.tokens.total.input = 2 := ⟨_, rfl, rfl⟩
  refine ⟨_, file, loaded, rfl, stored, ?_⟩
  intro same
  rw [same] at tokens
  exact absurd tokens (by decide)

end AggregateRun

end Giskard
