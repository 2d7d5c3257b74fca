import Mathlib
import Giskard.Model.ThreadDirectory
import Giskard.Model.ThreadMetadata

/-!
# Commits of turns

A completed turn is committed in the current layout by its payload file, then a line of the index,
then its usage in the metadata. The metadata is a cache of the index: a repair folds the index
again.

The metadata file is what a read makes of it, so it stands beside the directory's bytes. What the
environment decides about an append is a record of its own.

SOURCE: crates/giskard-persist/src/store.rs.
-/

set_option autoImplicit false

namespace Giskard

open Foundation

/-! ## Appends -/

/-- The faults of an append: of writing the payload; of opening the index, or of writing it after
some bytes. -/
structure AppendEnv where
  payloadFault : Option String
  openFault : Option String
  historyFault : Option (ℕ × String)

/-- Write the payload of a turn, unless it has one. SOURCE: store.rs:1338-1364. -/
def writePayload (crates : Crates) (env : AppendEnv) (files : ThreadDirectory) (turn : Turn)
    (captured : List CapturedDiffRecord) : Except PersistError ThreadDirectory :=
  match files.turns turn.id with
  | some _ => .ok files
  | none => match payloadFileBytesWithDiffs crates turn captured with
    | .error error => .error error
    | .ok bytes => match env.payloadFault with
      | some message => .error (.io message)
      | none => .ok { files with turns := Function.update files.turns turn.id (some bytes) }

/-- Commit a turn to its payload and the index. SOURCE: store.rs:1316-1406. -/
def appendTurnUnlocked (crates : Crates) (thread : ThreadId) (env : AppendEnv)
    (files : ThreadDirectory) (turn : Turn) (captured : List CapturedDiffRecord) :
    ThreadDirectory × Except PersistError Unit :=
  match writePayload crates env files turn captured with
  | .error error => (files, .error error)
  | .ok files => match env.openFault with
    | some message => (files, .error (.io message))
    | none => match env.historyFault with
      | some (written, message) =>
        ({ files with history := appendIndex crates thread files.history ⟨turn, some written⟩ },
          .error (.io message))
      | none =>
        ({ files with history := appendIndex crates thread files.history ⟨turn, none⟩ }, .ok ())

/-! ## Amendments -/

/-- Whether the last line of a file is unfinished. SOURCE: store.rs:1484-1489. -/
def needsNewline (file : List UInt8) : Bool :=
  match file.getLast? with
  | none => false
  | some last => last ≠ 10

/-- What an amendment writes, without the newline that ends it: an unfinished last line is closed
first. SOURCE: store.rs:1490-1494. -/
def amendBody (crates : Crates) (file : List UInt8) (item : Item) : List Char :=
  (if needsNewline file then ['\n'] else []) ++ (itemValue crates none item).print

/-- An item that is appended to a payload; a torn append writes some of the bytes before the last
one. -/
structure ItemAmend where
  item : Item
  torn : Option ℕ

/-- The payload file after an amendment. SOURCE: store.rs:1477-1499. -/
def amendPayload (crates : Crates) (file : List UInt8) (amend : ItemAmend) : List UInt8 :=
  file ++ match amend.torn with
    | none => utf8 (amendBody crates file amend.item ++ ['\n'])
    | some written => (utf8 (amendBody crates file amend.item)).take written

/-! ## The aggregates -/

/-- Whether the usage of a turn counts. SOURCE: store.rs:1553-1557, 2036-2040. -/
def TurnStatusKind.isCounted : TurnStatusKind → Bool
  | .completed | .interrupted => true
  | _ => false

/-- SOURCE: store.rs:1566-1575, 2036-2046. -/
def TokenLedger.recordTurn (ledger : TokenLedger) (kind : TurnStatusKind) (model : TurnModel)
    (usage : TokenUsage) : TokenLedger :=
  if kind.isCounted then
    match model.asKnown with
    | some model => ledger.record model.provider model.model usage
    | none => ledger.recordUnattributed usage
  else ledger

/-- SOURCE: store.rs:2034-2047. -/
def ledgerOf (records : List TurnRecord) : TokenLedger :=
  records.foldl (fun ledger record =>
    ledger.recordTurn record.status.kind record.model record.usage) .empty

/-- SOURCE: store.rs:218-221. -/
inductive TurnCommitOutcome where
  | metadataMutation (mutation : ThreadMutation)
  | metadataFailed (error : PersistError)

/-- A thread: its directory and its metadata. -/
structure StoredThread where
  files : ThreadDirectory
  metadata : MetadataFile

/-- SOURCE: store.rs:1541-1582. -/
def appendTurnWithDiffsAndUpdateAggregates (crates : Crates) (thread : ThreadId) (env : AppendEnv)
    (metadataEnv : MetadataEnv) (stored : StoredThread) (turn : Turn)
    (captured : List CapturedDiffRecord) :
    StoredThread × Except PersistError TurnCommitOutcome :=
  match appendTurnUnlocked crates thread env stored.files turn captured with
  | (files, .error error) => ({ stored with files := files }, .error error)
  | (files, .ok ()) =>
    match updateThreadWithRecencyUnlocked crates metadataEnv thread .recordActivity
      (fun file => { file with
        tokens := file.tokens.recordTurn turn.status.kind turn.model turn.usage })
      stored.metadata with
    | (metadata, .ok mutation) => (⟨files, metadata⟩, .ok (.metadataMutation mutation))
    | (metadata, .error error) => (⟨files, metadata⟩, .ok (.metadataFailed error))

/-- The latest activity of some turns. SOURCE: store.rs:2027-2030. -/
def latestActivity (records : List TurnRecord) : Option DateTime :=
  records.foldl (fun latest record =>
    let activity := record.completedAt.getD record.startedAt
    match latest with
    | none => some activity
    | some instant => if activity < instant then some instant else some activity) none

/-- SOURCE: store.rs:2031-2033. -/
def repairRecency (records : List TurnRecord) : ThreadRecency :=
  match latestActivity records with
  | some activity => .restoreActivity activity
  | none => .preserve

/-- SOURCE: store.rs:2018-2051. -/
def recomputeAggregates (crates : Crates) (paths : ThreadPaths) (env : MetadataEnv)
    (stored : StoredThread) : StoredThread × Except PersistError ThreadMutation :=
  match loadTurnRecords crates (paths.history crates) stored.files.history with
  | .error error => (stored, .error error)
  | .ok records =>
    let updated := updateThreadWithRecencyUnlocked crates env paths.thread (repairRecency records)
      (fun file => { file with tokens := ledgerOf records }) stored.metadata
    ({ stored with metadata := updated.1 }, updated.2)

end Giskard
