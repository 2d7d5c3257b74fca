import Mathlib
import Giskard.Model.TurnCommit

/-!
# The parsed-history cache

Reading every turn of a thread keeps the parsed turns beside the metadata of the index file, and
takes them from there while the metadata is the same. A load holds no lock: it looks at the cache,
reads the files and puts its result into the cache in three steps. An amendment appends to a
payload file and then drops the cache entry.

A schedule interleaves any number of the two on one thread in the current layout. The index does
not change, so its modification time is fixed. The state keeps a log of the appended amendments
and of those that have returned; a load remembers which had returned when it started, and what it
has parsed how many had been appended.

SOURCE: crates/giskard-persist/src/store.rs.
-/

set_option autoImplicit false

namespace Giskard

open Foundation

/-- SOURCE: store.rs:593-597. -/
structure HistoryFileMeta where
  len : ℕ
  modified : Option ℕ
  deriving DecidableEq

/-- SOURCE: store.rs:599-602. -/
structure HistoryCacheEntry where
  turns : List Turn
  fileMeta : HistoryFileMeta

/-- SOURCE: store.rs:760-772. -/
def historyFileMeta (modified : Option ℕ) (file : Option (List UInt8)) : Option HistoryFileMeta :=
  file.map fun bytes => ⟨bytes.length, modified⟩

/-- Whether a cache entry is of the file as it is. SOURCE: store.rs:831-836. -/
def validEntry (cache : Option HistoryCacheEntry) (fileMeta : HistoryFileMeta) :
    Option HistoryCacheEntry :=
  cache.filter fun entry => entry.fileMeta = fileMeta

/-! ## Loads and amendments -/

/-- An item for a turn that is persisted. -/
structure Amendment where
  turn : TurnId
  item : Item

/-- Where a load is. SOURCE: store.rs:817-843, 1588-1621, 1884-1904. -/
inductive LoadCall where
  | start
  | checked (fileMeta : HistoryFileMeta) (attempt : ℕ) (after : List ℕ)
  | parsed (turns : List Turn) (fileMeta : HistoryFileMeta) (readAt : ℕ) (after : List ℕ)
  | returned (turns : List Turn) (after : List ℕ)
  | failed (error : PersistError)

/-- Where an amendment is. SOURCE: store.rs:1446-1524. -/
inductive AmendCall where
  | start (amendment : Amendment)
  | appended (index : ℕ)
  | returned (index : ℕ)
  | failed (error : PersistError)

/-- One thread, its cache entry, and the operations on it. -/
structure CacheRace where
  files : ThreadDirectory
  modified : Option ℕ
  cache : Option HistoryCacheEntry
  loads : ℕ → LoadCall
  amends : ℕ → AmendCall
  log : List Amendment
  done : List ℕ

/-- Whose step is next; a load meets faults of moving damaged files aside. -/
inductive CacheChoice where
  | load (call : ℕ) (moveFault : TurnId → Bool)
  | amend (call : ℕ)

namespace CacheRace

variable (crates : Crates) (paths : ThreadPaths)

/-- Look at the metadata of the index and the cache. SOURCE: store.rs:823-836. -/
def checkCache (state : CacheRace) (i : ℕ) : CacheRace :=
  match historyFileMeta state.modified state.files.history with
  | none => { state with
      cache := none
      loads := Function.update state.loads i (.returned [] state.done) }
  | some fileMeta => match validEntry state.cache fileMeta with
    | some entry => { state with
        loads := Function.update state.loads i (.returned entry.turns state.done) }
    | none => { state with
        loads := Function.update state.loads i (.checked fileMeta 0 state.done) }

/-- Read the index and the payload files. SOURCE: store.rs:1595-1617. -/
def readHistory (moveFault : TurnId → Bool) (state : CacheRace) (i : ℕ)
    (fileMeta : HistoryFileMeta) (attempt : ℕ) (after : List ℕ) : CacheRace :=
  match state.files.history with
  | none => { state with
      cache := none
      loads := Function.update state.loads i (.returned [] after) }
  | some bytes => match readUtf8 bytes with
    | none => { state with
        loads := Function.update state.loads i
          (.failed (.io "stream did not contain valid UTF-8")) }
    | some data =>
      if (⟨bytes.length, state.modified⟩ : HistoryFileMeta) ≠ fileMeta then
        { state with
          loads := Function.update state.loads i
            (if attempt < 2 then .checked ⟨bytes.length, state.modified⟩ (attempt + 1) after
              else .failed (.io "history file changed while loading; retry limit exceeded")) }
      else
        let read := assembleTurns crates paths moveFault state.files data
        { state with
          files := read.1
          loads := Function.update state.loads i (match read.2 with
            | .ok turns => .parsed turns fileMeta state.log.length after
            | .error error => .failed error) }

/-- The next step of a load. -/
def loadStep (moveFault : TurnId → Bool) (state : CacheRace) (i : ℕ) : CacheRace :=
  match state.loads i with
  | .start => state.checkCache i
  | .checked fileMeta attempt after =>
    readHistory crates paths moveFault state i fileMeta attempt after
  | .parsed turns fileMeta _ after => { state with
      cache := some ⟨turns, fileMeta⟩
      loads := Function.update state.loads i (.returned turns after) }
  | _ => state

/-- The next step of an amendment. -/
def amendStep (state : CacheRace) (j : ℕ) : CacheRace :=
  match state.amends j with
  | .start amendment => match state.files.turns amendment.turn with
    | none => { state with
        amends := Function.update state.amends j (.failed (.io
          (paths.turnPayload crates amendment.turn ++
            ": cannot amend a turn whose payload is missing"))) }
    | some file => { state with
        files := { state.files with
          turns := Function.update state.files.turns amendment.turn
            (some (amendPayload crates file ⟨amendment.item, none⟩)) }
        amends := Function.update state.amends j (.appended state.log.length)
        log := state.log ++ [amendment] }
  | .appended index => { state with
      cache := none
      amends := Function.update state.amends j (.returned index)
      done := state.done ++ [index] }
  | _ => state

def step (state : CacheRace) : CacheChoice → CacheRace
  | .load i moveFault => loadStep crates paths moveFault state i
  | .amend j => amendStep crates paths state j

end CacheRace

end Giskard
