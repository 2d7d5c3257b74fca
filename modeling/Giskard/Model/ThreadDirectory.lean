import Mathlib
import Giskard.Model.TurnPayload

/-!
# The thread directory

A thread in the current layout: its metadata, the index of its turns and one payload file per
turn. A page of history is taken from the index and reads only the payloads it shows; a turn whose
payload is missing or damaged fails alone.

Reading can change the files: a damaged payload is moved aside unless the move fails, so the reads
return the directory they leave. What is only logged is left out.

SOURCE: crates/giskard-persist/src/layout.rs, crates/giskard-persist/src/store.rs.
-/

set_option autoImplicit false

namespace Giskard

open Foundation

/-! ## Paths -/

/-- SOURCE: layout.rs:33-38. -/
inductive ThreadLayout where
  | flat
  | directory
  deriving DecidableEq

/-- SOURCE: layout.rs:53-57. -/
structure ThreadPaths where
  threadsDir : String
  thread : ThreadId
  layout : ThreadLayout

/-- A name under a directory. -/
def joinPath (dir name : String) : String :=
  if dir.isEmpty || dir.endsWith "/" then dir ++ name else dir ++ "/" ++ name

namespace ThreadPaths

variable (crates : Crates) (paths : ThreadPaths)

/-- SOURCE: layout.rs:77-79. -/
def dir : String := joinPath paths.threadsDir (crates.ulid.print paths.thread.ulid)

/-- SOURCE: layout.rs:129-132. -/
def flatHistory : String :=
  joinPath paths.threadsDir (crates.ulid.print paths.thread.ulid ++ ".jsonl")

/-- SOURCE: layout.rs:106-112. -/
def history : String :=
  match paths.layout with
  | .flat => paths.flatHistory crates
  | .directory => joinPath (paths.dir crates) "history.jsonl"

/-- SOURCE: layout.rs:118-121. -/
def turnPayload (turn : TurnId) : String :=
  joinPath (joinPath (paths.dir crates) "turns") (crates.ulid.print turn.ulid ++ ".jsonl")

end ThreadPaths

/-! ## Files -/

/-- The files of a thread's directory. -/
structure ThreadDirectory where
  metadata : Option (List UInt8)
  history : Option (List UInt8)
  turns : TurnId → Option (List UInt8)

/-- SOURCE: store.rs:492-516. -/
def assembleTurnRecord (crates : Crates) (paths : ThreadPaths) (moveFault : TurnId → Bool)
    (files : ThreadDirectory) (record : TurnRecord) : ThreadDirectory × Option Turn :=
  let read := readTurnPayload crates (paths.turnPayload crates record.turnId)
    (moveFault record.turnId) (files.turns record.turnId)
  ({ files with turns := Function.update files.turns record.turnId read.1 },
    match read.2 with
    | .ok (some payload) => some (record.intoTurn payload)
    | _ => none)

/-- SOURCE: store.rs:482-490. -/
def assembleTurnRecords (crates : Crates) (paths : ThreadPaths) (moveFault : TurnId → Bool) :
    ThreadDirectory → List TurnRecord → ThreadDirectory × List Turn
  | files, [] => (files, [])
  | files, record :: records =>
    let first := assembleTurnRecord crates paths moveFault files record
    let rest := assembleTurnRecords crates paths moveFault first.1 records
    (rest.1, first.2.toList ++ rest.2)

/-- SOURCE: store.rs:468-475. -/
def assembleTurns (crates : Crates) (paths : ThreadPaths) (moveFault : TurnId → Bool)
    (files : ThreadDirectory) (data : List Char) :
    ThreadDirectory × Except PersistError (List Turn) :=
  match parseHistoryIndex crates (paths.history crates) data with
  | .error error => (files, .error error)
  | .ok records =>
    let assembled := assembleTurnRecords crates paths moveFault files records
    (assembled.1, .ok assembled.2)

/-! ## Pages -/

/-- A page of history: its turns, oldest first, how many records were tried for it, and whether
older records exist. -/
structure HistoryPage where
  turns : List Turn
  attemptedRecords : ℕ
  hasMore : Bool

/-- The walk back over the records before a cursor, which is at most their number.
SOURCE: store.rs:1842-1855. -/
def pageRecords (crates : Crates) (paths : ThreadPaths) (moveFault : TurnId → Bool)
    (records : List TurnRecord) (limit : ℕ) :
    ℕ → ThreadDirectory → List Turn → ℕ → ThreadDirectory × HistoryPage
  | 0, files, turns, attempted => (files, ⟨turns.reverse, attempted, false⟩)
  | cursor + 1, files, turns, attempted =>
    if turns.length < limit then
      match records[cursor]? with
      | none => (files, ⟨turns.reverse, attempted, true⟩)
      | some record =>
        let read := assembleTurnRecord crates paths moveFault files record
        pageRecords crates paths moveFault records limit cursor read.1
          (turns ++ read.2.toList) (attempted + 1)
    else (files, ⟨turns.reverse, attempted, true⟩)

/-- SOURCE: store.rs:1833-1856. -/
def loadHistoryPageRecords (crates : Crates) (paths : ThreadPaths) (moveFault : TurnId → Bool)
    (files : ThreadDirectory) (records : List TurnRecord) (stop limit : ℕ) :
    ThreadDirectory × HistoryPage :=
  pageRecords crates paths moveFault records limit stop files [] 0

/-- The records that a page ends before: those up to the cursor, or all when it is not there.
SOURCE: store.rs:1922-1928. -/
def pageEnd (records : List TurnRecord) (before : Option TurnId) : ℕ :=
  match before with
  | some cursor => (records.findIdx? fun record => record.turnId = cursor).getD records.length
  | none => records.length

/-- A page of a thread in the current layout. SOURCE: store.rs:1909-1954. -/
def loadHistory (crates : Crates) (paths : ThreadPaths) (moveFault : TurnId → Bool)
    (files : ThreadDirectory) (before : Option TurnId) (limit : ℕ) :
    ThreadDirectory × Except PersistError (List Turn × Bool) :=
  match loadTurnRecords crates (paths.history crates) files.history with
  | .error error => (files, .error error)
  | .ok records =>
    let page := loadHistoryPageRecords crates paths moveFault files records
      (pageEnd records before) limit
    (page.1, .ok (page.2.turns, page.2.hasMore))

/-- The turns after a cursor in the current layout, or nothing when the cursor is not there.
SOURCE: store.rs:1960-2010. -/
def loadTurnsAfter (crates : Crates) (paths : ThreadPaths) (moveFault : TurnId → Bool)
    (files : ThreadDirectory) (after : TurnId) :
    ThreadDirectory × Except PersistError (Option (List Turn)) :=
  match loadTurnRecords crates (paths.history crates) files.history with
  | .error error => (files, .error error)
  | .ok records => match records.findIdx? fun record => record.turnId = after with
    | none => (files, .ok none)
    | some index =>
      let selected := assembleTurnRecords crates paths moveFault files (records.drop (index + 1))
      (selected.1, .ok (some selected.2))

end Giskard
