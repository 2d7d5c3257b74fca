import Mathlib
import Giskard.Foundation.WriteBack
import Giskard.Model.ThreadRuntime
import Giskard.Model.TokenLedgers

/-!
# The ledger actor

One task owns the daily ledgers: the global one, and one for each project. It reads the global file
when it starts and a project's file when the project's first record arrives, folds the records into
its copies, and after each batch writes the copies that changed.

A file is what a read makes of it: nothing, a ledger, or bytes that are no ledger. Which reads and
writes fail is given with a run; a project's file is read at most once in a run. A run ends with a
shutdown, or between two batches when its wakes are used up. What was written is kept along with the
files. Log lines are left out.

SOURCE: crates/giskard-server/src/ledger.rs, crates/giskard-persist/src/store.rs:2350-2377,
crates/giskard-persist/src/atomic.rs.
-/

set_option autoImplicit false

namespace Giskard

open Foundation.WriteBack

/-! ## Files -/

/-- The path of a ledger. -/
inductive LedgerFile where
  | global
  | project (id : ProjectId)
  deriving DecidableEq

/-- The content of a ledger's file. -/
abbrev TokenFile := Stored DailyTokenLedger

/-- The files, and the ledgers written so far. -/
structure TokenStore where
  files : LedgerFile → TokenFile
  written : List (LedgerFile × DailyTokenLedger)

/-- A store that nothing was written to yet. -/
def TokenStore.opened (files : LedgerFile → TokenFile) : TokenStore := ⟨files, []⟩

/-- The errors of a read. -/
inductive ReadError where
  | io
  | deserialize
  deriving DecidableEq

/-- The steps of a write, each of which may fail. SOURCE: atomic.rs:15-44, 46-54. -/
inductive WriteStep where
  | serialize
  | createDir
  | createTemp
  | writeTemp
  | syncTemp
  | rename
  deriving DecidableEq

/-- SOURCE: atomic.rs:85-103. -/
def readJson (file : TokenFile) (ioFault : Bool) : Except ReadError (Option DailyTokenLedger) :=
  if ioFault then .error .io
  else match file with
    | .missing => .ok none
    | .holds ledger => .ok (some ledger)
    | .unreadable => .error .deserialize

/-- The file changes only with the last step, which renames a complete copy over it.
SOURCE: atomic.rs:12-53. -/
def atomicWriteJson (store : TokenStore) (path : LedgerFile) (ledger : DailyTokenLedger)
    (fault : Option WriteStep) : TokenStore × Except WriteStep Unit :=
  match fault with
  | some step => (store, .error step)
  | none =>
    (⟨Function.update store.files path (.holds ledger), store.written ++ [(path, ledger)]⟩, .ok ())

/-- SOURCE: store.rs:2353-2358. -/
def loadProjectTokens (store : TokenStore) (project : ProjectId) (ioFault : Bool) :
    Except ReadError (Option DailyTokenLedger) :=
  readJson (store.files (.project project)) ioFault

/-- SOURCE: store.rs:2361-2367. -/
def saveProjectTokens (store : TokenStore) (project : ProjectId) (ledger : DailyTokenLedger)
    (fault : Option WriteStep) : TokenStore × Except WriteStep Unit :=
  atomicWriteJson store (.project project) ledger fault

/-- SOURCE: store.rs:2370-2372. -/
def loadGlobalTokens (store : TokenStore) (ioFault : Bool) :
    Except ReadError (Option DailyTokenLedger) :=
  readJson (store.files .global) ioFault

/-- SOURCE: store.rs:2375-2377. -/
def saveGlobalTokens (store : TokenStore) (ledger : DailyTokenLedger) (fault : Option WriteStep) :
    TokenStore × Except WriteStep Unit :=
  atomicWriteJson store .global ledger fault

/-! ## The actor -/

/-- SOURCE: ledger.rs:24-29. -/
structure LedgerRecord extends UsageCall where
  project : ProjectId

/-- SOURCE: ledger.rs:31-34. -/
inductive LedgerMsg where
  | record (record : LedgerRecord)
  | shutdown

/-- A message that wakes the actor, those queued behind it, and the faults of the writes that
follow. -/
structure Wake where
  first : LedgerMsg
  queued : List LedgerMsg
  globalFault : Option WriteStep
  projectFault : ProjectId → Option WriteStep

/-- A run of the actor: the faults of its reads, and its wakes. -/
structure ActorRun where
  globalReadFault : Bool
  projectReadFault : ProjectId → Bool
  wakes : List Wake

/-- The ledgers the actor owns, over the store. -/
structure LedgerActor where
  store : TokenStore
  global : DailyTokenLedger
  projects : ProjectId → Option DailyTokenLedger

/-- What a read starts a ledger from; a failed read is only logged. SOURCE: ledger.rs:137-146,
207-217. -/
def hydrate (loaded : Except ReadError (Option DailyTokenLedger)) : DailyTokenLedger :=
  match loaded with
  | .ok (some ledger) => ledger
  | .ok none => .empty
  | .error _ => .empty

/-- SOURCE: ledger.rs:191-227. -/
def LedgerActor.apply (readFault : ProjectId → Bool) (actor : LedgerActor)
    (dirty : List ProjectId) (rec : LedgerRecord) : LedgerActor × List ProjectId :=
  let global := actor.global.apply rec.toUsageCall
  let ledger := match actor.projects rec.project with
    | some ledger => ledger
    | none => hydrate (loadProjectTokens actor.store rec.project (readFault rec.project))
  ({ actor with
      global := global
      projects := Function.update actor.projects rec.project (some (ledger.apply rec.toUsageCall)) },
    dirty.insert rec.project)

/-- Apply what is queued up to a shutdown. SOURCE: ledger.rs:161-172. -/
def LedgerActor.drain (readFault : ProjectId → Bool) :
    LedgerActor → List ProjectId → List LedgerMsg → LedgerActor × List ProjectId × Bool
  | actor, dirty, [] => (actor, dirty, false)
  | actor, dirty, .record rec :: queued =>
    let applied := actor.apply readFault dirty rec
    applied.1.drain readFault applied.2 queued
  | actor, dirty, .shutdown :: _ => (actor, dirty, true)

/-- Write the global ledger and those of the projects with records; a failed write is only logged.
SOURCE: ledger.rs:174-183. -/
def LedgerActor.flush (wake : Wake) (actor : LedgerActor) (dirty : List ProjectId) : LedgerActor :=
  let store := (saveGlobalTokens actor.store actor.global wake.globalFault).1
  { actor with
    store := dirty.foldl
      (fun store pid => match actor.projects pid with
        | some ledger => (saveProjectTokens store pid ledger (wake.projectFault pid)).1
        | none => store) store }

/-- SOURCE: ledger.rs:150-189. -/
def LedgerActor.loop (readFault : ProjectId → Bool) : LedgerActor → List Wake → LedgerActor
  | actor, [] => actor
  | actor, wake :: wakes =>
    match wake.first with
    | .shutdown => actor
    | .record first =>
      let applied := actor.apply readFault [] first
      match applied.1.drain readFault applied.2 wake.queued with
      | (actor, dirty, true) => actor.flush wake dirty
      | (actor, dirty, false) => (actor.flush wake dirty).loop readFault wakes

/-- A run of the actor over a store. SOURCE: ledger.rs:136-189. -/
def runActor (store : TokenStore) (run : ActorRun) : TokenStore :=
  let actor : LedgerActor :=
    ⟨store, hydrate (loadGlobalTokens store run.globalReadFault), fun _ => none⟩
  (actor.loop run.projectReadFault run.wakes).store

end Giskard
