import Mathlib
import Giskard.Foundation.Directories
import Giskard.Foundation.Schedule
import Giskard.Model.Core

/-!
# The removal of a thread's files

The files of a project's threads lie beside each other in one directory: a thread's own directory,
the staging directory of its migration, the directory that its deletion renames it to, and the
history and the metadata of the older layout. A deletion and a migration are sequences of steps on
these, under the lock of their thread; any step can fail, which ends the operation, and a crash
ends all of them. The sweep of the leftovers runs at startup, when nothing else does.

A name is its text. Of a directory there is what files it holds; their contents, the caches of the
store and the syncing of directories are left out, and a query of the file system answers what is
there.

SOURCE: crates/giskard-persist/src/store.rs:2057-2174, migrate.rs:42-158, 226-247, layout.rs.
-/

set_option autoImplicit false

namespace Giskard.ThreadRemoval

open Foundation (IndexMap Node Entries Removal)

/-! ## Names -/

abbrev Name := List Char

/-- What a name in the directory is to its thread. SOURCE: layout.rs:76-132. -/
inductive Part where
  | dir
  | migratingDir
  | deletingDir
  | flatHistory
  | flatMetadata
  deriving DecidableEq

/-- SOURCE: layout.rs:27-30, 120-129. -/
def Part.suffix : Part → Name
  | .dir => []
  | .migratingDir => ['.', 'm', 'i', 'g', 'r', 'a', 't', 'i', 'n', 'g']
  | .deletingDir => ['.', 'd', 'e', 'l', 'e', 't', 'i', 'n', 'g']
  | .flatHistory => ['.', 'j', 's', 'o', 'n', 'l']
  | .flatMetadata => ['.', 'j', 's', 'o', 'n']

/-- Whether a part is a directory. -/
def Part.isDir : Part → Bool
  | .dir | .migratingDir | .deletingDir => true
  | .flatHistory | .flatMetadata => false

/-- The name of a part of a thread. SOURCE: layout.rs:76-132. -/
def nameOf (crates : Crates) (thread : ThreadId) (part : Part) : Name :=
  (crates.ulid.print thread.ulid).toList ++ part.suffix

/-- SOURCE: `str::strip_suffix`. -/
def stripSuffix (suffix name : Name) : Option Name :=
  if suffix <:+ name then some (name.take (name.length - suffix.length)) else none

/-- The thread that a text names. -/
def parseThread (crates : Crates) (text : Name) : Option ThreadId :=
  (crates.ulid.parse (String.ofList text)).map ThreadId.mk

/-- The entries of the directory, each with the names of the files inside it. -/
abbrev Files := Entries Name Name

/-- The thread that an entry makes visible. SOURCE: store.rs:2075-2084. -/
def listed (crates : Crates) (entry : Name × Node Name) : Option ThreadId :=
  if entry.2.isDir then parseThread crates entry.1
  else (stripSuffix Part.flatMetadata.suffix entry.1).bind (parseThread crates)

/-- SOURCE: store.rs:2060-2090. -/
def listThreads (crates : Crates) (files : Files) : List ThreadId :=
  (files.entries.filterMap (listed crates)).eraseDups

/-! ## The steps of a deletion and of a migration -/

/-- What the environment decides about a step: whether it fails, which file of a tree is unlinked,
and which file a migration stages next. -/
structure FsEnv where
  fault : Bool
  pick : ℕ
  staged : Option Name

/-- What a step of an operation comes to. -/
inductive Outcome (σ : Type) where
  | next (stage : σ)
  | finished
  | failed

/-- SOURCE: store.rs:2103-2135. -/
inductive DeleteStage where
  | checking
  | clearing
  | moving
  | staging
  | history
  | metadata
  | removing
  deriving DecidableEq

/-- SOURCE: migrate.rs:78-158, 226-247. -/
inductive MigrateStage where
  | planning
  | reading
  | discarding
  | creating
  | writing
  | verifying
  | committing
  | relocating
  | movingHistory
  | movingMetadata
  deriving DecidableEq

/-- An operation under the lock of a thread. -/
inductive Task where
  | deleting (stage : DeleteStage)
  | migrating (stage : MigrateStage)
  deriving DecidableEq

variable (crates : Crates) (files : Files) (thread : ThreadId) (env : FsEnv)

/-- The removal of a tree, which stays at its stage until the tree is gone. -/
def removing {σ : Type} (name : Name) (stage : σ) (after : Outcome σ) : Files × Outcome σ :=
  match files.removeAll name env.pick with
  | (left, .again) => (left, .next stage)
  | (left, .done) => (left, after)
  | (left, .failed) => (left, .failed)

/-- An operation that happens at once or fails. -/
def attempted {σ : Type} (result : Option Files) (after : Outcome σ) : Files × Outcome σ :=
  match result with
  | some left => (left, after)
  | none => (files, .failed)

/-- SOURCE: store.rs:2103-2135. -/
def deleteStep : DeleteStage → Files × Outcome DeleteStage
  | .checking =>
    (files, .next (if files.isDir (nameOf crates thread .dir) then .clearing else .staging))
  | .clearing => removing files env (nameOf crates thread .deletingDir) .clearing (.next .moving)
  | .moving =>
    attempted files
      (files.renameDir (nameOf crates thread .dir) (nameOf crates thread .deletingDir))
      (.next .staging)
  | .staging => removing files env (nameOf crates thread .migratingDir) .staging (.next .history)
  | .history =>
    attempted files (files.removeFile (nameOf crates thread .flatHistory)) (.next .metadata)
  | .metadata =>
    attempted files (files.removeFile (nameOf crates thread .flatMetadata)) (.next .removing)
  | .removing => removing files env (nameOf crates thread .deletingDir) .removing .finished

/-- Whether a thread has files of the older layout. SOURCE: migrate.rs:44. -/
def hasOriginals : Bool :=
  files.has (nameOf crates thread .flatMetadata) || files.has (nameOf crates thread .flatHistory)

/-- The first step that a planned migration takes. SOURCE: migrate.rs:42-53, 86-96. -/
def plannedOutcome : Outcome MigrateStage :=
  match files.isDir (nameOf crates thread .dir), hasOriginals crates files thread with
  | true, true => .next .relocating
  | true, false => .finished
  | false, true => .next .reading
  | false, false => .finished

/-- The directory of the originals. SOURCE: layout.rs, migrate.rs:232-239. -/
def legacyDir : Name := ['l', 'e', 'g', 'a', 'c', 'y']

def legacyHistory : Name :=
  legacyDir ++ ['/', 'h', 'i', 's', 't', 'o', 'r', 'y'] ++ Part.flatHistory.suffix

def legacyMetadata : Name :=
  legacyDir ++ ['/', 't', 'h', 'r', 'e', 'a', 'd'] ++ Part.flatMetadata.suffix

/-- SOURCE: migrate.rs:78-158, 226-247. -/
def migrateStep : MigrateStage → Files × Outcome MigrateStage
  | .planning => (files, plannedOutcome crates files thread)
  | .reading => (files, .next .discarding)
  | .discarding =>
    if files.has (nameOf crates thread .migratingDir) then
      removing files env (nameOf crates thread .migratingDir) .discarding (.next .creating)
    else (files, .next .creating)
  | .creating =>
    attempted files (files.createDir (nameOf crates thread .migratingDir)) (.next .writing)
  | .writing =>
    match env.staged with
    | some file =>
      attempted files (files.write (nameOf crates thread .migratingDir) file) (.next .writing)
    | none => (files, .next .verifying)
  | .verifying => (files, .next .committing)
  | .committing =>
    attempted files
      (files.renameDir (nameOf crates thread .migratingDir) (nameOf crates thread .dir))
      (.next .relocating)
  | .relocating =>
    if hasOriginals crates files thread then
      attempted files (files.write (nameOf crates thread .dir) legacyDir) (.next .movingHistory)
    else (files, .finished)
  | .movingHistory =>
    attempted files
      (files.moveInto (nameOf crates thread .flatHistory) (nameOf crates thread .dir) legacyHistory)
      (.next .movingMetadata)
  | .movingMetadata =>
    attempted files
      (files.moveInto (nameOf crates thread .flatMetadata) (nameOf crates thread .dir)
        legacyMetadata)
      .finished

def Outcome.map {σ τ : Type} (f : σ → τ) : Outcome σ → Outcome τ
  | .next stage => .next (f stage)
  | .finished => .finished
  | .failed => .failed

def taskStep : Task → Files × Outcome Task
  | .deleting stage =>
    if env.fault then (files, .failed)
    else ((deleteStep crates files thread env stage).1,
      (deleteStep crates files thread env stage).2.map .deleting)
  | .migrating stage =>
    if env.fault then (files, .failed)
    else ((migrateStep crates files thread env stage).1,
      (migrateStep crates files thread env stage).2.map .migrating)

/-- Whether the sweep removes an entry. SOURCE: store.rs:2159-2170. -/
def sweeps (name : Name) : Bool :=
  ((stripSuffix Part.deletingDir.suffix name).bind (parseThread crates)).isSome &&
    files.isDir name

/-! ## The store -/

/-- The files, the operations under way and what the sweep has left to look at. -/
structure Store where
  files : Files
  running : IndexMap ThreadId Task
  sweep : Option (List Name)

/-- What happens next. -/
inductive Choice where
  | delete (thread : ThreadId)
  | migrate (thread : ThreadId)
  | advance (thread : ThreadId) (env : FsEnv)
  | crash
  | beginSweep
  | sweepOn (env : FsEnv)

namespace Store

/-- An operation takes the lock of its thread, once the sweep of the startup is over. -/
def begin (store : Store) (thread : ThreadId) (task : Task) : Store :=
  if store.sweep.isSome || (store.running.get? thread).isSome then store
  else { store with running := store.running.insert thread task }

def advance (crates : Crates) (store : Store) (thread : ThreadId) (env : FsEnv) : Store :=
  match store.running.get? thread with
  | none => store
  | some task =>
    match taskStep crates store.files thread env task with
    | (files, .next task) =>
      { store with files := files, running := store.running.insert thread task }
    | (files, _) => { store with files := files, running := store.running.shiftRemove thread }

/-- SOURCE: store.rs:2139-2172. -/
def sweepOn (crates : Crates) (store : Store) (env : FsEnv) : Store :=
  match store.sweep with
  | none => store
  | some [] => { store with sweep := none }
  | some (name :: left) =>
    if sweeps crates store.files name then
      if env.fault then { store with sweep := none }
      else match store.files.removeAll name env.pick with
        | (files, .again) => { store with files := files }
        | (files, .done) => { store with files := files, sweep := some left }
        | (files, .failed) => { store with files := files, sweep := none }
    else { store with sweep := some left }

def step (crates : Crates) (store : Store) : Choice → Store
  | .delete thread => store.begin thread (.deleting .checking)
  | .migrate thread => store.begin thread (.migrating .planning)
  | .advance thread env => store.advance crates thread env
  | .crash => { store with running := IndexMap.empty, sweep := none }
  | .beginSweep =>
    if store.running.entries = [] then { store with sweep := some store.files.keys } else store
  | .sweepOn env => store.sweepOn crates env

end Store

end Giskard.ThreadRemoval
