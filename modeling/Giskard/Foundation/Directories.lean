import Mathlib
import Giskard.Foundation.IndexMap

/-!
# Directories

The entries of a directory: plain files, and directories with what is inside them at any depth. A
query answers what is there. An operation that changes an entry is atomic, but the removal of a
whole tree is not: it unlinks one file at a time, in any order, and the directory last.

Each operation has a lemma about what it leaves of the entry it names and one about the others.
-/

set_option autoImplicit false

namespace Foundation

/-- An entry: a file, or a directory with the paths of the files inside it. -/
inductive Node (α : Type) where
  | file
  | dir (files : List α)
  deriving DecidableEq

def Node.isDir {α : Type} : Node α → Bool
  | .file => false
  | .dir _ => true

/-- The entries of a directory, in the order in which they are read. -/
abbrev Entries (κ α : Type) := IndexMap κ (Node α)

/-- How far the removal of a tree got. -/
inductive Removal where
  | again
  | done
  | failed
  deriving DecidableEq

namespace Entries

variable {κ α : Type} [DecidableEq κ] (entries : Entries κ α)

def isDir (name : κ) : Bool := (entries.get? name).any Node.isDir

def has (name : κ) : Bool := (entries.get? name).isSome

/-- Unlink a file; what is absent is removed already. -/
def removeFile (name : κ) : Option (Entries κ α) :=
  match entries.get? name with
  | none => some entries
  | some .file => some (entries.shiftRemove name)
  | some (.dir _) => none

/-- One step of the removal of a tree: unlink the file that `pick` points at, or the directory
when it is empty. -/
def removeAll (name : κ) (pick : ℕ) : Entries κ α × Removal :=
  match entries.get? name with
  | none => (entries, .done)
  | some .file => (entries, .failed)
  | some (.dir []) => (entries.shiftRemove name, .done)
  | some (.dir (file :: files)) =>
    (entries.insert name (.dir ((file :: files).eraseIdx (pick % (files.length + 1)))), .again)

/-- Rename a directory, over nothing or over an empty directory. -/
def renameDir (name target : κ) : Option (Entries κ α) :=
  match entries.get? name, entries.get? target with
  | some (.dir files), none | some (.dir files), some (.dir []) =>
    some ((entries.shiftRemove name).insert target (.dir files))
  | _, _ => none

/-- Create a directory unless it is there. -/
def createDir (name : κ) : Option (Entries κ α) :=
  match entries.get? name with
  | none => some (entries.insert name (.dir []))
  | some .file => none
  | some (.dir _) => some entries

/-- Write a file inside a directory. -/
def write (name : κ) (file : α) : Option (Entries κ α) :=
  match entries.get? name with
  | some (.dir files) => some (entries.insert name (.dir (files ++ [file])))
  | _ => none

/-- Move a file into a directory, if it is there. -/
def moveInto (name target : κ) (file : α) : Option (Entries κ α) :=
  match entries.get? name with
  | none => some entries
  | some .file => write (entries.shiftRemove name) target file
  | some (.dir _) => none

variable {entries} {next : Entries κ α} {name target other : κ} {file : α} {pick : ℕ}

theorem isDir_iff : entries.isDir name = true ↔ ∃ files, entries.get? name = some (.dir files) := by
  unfold isDir
  cases entries.get? name with
  | none => simp
  | some node =>
    cases node with
    | file => simp [Node.isDir]
    | dir files => simp [Node.isDir]

theorem removeFile_gone (removed : entries.removeFile name = some next) :
    next.get? name = none := by
  unfold removeFile at removed
  split at removed
  · next absent =>
    cases removed
    exact absent
  · cases removed
    rw [IndexMap.get?_shiftRemove, if_pos rfl]
  · cases removed

theorem removeFile_others (removed : entries.removeFile name = some next) (apart : other ≠ name) :
    next.get? other = entries.get? other := by
  unfold removeFile at removed
  split at removed
  · cases removed
    rfl
  · cases removed
    rw [IndexMap.get?_shiftRemove, if_neg apart]
  · cases removed

theorem removeAll_gone (done : (entries.removeAll name pick).2 = .done) :
    (entries.removeAll name pick).1.get? name = none := by
  unfold removeAll at done ⊢
  split at done
  · next absent => exact absent
  · cases done
  · exact (IndexMap.get?_shiftRemove _ _ _).trans (if_pos rfl)
  · cases done

theorem removeAll_others (apart : other ≠ name) :
    (entries.removeAll name pick).1.get? other = entries.get? other := by
  unfold removeAll
  split
  · rfl
  · rfl
  · rw [IndexMap.get?_shiftRemove, if_neg apart]
  · exact IndexMap.get?_insert_of_ne _ apart _

theorem removeAll_left {node : Node α}
    (left : (entries.removeAll name pick).1.get? name = some node) :
    ∃ old, entries.get? name = some old ∧ old.isDir = node.isDir := by
  unfold removeAll at left
  split at left
  · next absent => cases absent.symm.trans left
  · exact ⟨node, left, rfl⟩
  · rw [IndexMap.get?_shiftRemove, if_pos rfl] at left
    cases left
  · next files found =>
    rw [IndexMap.get?_insert_self] at left
    cases left
    exact ⟨_, found, rfl⟩

theorem renameDir_source (renamed : entries.renameDir name target = some next)
    (apart : name ≠ target) : next.get? name = none := by
  unfold renameDir at renamed
  split at renamed
  · cases renamed
    rw [IndexMap.get?_insert_of_ne _ apart, IndexMap.get?_shiftRemove, if_pos rfl]
  · cases renamed
    rw [IndexMap.get?_insert_of_ne _ apart, IndexMap.get?_shiftRemove, if_pos rfl]
  · cases renamed

theorem renameDir_target (renamed : entries.renameDir name target = some next) :
    ∃ files, next.get? target = some (.dir files) := by
  unfold renameDir at renamed
  split at renamed
  · cases renamed
    exact ⟨_, IndexMap.get?_insert_self _ _ _⟩
  · cases renamed
    exact ⟨_, IndexMap.get?_insert_self _ _ _⟩
  · cases renamed

theorem renameDir_others (renamed : entries.renameDir name target = some next)
    (source : other ≠ name) (apart : other ≠ target) : next.get? other = entries.get? other := by
  unfold renameDir at renamed
  split at renamed
  · cases renamed
    rw [IndexMap.get?_insert_of_ne _ apart, IndexMap.get?_shiftRemove, if_neg source]
  · cases renamed
    rw [IndexMap.get?_insert_of_ne _ apart, IndexMap.get?_shiftRemove, if_neg source]
  · cases renamed

theorem createDir_self (created : entries.createDir name = some next) :
    ∃ files, next.get? name = some (.dir files) := by
  unfold createDir at created
  split at created
  · cases created
    exact ⟨_, IndexMap.get?_insert_self _ _ _⟩
  · cases created
  · next files found =>
    cases created
    exact ⟨files, found⟩

theorem createDir_others (created : entries.createDir name = some next) (apart : other ≠ name) :
    next.get? other = entries.get? other := by
  unfold createDir at created
  split at created
  · cases created
    exact IndexMap.get?_insert_of_ne _ apart _
  · cases created
  · cases created
    rfl

theorem write_others (written : entries.write name file = some next) (apart : other ≠ name) :
    next.get? other = entries.get? other := by
  unfold write at written
  split at written
  · cases written
    exact IndexMap.get?_insert_of_ne _ apart _
  · cases written

theorem moveInto_source (moved : entries.moveInto name target file = some next)
    (apart : name ≠ target) : next.get? name = none := by
  unfold moveInto at moved
  split at moved
  · next absent =>
    cases moved
    exact absent
  · rw [write_others moved apart, IndexMap.get?_shiftRemove, if_pos rfl]
  · cases moved

theorem moveInto_others (moved : entries.moveInto name target file = some next)
    (source : other ≠ name) (apart : other ≠ target) : next.get? other = entries.get? other := by
  unfold moveInto at moved
  split at moved
  · cases moved
    rfl
  · rw [write_others moved apart, IndexMap.get?_shiftRemove, if_neg source]
  · cases moved

theorem write_left {node : Node α} (written : entries.write name file = some next)
    (left : next.get? name = some node) :
    ∃ old, entries.get? name = some old ∧ old.isDir = node.isDir := by
  unfold write at written
  split at written
  · next files found =>
    cases written
    rw [IndexMap.get?_insert_self] at left
    cases left
    exact ⟨_, found, rfl⟩
  · cases written

theorem moveInto_left {node : Node α} (moved : entries.moveInto name target file = some next)
    (left : next.get? other = some node) :
    ∃ old, entries.get? other = some old ∧ old.isDir = node.isDir := by
  unfold moveInto at moved
  split at moved
  · cases moved
    exact ⟨node, left, rfl⟩
  · have old : ∃ old, (entries.shiftRemove name).get? other = some old ∧
        old.isDir = node.isDir := by
      by_cases same : other = target
      · subst same
        exact write_left moved left
      · rw [write_others moved same] at left
        exact ⟨node, left, rfl⟩
    obtain ⟨old, found, same⟩ := old
    exact ⟨old, IndexMap.get?_of_shiftRemove found, same⟩
  · cases moved

end Entries

end Foundation
