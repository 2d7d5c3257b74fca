import Mathlib
import Giskard.Model.CommitFiles
import Giskard.Analysis.GitLog
import Giskard.Analysis.GitStatus

/-!
# Each file of a commit gets its own counts

A list of changes, written the two ways Git writes it. A change starts at a record that its reader
takes whole, together with the records of its paths, so both readers stay in step with the writer
whatever the paths hold; the counts are then found again by the final path.
-/

set_option autoImplicit false

namespace Giskard.Git

open Foundation

/-! ## What a commit changes -/

/-- A path as text, not empty and without the zero character. -/
structure TextPath where
  text : List Char
  some_ : text ≠ []
  nul : '\x00' ∉ text

def TextPath.raw (path : TextPath) : RawPath where
  bytes := utf8 path.text
  some_ := fun empty => path.some_ (utf8_eq_nil.1 empty)
  nul := fun member => path.nul (mem_utf8_nul.1 member)

/-- A file with its status letter; a renamed or copied file has a score and an old path. -/
inductive ChangedFile where
  | same (letter : Char) (nul : letter ≠ '\x00') (kept : letter ≠ 'R' ∧ letter ≠ 'C')
      (path : TextPath)
  | renamed (score : ℕ) (old new : TextPath)
  | copied (score : ℕ) (old new : TextPath)

/-- A changed file with its line counts, or none for a binary file. -/
structure Change where
  file : ChangedFile
  counts : Option (ℕ × ℕ)
  fits : ∀ count ∈ counts, count.1 < u32 ∧ count.2 < u32

namespace ChangedFile

/-- The path that the file has after the commit. -/
def path : ChangedFile → TextPath
  | .same _ _ _ path => path
  | .renamed _ _ new => new
  | .copied _ _ new => new

def oldPath : ChangedFile → Option TextPath
  | .same _ _ _ _ => none
  | .renamed _ old _ => some old
  | .copied _ old _ => some old

def letter : ChangedFile → Char
  | .same letter _ _ _ => letter
  | .renamed _ _ _ => 'R'
  | .copied _ _ _ => 'C'

/-- A score has three digits at least. -/
def scoreText (score : ℕ) : List Char :=
  List.replicate (3 - (Nat.toDigits 10 score).length) '0' ++ Nat.toDigits 10 score

/-- The record in front of the paths. -/
def statusText : ChangedFile → List Char
  | .same letter _ _ _ => [letter]
  | .renamed score _ _ => 'R' :: scoreText score
  | .copied score _ _ => 'C' :: scoreText score

/-- How the line counts name the file. -/
def numstatFile : ChangedFile → NumstatFile
  | .same _ _ _ path => .plain path.raw
  | .renamed _ old new => .renamed old.raw new.raw
  | .copied _ old new => .renamed old.raw new.raw

end ChangedFile

namespace Change

def path (change : Change) : List Char := change.file.path.text

/-- The records of a change with its status. -/
def nameStatusRecords (change : Change) : List (List UInt8) :=
  utf8 change.file.statusText ::
    (change.file.oldPath.toList ++ [change.file.path]).map fun path => utf8 path.text

/-- A change with its line counts. -/
def numstatLine (change : Change) : NumstatLine where
  added := change.counts.map Prod.fst
  deleted := change.counts.map Prod.snd
  file := change.file.numstatFile

/-- The file as it is to be listed. -/
def listed (change : Change) : GitCommitFile where
  path := change.path
  oldPath := change.file.oldPath.map TextPath.text
  status := gitStatusName change.file.letter
  added := change.counts.map Prod.fst
  deleted := change.counts.map Prod.snd
  binary := change.counts.isNone

def nameStatusEntry (change : Change) : GitNameStatusEntry where
  kind := gitStatusName change.file.letter
  path := change.path
  oldPath := change.file.oldPath.map TextPath.text

def numstatEntry (change : Change) : GitNumstatEntry where
  path := change.path
  added := change.counts.map Prod.fst
  deleted := change.counts.map Prod.snd

end Change

/-- The bytes of `git show --name-status -z --format=`. -/
def encodeNameStatus (changes : List Change) : List UInt8 :=
  closed 0 (changes.flatMap Change.nameStatusRecords)

/-- The bytes of `git show --numstat -z --format=`. -/
def encodeNumstat (changes : List Change) : List UInt8 :=
  closed 0 (changes.flatMap fun change => change.numstatLine.records)

/-! ## Records -/

theorem ChangedFile.statusText_head (file : ChangedFile) :
    ∃ score, file.statusText = file.letter :: score ∧ '\x00' ∉ file.statusText := by
  have plain (score : ℕ) : '\x00' ∉ scoreText score := by
    unfold scoreText
    rw [List.mem_append, not_or]
    refine ⟨fun member => ?_, not_mem_toDigits (by decide) score⟩
    exact absurd (List.eq_of_mem_replicate member) (by decide)
  cases file with
  | same letter nul kept path => exact ⟨[], rfl, by simpa [statusText] using nul.symm⟩
  | renamed score old new => exact ⟨scoreText score, rfl, by simp [statusText, plain]⟩
  | copied score old new => exact ⟨scoreText score, rfl, by simp [statusText, plain]⟩

theorem Change.nameStatusRecords_plain (change : Change) :
    ∀ record ∈ change.nameStatusRecords, record ≠ [] ∧ (0 : UInt8) ∉ record := by
  obtain ⟨score, text, nul⟩ := change.file.statusText_head
  intro record member
  rcases List.mem_cons.1 member with rfl | member
  · refine ⟨fun empty => ?_, fun zero => nul (mem_utf8_nul.1 zero)⟩
    rw [utf8_eq_nil, text] at empty
    exact List.cons_ne_nil _ _ empty
  · obtain ⟨path, -, rfl⟩ := List.mem_map.1 member
    exact ⟨path.raw.some_, path.raw.nul⟩

theorem NumstatLine.records_some (line : NumstatLine) : ∀ record ∈ line.records, record ≠ [] := by
  unfold records
  cases line.file with
  | plain path =>
    intro record member
    rw [List.mem_singleton.1 member]
    exact List.append_ne_nil_of_left_ne_nil line.utf8_counts_ne_nil path.bytes
  | renamed old new => simpa using ⟨line.utf8_counts_ne_nil, old.some_, new.some_⟩

/-! ## The statuses -/

/-- The reader takes the records of a change and no more. -/
theorem readNameStatus_change (change : Change) (rest : List (List UInt8)) :
    readNameStatus (change.nameStatusRecords ++ rest) =
      change.nameStatusEntry :: readNameStatus rest := by
  obtain ⟨score, text, -⟩ := change.file.statusText_head
  have code : fromUtf8Lossy (utf8 change.file.statusText) = change.file.letter :: score := by
    rw [fromUtf8Lossy_utf8, text]
  unfold Change.nameStatusRecords Change.nameStatusEntry Change.path
  rw [List.cons_append, readNameStatus.eq_def]
  dsimp only
  rw [code]
  cases file : change.file with
  | same letter nul kept path =>
    have single : ¬(decide (letter = 'R') || decide (letter = 'C')) = true := by simp [kept]
    change (if (decide (letter = 'R') || decide (letter = 'C')) = true then _ else _) = _
    rw [if_neg single, fromUtf8Lossy_utf8]
    rfl
  | renamed score old new =>
    change GitNameStatusEntry.mk _ (fromUtf8Lossy (utf8 new.text))
      (some (fromUtf8Lossy (utf8 old.text))) :: _ = _
    rw [fromUtf8Lossy_utf8, fromUtf8Lossy_utf8]
    rfl
  | copied score old new =>
    change GitNameStatusEntry.mk _ (fromUtf8Lossy (utf8 new.text))
      (some (fromUtf8Lossy (utf8 old.text))) :: _ = _
    rw [fromUtf8Lossy_utf8, fromUtf8Lossy_utf8]
    rfl

theorem parseGitNameStatus_encode (changes : List Change) :
    parseGitNameStatus (encodeNameStatus changes) = changes.map Change.nameStatusEntry := by
  have plain : ∀ record ∈ changes.flatMap Change.nameStatusRecords,
      record ≠ [] ∧ (0 : UInt8) ∉ record := by
    intro record member
    obtain ⟨change, -, inside⟩ := List.mem_flatMap.1 member
    exact change.nameStatusRecords_plain record inside
  unfold parseGitNameStatus encodeNameStatus
  rw [records_closed plain]
  clear plain
  induction changes with
  | nil => rfl
  | cons change changes ih =>
    rw [List.flatMap_cons, readNameStatus_change, ih, List.map_cons]

/-! ## The counts -/

/-- The reader takes the records of a line and no more. -/
theorem readNumstat_change (change : Change) (rest : List (List UInt8)) :
    readNumstat (change.numstatLine.records ++ rest) =
      change.numstatEntry :: readNumstat rest := by
  have added : parseNumstatCount (countText change.numstatLine.added) =
      change.counts.map Prod.fst := by
    refine parseNumstatCount_countText ?_
    cases counts : change.counts with
    | none => simp [Change.numstatLine, counts, u32]
    | some count =>
      simpa [Change.numstatLine, counts] using (change.fits count (by simp [counts])).1
  have deleted : parseNumstatCount (countText change.numstatLine.deleted) =
      change.counts.map Prod.snd := by
    refine parseNumstatCount_countText ?_
    cases counts : change.counts with
    | none => simp [Change.numstatLine, counts, u32]
    | some count =>
      simpa [Change.numstatLine, counts] using (change.fits count (by simp [counts])).2
  have plain (path : TextPath) (file : change.numstatLine.file = .plain path.raw) :
      readNumstat (change.numstatLine.records ++ rest) =
        ⟨path.text, change.counts.map Prod.fst, change.counts.map Prod.snd⟩ ::
          readNumstat rest := by
    have named : ¬path.text.isEmpty = true := by simpa using path.some_
    unfold NumstatLine.records
    rw [file]
    dsimp only
    rw [List.singleton_append, readNumstat.eq_def]
    dsimp only
    rw [NumstatLine.splitN_counts, TextPath.raw, fromUtf8Lossy_utf8]
    dsimp only
    rw [if_neg named, added, deleted]
  have moved (old new : TextPath) (file : change.numstatLine.file = .renamed old.raw new.raw) :
      readNumstat (change.numstatLine.records ++ rest) =
        ⟨new.text, change.counts.map Prod.fst, change.counts.map Prod.snd⟩ ::
          readNumstat rest := by
    have split := change.numstatLine.splitN_counts []
    rw [List.append_nil] at split
    unfold NumstatLine.records
    rw [file]
    dsimp only
    rw [List.cons_append, readNumstat.eq_def]
    dsimp only
    rw [split]
    dsimp only
    rw [if_pos (by rfl), added, deleted]
    change GitNumstatEntry.mk (fromUtf8Lossy (utf8 new.text)) _ _ :: _ = _
    rw [fromUtf8Lossy_utf8]
    rfl
  unfold Change.numstatEntry Change.path
  have named : change.numstatLine.file = change.file.numstatFile := rfl
  cases file : change.file with
  | same letter nul kept path => exact plain path (named.trans (congrArg _ file))
  | renamed score old new => exact moved old new (named.trans (congrArg _ file))
  | copied score old new => exact moved old new (named.trans (congrArg _ file))

theorem parseGitNumstat_encode (changes : List Change) :
    parseGitNumstat (encodeNumstat changes) = changes.map Change.numstatEntry := by
  have plain : ∀ record ∈ changes.flatMap fun change => change.numstatLine.records,
      record ≠ [] ∧ (0 : UInt8) ∉ record := by
    intro record member
    obtain ⟨change, -, inside⟩ := List.mem_flatMap.1 member
    exact ⟨change.numstatLine.records_some record inside,
      change.numstatLine.nul_not_mem_records record inside⟩
  unfold parseGitNumstat encodeNumstat
  rw [records_closed plain]
  clear plain
  induction changes with
  | nil => rfl
  | cons change changes ih => rw [List.flatMap_cons, readNumstat_change, ih, List.map_cons]

/-! ## The join -/

theorem get?_indexNumstat {changes : List Change} (distinct : (changes.map Change.path).Nodup)
    {change : Change} (member : change ∈ changes) :
    (indexNumstat (changes.map Change.numstatEntry)).get? change.path =
      some change.numstatEntry := by
  have paths : (changes.map Change.numstatEntry).map GitNumstatEntry.path =
      changes.map Change.path := by
    rw [List.map_map]
    rfl
  rw [IndexMap.get?_eq_some, indexNumstat, IndexMap.entries_collect_of_nodup]
  · exact List.mem_map.2 ⟨_, List.mem_map_of_mem member, rfl⟩
  · rwa [paths]

theorem commitFile_change {changes : List Change} (distinct : (changes.map Change.path).Nodup)
    {change : Change} (member : change ∈ changes) :
    commitFile (indexNumstat (changes.map Change.numstatEntry)) change.nameStatusEntry =
      change.listed := by
  have counted := get?_indexNumstat distinct member
  unfold commitFile
  rw [show change.nameStatusEntry.path = change.path from rfl, counted]
  unfold Change.listed Change.numstatEntry
  cases counts : change.counts <;> rfl

/-- The changes of a commit come back from both outputs, in order, and each with its own counts.
SOURCE: lib.rs:267-305, 472-509; routes.rs:3360-3427. -/
theorem commit_files_joined (changes : List Change) (distinct : (changes.map Change.path).Nodup)
    (runGit : ShowOption → List Char → Except String GitOutput) (rawSha sha : List Char)
    (named : safeGitSha rawSha = some sha) (statusErrors countErrors : List UInt8)
    (statuses : runGit .nameStatus sha = .ok ⟨true, encodeNameStatus changes, statusErrors⟩)
    (counts : runGit .numstat sha = .ok ⟨true, encodeNumstat changes, countErrors⟩) :
    parseGitNameStatus (encodeNameStatus changes) = changes.map Change.nameStatusEntry ∧
      parseGitNumstat (encodeNumstat changes) = changes.map Change.numstatEntry ∧
      gitCommitFiles runGit rawSha = .ok ⟨sha, changes.map Change.listed⟩ := by
  refine ⟨parseGitNameStatus_encode changes, parseGitNumstat_encode changes, ?_⟩
  have files : (changes.map Change.nameStatusEntry).map
      (commitFile (indexNumstat (changes.map Change.numstatEntry))) =
        changes.map Change.listed := by
    rw [List.map_map]
    exact List.map_congr_left fun change member => commitFile_change distinct member
  unfold gitCommitFiles
  rw [named]
  dsimp only
  rw [statuses]
  dsimp only
  rw [if_neg (by decide), counts]
  dsimp only
  rw [if_pos rfl, parseGitNameStatus_encode, parseGitNumstat_encode, files]

theorem sample_named : ['a'] ≠ [] := by decide

/-- A file renamed with two lines added, and a binary file changed. -/
def sampleChanges : List Change :=
  [⟨.renamed 95 ⟨['a'], sample_named, by decide⟩ ⟨['M'], by decide, by decide⟩, some (2, 0),
      by decide⟩,
    ⟨.same 'M' (by decide) (by decide) ⟨['b', '\t', 'c'], by decide, by decide⟩, none,
      by decide⟩]

/-- Git prints the sample's changes for any commit. -/
def sampleGit (option : ShowOption) (_ : List Char) : Except String GitOutput :=
  .ok ⟨true, if option = .nameStatus then encodeNameStatus sampleChanges
    else encodeNumstat sampleChanges, []⟩

theorem commit_files_joined_sample :
    parseGitNameStatus (encodeNameStatus sampleChanges) =
        sampleChanges.map Change.nameStatusEntry ∧
      parseGitNumstat (encodeNumstat sampleChanges) = sampleChanges.map Change.numstatEntry ∧
      gitCommitFiles sampleGit ['b', 'e', 'e', 'f'] =
        .ok ⟨['b', 'e', 'e', 'f'], sampleChanges.map Change.listed⟩ :=
  commit_files_joined sampleChanges (by decide) sampleGit ['b', 'e', 'e', 'f']
    ['b', 'e', 'e', 'f'] (by decide +kernel) [] [] rfl rfl

end Giskard.Git
