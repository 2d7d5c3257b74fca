import Mathlib
import Giskard.Model.GitParser

/-!
# Whose numstat line it is

A list of commits with the files each of them changed, written the way Git writes it, and what
the parser of the commit list makes of it. The loop tells headers and numstat lines apart by one
byte, and it trims newlines off every record first, also off the paths of a rename; a path made
of newlines only is then gone, and the rename takes the next record in its place.

`numstat_lines_attributed` says that the parser is right whenever no rename has such a path,
and that it is wrong whenever one has and no path looks like a record of its own. The second part
counts: a reading can count at most the records that are a header or a numstat line
(`total_readLog_le`), and a rename that takes one of these loses it (`total_readLog_lt`).
-/

set_option autoImplicit false

namespace Giskard.Git

open Foundation

/-! ## What the log says -/

/-- A path as Git prints it: bytes, not empty and without zero. -/
structure RawPath where
  bytes : List UInt8
  some_ : bytes ≠ []
  nul : 0 ∉ bytes

/-- The file of a numstat entry. -/
inductive NumstatFile where
  | plain (path : RawPath)
  | renamed (old new : RawPath)

/-- A numstat entry; a binary file has no counts. -/
structure NumstatLine where
  added : Option ℕ
  deleted : Option ℕ
  file : NumstatFile

/-- A commit of the log, with sums that fit the parser's numbers. -/
structure Commit where
  sha : List Char
  title : List Char
  parents : List (List Char)
  lines : List NumstatLine
  some_ : sha ≠ []
  shaPlain : gitLogFieldMark ∉ sha ∧ '\x00' ∉ sha
  titlePlain : gitLogFieldMark ∉ title ∧ '\x00' ∉ title
  parentsPlain : ∀ parent ∈ parents, IsWord parent ∧ gitLogFieldMark ∉ parent ∧ '\x00' ∉ parent
  addedFits : (lines.map fun line => line.added.getD 0).sum < u32
  deletedFits : (lines.map fun line => line.deleted.getD 0).sum < u32

/-! ## How Git writes it -/

/-- One count of a numstat line. -/
def countText : Option ℕ → List Char
  | some n => Nat.toDigits 10 n
  | none => ['-']

/-- The start of a numstat line, before its path. -/
def NumstatLine.counts (line : NumstatLine) : List Char :=
  closed '\t' [countText line.added, countText line.deleted]

/-- The records of a numstat entry: its line, and the two paths of a rename. -/
def NumstatLine.records (line : NumstatLine) : List (List UInt8) :=
  match line.file with
  | .plain path => [utf8 line.counts ++ path.bytes]
  | .renamed old new => [utf8 line.counts, old.bytes, new.bytes]

/-- The newline that Git puts between a header and the lines that follow it. -/
def afterNewline : List (List UInt8) → List (List UInt8)
  | [] => []
  | record :: records => (10 :: record) :: records

def Commit.headerText (commit : Commit) : List Char :=
  commit.sha ++ gitLogFieldMark :: (commit.title ++ gitLogFieldMark ::
    [' '].intercalate commit.parents)

def Commit.records (commit : Commit) : List (List UInt8) :=
  (gitLogRecordMark :: utf8 commit.headerText) ::
    afterNewline (commit.lines.flatMap NumstatLine.records)

/-- The bytes of a log: every record closed by a zero byte. -/
def encodeLog (commits : List Commit) : List UInt8 := closed 0 (commits.flatMap Commit.records)

/-! ## What it means -/

def Commit.entry (commit : Commit) : GitCommitEntry where
  sha := commit.sha
  title := commit.title
  isMerge := decide (1 < commit.parents.length)
  filesChanged := commit.lines.length
  added := (commit.lines.map fun line => line.added.getD 0).sum
  deleted := (commit.lines.map fun line => line.deleted.getD 0).sum

/-- The paths that have a record of their own. -/
def NumstatLine.renamePaths (line : NumstatLine) : List RawPath :=
  match line.file with
  | .plain _ => []
  | .renamed old new => [old, new]

/-- The paths of all renames of a log. -/
def renamePaths (commits : List Commit) : List RawPath :=
  commits.flatMap fun commit => commit.lines.flatMap NumstatLine.renamePaths

/-- A path that the trimming of newlines leaves nothing of. -/
def RawPath.OnlyNewlines (path : RawPath) : Prop := ∀ b ∈ path.bytes, b = 10

instance (path : RawPath) : Decidable path.OnlyNewlines :=
  inferInstanceAs (Decidable (∀ b ∈ path.bytes, b = 10))

/-- A record without the newlines at its start. -/
def trimmed (record : List UInt8) : List UInt8 := record.dropWhile (· == 10)

/-- A record that the loop reads as a header or as a numstat line. -/
def countable (record : List UInt8) : Bool :=
  record.head? = some gitLogRecordMark || (splitN '\t' 3 (fromUtf8Lossy record)).length = 3

/-- A path that would be read as a header or as a numstat line, if it were read. -/
def RawPath.LooksLikeRecord (path : RawPath) : Prop := countable (trimmed path.bytes) = true

instance (path : RawPath) : Decidable path.LooksLikeRecord :=
  inferInstanceAs (Decidable (countable (trimmed path.bytes) = true))

/-! ## The records that are left -/

/-- The records of a numstat entry after trimming. -/
def NumstatLine.stream (line : NumstatLine) : List (List UInt8) :=
  match line.file with
  | .plain path => [utf8 line.counts ++ path.bytes]
  | .renamed old new =>
    utf8 line.counts ::
      [trimmed old.bytes, trimmed new.bytes].filter fun record => !record.isEmpty

/-- The records of a commit after trimming. -/
def Commit.stream (commit : Commit) : List (List UInt8) :=
  (gitLogRecordMark :: utf8 commit.headerText) :: commit.lines.flatMap NumstatLine.stream

/-- Trimming, and dropping what it leaves empty. -/
def trimAll (records : List (List UInt8)) : List (List UInt8) :=
  (records.map trimmed).filter fun record => !record.isEmpty

theorem trimAll_append (left right : List (List UInt8)) :
    trimAll (left ++ right) = trimAll left ++ trimAll right := by
  simp [trimAll]

theorem trimAll_cons (record : List UInt8) (records : List (List UInt8)) :
    trimAll (record :: records) = trimAll [record] ++ trimAll records :=
  trimAll_append [record] records

theorem trimmed_append {front : List UInt8} (some_ : front ≠ []) (plain : (10 : UInt8) ∉ front)
    (back : List UInt8) : trimmed (front ++ back) = front ++ back := by
  cases front with
  | nil => exact absurd rfl some_
  | cons b front =>
    have other : b ≠ 10 := by
      rintro rfl
      exact plain (by simp)
    simp [trimmed, List.dropWhile_cons, other]

theorem trimmed_eq_nil {path : RawPath} : trimmed path.bytes = [] ↔ path.OnlyNewlines := by
  rw [trimmed, List.dropWhile_eq_nil_iff]
  simp [RawPath.OnlyNewlines]

theorem trimAll_single {record : List UInt8} (some_ : trimmed record ≠ []) :
    trimAll [record] = [trimmed record] := by
  simp [trimAll, some_]

theorem trimAll_afterNewline (records : List (List UInt8)) :
    trimAll (afterNewline records) = trimAll records := by
  cases records with
  | nil => rfl
  | cons record records =>
    have same : trimmed (10 :: record) = trimmed record := by
      rw [trimmed, List.dropWhile_cons_of_pos (by decide), trimmed]
    rw [afterNewline, trimAll, trimAll, List.map_cons, List.map_cons, same]

theorem countText_plain {c : Char} (noDigit : c.isDigit = false) (noDash : c ≠ '-')
    (count : Option ℕ) : c ∉ countText count := by
  cases count with
  | none => simpa [countText] using noDash
  | some n => exact not_mem_toDigits noDigit n

theorem NumstatLine.counts_ne_nil (line : NumstatLine) : line.counts ≠ [] := by
  simp [counts]

theorem NumstatLine.not_mem_counts {c : Char} (noDigit : c.isDigit = false) (noDash : c ≠ '-')
    (noTab : c ≠ '\t') (line : NumstatLine) : c ∉ line.counts := by
  simp [counts, countText_plain noDigit noDash, noTab]

theorem NumstatLine.newline_not_mem (line : NumstatLine) : (10 : UInt8) ∉ utf8 line.counts := by
  rw [mem_utf8_ascii (a := '\n') (by decide) (by decide)]
  exact line.not_mem_counts (by decide) (by decide) (by decide)

theorem NumstatLine.mark_not_mem (line : NumstatLine) :
    gitLogRecordMark ∉ utf8 line.counts := by
  rw [mem_utf8_ascii (a := '\x01') (by decide) (by decide)]
  exact line.not_mem_counts (by decide) (by decide) (by decide)

theorem NumstatLine.nul_not_mem (line : NumstatLine) : (0 : UInt8) ∉ utf8 line.counts := by
  rw [mem_utf8_nul]
  exact line.not_mem_counts (by decide) (by decide) (by decide)

theorem NumstatLine.utf8_counts_ne_nil (line : NumstatLine) : utf8 line.counts ≠ [] := by
  rw [ne_eq, utf8_eq_nil]
  exact line.counts_ne_nil

theorem NumstatLine.trimAll_records (line : NumstatLine) :
    trimAll line.records = line.stream := by
  have whole (back : List UInt8) :
      trimAll [utf8 line.counts ++ back] = [utf8 line.counts ++ back] := by
    have same := trimmed_append line.utf8_counts_ne_nil line.newline_not_mem back
    rw [trimAll_single, same]
    rw [same]
    exact List.append_ne_nil_of_left_ne_nil line.utf8_counts_ne_nil back
  unfold records stream
  cases line.file with
  | plain path => exact whole path.bytes
  | renamed old new =>
    have first := whole []
    rw [List.append_nil] at first
    dsimp only
    rw [trimAll_cons, first]
    rfl

theorem trimAll_flatMap {α : Type} (f g : α → List (List UInt8)) (same : ∀ a, trimAll (f a) = g a)
    (list : List α) : trimAll (list.flatMap f) = list.flatMap g := by
  induction list with
  | nil => rfl
  | cons a list ih => rw [List.flatMap_cons, trimAll_append, ih, same, List.flatMap_cons]

theorem Commit.trimAll_records (commit : Commit) : trimAll commit.records = commit.stream := by
  have header : trimAll [gitLogRecordMark :: utf8 commit.headerText] =
      [gitLogRecordMark :: utf8 commit.headerText] := by
    have same := @trimmed_append [gitLogRecordMark] (by simp) (by decide)
      (utf8 commit.headerText)
    rw [List.singleton_append] at same
    rw [trimAll_single, same]
    rw [same]
    exact List.cons_ne_nil _ _
  rw [records, trimAll_cons, header, trimAll_afterNewline,
    trimAll_flatMap _ _ NumstatLine.trimAll_records]
  rfl

/-! ## Records without zero bytes -/

theorem NumstatLine.nul_not_mem_records (line : NumstatLine) :
    ∀ record ∈ line.records, (0 : UInt8) ∉ record := by
  unfold records
  cases line.file with
  | plain path => simpa using ⟨line.nul_not_mem, path.nul⟩
  | renamed old new => simpa using ⟨line.nul_not_mem, old.nul, new.nul⟩

theorem nul_not_mem_afterNewline {records : List (List UInt8)}
    (nul : ∀ record ∈ records, (0 : UInt8) ∉ record) :
    ∀ record ∈ afterNewline records, (0 : UInt8) ∉ record := by
  cases records with
  | nil => exact nul
  | cons first records =>
    intro record member
    rcases List.mem_cons.1 member with rfl | member
    · simpa using nul first (by simp)
    · exact nul record (List.mem_cons_of_mem _ member)

theorem not_mem_intercalate {c : Char} (noSpace : c ≠ ' ') {parents : List (List Char)}
    (plain : ∀ parent ∈ parents, c ∉ parent) : c ∉ [' '].intercalate parents := by
  induction parents with
  | nil => simp [List.intercalate]
  | cons parent parents ih =>
    cases parents with
    | nil => simpa [List.intercalate] using plain parent (by simp)
    | cons next parents =>
      have joined : [' '].intercalate (parent :: next :: parents) =
          parent ++ ' ' :: [' '].intercalate (next :: parents) := by
        simp [List.intercalate]
      have rest := ih fun parent member => plain parent (List.mem_cons_of_mem _ member)
      rw [joined, List.mem_append, List.mem_cons, not_or, not_or]
      exact ⟨plain parent (by simp), noSpace, rest⟩

theorem Commit.nul_not_mem_headerText (commit : Commit) : '\x00' ∉ commit.headerText := by
  have parents : '\x00' ∉ [' '].intercalate commit.parents :=
    not_mem_intercalate (by decide) fun parent member => (commit.parentsPlain parent member).2.2
  simp [headerText, commit.shaPlain.2, commit.titlePlain.2, parents, gitLogFieldMark]

theorem Commit.nul_not_mem_records (commit : Commit) :
    ∀ record ∈ commit.records, (0 : UInt8) ∉ record := by
  intro record member
  rcases List.mem_cons.1 member with rfl | member
  · have text : (0 : UInt8) ∉ utf8 commit.headerText := by
      rw [mem_utf8_nul]
      exact commit.nul_not_mem_headerText
    simpa [gitLogRecordMark] using text
  · apply nul_not_mem_afterNewline _ record member
    intro record member
    obtain ⟨line, -, inside⟩ := List.mem_flatMap.1 member
    exact line.nul_not_mem_records record inside

theorem logRecords_encodeLog (commits : List Commit) :
    logRecords (encodeLog commits) = commits.flatMap Commit.stream := by
  have nul : ∀ record ∈ commits.flatMap Commit.records, (0 : UInt8) ∉ record := by
    intro record member
    obtain ⟨commit, -, inside⟩ := List.mem_flatMap.1 member
    exact commit.nul_not_mem_records record inside
  have trims : logRecords (encodeLog commits) = trimAll (commits.flatMap Commit.records ++ [[]]) := by
    rw [logRecords, encodeLog, splitOn_closed nul]
    rfl
  have last : trimAll [[]] = [] := rfl
  rw [trims, trimAll_append, trimAll_flatMap _ _ Commit.trimAll_records, last, List.append_nil]

/-! ## One commit -/

theorem Commit.parseCommit_headerText (commit : Commit) :
    parseCommit commit.headerText =
      some { commit.entry with filesChanged := 0, added := 0, deleted := 0 } := by
  have parents : gitLogFieldMark ∉ [' '].intercalate commit.parents :=
    not_mem_intercalate (by decide) fun parent member => (commit.parentsPlain parent member).2.1
  have split : commit.headerText.splitOn gitLogFieldMark =
      [commit.sha, commit.title, [' '].intercalate commit.parents] := by
    rw [headerText, List.splitOn_append_cons_self_of_not_mem commit.shaPlain.1,
      List.splitOn_append_cons_self_of_not_mem commit.titlePlain.1,
      List.splitOn_eq_singleton parents]
  have wordCount : words ([' '].intercalate commit.parents) = commit.parents :=
    words_join fun parent member => (commit.parentsPlain parent member).1
  rw [parseCommit, split]
  dsimp only
  rw [if_neg (by simpa using commit.some_), List.headD_cons, wordCount]
  rfl

theorem parseNumstatCount_countText {count : Option ℕ} (fits : count.getD 0 < u32) :
    parseNumstatCount (countText count) = count := by
  cases count with
  | none => rfl
  | some n =>
    have noDash : Nat.toDigits 10 n ≠ ['-'] := by
      intro dash
      exact not_mem_toDigits (c := '-') (by decide) n (by rw [dash]; simp)
    have below : n < u32 := fits
    rw [countText, parseNumstatCount, if_neg noDash, parseUnsigned_toDigits below]

/-- A commit with one more of its lines counted. -/
def GitCommitEntry.plus (commit : GitCommitEntry) (line : NumstatLine) : GitCommitEntry :=
  { commit with
    filesChanged := commit.filesChanged + 1
    added := commit.added + line.added.getD 0
    deleted := commit.deleted + line.deleted.getD 0 }

theorem GitCommitEntry.count_countText {commit : GitCommitEntry} {line : NumstatLine}
    (added : commit.added + line.added.getD 0 < u32)
    (deleted : commit.deleted + line.deleted.getD 0 < u32) :
    commit.count (countText line.added) (countText line.deleted) = commit.plus line := by
  unfold count plus
  rw [parseNumstatCount_countText (by omega), parseNumstatCount_countText (by omega),
    Nat.mod_eq_of_lt added, Nat.mod_eq_of_lt deleted]

theorem NumstatLine.head?_ne_mark (line : NumstatLine) (back : List UInt8) :
    (utf8 line.counts ++ back).head? ≠ some gitLogRecordMark := by
  cases bytes : utf8 line.counts with
  | nil => exact absurd bytes line.utf8_counts_ne_nil
  | cons b rest =>
    have outside := line.mark_not_mem
    rw [bytes, List.mem_cons, not_or] at outside
    rw [List.cons_append, List.head?_cons, ne_eq, Option.some.injEq]
    exact fun eq => outside.1 eq.symm

theorem NumstatLine.splitN_counts (line : NumstatLine) (back : List UInt8) :
    splitN '\t' 3 (fromUtf8Lossy (utf8 line.counts ++ back)) =
      [countText line.added, countText line.deleted, fromUtf8Lossy back] := by
  have plain : ∀ field ∈ [countText line.added, countText line.deleted], '\t' ∉ field := by
    simpa using ⟨countText_plain (by decide) (by decide) line.added,
      countText_plain (by decide) (by decide) line.deleted⟩
  rw [fromUtf8Lossy_append]
  exact splitN_fields plain (fromUtf8Lossy back)

theorem readLog_plain {record : List UInt8} {added deleted path : List Char}
    (unmarked : record.head? ≠ some gitLogRecordMark)
    (split : splitN '\t' 3 (fromUtf8Lossy record) = [added, deleted, path]) (some_ : path ≠ [])
    (rest : List (List UInt8)) (commits : List GitCommitEntry) (commit : GitCommitEntry) :
    readLog (record :: rest) (commits ++ [commit]) =
      readLog rest (commits ++ [commit.count added deleted]) := by
  have named : ¬path.isEmpty = true := by simpa using some_
  rw [readLog.eq_def]
  dsimp only
  rw [if_neg unmarked, if_neg (by simp), split]
  dsimp only
  rw [if_neg named, List.modifyLast_concat]

theorem readLog_rename {record : List UInt8} {added deleted : List Char}
    (unmarked : record.head? ≠ some gitLogRecordMark)
    (split : splitN '\t' 3 (fromUtf8Lossy record) = [added, deleted, []])
    (old new : List UInt8) (rest : List (List UInt8)) (commits : List GitCommitEntry)
    (commit : GitCommitEntry) :
    readLog (record :: old :: new :: rest) (commits ++ [commit]) =
      readLog rest (commits ++ [commit.count added deleted]) := by
  rw [readLog.eq_def]
  dsimp only
  rw [if_neg unmarked, if_neg (by simp), split]
  dsimp only
  rw [if_pos List.isEmpty_nil, List.modifyLast_concat]

/-- A line whose paths are not trimmed away adds to the commit before it, and takes nothing of
what follows. -/
theorem readLog_stream {line : NumstatLine}
    (visible : ∀ path ∈ line.renamePaths, ¬path.OnlyNewlines) (rest : List (List UInt8))
    (commits : List GitCommitEntry) (commit : GitCommitEntry) :
    readLog (line.stream ++ rest) (commits ++ [commit]) =
      readLog rest
        (commits ++ [commit.count (countText line.added) (countText line.deleted)]) := by
  unfold NumstatLine.renamePaths at visible
  unfold NumstatLine.stream
  cases file : line.file with
  | plain path =>
    dsimp only
    rw [List.singleton_append,
      readLog_plain (line.head?_ne_mark path.bytes) (line.splitN_counts path.bytes)]
    rw [ne_eq, fromUtf8Lossy_eq_nil]
    exact path.some_
  | renamed old new =>
    rw [file] at visible
    have first : trimmed old.bytes ≠ [] := fun empty =>
      visible old (by simp) (trimmed_eq_nil.1 empty)
    have second : trimmed new.bytes ≠ [] := fun empty =>
      visible new (by simp) (trimmed_eq_nil.1 empty)
    have kept : [trimmed old.bytes, trimmed new.bytes].filter (fun record => !record.isEmpty) =
        [trimmed old.bytes, trimmed new.bytes] := by
      simp [first, second]
    have unmarked := line.head?_ne_mark []
    have split := line.splitN_counts []
    rw [List.append_nil] at unmarked split
    dsimp only
    rw [kept]
    exact readLog_rename unmarked split _ _ rest commits commit

/-! ## The whole log, when every path is visible -/

theorem GitCommitEntry.plus_foldl (lines : List NumstatLine) (commit : GitCommitEntry) :
    lines.foldl plus commit =
      { commit with
        filesChanged := commit.filesChanged + lines.length
        added := commit.added + (lines.map fun line => line.added.getD 0).sum
        deleted := commit.deleted + (lines.map fun line => line.deleted.getD 0).sum } := by
  induction lines generalizing commit with
  | nil => rfl
  | cons line lines ih =>
    rw [List.foldl_cons, ih]
    simp only [plus, List.length_cons, List.map_cons, List.sum_cons, GitCommitEntry.mk.injEq,
      true_and]
    omega

theorem readLog_lines {lines : List NumstatLine}
    (visible : ∀ line ∈ lines, ∀ path ∈ line.renamePaths, ¬path.OnlyNewlines)
    (rest : List (List UInt8)) (commits : List GitCommitEntry) {commit : GitCommitEntry}
    (added : commit.added + (lines.map fun line => line.added.getD 0).sum < u32)
    (deleted : commit.deleted + (lines.map fun line => line.deleted.getD 0).sum < u32) :
    readLog (lines.flatMap NumstatLine.stream ++ rest) (commits ++ [commit]) =
      readLog rest (commits ++ [lines.foldl GitCommitEntry.plus commit]) := by
  induction lines generalizing commit with
  | nil => rfl
  | cons line lines ih =>
    rw [List.map_cons, List.sum_cons, ← Nat.add_assoc] at added deleted
    have later : ∀ next ∈ lines, ∀ path ∈ next.renamePaths, ¬path.OnlyNewlines :=
      fun next member => visible next (List.mem_cons_of_mem _ member)
    rw [List.flatMap_cons, List.append_assoc, readLog_stream (visible line (by simp)),
      GitCommitEntry.count_countText (by omega) (by omega), ih later added deleted,
      List.foldl_cons]

theorem readLog_commit {commit : Commit}
    (visible : ∀ line ∈ commit.lines, ∀ path ∈ line.renamePaths, ¬path.OnlyNewlines)
    (rest : List (List UInt8)) (commits : List GitCommitEntry) :
    readLog (commit.stream ++ rest) commits = readLog rest (commits ++ [commit.entry]) := by
  have header : readLog (commit.stream ++ rest) commits =
      readLog (commit.lines.flatMap NumstatLine.stream ++ rest)
        (commits ++ [{ commit.entry with filesChanged := 0, added := 0, deleted := 0 }]) := by
    rw [Commit.stream, List.cons_append, readLog.eq_def]
    dsimp only
    rw [List.head?_cons, if_pos rfl, List.tail_cons, fromUtf8Lossy_utf8,
      commit.parseCommit_headerText]
    rfl
  rw [header, readLog_lines visible rest commits (by simpa using commit.addedFits)
    (by simpa using commit.deletedFits), GitCommitEntry.plus_foldl]
  simp [Commit.entry]

theorem mem_renamePaths {commits : List Commit} {path : RawPath} :
    path ∈ renamePaths commits ↔
      ∃ commit ∈ commits, ∃ line ∈ commit.lines, path ∈ line.renamePaths := by
  simp [renamePaths]

theorem parseGitLogNumstat_visible {commits : List Commit}
    (visible : ∀ path ∈ renamePaths commits, ¬path.OnlyNewlines) :
    parseGitLogNumstat (encodeLog commits) = commits.map Commit.entry := by
  have reads (before : List GitCommitEntry) :
      readLog (commits.flatMap Commit.stream) before = before ++ commits.map Commit.entry := by
    induction commits generalizing before with
    | nil => simp [readLog]
    | cons commit commits ih =>
      have here : ∀ line ∈ commit.lines, ∀ path ∈ line.renamePaths, ¬path.OnlyNewlines :=
        fun line inside path member =>
          visible path (mem_renamePaths.2 ⟨commit, by simp, line, inside, member⟩)
      have later : ∀ path ∈ renamePaths commits, ¬path.OnlyNewlines := by
        intro path member
        obtain ⟨next, inside, rest⟩ := mem_renamePaths.1 member
        exact visible path (mem_renamePaths.2 ⟨next, List.mem_cons_of_mem _ inside, rest⟩)
      rw [List.flatMap_cons, readLog_commit here, ih later]
      simp
  rw [parseGitLogNumstat, logRecords_encodeLog, reads, List.nil_append]

/-! ## What a reading can count -/

/-- The commits of a reading and the files counted for them, together. -/
def total (commits : List GitCommitEntry) : ℕ :=
  commits.length + (commits.map GitCommitEntry.filesChanged).sum

theorem total_append (left right : List GitCommitEntry) :
    total (left ++ right) = total left + total right := by
  simp only [total, List.length_append, List.map_append, List.sum_append]
  omega

theorem total_parseCommit (text : List Char) : total (parseCommit text).toList ≤ 1 := by
  unfold parseCommit
  split
  · split <;> simp [total]
  · simp [total]

theorem total_modifyLast {commits : List GitCommitEntry} (some_ : commits ≠ [])
    (added deleted : List Char) :
    total (commits.modifyLast (·.count added deleted)) = total commits + 1 := by
  obtain ⟨front, last, rfl⟩ := (List.eq_nil_or_concat' commits).resolve_left some_
  rw [List.modifyLast_concat, total_append, total_append]
  simp only [total, List.map_singleton, List.sum_singleton, List.length_singleton,
    GitCommitEntry.count]
  omega

theorem countable_of_head {record : List UInt8} (marked : record.head? = some gitLogRecordMark) :
    countable record = true := by
  simp [countable, marked]

theorem countable_of_split {record : List UInt8} {added deleted path : List Char}
    (split : splitN '\t' 3 (fromUtf8Lossy record) = [added, deleted, path]) :
    countable record = true := by
  simp [countable, split]

theorem countable_tail (record : List UInt8) (rest : List (List UInt8)) :
    rest.countP countable ≤ (record :: rest).countP countable :=
  (List.sublist_cons_self record rest).countP_le

/-- A reading counts a record at most once, and only a header or a numstat line. -/
theorem total_readLog_le (records : List (List UInt8)) (commits : List GitCommitEntry) :
    total (readLog records commits) ≤ total commits + records.countP countable := by
  fun_induction readLog records commits with
  | case1 commits => simp
  | case2 record rest commits marked ih =>
    rw [total_append] at ih
    have one := total_parseCommit (fromUtf8Lossy record.tail)
    rw [List.countP_cons_of_pos (countable_of_head marked)]
    omega
  | case3 record rest commits unmarked none ih =>
    exact ih.trans (Nat.add_le_add_left (countable_tail record rest) _)
  | case4 record commits unmarked some_ added deleted path split counted noPath old new rest ih =>
    have grown : total counted = total commits + 1 :=
      total_modifyLast (by simpa using some_) added deleted
    rw [List.countP_cons_of_pos (countable_of_split split)]
    have fewer := (countable_tail new rest).trans (countable_tail old (new :: rest))
    omega
  | case5 record rest commits unmarked some_ added deleted path split noPath short => omega
  | case6 record rest commits unmarked some_ added deleted path split counted named ih =>
    have grown : total counted = total commits + 1 :=
      total_modifyLast (by simpa using some_) added deleted
    rw [List.countP_cons_of_pos (countable_of_split split)]
    omega
  | case7 record rest commits unmarked some_ other ih =>
    exact ih.trans (Nat.add_le_add_left (countable_tail record rest) _)

/-- A numstat line that announces two paths. -/
def TakesTwo (record : List UInt8) : Prop :=
  ∃ added deleted, splitN '\t' 3 (fromUtf8Lossy record) = [added, deleted, []]

/-- Somewhere a line announces two paths, and one of the two records after it is a header or a
numstat line, or missing. -/
inductive Starved : List (List UInt8) → Prop where
  | here {record : List UInt8} {after : List (List UInt8)} (takes : TakesTwo record)
      (unmarked : record.head? ≠ some gitLogRecordMark)
      (short : after.length < 2 ∨ 0 < (after.take 2).countP countable) : Starved (record :: after)
  | later (record : List UInt8) {after : List (List UInt8)} (starved : Starved after) :
      Starved (record :: after)

/-- A reading that starves a rename counts less than there is. -/
theorem total_readLog_lt {records : List (List UInt8)} (starved : Starved records)
    (commits : List GitCommitEntry) :
    total (readLog records commits) < total commits + records.countP countable := by
  fun_induction readLog records commits with
  | case1 commits => cases starved
  | case2 record rest commits marked ih =>
    cases starved with
    | here takes unmarked short => exact absurd marked unmarked
    | later _ starved =>
      have rest_ := ih starved
      rw [total_append] at rest_
      have one := total_parseCommit (fromUtf8Lossy record.tail)
      rw [List.countP_cons_of_pos (countable_of_head marked)]
      omega
  | case3 record rest commits unmarked none ih =>
    cases starved with
    | here takes unmarked short =>
      obtain ⟨added, deleted, split⟩ := takes
      rw [List.countP_cons_of_pos (countable_of_split split)]
      have rest_ := total_readLog_le rest commits
      omega
    | later _ starved =>
      exact (ih starved).trans_le (Nat.add_le_add_left (countable_tail record rest) _)
  | case4 record commits unmarked some_ added deleted path split counted noPath old new rest ih =>
    have grown : total counted = total commits + 1 :=
      total_modifyLast (by simpa using some_) added deleted
    have bound := total_readLog_le rest counted
    have counts : countable old = true ∨ countable new = true ∨ Starved rest := by
      cases starved with
      | here takes unmarked short =>
        have pair : 0 < [old, new].countP countable := short.resolve_left (by simp)
        obtain ⟨record, member, yes⟩ := List.countP_pos_iff.1 pair
        rcases List.mem_pair.1 member with rfl | rfl
        · exact .inl yes
        · exact .inr (.inl yes)
      | later _ starved =>
        cases starved with
        | here takes _ _ =>
          obtain ⟨_, _, split⟩ := takes
          exact .inl (countable_of_split split)
        | later _ starved =>
          cases starved with
          | here takes _ _ =>
            obtain ⟨_, _, split⟩ := takes
            exact .inr (.inl (countable_of_split split))
          | later _ starved => exact .inr (.inr starved)
    rw [List.countP_cons_of_pos (countable_of_split split)]
    rcases counts with yes | yes | starved
    · have more := countable_tail new rest
      rw [List.countP_cons_of_pos yes]
      omega
    · have more := countable_tail old (new :: rest)
      rw [List.countP_cons_of_pos yes] at more
      omega
    · have less := ih starved
      have more := (countable_tail new rest).trans (countable_tail old (new :: rest))
      omega
  | case5 record rest commits unmarked some_ added deleted path split noPath short =>
    rw [List.countP_cons_of_pos (countable_of_split split)]
    omega
  | case6 record rest commits unmarked some_ added deleted path split counted named ih =>
    have grown : total counted = total commits + 1 :=
      total_modifyLast (by simpa using some_) added deleted
    rw [List.countP_cons_of_pos (countable_of_split split)]
    cases starved with
    | here takes _ _ =>
      obtain ⟨_, _, empty⟩ := takes
      rw [split, List.cons.injEq, List.cons.injEq, List.cons.injEq] at empty
      exact absurd empty.2.2.1 (by simpa using named)
    | later _ starved =>
      have less := ih starved
      omega
  | case7 record rest commits unmarked some_ other ih =>
    cases starved with
    | here takes _ _ =>
      obtain ⟨added, deleted, split⟩ := takes
      exact absurd split (other added deleted [])
    | later _ starved =>
      exact (ih starved).trans_le (Nat.add_le_add_left (countable_tail record rest) _)

/-! ## When a path is only newlines -/

theorem Starved.append {records : List (List UInt8)} (starved : Starved records) :
    ∀ front : List (List UInt8), Starved (front ++ records)
  | [] => starved
  | record :: front => .later record (starved.append front)

theorem NumstatLine.countable_counts (line : NumstatLine) (back : List UInt8) :
    countable (utf8 line.counts ++ back) = true :=
  countable_of_split (line.splitN_counts back)

theorem NumstatLine.head?_stream (line : NumstatLine) :
    ∃ record rest, line.stream = record :: rest ∧ countable record = true := by
  have first := line.countable_counts []
  rw [List.append_nil] at first
  unfold stream
  cases line.file with
  | plain path => exact ⟨_, _, rfl, line.countable_counts path.bytes⟩
  | renamed old new => exact ⟨_, _, rfl, first⟩

/-- The first record of what follows a line, if any, is a header or a numstat line. -/
def Opens (records : List (List UInt8)) : Prop := ∀ record ∈ records.head?, countable record = true

theorem Opens.lines (lines : List NumstatLine) {rest : List (List UInt8)} (opens : Opens rest) :
    Opens (lines.flatMap NumstatLine.stream ++ rest) := by
  cases lines with
  | nil => exact opens
  | cons line lines =>
    obtain ⟨record, after, stream, yes⟩ := line.head?_stream
    rw [List.flatMap_cons, stream]
    intro other member
    cases member
    exact yes

theorem Opens.commits (commits : List Commit) : Opens (commits.flatMap Commit.stream) := by
  cases commits with
  | nil => exact fun _ member => by cases member
  | cons commit commits =>
    intro record member
    cases member
    exact countable_of_head rfl

theorem Starved.ofFew {record : List UInt8} {own rest : List (List UInt8)}
    (takes : TakesTwo record) (unmarked : record.head? ≠ some gitLogRecordMark)
    (few : own.length ≤ 1) (opens : Opens rest) : Starved (record :: (own ++ rest)) := by
  refine .here takes unmarked ?_
  cases rest with
  | nil =>
    left
    rw [List.append_nil]
    omega
  | cons first rest =>
    right
    rw [List.countP_pos_iff]
    refine ⟨first, ?_, opens first rfl⟩
    obtain ⟨n, positive⟩ : ∃ n, 2 - own.length = n + 1 := ⟨1 - own.length, by omega⟩
    rw [List.take_append, List.mem_append, positive, List.take_succ_cons]
    exact .inr List.mem_cons_self

/-- A rename with a path of newlines is starved by what follows it. -/
theorem NumstatLine.starved {line : NumstatLine} {path : RawPath} (member : path ∈ line.renamePaths)
    (newlines : path.OnlyNewlines) {rest : List (List UInt8)} (opens : Opens rest) :
    Starved (line.stream ++ rest) := by
  unfold renamePaths at member
  unfold stream
  cases file : line.file with
  | plain path =>
    rw [file] at member
    cases member
  | renamed old new =>
    rw [file] at member
    have unmarked := line.head?_ne_mark []
    have split := line.splitN_counts []
    rw [List.append_nil] at unmarked split
    have few : ([trimmed old.bytes, trimmed new.bytes].filter
        fun record => !record.isEmpty).length ≤ 1 := by
      have gone := trimmed_eq_nil.2 newlines
      rcases List.mem_pair.1 member with rfl | rfl
      · rw [gone, List.filter_cons_of_neg (by simp)]
        exact List.length_filter_le _ [trimmed new.bytes]
      · rw [gone, List.filter_cons]
        split <;> simp
    dsimp only
    rw [List.cons_append]
    exact .ofFew ⟨_, _, split⟩ unmarked few opens

theorem starved_stream {commits : List Commit} {path : RawPath}
    (member : path ∈ renamePaths commits) (newlines : path.OnlyNewlines) :
    Starved (commits.flatMap Commit.stream) := by
  obtain ⟨commit, inCommits, line, inLines, inPaths⟩ := mem_renamePaths.1 member
  obtain ⟨before, after, rfl⟩ := List.append_of_mem inCommits
  obtain ⟨above, below, lines⟩ := List.append_of_mem inLines
  have opens : Opens (below.flatMap NumstatLine.stream ++ after.flatMap Commit.stream) :=
    Opens.lines below (Opens.commits after)
  have starved := (line.starved inPaths newlines opens).append
    (before.flatMap Commit.stream ++
      ((gitLogRecordMark :: utf8 commit.headerText) :: above.flatMap NumstatLine.stream))
  rw [List.flatMap_append, List.flatMap_cons, Commit.stream, lines, List.flatMap_append,
    List.flatMap_cons]
  simpa using starved

theorem NumstatLine.countP_stream {line : NumstatLine}
    (ordinary : ∀ path ∈ line.renamePaths, ¬path.LooksLikeRecord) :
    line.stream.countP countable = 1 := by
  unfold renamePaths at ordinary
  unfold stream
  cases file : line.file with
  | plain path =>
    dsimp only
    rw [List.countP_singleton, if_pos (line.countable_counts path.bytes)]
  | renamed old new =>
    rw [file] at ordinary
    have first := line.countable_counts []
    rw [List.append_nil] at first
    have none : ([trimmed old.bytes, trimmed new.bytes].filter
        fun record => !record.isEmpty).countP countable = 0 := by
      rw [List.countP_eq_zero]
      intro record member
      rcases List.mem_pair.1 (List.mem_of_mem_filter member) with rfl | rfl
      · exact ordinary old (by simp)
      · exact ordinary new (by simp)
    dsimp only
    rw [List.countP_cons_of_pos first, none]

/-- There is as much to count as the commits say. -/
theorem countP_stream {commits : List Commit}
    (ordinary : ∀ path ∈ Git.renamePaths commits, ¬path.LooksLikeRecord) :
    (commits.flatMap Commit.stream).countP countable = total (commits.map Commit.entry) := by
  have ofCommit {commit : Commit} (member : commit ∈ commits) :
      commit.stream.countP countable = total [commit.entry] := by
    have lines : (commit.lines.flatMap NumstatLine.stream).countP countable =
        commit.lines.length := by
      rw [List.countP_flatMap]
      have each : commit.lines.map (List.countP countable ∘ NumstatLine.stream) =
          commit.lines.map fun _ => 1 := by
        apply List.map_congr_left
        intro line inside
        exact NumstatLine.countP_stream fun path inPaths =>
          ordinary path (mem_renamePaths.2 ⟨commit, member, line, inside, inPaths⟩)
      rw [each]
      simp
    rw [Commit.stream, List.countP_cons_of_pos (countable_of_head rfl), lines]
    simp [total, Commit.entry, Nat.add_comm]
  clear ordinary
  induction commits with
  | nil => rfl
  | cons commit commits ih =>
    rw [List.flatMap_cons, List.countP_append, ofCommit (by simp),
      ih fun member => ofCommit (List.mem_cons_of_mem _ member), List.map_cons, ← total_append]
    rfl

/-- **The parser attributes every numstat line to its commit, unless a rename has a path made of
newlines only.** For every log without such a path the parser gives back the commits in order with
their files and sums, whatever else the paths hold. For every log with such a path it does not,
when no path of a rename looks like a header or a numstat line. -/
theorem numstat_lines_attributed (commits : List Commit) :
    ((∀ path ∈ renamePaths commits, ¬path.OnlyNewlines) →
      parseGitLogNumstat (encodeLog commits) = commits.map Commit.entry) ∧
    ((∀ path ∈ renamePaths commits, ¬path.LooksLikeRecord) →
      parseGitLogNumstat (encodeLog commits) = commits.map Commit.entry →
        ∀ path ∈ renamePaths commits, ¬path.OnlyNewlines) := by
  refine ⟨parseGitLogNumstat_visible, fun ordinary right path member newlines => ?_⟩
  have less := total_readLog_lt (starved_stream member newlines) []
  rw [countP_stream ordinary, ← logRecords_encodeLog] at less
  rw [parseGitLogNumstat] at right
  rw [right] at less
  simp [total] at less

/-! ## Three logs -/

def rawPath (text : List Char) (some_ : utf8 text ≠ []) (nul : 0 ∉ utf8 text) : RawPath :=
  ⟨utf8 text, some_, nul⟩

/-- A commit that renames one file and then changes another. -/
def renameCommit (old : RawPath) (next : NumstatFile) (added : ℕ) (fits : 1 + added < u32) :
    Commit where
  sha := ['a']
  title := ['t']
  parents := []
  lines := [
    { added := some 1, deleted := some 0,
      file := .renamed old (rawPath ['b'] (by decide) (by decide)) },
    { added := some added, deleted := none, file := next }]
  some_ := by decide
  shaPlain := by decide
  titlePlain := by decide
  parentsPlain := by simp
  addedFits := by simpa using fits
  deletedFits := show (0 : ℕ) < u32 by decide

/-- A file named by a newline is renamed, and another file gains two lines. -/
def newlineRename : Commit :=
  renameCommit (rawPath ['\n'] (by decide) (by decide))
    (.plain (rawPath ['x'] (by decide) (by decide))) 2 (by decide)

/-- The same with an ordinary name. -/
def tidyRename : Commit :=
  renameCommit (rawPath ['c'] (by decide) (by decide))
    (.plain (rawPath ['x'] (by decide) (by decide))) 2 (by decide)

theorem numstat_lines_attributed_sample :
    parseGitLogNumstat (encodeLog [tidyRename]) = [tidyRename.entry] ∧
      ∀ path ∈ renamePaths [tidyRename], ¬path.OnlyNewlines :=
  have right := (numstat_lines_attributed [tidyRename]).1 (by decide +kernel)
  ⟨right, (numstat_lines_attributed [tidyRename]).2 (by decide +kernel) right⟩

/-- The rename takes the line of the other file with it: one file and one line are reported
where there are two and three. -/
theorem newline_path_takes_a_line :
    parseGitLogNumstat (encodeLog [newlineRename]) ≠ [newlineRename].map Commit.entry := by
  decide +kernel

/-- A path that looks like a numstat line can hide the mistake: it is counted for the line that
the rename before it took. -/
example :
    let path := rawPath ['3', '\t', '-', '\t', 'q'] (by decide) (by decide)
    let commit := renameCommit (rawPath ['\n'] (by decide) (by decide))
      (.renamed path (rawPath ['z'] (by decide) (by decide))) 3 (by decide)
    parseGitLogNumstat (encodeLog [commit]) = [commit.entry] := by
  decide +kernel

end Giskard.Git
