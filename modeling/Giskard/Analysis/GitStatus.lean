import Mathlib
import Giskard.Model.GitParser

/-!
# Reading back the status of a working tree

The porcelain format as what it says: branch headers, and entries of four kinds with paths that
may hold anything but the zero character. `encodeStatus` writes them the way Git does, and
`gitStatus_inverts` says that the parser gives back exactly the entries in their order, the
values of the headers, and the counts of each class.

The argument is one lemma for each kind of record about what the loop does with it
(`readStatus_header`, `readStatus_entry`), and the fold of both over the lists.
-/

set_option autoImplicit false

namespace Giskard.Git

open Foundation

/-! ## What the format says -/

/-- The state of one side of an entry. -/
inductive Status where
  | unmodified
  | modified
  | added
  | deleted
  | renamed
  | copied
  | typechange
  | unmerged
  deriving DecidableEq

namespace Status

def letter : Status → Char
  | unmodified => '.'
  | modified => 'M'
  | added => 'A'
  | deleted => 'D'
  | renamed => 'R'
  | copied => 'C'
  | typechange => 'T'
  | unmerged => 'U'

def name : Status → String
  | unmodified => "unmodified"
  | modified => "modified"
  | added => "added"
  | deleted => "deleted"
  | renamed => "renamed"
  | copied => "copied"
  | typechange => "typechange"
  | unmerged => "unmerged"

/-- Whether a state decides the kind of its entry alone. -/
def decisive : Status → Bool
  | renamed => true
  | copied => true
  | typechange => true
  | _ => false

end Status

/-- A path: any text that is not empty and has no zero character. -/
structure GitPath where
  text : List Char
  some_ : text ≠ []
  nul : '\x00' ∉ text

/-- The `n` columns between the status pair of an entry and its path: modes and object names. -/
structure Columns (n : ℕ) where
  fields : List (List Char)
  length : fields.length = n
  plain : ∀ field ∈ fields, ' ' ∉ field
  nul : ∀ field ∈ fields, '\x00' ∉ field

/-- An entry: an index state, a worktree state, and what the record type adds. -/
inductive Entry where
  | ordinary (index worktree : Status) (columns : Columns 6) (path : GitPath)
  | renamed (index worktree : Status) (columns : Columns 7) (path original : GitPath)
  | unmerged (index worktree : Status) (columns : Columns 8) (path : GitPath)
  | untracked (path : GitPath)

/-- A header about the branch; `(initial)` and `(detached)` are words of the format itself. -/
inductive BranchHeader where
  | initial
  | commit (oid : List Char) (nul : '\x00' ∉ oid) (named : oid ≠ initialWord)
  | detached
  | onBranch (branch : GitPath) (named : branch.text ≠ detachedWord)
  | aheadBehind (ahead behind : UInt32)
  | other (key value : List Char) (plain : ' ' ∉ key) (nul : '\x00' ∉ key ∧ '\x00' ∉ value)
      (unread : key ≠ oidKey ∧ key ≠ headKey ∧
        key ≠ countsKey)

/-! ## How Git writes it -/

/-- A line of an entry: its type, its status pair, its columns and its path. -/
def entryLine (type : Char) (index worktree : Status) (columns : List (List Char))
    (path : List Char) : List Char :=
  closed ' ' ([type] :: [index.letter, worktree.letter] :: columns) ++ path

def Entry.lines : Entry → List (List Char)
  | ordinary index worktree columns path => [entryLine '1' index worktree columns.fields path.text]
  | renamed index worktree columns path original =>
    [entryLine '2' index worktree columns.fields path.text, original.text]
  | unmerged index worktree columns path => [entryLine 'u' index worktree columns.fields path.text]
  | untracked path => [untrackedMark ++ path.text]

/-- The key and the value of a header. -/
def BranchHeader.pair : BranchHeader → List Char × List Char
  | initial => (oidKey, initialWord)
  | commit oid _ _ => (oidKey, oid)
  | detached => (headKey, detachedWord)
  | onBranch branch _ => (headKey, branch.text)
  | aheadBehind ahead behind =>
    (countsKey,
      [' '].intercalate
        ['+' :: Nat.toDigits 10 ahead.toNat, '-' :: Nat.toDigits 10 behind.toNat])
  | other key value _ _ _ => (key, value)

def BranchHeader.line (header : BranchHeader) : List Char :=
  headerMark ++ header.pair.1 ++ ' ' :: header.pair.2

/-- The lines of a status. -/
def statusLines (headers : List BranchHeader) (entries : List Entry) : List (List Char) :=
  headers.map BranchHeader.line ++ entries.flatMap Entry.lines

/-- The bytes of a status: every line in UTF-8, closed by a zero byte. -/
def encodeStatus (headers : List BranchHeader) (entries : List Entry) : List UInt8 :=
  closed 0 ((statusLines headers entries).map utf8)

/-! ## What it means -/

/-- The kind of an ordinary or renamed entry. -/
def entryKind (index worktree : Status) : String :=
  if index.decisive then index.name
  else if worktree.decisive then worktree.name
  else if index = .deleted ∨ worktree = .deleted then "deleted"
  else if index = .added ∨ worktree = .added then "added"
  else "modified"

/-- The file an entry is about. -/
def Entry.file : Entry → GitFileStatus
  | ordinary index worktree _ path =>
    { path := path.text, oldPath := none, indexStatus := index.name,
      worktreeStatus := worktree.name, kind := entryKind index worktree }
  | renamed index worktree _ path original =>
    { path := path.text, oldPath := some original.text, indexStatus := index.name,
      worktreeStatus := worktree.name, kind := entryKind index worktree }
  | unmerged index worktree _ path =>
    { path := path.text, oldPath := none, indexStatus := index.name,
      worktreeStatus := worktree.name, kind := "unmerged" }
  | untracked path =>
    { path := path.text, oldPath := none, indexStatus := "untracked",
      worktreeStatus := "untracked", kind := "untracked" }

/-- An entry with a change in the index. -/
def Entry.staged : Entry → Bool
  | ordinary index _ _ _ => index ≠ .unmodified
  | renamed index _ _ _ _ => index ≠ .unmodified
  | _ => false

/-- An entry with a change in the worktree. -/
def Entry.unstaged : Entry → Bool
  | ordinary _ worktree _ _ => worktree ≠ .unmodified
  | renamed _ worktree _ _ _ => worktree ≠ .unmodified
  | _ => false

def Entry.isUnmerged : Entry → Bool
  | unmerged _ _ _ _ => true
  | _ => false

def Entry.isUntracked : Entry → Bool
  | untracked _ => true
  | _ => false

/-- The commit that a header names: none on a branch without commits. -/
def BranchHeader.head? : BranchHeader → Option (Option (List Char))
  | initial => some none
  | commit oid _ _ => some (some (oid.take 7))
  | _ => none

def BranchHeader.branch? : BranchHeader → Option (List Char)
  | onBranch branch _ => some branch.text
  | _ => none

def BranchHeader.isDetached : BranchHeader → Bool
  | detached => true
  | _ => false

def BranchHeader.counts? : BranchHeader → Option (ℕ × ℕ)
  | aheadBehind ahead behind => some (ahead.toNat, behind.toNat)
  | _ => none

/-- What a status says: of a header that comes twice, the later one. -/
def statusOf (headers : List BranchHeader) (entries : List Entry) : GitStatusResponse where
  isRepository := true
  branch := (headers.filterMap BranchHeader.branch?).getLast?
  head := (headers.filterMap BranchHeader.head?).getLast?.join
  detached := headers.any BranchHeader.isDetached
  ahead := ((headers.filterMap BranchHeader.counts?).getLast?.getD (0, 0)).1
  behind := ((headers.filterMap BranchHeader.counts?).getLast?.getD (0, 0)).2
  dirty := !entries.isEmpty
  stagedCount := entries.countP Entry.staged
  unstagedCount := entries.countP Entry.unstaged
  untrackedCount := entries.countP Entry.isUntracked
  conflictedCount := entries.countP Entry.isUnmerged
  addedTotal := 0
  deletedTotal := 0
  files := entries.map Entry.file
  base := none
  commitCount := 0
  commits := []
  commitsTruncated := false
  error := none

/-! ## Lines and records -/

theorem Status.letter_ne_space (status : Status) : ' ' ≠ status.letter := by
  cases status <;> decide

theorem Status.letter_ne_nul (status : Status) : '\x00' ≠ status.letter := by
  cases status <;> decide

theorem nul_not_mem_closed {fields : List (List Char)} (nul : ∀ field ∈ fields, '\x00' ∉ field) :
    '\x00' ∉ closed ' ' fields := by
  induction fields with
  | nil => simp
  | cons field fields ih =>
    rw [closed_cons, List.mem_append, List.mem_cons]
    rintro (inside | space | later)
    · exact nul field (by simp) inside
    · exact absurd space (by decide)
    · exact ih (fun f member => nul f (by simp [member])) later

theorem nul_not_mem_entryLine {type : Char} (named : '\x00' ≠ type) (index worktree : Status)
    {n : ℕ} (columns : Columns n) (path : GitPath) :
    '\x00' ∉ entryLine type index worktree columns.fields path.text := by
  rw [entryLine, List.mem_append, not_or]
  refine ⟨nul_not_mem_closed fun field member => ?_, path.nul⟩
  rcases List.mem_cons.1 member with rfl | member
  · simpa using named
  rcases List.mem_cons.1 member with rfl | member
  · simpa using ⟨index.letter_ne_nul, worktree.letter_ne_nul⟩
  · exact columns.nul field member

theorem Entry.nul_not_mem_lines (entry : Entry) : ∀ line ∈ entry.lines, '\x00' ∉ line := by
  cases entry with
  | ordinary index worktree columns path =>
    simpa [lines] using nul_not_mem_entryLine (by decide) index worktree columns path
  | renamed index worktree columns path original =>
    simpa [lines] using
      ⟨@nul_not_mem_entryLine '2' (by decide) index worktree _ columns path, original.nul⟩
  | unmerged index worktree columns path =>
    simpa [lines] using nul_not_mem_entryLine (by decide) index worktree columns path
  | untracked path => simpa [lines, untrackedMark] using path.nul

theorem Entry.lines_ne_nil (entry : Entry) : ∀ line ∈ entry.lines, line ≠ [] := by
  cases entry with
  | ordinary index worktree columns path => simp [lines, entryLine]
  | renamed index worktree columns path original => simp [lines, entryLine, original.some_]
  | unmerged index worktree columns path => simp [lines, entryLine]
  | untracked path => simp [lines, untrackedMark]

theorem nul_not_mem_digits (n : ℕ) : '\x00' ∉ Nat.toDigits 10 n :=
  not_mem_toDigits (by decide) n

theorem nul_not_mem_counts (ahead behind : UInt32) :
    '\x00' ∉ [' '].intercalate
      ['+' :: Nat.toDigits 10 ahead.toNat, '-' :: Nat.toDigits 10 behind.toNat] := by
  simp [List.intercalate, nul_not_mem_digits]

theorem BranchHeader.nul_not_mem_pair (header : BranchHeader) :
    '\x00' ∉ header.pair.1 ∧ '\x00' ∉ header.pair.2 := by
  have oidKey : '\x00' ∉ oidKey := by decide
  have headKey : '\x00' ∉ headKey := by decide
  have countKey : '\x00' ∉ countsKey := by decide
  cases header with
  | initial => exact ⟨oidKey, show '\x00' ∉ initialWord by decide⟩
  | commit oid nul named => exact ⟨oidKey, nul⟩
  | detached => exact ⟨headKey, show '\x00' ∉ detachedWord by decide⟩
  | onBranch branch named => exact ⟨headKey, branch.nul⟩
  | aheadBehind ahead behind => exact ⟨countKey, nul_not_mem_counts ahead behind⟩
  | other key value plain nul unread => exact nul

theorem BranchHeader.nul_not_mem_line (header : BranchHeader) : '\x00' ∉ header.line := by
  have start : '\x00' ∉ headerMark := by decide
  have space : '\x00' ≠ ' ' := by decide
  rw [line, List.mem_append, List.mem_append, List.mem_cons, not_or, not_or, not_or]
  exact ⟨⟨start, header.nul_not_mem_pair.1⟩, space, header.nul_not_mem_pair.2⟩

theorem statusLines_plain (headers : List BranchHeader) (entries : List Entry) :
    ∀ line ∈ statusLines headers entries, line ≠ [] ∧ '\x00' ∉ line := by
  intro line member
  rcases List.mem_append.1 member with member | member
  · obtain ⟨header, -, rfl⟩ := List.mem_map.1 member
    exact ⟨by simp [BranchHeader.line], header.nul_not_mem_line⟩
  · obtain ⟨entry, -, inside⟩ := List.mem_flatMap.1 member
    exact ⟨entry.lines_ne_nil line inside, entry.nul_not_mem_lines line inside⟩

theorem records_closed {list : List (List UInt8)}
    (plain : ∀ record ∈ list, record ≠ [] ∧ (0 : UInt8) ∉ record) :
    records (closed 0 list) = list := by
  have apart : ∀ record ∈ list, (0 : UInt8) ∉ record := fun record member => (plain record member).2
  have kept : ∀ record ∈ list, (!record.isEmpty) = true := fun record member => by
    simpa using (plain record member).1
  rw [records, splitOn_closed apart, List.filter_append, List.filter_eq_self.2 kept]
  exact List.append_nil list

theorem records_lines {lines : List (List Char)}
    (plain : ∀ line ∈ lines, line ≠ [] ∧ '\x00' ∉ line) :
    records (closed 0 (lines.map utf8)) = lines.map utf8 := by
  refine records_closed fun record member => ?_
  obtain ⟨line, inside, rfl⟩ := List.mem_map.1 member
  rw [mem_utf8_nul, ne_eq, utf8_eq_nil]
  exact plain line inside

/-! ## Headers -/

/-- What a header changes in the reading. -/
def StatusReading.told (reading : StatusReading) (header : BranchHeader) : StatusReading :=
  { reading with
    branch := header.branch?.or reading.branch
    head := header.head?.getD reading.head
    detached := reading.detached || header.isDetached
    ahead := (header.counts?.getD (reading.ahead, reading.behind)).1
    behind := (header.counts?.getD (reading.ahead, reading.behind)).2 }

theorem parseGitAheadBehind_counts (ahead behind : UInt32) :
    parseGitAheadBehind
        ([' '].intercalate
          ['+' :: Nat.toDigits 10 ahead.toNat, '-' :: Nat.toDigits 10 behind.toNat]) =
      (ahead.toNat, behind.toNat) := by
  have isWord {sign : Char} (mark : isWhiteSpace sign = false) (n : ℕ) :
      IsWord (sign :: Nat.toDigits 10 n) := by
    refine ⟨List.cons_ne_nil _ _, fun c member => ?_⟩
    rcases List.mem_cons.1 member with rfl | member
    · exact mark
    · exact isWhiteSpace_of_isDigit (isDigit_of_mem_toDigits member)
  rw [parseGitAheadBehind, words_join]
  · have left : parseUnsigned u32 (Nat.toDigits 10 ahead.toNat) = some ahead.toNat :=
      parseUnsigned_toDigits ahead.toNat_lt
    have right : parseUnsigned u32 (Nat.toDigits 10 behind.toNat) = some behind.toNat :=
      parseUnsigned_toDigits behind.toNat_lt
    simp only [List.foldl_cons, List.foldl_nil, readAheadBehind, left, right, Option.getD_some]
  · intro word member
    rcases List.mem_cons.1 member with rfl | member
    · exact isWord (by decide) _
    · rw [List.mem_singleton] at member
      subst member
      exact isWord (by decide) _

theorem BranchHeader.plain_key (header : BranchHeader) : ' ' ∉ header.pair.1 := by
  cases header with
  | other key value plain nul unread => exact plain
  | initial => exact show ' ' ∉ oidKey by decide
  | commit => exact show ' ' ∉ oidKey by decide
  | detached => exact show ' ' ∉ headKey by decide
  | onBranch => exact show ' ' ∉ headKey by decide
  | aheadBehind => exact show ' ' ∉ countsKey by decide

/-- A header line changes the reading as the header says. -/
theorem StatusReading.header_told (reading : StatusReading) (header : BranchHeader) :
    reading.header (header.pair.1 ++ ' ' :: header.pair.2) = reading.told header := by
  have apart : headKey ≠ oidKey := by decide
  have apart' : countsKey ≠ oidKey := by decide
  have apart'' : countsKey ≠ headKey := by decide
  unfold StatusReading.header
  rw [splitOnce_append header.plain_key, Option.getD_some]
  dsimp only
  cases header with
  | initial =>
    rw [BranchHeader.pair, if_pos rfl, if_pos rfl]
    simp [told, BranchHeader.branch?, BranchHeader.head?, BranchHeader.isDetached,
      BranchHeader.counts?]
  | commit oid nul named =>
    rw [BranchHeader.pair, if_pos rfl, if_neg named]
    simp [told, BranchHeader.branch?, BranchHeader.head?, BranchHeader.isDetached,
      BranchHeader.counts?, gitShortOid]
  | detached =>
    rw [BranchHeader.pair, if_neg apart, if_pos rfl, if_pos rfl]
    simp [told, BranchHeader.branch?, BranchHeader.head?, BranchHeader.isDetached,
      BranchHeader.counts?]
  | onBranch branch named =>
    rw [BranchHeader.pair, if_neg apart, if_pos rfl, if_neg named,
      if_neg (by simpa using branch.some_)]
    simp [told, BranchHeader.branch?, BranchHeader.head?, BranchHeader.isDetached,
      BranchHeader.counts?]
  | aheadBehind ahead behind =>
    rw [BranchHeader.pair, if_neg apart', if_neg apart'', if_pos rfl, parseGitAheadBehind_counts]
    simp [told, BranchHeader.branch?, BranchHeader.head?, BranchHeader.isDetached,
      BranchHeader.counts?]
  | other key value plain nul unread =>
    rw [BranchHeader.pair, if_neg unread.1, if_neg unread.2.1, if_neg unread.2.2]
    simp [told, BranchHeader.branch?, BranchHeader.head?, BranchHeader.isDetached,
      BranchHeader.counts?]

theorem readStatus_header (header : BranchHeader) (rest : List (List UInt8))
    (reading : StatusReading) :
    readStatus (utf8 header.line :: rest) reading = readStatus rest (reading.told header) := by
  have marked : header.line.dropPrefix? headerMark =
      some (header.pair.1 ++ ' ' :: header.pair.2) := by
    rw [BranchHeader.line, List.append_assoc]
    exact List.dropPrefix?_append_of_beq _ (by decide)
  rw [readStatus.eq_def]
  dsimp only
  rw [fromUtf8Lossy_utf8, marked]
  dsimp only
  rw [reading.header_told header]

theorem readStatus_headers (headers : List BranchHeader) (rest : List (List UInt8))
    (reading : StatusReading) :
    readStatus ((headers.map BranchHeader.line).map utf8 ++ rest) reading =
      readStatus rest (headers.foldl StatusReading.told reading) := by
  induction headers generalizing reading with
  | nil => rfl
  | cons header headers ih =>
    rw [List.map_cons, List.map_cons, List.cons_append, readStatus_header, ih, List.foldl_cons]

/-- The last of a list of headers decides each value. -/
theorem StatusReading.foldl_told (headers : List BranchHeader) (reading : StatusReading) :
    headers.foldl StatusReading.told reading =
      { reading with
        branch := (headers.filterMap BranchHeader.branch?).getLast?.or reading.branch
        head := (headers.filterMap BranchHeader.head?).getLast?.getD reading.head
        detached := reading.detached || headers.any BranchHeader.isDetached
        ahead := ((headers.filterMap BranchHeader.counts?).getLast?.getD
          (reading.ahead, reading.behind)).1
        behind := ((headers.filterMap BranchHeader.counts?).getLast?.getD
          (reading.ahead, reading.behind)).2 } := by
  induction headers generalizing reading with
  | nil => simp
  | cons header headers ih =>
    rw [List.foldl_cons, ih]
    unfold told
    have last {β : Type} (f : BranchHeader → Option β) (default : β) :
        ((header :: headers).filterMap f).getLast?.getD default =
          (headers.filterMap f).getLast?.getD ((f header).getD default) := by
      cases none : f header with
      | none => rw [List.filterMap_cons_none none, Option.getD_none]
      | some value =>
        rw [List.filterMap_cons_some none, List.getLast?_cons, Option.getD_some, Option.getD_some]
    have lastOr : ((header :: headers).filterMap BranchHeader.branch?).getLast?.or reading.branch =
        (headers.filterMap BranchHeader.branch?).getLast?.or
          (header.branch?.or reading.branch) := by
      cases none : header.branch? with
      | none => rw [List.filterMap_cons_none none, Option.none_or]
      | some value =>
        rw [List.filterMap_cons_some none, List.getLast?_cons]
        cases (headers.filterMap BranchHeader.branch?).getLast? <;> rfl
    rw [last, last, lastOr, List.any_cons, Bool.or_assoc]

/-! ## Entries -/

theorem Status.name_letter (status : Status) : gitStatusName status.letter = status.name := by
  cases status <;> rfl

theorem entryKind_letters (index worktree : Status) :
    gitFileKind index.letter worktree.letter = entryKind index worktree := by
  cases index <;> cases worktree <;> rfl

/-- The status pair and the path of an entry line are read back. -/
theorem parseGitEntryFields_entryLine (type : Char) (typed : ' ' ≠ type) (index worktree : Status)
    {n : ℕ} (columns : Columns n) (path : GitPath) :
    parseGitEntryFields (entryLine type index worktree columns.fields path.text) (n + 3) =
      some ((index.letter, worktree.letter), path.text) := by
  have plain : ∀ field ∈ [type] :: [index.letter, worktree.letter] :: columns.fields,
      ' ' ∉ field := by
    intro field member
    rcases List.mem_cons.1 member with rfl | member
    · simpa using typed
    rcases List.mem_cons.1 member with rfl | member
    · simpa using ⟨index.letter_ne_space, worktree.letter_ne_space⟩
    · exact columns.plain field member
  have split : splitN ' ' (n + 3) (entryLine type index worktree columns.fields path.text) =
      [type] :: [index.letter, worktree.letter] :: (columns.fields ++ [path.text]) := by
    have fields := splitN_fields plain path.text
    rw [List.length_cons, List.length_cons, columns.length] at fields
    rw [entryLine, fields]
    rfl
  have count : (columns.fields ++ [path.text]).length = n + 3 - 2 := by
    rw [List.length_append, columns.length]
    rfl
  unfold parseGitEntryFields
  rw [split]
  dsimp only
  rw [if_neg (not_not_intro count), List.getLast?_concat]
  simp [path.some_]

theorem dropPrefix?_headerMark {c : Char} (other : c ≠ '#') (text : List Char) :
    (c :: text).dropPrefix? headerMark = none := by
  simp [headerMark, List.dropPrefix?, other]

theorem readStatus_single {line : List Char} {kind : Char} (starts : line.head? = some kind)
    (noHeader : kind ≠ '#') (noRename : kind ≠ '2') (rest : List (List UInt8))
    (reading : StatusReading) :
    readStatus (utf8 line :: rest) reading =
      readStatus rest (reading.push (parseEntry kind line)) := by
  obtain ⟨tail, rfl⟩ : ∃ tail, line = kind :: tail := by
    cases line with
    | nil => cases starts
    | cons c tail =>
      rw [List.head?_cons, Option.some.injEq] at starts
      subst starts
      exact ⟨tail, rfl⟩
  rw [readStatus.eq_def]
  dsimp only
  rw [fromUtf8Lossy_utf8, dropPrefix?_headerMark noHeader]
  dsimp only
  rw [if_neg noRename]

theorem readStatus_rename {line : List Char} (starts : line.head? = some '2')
    (original : List Char) (rest : List (List UInt8)) (reading : StatusReading) :
    readStatus (utf8 line :: utf8 original :: rest) reading =
      readStatus rest (reading.push
        ((parseGitEntryFields line 10).map (entryFile gitFileKind (some original)))) := by
  obtain ⟨tail, rfl⟩ : ∃ tail, line = '2' :: tail := by
    cases line with
    | nil => cases starts
    | cons c tail =>
      rw [List.head?_cons, Option.some.injEq] at starts
      subst starts
      exact ⟨tail, rfl⟩
  rw [readStatus.eq_def]
  dsimp only
  rw [fromUtf8Lossy_utf8, dropPrefix?_headerMark (by decide)]
  dsimp only
  rw [if_pos rfl, fromUtf8Lossy_utf8]

theorem head?_entryLine (type : Char) (index worktree : Status) (columns : List (List Char))
    (path : List Char) : (entryLine type index worktree columns path).head? = some type := rfl

/-- An entry is read, with the record of its original path, before everything after it. -/
theorem readStatus_entry (entry : Entry) (rest : List (List UInt8)) (reading : StatusReading) :
    readStatus (entry.lines.map utf8 ++ rest) reading =
      readStatus rest (reading.push (some entry.file)) := by
  cases entry with
  | ordinary index worktree columns path =>
    have fields := parseGitEntryFields_entryLine '1' (by decide) index worktree columns path
    rw [Entry.lines, List.map_singleton, List.singleton_append,
      readStatus_single (head?_entryLine ..) (by decide) (by decide), parseEntry, if_pos rfl,
      fields]
    simp [entryFile, Entry.file, Status.name_letter, entryKind_letters]
  | renamed index worktree columns path original =>
    have fields := parseGitEntryFields_entryLine '2' (by decide) index worktree columns path
    rw [Entry.lines, List.map_cons, List.map_singleton, List.cons_append, List.singleton_append,
      readStatus_rename (head?_entryLine ..), fields]
    simp [entryFile, Entry.file, Status.name_letter, entryKind_letters]
  | unmerged index worktree columns path =>
    have fields := parseGitEntryFields_entryLine 'u' (by decide) index worktree columns path
    rw [Entry.lines, List.map_singleton, List.singleton_append,
      readStatus_single (head?_entryLine ..) (by decide) (by decide), parseEntry,
      if_neg (by decide), if_pos rfl, fields]
    simp [entryFile, Entry.file, Status.name_letter]
  | untracked path =>
    have dropped : (untrackedMark ++ path.text).dropPrefix? untrackedMark = some path.text :=
      List.dropPrefix?_append_of_beq _ (by decide)
    have starts : (untrackedMark ++ path.text).head? = some '?' := rfl
    rw [Entry.lines, List.map_singleton, List.singleton_append,
      readStatus_single starts (by decide) (by decide), parseEntry, if_neg (by decide),
      if_neg (by decide), if_pos rfl, untrackedFile, dropped]
    simp [Entry.file, Option.filter, path.some_]

theorem readStatus_entries (entries : List Entry) (reading : StatusReading) :
    readStatus ((entries.flatMap Entry.lines).map utf8) reading =
      { reading with files := reading.files ++ entries.map Entry.file } := by
  induction entries generalizing reading with
  | nil => simp [readStatus]
  | cons entry entries ih =>
    rw [List.flatMap_cons, List.map_append, readStatus_entry, ih]
    simp [StatusReading.push]

/-! ## Counts -/

theorem entryKind_ne_unmerged (index worktree : Status) : entryKind index worktree ≠ "unmerged" := by
  cases index <;> cases worktree <;> decide

theorem entryKind_ne_untracked (index worktree : Status) :
    entryKind index worktree ≠ "untracked" := by
  cases index <;> cases worktree <;> decide

theorem Status.name_ne_untracked (status : Status) : status.name ≠ "untracked" := by
  cases status <;> decide

theorem Status.name_eq_unmodified (status : Status) :
    status.name = "unmodified" ↔ status = unmodified := by
  cases status <;> decide

theorem Entry.isStaged_file (entry : Entry) : entry.file.isStaged = entry.staged := by
  cases entry <;>
    simp [file, staged, GitFileStatus.isStaged, entryKind_ne_unmerged, Status.name_ne_untracked,
      Status.name_eq_unmodified]

theorem Entry.isUnstaged_file (entry : Entry) : entry.file.isUnstaged = entry.unstaged := by
  cases entry <;>
    simp [file, unstaged, GitFileStatus.isUnstaged, entryKind_ne_unmerged,
      Status.name_ne_untracked, Status.name_eq_unmodified]

theorem Entry.isUnmerged_file (entry : Entry) : entry.file.isUnmerged = entry.isUnmerged := by
  cases entry <;> simp [file, isUnmerged, GitFileStatus.isUnmerged, entryKind_ne_unmerged]

theorem Entry.isUntracked_file (entry : Entry) : entry.file.isUntracked = entry.isUntracked := by
  cases entry <;> simp [file, isUntracked, GitFileStatus.isUntracked, entryKind_ne_untracked]

theorem countP_files {ofFile : GitFileStatus → Bool} {ofEntry : Entry → Bool}
    (same : ∀ entry : Entry, ofFile entry.file = ofEntry entry) (entries : List Entry) :
    (entries.map Entry.file).countP ofFile = entries.countP ofEntry := by
  rw [List.countP_map]
  apply List.countP_congr
  intro entry _
  simp [same]

/-- **The parser inverts the porcelain format**: whatever the headers, the entries and their
paths, it gives back the entries in order, the values of the headers and the counts. -/
theorem gitStatus_inverts (headers : List BranchHeader) (entries : List Entry) :
    parseGitStatus (encodeStatus headers entries) = statusOf headers entries := by
  have read : readStatus (records (encodeStatus headers entries)) StatusReading.start =
      { headers.foldl StatusReading.told StatusReading.start with
        files := entries.map Entry.file } := by
    rw [encodeStatus, records_lines (statusLines_plain headers entries), statusLines,
      List.map_append, readStatus_headers, readStatus_entries, StatusReading.foldl_told]
    simp [StatusReading.start]
  rw [parseGitStatus, read, StatusReading.foldl_told]
  have noFiles : (entries.map Entry.file).isEmpty = entries.isEmpty := by
    cases entries <;> rfl
  have lastHead : (headers.filterMap BranchHeader.head?).getLast?.getD none =
      (headers.filterMap BranchHeader.head?).getLast?.join := by
    cases (headers.filterMap BranchHeader.head?).getLast? <;> rfl
  simp only [StatusReading.response, StatusReading.start, statusOf,
    countP_files Entry.isStaged_file, countP_files Entry.isUnstaged_file,
    countP_files Entry.isUntracked_file, countP_files Entry.isUnmerged_file, noFiles, lastHead,
    Option.or_none, Bool.false_or]

end Giskard.Git
