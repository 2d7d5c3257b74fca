import Mathlib
import Giskard.Foundation.LossyText
import Giskard.Foundation.Records

/-!
# What Git prints

The parsers of `git status --porcelain=v2 -z` and of `git log -z --numstat` with the header
format of the commit list. Both cut the output at its zero bytes, drop empty records, and read
the remaining ones in order; a renamed entry takes the records of its further paths with it.

SOURCE: crates/giskard-git-parser/src/lib.rs, crates/giskard-proto/src/lib.rs.
-/

set_option autoImplicit false

namespace Giskard.Git

open Foundation

/-- SOURCE: proto lib.rs:455-474. -/
structure GitFileStatus where
  path : List Char
  oldPath : Option (List Char)
  indexStatus : String
  worktreeStatus : String
  kind : String
  stagedAdded : Option ℕ := none
  stagedDeleted : Option ℕ := none
  unstagedAdded : Option ℕ := none
  unstagedDeleted : Option ℕ := none
  deriving DecidableEq

/-- SOURCE: proto lib.rs:492-505. -/
structure GitCommitSummary where
  sha : List Char
  title : List Char
  isMerge : Bool
  filesChanged : ℕ
  added : ℕ
  deleted : ℕ
  deriving DecidableEq

/-- SOURCE: proto lib.rs:534-569. -/
structure GitStatusResponse where
  isRepository : Bool
  branch : Option (List Char)
  head : Option (List Char)
  detached : Bool
  ahead : ℕ
  behind : ℕ
  dirty : Bool
  stagedCount : ℕ
  unstagedCount : ℕ
  untrackedCount : ℕ
  conflictedCount : ℕ
  addedTotal : ℕ
  deletedTotal : ℕ
  files : List GitFileStatus
  base : Option (List Char)
  commitCount : ℕ
  commits : List GitCommitSummary
  commitsTruncated : Bool
  error : Option (List Char)
  deriving DecidableEq

/-- The numbers of this parser are 32 bits wide. -/
def u32 : ℕ := 2 ^ 32

/-- The records of an output: the pieces between zero bytes that are not empty. -/
def records (output : List UInt8) : List (List UInt8) :=
  (output.splitOn 0).filter fun record => !record.isEmpty

/-! ## The status -/

/-- SOURCE: lib.rs:186-202. -/
def parseGitEntryFields (text : List Char) (fields : ℕ) : Option ((Char × Char) × List Char) :=
  match splitN ' ' fields text with
  | _ :: (x :: y :: _) :: rest =>
    -- A short record yields fewer parts, and its last one is no path.
    if rest.length ≠ fields - 2 then none
    else
      match rest.getLast? with
      | some path => if path.isEmpty then none else some ((x, y), path)
      | none => none
  | _ => none

/-- One word of the `branch.ab` header. -/
def readAheadBehind (counts : ℕ × ℕ) : List Char → ℕ × ℕ
  | '+' :: count => ((parseUnsigned u32 count).getD 0, counts.2)
  | '-' :: count => (counts.1, (parseUnsigned u32 count).getD 0)
  | _ => counts

/-- SOURCE: lib.rs:205-216. -/
def parseGitAheadBehind (value : List Char) : ℕ × ℕ :=
  (words value).foldl readAheadBehind (0, 0)

/-- SOURCE: lib.rs:218-220. -/
def gitShortOid (oid : List Char) : List Char := oid.take 7

/-- SOURCE: lib.rs:222-238. -/
def gitStatusName : Char → String
  | '.' => "unmodified"
  | ' ' => "unmodified"
  | 'M' => "modified"
  | 'A' => "added"
  | 'D' => "deleted"
  | 'R' => "renamed"
  | 'C' => "copied"
  | 'T' => "typechange"
  | 'U' => "unmerged"
  | '?' => "untracked"
  | '!' => "ignored"
  | _ => "unknown"

/-- SOURCE: lib.rs:242-254. -/
def gitFileKind (index worktree : Char) : String :=
  if index = 'R' || index = 'C' || index = 'T' then gitStatusName index
  else if worktree = 'R' || worktree = 'C' || worktree = 'T' then gitStatusName worktree
  else if index = 'D' || worktree = 'D' then "deleted"
  else if index = 'A' || worktree = 'A' then "added"
  else "modified"

/-- What the status loop has gathered so far. -/
structure StatusReading where
  branch : Option (List Char)
  head : Option (List Char)
  detached : Bool
  ahead : ℕ
  behind : ℕ
  files : List GitFileStatus

def StatusReading.start : StatusReading :=
  { branch := none, head := none, detached := false, ahead := 0, behind := 0, files := [] }

/-- `# `, the start of a header line. -/
def headerMark : List Char := ['#', ' ']

/-- `? `, the start of an untracked entry. -/
def untrackedMark : List Char := ['?', ' ']

/-- `branch.oid` -/
def oidKey : List Char := ['b', 'r', 'a', 'n', 'c', 'h', '.', 'o', 'i', 'd']

/-- `branch.head` -/
def headKey : List Char := ['b', 'r', 'a', 'n', 'c', 'h', '.', 'h', 'e', 'a', 'd']

/-- `branch.ab` -/
def countsKey : List Char := ['b', 'r', 'a', 'n', 'c', 'h', '.', 'a', 'b']

/-- `(initial)` -/
def initialWord : List Char := ['(', 'i', 'n', 'i', 't', 'i', 'a', 'l', ')']

/-- `(detached)` -/
def detachedWord : List Char := ['(', 'd', 'e', 't', 'a', 'c', 'h', 'e', 'd', ')']

/-- A header line without its `# `. SOURCE: lib.rs:47-64. -/
def StatusReading.header (reading : StatusReading) (header : List Char) : StatusReading :=
  let (key, value) := (splitOnce ' ' header).getD (header, [])
  if key = oidKey then
    { reading with
      head := if value = initialWord then none else some (gitShortOid value) }
  else if key = headKey then
    if value = detachedWord then { reading with detached := true }
    else if value.isEmpty then reading
    else { reading with branch := some value }
  else if key = countsKey then
    let (ahead, behind) := parseGitAheadBehind value
    { reading with ahead := ahead, behind := behind }
  else reading

def StatusReading.push (reading : StatusReading) (file : Option GitFileStatus) : StatusReading :=
  { reading with files := reading.files ++ file.toList }

/-- An ordinary, renamed or unmerged entry, from its status pair and its paths. -/
def entryFile (kind : Char → Char → String) (oldPath : Option (List Char))
    (entry : (Char × Char) × List Char) : GitFileStatus where
  path := entry.2
  oldPath := oldPath
  indexStatus := gitStatusName entry.1.1
  worktreeStatus := gitStatusName entry.1.2
  kind := kind entry.1.1 entry.1.2

/-- SOURCE: lib.rs:123-138. -/
def untrackedFile (text : List Char) : Option GitFileStatus :=
  ((text.dropPrefix? untrackedMark).filter fun path => !path.isEmpty).map fun path =>
    { path := path, oldPath := none, indexStatus := "untracked", worktreeStatus := "untracked",
      kind := "untracked" }

/-- The entry of a record that stands alone. SOURCE: lib.rs:71-81, 110-141. -/
def parseEntry (kind : Char) (text : List Char) : Option GitFileStatus :=
  if kind = '1' then (parseGitEntryFields text 9).map (entryFile gitFileKind none)
  else if kind = 'u' then
    (parseGitEntryFields text 11).map (entryFile (fun _ _ => "unmerged") none)
  else if kind = '?' then untrackedFile text
  else none

/-- The loop over the records; a rename takes the record after it whatever it holds itself.
SOURCE: lib.rs:43-145. -/
def readStatus : List (List UInt8) → StatusReading → StatusReading
  | [], reading => reading
  | record :: rest, reading =>
    let text := fromUtf8Lossy record
    match text.dropPrefix? headerMark with
    | some header => readStatus rest (reading.header header)
    | none =>
      match text with
      | [] => readStatus rest reading
      | kind :: _ =>
        if kind = '2' then
          match rest with
          | [] => reading
          | oldPath :: rest =>
            readStatus rest (reading.push ((parseGitEntryFields text 10).map
              (entryFile gitFileKind (some (fromUtf8Lossy oldPath)))))
        else readStatus rest (reading.push (parseEntry kind text))

def GitFileStatus.isUnmerged (file : GitFileStatus) : Bool := file.kind = "unmerged"

def GitFileStatus.isStaged (file : GitFileStatus) : Bool :=
  file.kind ≠ "unmerged" && file.indexStatus ≠ "unmodified" && file.indexStatus ≠ "untracked"

def GitFileStatus.isUnstaged (file : GitFileStatus) : Bool :=
  file.kind ≠ "unmerged" && file.worktreeStatus ≠ "unmodified" &&
    file.worktreeStatus ≠ "untracked"

def GitFileStatus.isUntracked (file : GitFileStatus) : Bool := file.kind = "untracked"

/-- SOURCE: lib.rs:147-179. -/
def StatusReading.response (reading : StatusReading) : GitStatusResponse where
  isRepository := true
  branch := reading.branch
  head := reading.head
  detached := reading.detached
  ahead := reading.ahead
  behind := reading.behind
  dirty := !reading.files.isEmpty
  stagedCount := reading.files.countP GitFileStatus.isStaged
  unstagedCount := reading.files.countP GitFileStatus.isUnstaged
  untrackedCount := reading.files.countP GitFileStatus.isUntracked
  conflictedCount := reading.files.countP GitFileStatus.isUnmerged
  addedTotal := 0
  deletedTotal := 0
  files := reading.files
  base := none
  commitCount := 0
  commits := []
  commitsTruncated := false
  error := none

/-- SOURCE: lib.rs:31-180. -/
def parseGitStatus (output : List UInt8) : GitStatusResponse :=
  (readStatus (records output) StatusReading.start).response

/-! ## The commit list -/

/-- SOURCE: lib.rs:313-322. -/
structure GitCommitEntry where
  sha : List Char
  title : List Char
  isMerge : Bool
  filesChanged : ℕ
  added : ℕ
  deleted : ℕ
  deriving DecidableEq

/-- SOURCE: lib.rs:332. -/
def gitLogRecordMark : UInt8 := 0x01

/-- SOURCE: lib.rs:335. -/
def gitLogFieldMark : Char := '\x1f'

/-- SOURCE: lib.rs:300-305. -/
def parseNumstatCount (field : List Char) : Option ℕ :=
  if field = ['-'] then none else parseUnsigned u32 field

/-- The records of a log: the newline that follows a header is cut off, and a record of nothing
else is dropped. SOURCE: lib.rs:349-359. -/
def logRecords (output : List UInt8) : List (List UInt8) :=
  ((output.splitOn 0).map (List.dropWhile (· == 10))).filter fun record => !record.isEmpty

/-- The commit of a header record, without its mark. SOURCE: lib.rs:363-384. -/
def parseCommit (text : List Char) : Option GitCommitEntry :=
  match text.splitOn gitLogFieldMark with
  | sha :: title :: rest =>
    if sha.isEmpty then none
    else
      some {
        sha := sha
        title := title
        isMerge := decide (1 < (words (rest.headD [])).length)
        filesChanged := 0
        added := 0
        deleted := 0 }
  | _ => none

/-- One file more for a commit; a sum wraps at 32 bits. SOURCE: lib.rs:405-409. -/
def GitCommitEntry.count (commit : GitCommitEntry) (added deleted : List Char) : GitCommitEntry :=
  { commit with
    filesChanged := commit.filesChanged + 1
    added := (commit.added + (parseNumstatCount added).getD 0) % u32
    deleted := (commit.deleted + (parseNumstatCount deleted).getD 0) % u32 }

/-- The loop over the records of a log: the commits before the last one, and the last one.
SOURCE: lib.rs:361-410. -/
def readLog : List (List UInt8) → List GitCommitEntry → List GitCommitEntry
  | [], commits => commits
  | record :: rest, commits =>
    if record.head? = some gitLogRecordMark then
      readLog rest (commits ++ (parseCommit (fromUtf8Lossy record.tail)).toList)
    else if commits.isEmpty then readLog rest commits
    else
      match splitN '\t' 3 (fromUtf8Lossy record) with
      | [added, deleted, path] =>
        let counted := commits.modifyLast (·.count added deleted)
        if path.isEmpty then
          match rest with
          | _ :: _ :: rest => readLog rest counted
          | _ => commits
        else readLog rest counted
      | _ => readLog rest commits

/-- SOURCE: lib.rs:347-412. -/
def parseGitLogNumstat (output : List UInt8) : List GitCommitEntry :=
  readLog (logRecords output) []

end Giskard.Git
