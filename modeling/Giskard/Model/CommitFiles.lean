import Mathlib
import Giskard.Model.GitParser
import Giskard.Model.Admission

/-!
# The files of one commit

Git prints the files of a commit twice, once with their status letters and once with their line
counts. Both outputs are read record by record, and the second is looked up in by path. Whether
Git runs, and what it prints, is given.

SOURCE: crates/giskard-git-parser/src/lib.rs, crates/giskard-server/src/routes.rs,
crates/giskard-proto/src/lib.rs.
-/

set_option autoImplicit false

namespace Giskard.Git

open Foundation

/-- SOURCE: lib.rs:256-260. -/
structure GitNumstatEntry where
  path : List Char
  added : Option ℕ
  deleted : Option ℕ
  deriving DecidableEq

/-- SOURCE: lib.rs:416-423. -/
structure GitNameStatusEntry where
  kind : String
  path : List Char
  oldPath : Option (List Char)
  deriving DecidableEq

/-- SOURCE: proto lib.rs:507-525. -/
structure GitCommitFile where
  path : List Char
  oldPath : Option (List Char)
  status : String
  added : Option ℕ
  deleted : Option ℕ
  binary : Bool
  deriving DecidableEq

/-- SOURCE: proto lib.rs:527-531. -/
structure GitCommitFilesResponse where
  sha : List Char
  files : List GitCommitFile
  deriving DecidableEq

/-- The loop over the records; an entry without a path takes the two records after it.
SOURCE: lib.rs:272-296. -/
def readNumstat : List (List UInt8) → List GitNumstatEntry
  | [] => []
  | record :: rest =>
    match splitN '\t' 3 (fromUtf8Lossy record) with
    | [added, deleted, path] =>
      if path.isEmpty then
        match rest with
        | _ :: newPath :: rest =>
          ⟨fromUtf8Lossy newPath, parseNumstatCount added, parseNumstatCount deleted⟩ ::
            readNumstat rest
        | _ => []
      else ⟨path, parseNumstatCount added, parseNumstatCount deleted⟩ :: readNumstat rest
    | _ => readNumstat rest

/-- SOURCE: lib.rs:267-298. -/
def parseGitNumstat (output : List UInt8) : List GitNumstatEntry := readNumstat (records output)

/-- The loop over the records; a renamed or copied file has two paths.
SOURCE: lib.rs:477-500. -/
def readNameStatus : List (List UInt8) → List GitNameStatusEntry
  | [] => []
  | record :: rest =>
    match fromUtf8Lossy record with
    | [] => readNameStatus rest
    | code :: _ =>
      match rest with
      | [] => []
      | first :: rest =>
        if code = 'R' || code = 'C' then
          match rest with
          | [] => []
          | newPath :: rest =>
            ⟨gitStatusName code, fromUtf8Lossy newPath, some (fromUtf8Lossy first)⟩ ::
              readNameStatus rest
        else ⟨gitStatusName code, fromUtf8Lossy first, none⟩ :: readNameStatus rest

/-- SOURCE: lib.rs:472-502. -/
def parseGitNameStatus (output : List UInt8) : List GitNameStatusEntry :=
  readNameStatus (records output)

/-- SOURCE: lib.rs:504-509. -/
def indexNumstat (entries : List GitNumstatEntry) : IndexMap (List Char) GitNumstatEntry :=
  .collect GitNumstatEntry.path entries

/-- What a process that ended has left. -/
structure GitOutput where
  success : Bool
  stdout : List UInt8
  stderr : List UInt8

/-- Why the files of a commit are not listed. -/
inductive CommitFilesError where
  /-- `invalid commit` and the text that was asked for. -/
  | invalidCommit (sha : List Char)
  | gitFailed (stderr : List Char)
  /-- Git did not run. -/
  | unavailable (message : String)
  deriving DecidableEq

/-- SOURCE: routes.rs:3309-3315. -/
def safeGitSha (raw : List Char) : Option (List Char) :=
  let trimmed := trimText raw
  if 4 ≤ byteLen trimmed ∧ byteLen trimmed ≤ 40 ∧ trimmed.all isAsciiHexdigit then some trimmed
  else none

/-- SOURCE: routes.rs:4035-4040. -/
def firstNonEmptyStderr (outputs : List GitOutput) : Option (List Char) :=
  outputs.findSome? fun output =>
    let text := trimText (fromUtf8Lossy output.stderr)
    if text.isEmpty then none else some text

/-- `git show failed` -/
def gitShowFailed : List Char :=
  ['g', 'i', 't', ' ', 's', 'h', 'o', 'w', ' ', 'f', 'a', 'i', 'l', 'e', 'd']

/-- The option that asks for the files one way or the other. SOURCE: routes.rs:3381-3382. -/
inductive ShowOption where
  | nameStatus
  | numstat
  deriving DecidableEq

/-- A file with the counts found for it. SOURCE: routes.rs:3408-3423. -/
def commitFile (counts : IndexMap (List Char) GitNumstatEntry) (entry : GitNameStatusEntry) :
    GitCommitFile :=
  let counted := counts.get? entry.path
  { status := entry.kind
    oldPath := entry.oldPath
    added := counted.bind GitNumstatEntry.added
    deleted := counted.bind GitNumstatEntry.deleted
    binary := counted.any fun entry => entry.added.isNone && entry.deleted.isNone
    path := entry.path }

/-- The answer, given how `git show -z --format= <option> <sha>` runs in the workspace.
SOURCE: routes.rs:3360-3427. -/
def gitCommitFiles (runGit : ShowOption → List Char → Except String GitOutput)
    (rawSha : List Char) : Except CommitFilesError GitCommitFilesResponse :=
  match safeGitSha rawSha with
  | none => .error (.invalidCommit rawSha)
  | some sha =>
    match runGit .nameStatus sha with
    | .error message => .error (.unavailable message)
    | .ok nameStatus =>
      if !nameStatus.success then
        .error (.gitFailed ((firstNonEmptyStderr [nameStatus]).getD gitShowFailed))
      else
        let counts :=
          match runGit .numstat sha with
          | .ok output =>
            if output.success then indexNumstat (parseGitNumstat output.stdout) else .empty
          | .error _ => .empty
        .ok ⟨sha, (parseGitNameStatus nameStatus.stdout).map (commitFile counts)⟩

end Giskard.Git
