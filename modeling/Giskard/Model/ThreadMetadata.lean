import Mathlib
import Giskard.Model.Core
import Giskard.Model.ThreadRuntime

/-!
# Thread metadata

The metadata record of a thread and the one function that changes it: a mutation is applied to
the stored record, the ordering fields and the identity stay the store's, and the record is
written only when it changed.

A metadata file is what a read makes of it: nothing, a record, or bytes that are no record, which
the read moves aside. A hash map is a finite map. What the environment decides about a call is a
record of its own: the clock, and the faults of the file system.

SOURCE: crates/giskard-persist/src/store.rs, crates/giskard-persist/src/atomic.rs,
crates/giskard-core/src/token.rs.
-/

set_option autoImplicit false

namespace Giskard

/-! ## Instants -/

namespace DateTime

/-- Instants are ordered by seconds and then by nanoseconds. -/
def lt (left right : DateTime) : Prop :=
  left.seconds < right.seconds ∨ left.seconds = right.seconds ∧ left.nanos < right.nanos

instance : LT DateTime := ⟨lt⟩

instance (left right : DateTime) : Decidable (left < right) :=
  inferInstanceAs (Decidable (_ ∨ _ ∧ _))

/-- The last second of the calendar. -/
def maxSeconds : Int64 := 8210266876799

/-- One nanosecond later, unless the calendar ends (`checked_add_signed`). An instant inside a
leap second has nanoseconds from one billion on. -/
def checkedSucc (instant : DateTime) : Option DateTime :=
  if instant.nanos < 999999999 ∨ 1000000000 ≤ instant.nanos ∧ instant.nanos < 1999999999 then
    some { instant with nanos := instant.nanos + 1 }
  else if instant.seconds < maxSeconds then some ⟨instant.seconds + 1, 0⟩
  else none

end DateTime

/-! ## The token ledger -/

/-- SOURCE: token.rs:22-26; the sums wrap in a release build. -/
def TokenUsage.add (usage other : TokenUsage) : TokenUsage :=
  ⟨usage.input + other.input, usage.output + other.output, usage.total + other.total⟩

/-- SOURCE: token.rs `Default`. -/
def TokenUsage.zero : TokenUsage := ⟨0, 0, 0⟩

/-- Usage by provider and model. SOURCE: token.rs:41-50. -/
abbrev ByModel := Finmap fun _ : String => Finmap fun _ : String => TokenUsage

/-- SOURCE: token.rs:53-60. -/
def ByModel.record (byModel : ByModel) (provider model : String) (usage : TokenUsage) : ByModel :=
  let models := (byModel.lookup provider).getD ∅
  byModel.insert provider (models.insert model (((models.lookup model).getD .zero).add usage))

/-- SOURCE: token.rs:78-85. -/
structure TokenLedger where
  total : TokenUsage
  byModel : ByModel
  unattributed : TokenUsage
  deriving DecidableEq

namespace TokenLedger

/-- SOURCE: token.rs:76 `Default`. -/
def empty : TokenLedger := ⟨.zero, ∅, .zero⟩

/-- SOURCE: token.rs:88-91. -/
def record (ledger : TokenLedger) (provider model : String) (usage : TokenUsage) : TokenLedger :=
  { ledger with
    total := ledger.total.add usage
    byModel := ByModel.record ledger.byModel provider model usage }

/-- SOURCE: token.rs:93-96. -/
def recordUnattributed (ledger : TokenLedger) (usage : TokenUsage) : TokenLedger :=
  { ledger with
    total := ledger.total.add usage
    unattributed := ledger.unattributed.add usage }

end TokenLedger

/-! ## The record -/

/-- SOURCE: thread.rs:3-11. -/
inductive ThreadKind where
  | primary
  | subagent
  | orphan
  deriving DecidableEq

/-- SOURCE: turn.rs:100-107. -/
inductive PermissionPreset where
  | askFirst
  | autoApprove
  | fullAccess
  deriving DecidableEq

/-- SOURCE: store.rs:289-327. -/
structure ThreadWorktree where
  path : String
  workspace : Option String
  branch : String
  baseCommit : Option String
  repoRoot : String
  commonDir : String
  gitDir : String
  deriving DecidableEq

/-- SOURCE: store.rs:251-266. -/
inductive ThreadGitWorkspace where
  | worktree (worktree : ThreadWorktree)
  deriving DecidableEq

/-- SOURCE: store.rs:78-144. -/
structure ThreadFile where
  version : UInt32
  id : ThreadId
  projectId : ProjectId
  revision : UInt64
  title : String
  harnessThreadId : String
  harness : String
  parentThreadId : Option ThreadId
  spawnedByTurnId : Option TurnId
  kind : ThreadKind
  mode : TurnMode
  currentModel : TurnModel
  contextWindow : UInt32
  contextWindowOverride : Option UInt32
  modelContextWindows : Finmap fun _ : String => Finmap fun _ : String => UInt32
  permissionPreset : PermissionPreset
  modelEfforts : Finmap fun _ : String => String
  tokens : TokenLedger
  createdAt : DateTime
  updatedAt : DateTime
  archived : Bool
  gitWorkspace : Option ThreadGitWorkspace
  deriving DecidableEq

/-- SOURCE: store.rs:146-157. -/
inductive ThreadRecency where
  | preserve
  | touchIfChanged
  | recordActivity
  | restoreActivity (activityAt : DateTime)
  deriving DecidableEq

/-- SOURCE: store.rs:177-186. -/
inductive ThreadMutation where
  | missing
  | unchanged (current : ThreadFile)
  | changed (before after : ThreadFile)
  deriving DecidableEq

/-- SOURCE: store.rs:29. -/
def threadMetadataVersion : UInt32 := 2

/-- SOURCE: store.rs:164. -/
def maxThreadRevision : UInt64 := 9007199254740991

/-- SOURCE: turn.rs:45-50. -/
def TurnModel.asKnown : TurnModel → Option ModelRef
  | .known model => some model
  | .unknown => none

/-! ## The file -/

/-- What a read makes of a metadata file; the message is the reader's. -/
inductive MetadataFile where
  | absent
  | damaged (bytes : List UInt8) (message : String)
  | record (file : ThreadFile)
  deriving DecidableEq

/-- What the environment decides about one call: the path and the clock, and the faults of
reading the file, of moving it aside and of writing it. -/
structure MetadataEnv where
  path : String
  now : DateTime
  readFault : Option String
  moveFault : Bool
  writeFault : Option String

/-- SOURCE: atomic.rs:56-83. -/
def readJsonOrQuarantine (env : MetadataEnv) (file : MetadataFile) :
    MetadataFile × Except PersistError (Option ThreadFile) :=
  match env.readFault with
  | some message => (file, .error (.io message))
  | none => match file with
    | .absent => (file, .ok none)
    | .record record => (file, .ok (some record))
    | .damaged _ message =>
      (if env.moveFault then file else .absent, .error (.corrupt s!"{env.path}: {message}"))

/-- SOURCE: store.rs:1040-1057. -/
def loadThreadUnlocked (env : MetadataEnv) (file : MetadataFile) :
    MetadataFile × Except PersistError (Option ThreadFile) :=
  match readJsonOrQuarantine env file with
  | (file, .ok (some record)) =>
    if threadMetadataVersion < record.version then
      (file, .error (.invalid (s!"{env.path}: thread metadata version {record.version} is newer " ++
        s!"than this build understands ({threadMetadataVersion})")))
    else (file, .ok (some record))
  | loaded => loaded

/-- SOURCE: store.rs:353-361. -/
def nextRecency (now previous : DateTime) : Except PersistError DateTime :=
  if previous < now then .ok now
  else match previous.checkedSucc with
    | some later => .ok later
    | none => .error (.invalid "thread recency timestamp exhausted")

/-- The mutation of a record, with the fields that the store owns put back.
SOURCE: store.rs:1188-1203. -/
def mutatedRecord (f : ThreadFile → ThreadFile) (before : ThreadFile) : ThreadFile :=
  let after := f before
  let model (file : ThreadFile) : Option (String × String) :=
    file.currentModel.asKnown.map fun m => (m.provider, m.model)
  { after with
    contextWindowOverride :=
      if model before ≠ model after then none else after.contextWindowOverride
    revision := before.revision
    updatedAt := before.updatedAt }

/-- SOURCE: store.rs:1204-1212. -/
def changesIdentity (before after : ThreadFile) : Bool :=
  after.id ≠ before.id || after.projectId ≠ before.projectId ||
    after.version ≠ before.version || after.createdAt ≠ before.createdAt

/-- The time stamp a mutation leaves. SOURCE: store.rs:1213-1225. -/
def mutatedRecency (now : DateTime) (recency : ThreadRecency) (before after : ThreadFile) :
    Except PersistError DateTime :=
  match recency with
  | .preserve => .ok before.updatedAt
  | .touchIfChanged =>
    if after ≠ before then nextRecency now before.updatedAt else .ok before.updatedAt
  | .recordActivity => nextRecency now before.updatedAt
  | .restoreActivity activityAt =>
    if before.updatedAt < activityAt then .ok activityAt else .ok before.updatedAt

/-- SOURCE: store.rs:1232-1236. -/
def nextRevision (revision : UInt64) : Option UInt64 :=
  (if revision.toNat + 1 < 2 ^ 64 then some (revision + 1) else none).filter
    fun next => next ≤ maxThreadRevision

/-- SOURCE: store.rs:1071-1079. -/
def saveThreadUnlocked (env : MetadataEnv) (file : MetadataFile) (record : ThreadFile) :
    MetadataFile × Except PersistError Unit :=
  match env.writeFault with
  | some message => (file, .error (.io message))
  | none => (.record record, .ok ())

/-- SOURCE: store.rs:1171-1241. -/
def updateThreadWithRecencyUnlocked (crates : Crates) (env : MetadataEnv) (thread : ThreadId)
    (recency : ThreadRecency) (f : ThreadFile → ThreadFile) (file : MetadataFile) :
    MetadataFile × Except PersistError ThreadMutation :=
  match loadThreadUnlocked env file with
  | (file, .error error) => (file, .error error)
  | (file, .ok none) => (file, .ok .missing)
  | (file, .ok (some before)) =>
    let after := mutatedRecord f before
    if changesIdentity before after then
      (file, .error (.invalid ("thread metadata mutation attempted to change store-owned " ++
        s!"identity for {crates.ulid.print thread.ulid}")))
    else match mutatedRecency env.now recency before after with
      | .error error => (file, .error error)
      | .ok updatedAt =>
        let after := { after with updatedAt := updatedAt }
        if after = before then (file, .ok (.unchanged before))
        else match nextRevision before.revision with
          | none => (file, .error (.invalid
              s!"thread metadata revision exhausted for {crates.ulid.print thread.ulid}"))
          | some revision =>
            let after := { after with revision := revision }
            match saveThreadUnlocked env file after with
            | (file, .error error) => (file, .error error)
            | (file, .ok ()) => (file, .ok (.changed before after))

end Giskard
