import Mathlib
import Giskard.Foundation.IndexMap
import Giskard.Foundation.Text
import Giskard.Model.Projects
import Giskard.Model.ThreadMetadata

/-!
# The admission of native threads

A thread that a harness runs becomes a thread of the project when the harness reports it, as a
hidden orphan, or when an item of another thread links to it, as a sub-agent. An admission reads
the parent, claims the native thread, reads the thread the claim names, reads all threads to
judge the parent chain, and writes: it creates a thread, classifies an orphan, or refreshes a
title. Each of these is a stage, so that admissions can interleave between any two of them.

The metadata files of a project are what the reads make of them. What the environment decides
about a stage is a record: the faults of the file system, the project's configuration, the
harness's claim and the phase of a live owner. Messages to browsers and to the log are left out.

SOURCE: crates/giskard-server/src/registry/admission.rs, thread_graph.rs, thread_metadata.rs,
registry.rs, crates/giskard-harness/src/lib.rs, crates/giskard-persist/src/store.rs.
-/

set_option autoImplicit false

namespace Giskard

open Foundation (IndexMap isWhiteSpace)

/-- The text of a persistence error. SOURCE: error.rs:37-50. -/
def PersistError.toString : PersistError → String
  | .io message => "I/O error: " ++ message
  | .serialize message => "serialization error: " ++ message
  | .deserialize message => "deserialization error: " ++ message
  | .notFound message => "file not found: " ++ message
  | .corrupt message => "corrupt file quarantined: " ++ message
  | .invalid message => "invalid data: " ++ message

/-! ## The threads of a project -/

/-- The metadata files of a project's threads, in the order of the directory. -/
abbrev ThreadFiles := IndexMap ThreadId MetadataFile

/-- The threads of a project by id. -/
abbrev ThreadGraph := IndexMap ThreadId ThreadFile

/-- The record of a metadata file. -/
def MetadataFile.record? : MetadataFile → Option ThreadFile
  | .record file => some file
  | _ => none

namespace ThreadFiles

/-- The metadata file of a thread. -/
def file (files : ThreadFiles) (thread : ThreadId) : MetadataFile :=
  (files.get? thread).getD .absent

/-- The record of a thread. -/
def record? (files : ThreadFiles) (thread : ThreadId) : Option ThreadFile :=
  (files.file thread).record?

/-- The files after a call that leaves a thread's file so. -/
def put (files : ThreadFiles) (thread : ThreadId) (file : MetadataFile) : ThreadFiles :=
  if files.file thread = file then files else files.insert thread file

end ThreadFiles

/-! ## The harness -/

/-- SOURCE: giskard-harness/src/lib.rs:465-487, without the warning. -/
structure ThreadHandle where
  thread : ThreadId
  harnessThreadId : String
  workspaceRoot : String
  resumedModel : Option ModelRef
  agentName : Option String
  parentHarnessThreadId : Option String
  deriving DecidableEq

/-- SOURCE: giskard-harness/src/lib.rs:491-501. -/
def ThreadHandle.opened (thread : ThreadId) (harnessThreadId workspaceRoot : String) :
    ThreadHandle :=
  ⟨thread, harnessThreadId, workspaceRoot, none, none, none⟩

/-- SOURCE: giskard-harness/src/lib.rs:553-558. -/
structure ThreadDiscovered where
  thread : ThreadId
  harnessThreadId : String
  parentHarnessThreadId : Option String

/-- SOURCE: registry.rs:1949-1954. -/
structure SubagentActivityInfo where
  nativeThreadId : String
  agentName : Option String
  agentPath : Option String
  title : Option String
  deriving DecidableEq

/-- SOURCE: driver.rs:261-268, without the reply. -/
structure Link where
  parentThreadId : ThreadId
  spawnedByTurnId : TurnId
  itemId : ItemId
  origin : String
  info : SubagentActivityInfo
  deriving DecidableEq

/-- SOURCE: admission.rs:20-23. -/
inductive Admission where
  | discovered (record : ThreadDiscovered)
  | link (link : Link)

/-- SOURCE: thread.rs:30-34. -/
inductive ClassificationPhase where
  | primary
  | subagent
  | orphan
  deriving DecidableEq

/-- SOURCE: thread.rs:37-43. -/
def ClassificationPhase.ofKind : ThreadKind → ClassificationPhase
  | .primary => .primary
  | .subagent => .subagent
  | .orphan => .orphan

/-- SOURCE: registry.rs:215-225. -/
structure LoadedThreadBinding where
  projectId : ProjectId
  harness : String
  handle : ThreadHandle
  turnSteering : Bool
  nativeModel : Option ModelRef

/-- SOURCE: admission.rs:34-38. -/
structure Admitted where
  binding : LoadedThreadBinding
  classification : ClassificationPhase
  threadId : ThreadId

/-- What stays the same through an admission. -/
structure AdmissionSite where
  crates : Crates
  projectId : ProjectId
  harnessName : String
  turnSteering : Bool

/-- What the environment decides about a stage: the clock, the faults of each thread's file, of
listing the directory and of writing the history header, what loading the project's configuration
returns, the harness's claim of a native thread under a new id, and the phase of the thread's
live owner. -/
structure AdmissionEnv where
  now : DateTime
  metadata : ThreadId → MetadataEnv
  listFault : Option String
  headerFault : Option PersistError
  project : Except PersistError (Option ProjectConfig)
  newThreadId : ThreadId
  claimNativeThread : ThreadId → String → String → Except HarnessError ThreadHandle
  owner : Option ClassificationPhase

/-! ## Store calls -/

/-- SOURCE: store.rs:1029-1036. -/
def loadThread (env : AdmissionEnv) (files : ThreadFiles) (thread : ThreadId) :
    ThreadFiles × Except PersistError (Option ThreadFile) :=
  let (file, result) := loadThreadUnlocked (env.metadata thread) (files.file thread)
  (files.put thread file, result)

/-- SOURCE: store.rs:1083-1115. -/
def createThread (site : AdmissionSite) (env : AdmissionEnv) (files : ThreadFiles)
    (thread : ThreadFile) : ThreadFiles × Except PersistError ThreadFile :=
  if thread.projectId ≠ site.projectId then
    (files, .error (.invalid (s!"thread {site.crates.ulid.print thread.id.ulid} belongs to " ++
      s!"project {site.crates.ulid.print thread.projectId.ulid}, not " ++
      site.crates.ulid.print site.projectId.ulid)))
  else match loadThread env files thread.id with
    | (files, .error error) => (files, .error error)
    | (files, .ok (some _)) =>
      (files, .error (.invalid (s!"thread {site.crates.ulid.print thread.id.ulid} already exists " ++
        s!"in project {site.crates.ulid.print site.projectId.ulid}")))
    | (files, .ok none) =>
      let created := { thread with revision := 1 }
      match saveThreadUnlocked (env.metadata thread.id) (files.file thread.id) created with
      | (_, .error error) => (files, .error error)
      | (file, .ok ()) =>
        let files := files.put thread.id file
        match env.headerFault with
        | some error => (files, .error error)
        | none => (files, .ok created)

/-- SOURCE: thread_metadata.rs:46-76; the publication is left out. -/
def mutateThread (site : AdmissionSite) (env : AdmissionEnv) (files : ThreadFiles)
    (thread : ThreadId) (f : ThreadFile → ThreadFile) :
    ThreadFiles × Except PersistError ThreadMutation :=
  let (file, result) := updateThreadWithRecencyUnlocked site.crates (env.metadata thread) thread
    .preserve f (files.file thread)
  (files.put thread file, result)

/-- SOURCE: store.rs:224-230. -/
def ThreadMutation.intoCurrent : ThreadMutation → Option ThreadFile
  | .missing => none
  | .unchanged current => some current
  | .changed _ after => some after

/-- SOURCE: thread_metadata.rs:34-40. -/
structure OrphanClassification where
  parentThreadId : ThreadId
  spawnedByTurnId : TurnId
  title : String
  mode : TurnMode
  permissionPreset : PermissionPreset

/-- The mutation that classifies an orphan. SOURCE: thread_metadata.rs:142-152. -/
def OrphanClassification.apply (expectedRevision : UInt64) (classification : OrphanClassification)
    (thread : ThreadFile) : ThreadFile :=
  if thread.revision ≠ expectedRevision ∨ thread.kind ≠ .orphan then thread
  else
    { thread with
      kind := .subagent
      parentThreadId := some classification.parentThreadId
      spawnedByTurnId := some classification.spawnedByTurnId
      title := classification.title
      mode := classification.mode
      permissionPreset := classification.permissionPreset }

/-- SOURCE: thread_metadata.rs:133-154. -/
def classifyOrphan (site : AdmissionSite) (env : AdmissionEnv) (files : ThreadFiles)
    (thread : ThreadId) (expectedRevision : UInt64) (classification : OrphanClassification) :
    ThreadFiles × Except PersistError ThreadMutation :=
  mutateThread site env files thread (classification.apply expectedRevision)

/-! ## The thread graph -/

/-- SOURCE: thread_graph.rs:38-42. -/
def loadThreads (env : AdmissionEnv) :
    List ThreadId → ThreadFiles → ThreadGraph → ThreadFiles × Except PersistError ThreadGraph
  | [], files, graph => (files, .ok graph)
  | thread :: rest, files, graph =>
    match loadThread env files thread with
    | (files, .error error) => (files, .error error)
    | (files, .ok none) => loadThreads env rest files graph
    | (files, .ok (some file)) => loadThreads env rest files (graph.insert thread file)

/-- SOURCE: thread_graph.rs:33-44. -/
def loadThreadGraph (env : AdmissionEnv) (files : ThreadFiles) :
    ThreadFiles × Except PersistError ThreadGraph :=
  match env.listFault with
  | some message => (files, .error (.io message))
  | none => loadThreads env files.keys files .empty

/-- The walk of `parent_chain_is_valid`. It meets each thread of the graph once, so that one step
more than there are threads is enough. SOURCE: thread_graph.rs:158-174. -/
def parentChainWalk (graph : ThreadGraph) : ℕ → List ThreadId → ThreadId → Bool
  | 0, _, _ => false
  | fuel + 1, seen, current =>
    if current ∈ seen then false
    else match graph.get? current with
      | none => false
      | some thread => match thread.kind, thread.parentThreadId with
        | .subagent, some parent => parentChainWalk graph fuel (current :: seen) parent
        | .primary, none => true
        | .orphan, _ => false
        | _, _ => false

/-- SOURCE: thread_graph.rs:156-176. -/
def parentChainIsValid (graph : ThreadGraph) (start : ThreadId) : Bool :=
  parentChainWalk graph (graph.entries.length + 1) [] start

/-- The walk of `parent_chain_reaches`. It meets each thread of the graph and one that is not
there before it ends. SOURCE: thread_graph.rs:245-255. -/
def parentChainSearch (graph : ThreadGraph) (target : ThreadId) :
    ℕ → List ThreadId → Option ThreadId → Bool
  | _, _, none => false
  | 0, _, some _ => true
  | fuel + 1, seen, some thread =>
    if thread = target then true
    else if thread ∈ seen then true
    else parentChainSearch graph target fuel (thread :: seen)
      ((graph.get? thread).bind ThreadFile.parentThreadId)

/-- SOURCE: thread_graph.rs:238-257. -/
def parentChainReaches (graph : ThreadGraph) (start target : ThreadId) : Bool :=
  parentChainSearch graph target (graph.entries.length + 2) [] (some start)

/-- SOURCE: thread_graph.rs:10-18. -/
inductive ExistingLinkDisposition where
  | ownedChild
  | parent
  | selfLink
  | primaryThread
  | differentParent
  | wouldCycle
  deriving DecidableEq

/-- SOURCE: thread_graph.rs:120-154. -/
def classifyExistingLink (graph : ThreadGraph) (proposedParent : ThreadId) (existing : ThreadFile) :
    ExistingLinkDisposition :=
  if existing.id = proposedParent then .selfLink
  else if ((graph.get? proposedParent).any fun source =>
      source.parentThreadId = some existing.id) && parentChainIsValid graph proposedParent then
    .parent
  else if existing.kind = .primary then .primaryThread
  else if existing.kind = .orphan then
    if parentChainReaches graph proposedParent existing.id then .wouldCycle else .ownedChild
  else if existing.parentThreadId = none then .differentParent
  else if existing.parentThreadId ≠ some proposedParent then .differentParent
  else if parentChainReaches graph proposedParent existing.id then .wouldCycle
  else .ownedChild

/-- SOURCE: thread_graph.rs:178-191. -/
def graphIssue (graph : ThreadGraph) (thread : ThreadFile) : Option String :=
  match thread.kind, thread.parentThreadId with
  | .primary, some _ => some "primary thread has a parent"
  | .subagent, none => some "sub-agent thread has no parent"
  | .subagent, some _ =>
    if parentChainIsValid graph thread.id then none
    else some "sub-agent parent chain is missing or cyclic"
  | .orphan, some _ => some "orphan thread unexpectedly has a parent"
  | _, _ => none

/-- SOURCE: store.rs:271-275, 332-334. -/
def ThreadGitWorkspace.workspaceRoot : ThreadGitWorkspace → String
  | .worktree tree => tree.workspace.getD tree.path

/-- The walk of `inherited_git_workspace`, which meets each thread once and one that has no record.
SOURCE: thread_graph.rs:69-99. -/
def inheritedGitWorkspaceFrom (env : AdmissionEnv) :
    ℕ → List ThreadId → ThreadFiles → Option ThreadId →
      ThreadFiles × Except PersistError (Option ThreadGitWorkspace)
  | _, _, files, none => (files, .ok none)
  | 0, _, files, some _ => (files, .ok none)
  | fuel + 1, seen, files, some parentId =>
    if parentId ∈ seen then (files, .ok none)
    else match loadThread env files parentId with
      | (files, .error error) => (files, .error error)
      | (files, .ok none) => (files, .ok none)
      | (files, .ok (some parent)) => match parent.gitWorkspace with
        | some workspace => (files, .ok (some workspace))
        | none => inheritedGitWorkspaceFrom env fuel (parentId :: seen) files parent.parentThreadId

/-- SOURCE: thread_graph.rs:60-100. -/
def inheritedGitWorkspace (env : AdmissionEnv) (files : ThreadFiles) (thread : ThreadFile) :
    ThreadFiles × Except PersistError (Option ThreadGitWorkspace) :=
  match thread.gitWorkspace with
  | some workspace => (files, .ok (some workspace))
  | none => inheritedGitWorkspaceFrom env (files.entries.length + 2) [thread.id] files
      thread.parentThreadId

/-- SOURCE: thread_graph.rs:103-118. -/
def effectiveThreadWorkspaceRoot (env : AdmissionEnv) (files : ThreadFiles)
    (project : ProjectConfig) (thread : ThreadFile) : ThreadFiles × Except PersistError String :=
  match inheritedGitWorkspace env files thread with
  | (files, .error error) => (files, .error error)
  | (files, .ok workspace) => (files, .ok ((workspace.map ThreadGitWorkspace.workspaceRoot).getD
      (project.workspaceRoot.getD project.dir)))

/-! ## Titles -/

/-- SOURCE: `str::trim`. -/
def trimText (text : List Char) : List Char :=
  ((text.dropWhile isWhiteSpace).reverse.dropWhile isWhiteSpace).reverse

/-- SOURCE: registry.rs:2088-2092. -/
def subagentPathLeaf (path : String) : Option String :=
  ((((path.toList.splitOn '/').reverse).map trimText).find? fun part => part ≠ []).map String.ofList

/-- SOURCE: registry.rs:2094-2102. -/
def normalizeSubagentTitle (raw : String) : String :=
  let words := (raw.toList.splitOnP isWhiteSpace).filter fun word => word ≠ []
  let title := [' '].intercalate words
  let title := if title = [] then "Sub-agent".toList else title
  String.ofList (title.take 120)

/-- SOURCE: registry.rs:2072-2086. -/
def subagentThreadTitle (info : SubagentActivityInfo) : String :=
  normalizeSubagentTitle
    ((((info.agentName.map fun name => "Sub-agent: " ++ name).or
      ((info.agentPath.bind subagentPathLeaf).map fun path => "Sub-agent: " ++ path)).or
      info.title).getD "Sub-agent")

/-- SOURCE: registry.rs:2104-2112. -/
def subagentInfoWithAgentName (info : SubagentActivityInfo) (agentName : Option String) :
    SubagentActivityInfo :=
  match agentName with
  | some agentName => { info with agentName := some agentName }
  | none => info

/-- SOURCE: `char::is_ascii_hexdigit`. -/
def isAsciiHexdigit (c : Char) : Bool :=
  ('0' ≤ c && c ≤ '9') || ('a' ≤ c && c ≤ 'f') || ('A' ≤ c && c ≤ 'F')

/-- SOURCE: thread_graph.rs:193-199. -/
def shouldRefreshSubagentTitle (current desired : String) : Bool :=
  current ≠ desired &&
    ("Sub-agent".toList.isPrefixOf current.toList ||
      current.toList.all fun c => isAsciiHexdigit c || c = '-')

/-! ## Stages of an admission -/

/-- SOURCE: admission.rs:63-65. -/
def persistFailure (error : PersistError) : HarnessError := .protocol error.toString

/-- SOURCE: admission.rs:40-61. -/
def admitted (site : AdmissionSite) (handle : ThreadHandle) (file : ThreadFile) : Admitted where
  binding :=
    { projectId := site.projectId
      harness := site.harnessName
      handle := handle
      turnSteering := site.turnSteering
      nativeModel := handle.resumedModel.or file.currentModel.asKnown }
  classification := .ofKind file.kind
  threadId := file.id

/-- SOURCE: admission.rs:67-99. -/
def orphanFile (now : DateTime) (projectId : ProjectId) (threadId : ThreadId)
    (harnessThreadId harness : String) (currentModel : TurnModel) : ThreadFile where
  version := threadMetadataVersion
  id := threadId
  projectId := projectId
  revision := 0
  title := "Unclassified native thread"
  harnessThreadId := harnessThreadId
  harness := harness
  parentThreadId := none
  spawnedByTurnId := none
  kind := .orphan
  mode := .unknown
  currentModel := currentModel
  contextWindow := 0
  contextWindowOverride := none
  modelContextWindows := ∅
  permissionPreset := .askFirst
  modelEfforts := ∅
  tokens := .empty
  createdAt := now
  updatedAt := now
  archived := false
  gitWorkspace := none

/-- Where an admission stands: what it has read so far, or its result. -/
inductive Admitting where
  | opening (source : Admission)
  | claiming (link : Link) (parent : ThreadFile) (root : String)
  | loading (handle : ThreadHandle) (link : Option (Link × ThreadFile))
  | materializing (handle : ThreadHandle) (link : Option (Link × ThreadFile))
  | creating (handle : ThreadHandle) (file : ThreadFile)
  | relating (handle : ThreadHandle) (link : Link) (parent file : ThreadFile)
  | classifying (handle : ThreadHandle) (link : Link) (parent file : ThreadFile)
  | titling (handle : ThreadHandle) (link : Link) (file : ThreadFile)
  | finished (result : Except HarnessError (Option Admitted))

namespace Admitting

variable (site : AdmissionSite) (env : AdmissionEnv) (files : ThreadFiles)

/-- SOURCE: admission.rs:112-130. -/
def absentProject : Admission → HarnessError
  | .discovered _ =>
    .protocol "project disappeared before a discovered native thread could be admitted"
  | .link _ => .protocol (s!"project {site.crates.ulid.print site.projectId.ulid} disappeared " ++
      "while importing sub-agent")

/-- SOURCE: admission.rs:132-150. -/
def openDiscovered (project : ProjectConfig) (record : ThreadDiscovered) :
    ThreadFiles × Admitting :=
  let provisional := orphanFile env.now site.projectId record.thread record.harnessThreadId
    site.harnessName .unknown
  match effectiveThreadWorkspaceRoot env files project provisional with
  | (files, .error error) => (files, .finished (.error (persistFailure error)))
  | (files, .ok root) =>
    (files, .loading
      { ThreadHandle.opened record.thread record.harnessThreadId root with
        parentHarnessThreadId := record.parentHarnessThreadId } none)

/-- SOURCE: admission.rs:151-161. -/
def openLink (project : ProjectConfig) (link : Link) : ThreadFiles × Admitting :=
  match loadThread env files link.parentThreadId with
  | (files, .error error) => (files, .finished (.error (persistFailure error)))
  | (files, .ok none) => (files, .finished (.error (.threadNotFound link.parentThreadId)))
  | (files, .ok (some parent)) =>
    match effectiveThreadWorkspaceRoot env files project parent with
    | (files, .error error) => (files, .finished (.error (persistFailure error)))
    | (files, .ok root) => (files, .claiming link parent root)

/-- SOURCE: admission.rs:112-161. -/
def openAdmission (source : Admission) : ThreadFiles × Admitting :=
  match env.project with
  | .error error => (files, .finished (.error (persistFailure error)))
  | .ok none => (files, .finished (.error (absentProject site source)))
  | .ok (some project) => match source with
    | .discovered record => openDiscovered site env files project record
    | .link link => openLink env files project link

/-- SOURCE: admission.rs:162-176. -/
def claimThread (link : Link) (parent : ThreadFile) (root : String) : ThreadFiles × Admitting :=
  match env.claimNativeThread env.newThreadId link.info.nativeThreadId root with
  | .error error => (files, .finished (.error error))
  | .ok handle =>
    if handle.harnessThreadId ≠ link.info.nativeThreadId then
      (files, .finished (.error (.protocol ("linked-thread claim returned native thread " ++
        s!"{handle.harnessThreadId} instead of {link.info.nativeThreadId}"))))
    else (files, .loading handle (some (link, parent)))

/-- SOURCE: admission.rs:180-188, 255-265, 386-398. -/
def loadClaimed (handle : ThreadHandle) (link : Option (Link × ThreadFile)) :
    ThreadFiles × Admitting :=
  match loadThread env files handle.thread with
  | (files, .error error) => (files, .finished (.error (persistFailure error)))
  | (files, .ok none) => (files, .materializing handle link)
  | (files, .ok (some file)) => match link with
    | some (link, parent) => (files, .relating handle link parent file)
    | none =>
      if file.kind = .primary then (files, .finished (.ok none))
      else (files, .finished (.ok (some (admitted site handle file))))

/-- The record of a thread that is not there yet. SOURCE: admission.rs:203-239. -/
def materializedFile (handle : ThreadHandle) (graph : ThreadGraph) :
    Option (Link × ThreadFile) → ThreadFile
  | none => orphanFile env.now site.projectId handle.thread handle.harnessThreadId
      site.harnessName ((handle.resumedModel.map TurnModel.known).getD .unknown)
  | some (link, parent) =>
    let file := orphanFile env.now site.projectId handle.thread handle.harnessThreadId
      site.harnessName ((handle.resumedModel.map TurnModel.known).getD .unknown)
    if !parentChainIsValid graph parent.id then file
    else if handle.parentHarnessThreadId.any fun native => native ≠ parent.harnessThreadId then file
    else
      { file with
        title := subagentThreadTitle (subagentInfoWithAgentName link.info handle.agentName)
        parentThreadId := some parent.id
        spawnedByTurnId := some link.spawnedByTurnId
        kind := .subagent
        mode := parent.mode
        permissionPreset := parent.permissionPreset }

/-- SOURCE: admission.rs:189-239. -/
def materialize (handle : ThreadHandle) (link : Option (Link × ThreadFile)) :
    ThreadFiles × Admitting :=
  match loadThreadGraph env files with
  | (files, .error error) => (files, .finished (.error (persistFailure error)))
  | (files, .ok graph) =>
    if graph.values.any fun thread => thread.harness = site.harnessName &&
        thread.harnessThreadId = handle.harnessThreadId && thread.id ≠ handle.thread then
      (files, .finished (.ok none))
    else (files, .creating handle (materializedFile site env handle graph link))

/-- SOURCE: admission.rs:240-261. -/
def createFile (handle : ThreadHandle) (file : ThreadFile) : ThreadFiles × Admitting :=
  match createThread site env files file with
  | (files, .error error) => (files, .finished (.error (persistFailure error)))
  | (files, .ok file) => (files, .finished (.ok (some (admitted site handle file))))

/-- SOURCE: admission.rs:266-268. -/
def needsGraph (parent file : ThreadFile) : Bool :=
  parent.parentThreadId = some file.id ||
    (file.kind ≠ .primary && (file.kind = .orphan || file.parentThreadId ≠ some parent.id))

/-- What is done about a thread that is there, once the graph, if it is needed, has been read.
SOURCE: admission.rs:279-321. -/
def relateIn (graph : Option ThreadGraph) (handle : ThreadHandle) (link : Link)
    (parent file : ThreadFile) : Admitting :=
  let disposition : ExistingLinkDisposition := match graph with
    | some graph => classifyExistingLink graph parent.id file
    | none => if file.kind = .primary then .primaryThread else .ownedChild
  if disposition = .parent then .finished (.ok none)
  else if disposition ≠ .ownedChild then .finished (.ok none)
  else if file.kind = .orphan then
    match graph with
    | none =>
      .finished (.error (.protocol "orphan classification requires a thread graph"))
    | some graph =>
      if !parentChainIsValid graph parent.id then .finished (.ok (some (admitted site handle file)))
      else if handle.parentHarnessThreadId.any fun native => native ≠ parent.harnessThreadId then
        .finished (.ok (some (admitted site handle file)))
      else .classifying handle link parent file
  else .titling handle link file

/-- SOURCE: admission.rs:265-321. -/
def relate (handle : ThreadHandle) (link : Link) (parent file : ThreadFile) :
    ThreadFiles × Admitting :=
  if needsGraph parent file then
    match loadThreadGraph env files with
    | (files, .error error) => (files, .finished (.error (persistFailure error)))
    | (files, .ok graph) => (files, relateIn site (some graph) handle link parent file)
  else (files, relateIn site none handle link parent file)

/-- SOURCE: admission.rs:322-366. -/
def classify (handle : ThreadHandle) (link : Link) (parent file : ThreadFile) :
    ThreadFiles × Admitting :=
  match classifyOrphan site env files file.id file.revision
      { parentThreadId := parent.id
        spawnedByTurnId := link.spawnedByTurnId
        title := subagentThreadTitle (subagentInfoWithAgentName link.info handle.agentName)
        mode := parent.mode
        permissionPreset := parent.permissionPreset } with
  | (files, .error error) => (files, .finished (.error (persistFailure error)))
  | (files, .ok mutation) => match mutation.intoCurrent with
    | none => (files, .finished (.error (.protocol
        s!"orphan thread {site.crates.ulid.print file.id.ulid} disappeared during classification")))
    | some current =>
      if current.kind ≠ .subagent || current.parentThreadId ≠ some parent.id ||
          current.spawnedByTurnId ≠ some link.spawnedByTurnId then
        (files, .finished (.error (.protocol
          (s!"orphan thread {site.crates.ulid.print current.id.ulid} was classified " ++
            "concurrently with conflicting ownership"))))
      else match env.owner with
        | some .primary => (files, .finished (.error (.protocol
            (s!"primary thread {site.crates.ulid.print current.id.ulid} cannot be classified " ++
              "as a sub-agent"))))
        | _ => (files, .titling handle link current)

/-- SOURCE: admission.rs:374-380. -/
def refreshTitle (desired : String) (current : ThreadFile) : ThreadFile :=
  if shouldRefreshSubagentTitle current.title desired then { current with title := desired }
  else current

/-- SOURCE: admission.rs:368-398. -/
def retitle (handle : ThreadHandle) (link : Link) (file : ThreadFile) : ThreadFiles × Admitting :=
  let desired := subagentThreadTitle (subagentInfoWithAgentName link.info handle.agentName)
  if shouldRefreshSubagentTitle file.title desired then
    match mutateThread site env files file.id (refreshTitle desired) with
    | (files, .error error) => (files, .finished (.error (persistFailure error)))
    | (files, .ok _) => (files, .finished (.ok (some (admitted site handle file))))
  else (files, .finished (.ok (some (admitted site handle file))))

/-- The next stage of an admission. -/
def step : Admitting → ThreadFiles × Admitting
  | .opening source => openAdmission site env files source
  | .claiming link parent root => claimThread env files link parent root
  | .loading handle link => loadClaimed site env files handle link
  | .materializing handle link => materialize site env files handle link
  | .creating handle file => createFile site env files handle file
  | .relating handle link parent file => relate site env files handle link parent file
  | .classifying handle link parent file => classify site env files handle link parent file
  | .titling handle link file => retitle site env files handle link file
  | .finished result => (files, .finished result)

end Admitting

/-- An admission that nothing interrupts: its stages, each with what the environment decides about
it, one after the other. SOURCE: admission.rs:101-398. -/
def admitStages (site : AdmissionSite) (envs : ℕ → AdmissionEnv) (source : Admission)
    (files : ThreadFiles) (stages : ℕ) : ThreadFiles × Admitting :=
  (List.range stages).foldl (fun state stage => state.2.step site (envs stage) state.1)
    (files, .opening source)

/-- The files after an admission that nothing interrupts, which has at most six stages. -/
def runAdmission (site : AdmissionSite) (envs : ℕ → AdmissionEnv) (source : Admission)
    (files : ThreadFiles) : ThreadFiles × Admitting :=
  admitStages site envs source files 6

end Giskard
