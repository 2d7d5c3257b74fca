import Mathlib
import Giskard.Foundation.Ancestry
import Giskard.Foundation.Schedule
import Giskard.Model.Admission
import Giskard.Analysis.ThreadMetadata

/-!
# The forest of threads

Every sub-agent of a project hangs under a thread whose chain of parents leads to a primary one,
and no other thread has a parent. A valid chain has no orphan on it, so that an orphan can be given
a parent with a valid chain without closing a cycle, however long ago that chain was read: chains
only grow at orphans and at new threads.

SOURCE: crates/giskard-server/src/registry/admission.rs, thread_graph.rs, thread_metadata.rs.
-/

set_option autoImplicit false

namespace Giskard

open Foundation

/-! ## Parent chains of a graph -/

/-- The place of a thread in the forest: a primary without parent is a root, a sub-agent with a
parent hangs under it, and every other thread has none. -/
def ancestry (record? : ThreadId → Option ThreadFile) (thread : ThreadId) :
    Option (Option ThreadId) :=
  match record? thread with
  | none => none
  | some file => match file.kind, file.parentThreadId with
    | .subagent, some parent => some (some parent)
    | .primary, none => some none
    | _, _ => none

section Walk

variable {graph : ThreadGraph}

theorem parentChainWalk_succ {fuel : ℕ} {seen : List ThreadId} {current : ThreadId}
    (new : current ∉ seen) :
    parentChainWalk graph (fuel + 1) seen current =
      match ancestry graph.get? current with
      | none => false
      | some none => true
      | some (some parent) => parentChainWalk graph fuel (current :: seen) parent := by
  rw [parentChainWalk, if_neg new, ancestry]
  cases graph.get? current with
  | none => rfl
  | some file =>
    dsimp only
    cases file.kind <;> cases file.parentThreadId <;> rfl

theorem parentChainWalk_sound {fuel : ℕ} {seen : List ThreadId} {current : ThreadId}
    (valid : parentChainWalk graph fuel seen current = true) :
    Rooted (ancestry graph.get?) current := by
  induction fuel generalizing seen current with
  | zero => cases valid
  | succ fuel ih =>
    by_cases met : current ∈ seen
    · rw [parentChainWalk, if_pos met] at valid
      cases valid
    · rw [parentChainWalk_succ met] at valid
      match place : ancestry graph.get? current with
      | none =>
        rw [place] at valid
        cases valid
      | some none => exact .root place
      | some (some parent) =>
        rw [place] at valid
        exact .child place (ih valid)

theorem mem_keys_of_ancestry {current : ThreadId} (placed : ancestry graph.get? current ≠ none) :
    current ∈ graph.keys := by
  by_contra absent
  apply placed
  rw [ancestry, IndexMap.get?_eq_none.2 absent]

/-- The threads that a walk has met, all deeper than the one it is at. -/
structure Met (graph : ThreadGraph) (seen : List ThreadId) (depth : ℕ) : Prop where
  distinct : seen.Nodup
  known : ∀ thread ∈ seen, thread ∈ graph.keys
  deeper : ∀ thread ∈ seen, ∃ below, AtDepth (ancestry graph.get?) thread below ∧ depth < below

namespace Met

variable {seen : List ThreadId} {current parent : ThreadId} {depth : ℕ}

theorem new (met : Met graph seen depth) (placed : AtDepth (ancestry graph.get?) current depth) :
    current ∉ seen := by
  intro member
  obtain ⟨below, placed', less⟩ := met.deeper current member
  rw [placed.unique placed'] at less
  exact lt_irrefl _ less

theorem room (met : Met graph seen depth) (placed : AtDepth (ancestry graph.get?) current depth) :
    seen.length < graph.entries.length := by
  have known : ∀ thread ∈ current :: seen, thread ∈ graph.keys := by
    intro thread member
    rcases List.mem_cons.1 member with rfl | member
    · exact mem_keys_of_ancestry (Rooted.placed ⟨depth, placed⟩)
    · exact met.known thread member
  have bound := ((List.nodup_cons.2 ⟨met.new placed, met.distinct⟩).subperm known).length_le
  rw [List.length_cons, IndexMap.keys, List.length_map] at bound
  exact bound

theorem cons (met : Met graph seen (depth + 1))
    (hangs : ancestry graph.get? current = some (some parent))
    (above : AtDepth (ancestry graph.get?) parent depth) : Met graph (current :: seen) depth where
  distinct := List.nodup_cons.2 ⟨met.new (.child hangs above), met.distinct⟩
  known := by
    intro thread member
    rcases List.mem_cons.1 member with rfl | member
    · exact mem_keys_of_ancestry (by simp [hangs])
    · exact met.known thread member
  deeper := by
    intro thread member
    rcases List.mem_cons.1 member with rfl | member
    · exact ⟨depth + 1, .child hangs above, Nat.lt_succ_self depth⟩
    · obtain ⟨below, placed, less⟩ := met.deeper thread member
      exact ⟨below, placed, by omega⟩

end Met

theorem parentChainWalk_complete {fuel depth : ℕ} {seen : List ThreadId} {current : ThreadId}
    (placed : AtDepth (ancestry graph.get?) current depth) (met : Met graph seen depth)
    (enough : graph.entries.length < fuel + seen.length) :
    parentChainWalk graph fuel seen current = true := by
  have room := met.room placed
  obtain ⟨fuel, rfl⟩ : ∃ less, fuel = less + 1 := ⟨fuel - 1, by omega⟩
  rw [parentChainWalk_succ (met.new placed)]
  induction placed generalizing fuel seen with
  | root top => rw [top]
  | child hangs above ih =>
    rw [hangs]
    dsimp only
    have met' := met.cons hangs above
    have room' := met'.room above
    rw [List.length_cons] at room'
    obtain ⟨fuel, rfl⟩ : ∃ less, fuel = less + 1 := ⟨fuel - 1, by omega⟩
    rw [parentChainWalk_succ (met'.new above)]
    apply ih met' (met'.room above)
    rw [List.length_cons]
    omega

theorem parentChainIsValid_iff {start : ThreadId} :
    parentChainIsValid graph start = true ↔ Rooted (ancestry graph.get?) start := by
  constructor
  · exact parentChainWalk_sound
  · rintro ⟨depth, placed⟩
    exact parentChainWalk_complete placed ⟨List.nodup_nil, by simp, by simp⟩ (by simp)

end Walk

/-! ## Reads -/

namespace ThreadFiles

theorem file_put (files : ThreadFiles) (thread other : ThreadId) (file : MetadataFile) :
    (files.put thread file).file other = if other = thread then file else files.file other := by
  unfold put
  split
  · next same =>
    split
    · next here => rw [here, same]
    · rfl
  · unfold ThreadFiles.file
    rw [IndexMap.get?_insert]
    split <;> rfl

theorem record?_put (files : ThreadFiles) (thread other : ThreadId) (file : MetadataFile) :
    (files.put thread file).record? other =
      if other = thread then file.record? else files.record? other := by
  unfold record?
  rw [file_put]
  split <;> rfl

/-- Two states of the files with the same records. -/
def SameRecords (files next : ThreadFiles) : Prop :=
  ∀ thread, next.record? thread = files.record? thread

end ThreadFiles

open ThreadFiles (SameRecords record?_put)

section Reads

variable {env : AdmissionEnv} {files : ThreadFiles}

theorem record?_of_stays {file next : MetadataFile} (stays : next = file ∨ Quarantined file next) :
    next.record? = file.record? := by
  rcases stays with rfl | ⟨bytes, message, rfl, rfl⟩ <;> rfl

theorem loadThread_sameRecords (thread : ThreadId) :
    SameRecords files (loadThread env files thread).1 := by
  intro other
  unfold loadThread
  dsimp only
  rw [record?_put]
  split
  · next here =>
    subst here
    rcases loadThreadUnlocked_cases (env.metadata other) (files.file other) with
      ⟨error, next, loaded, stays⟩ | ⟨absent, loaded⟩ | ⟨record, stored, loaded⟩
    · rw [loaded]
      exact record?_of_stays stays
    · rw [loaded]
      rfl
    · rw [loaded]
      rfl
  · rfl

theorem loadThread_ok {thread : ThreadId} {found : Option ThreadFile}
    (loaded : (loadThread env files thread).2 = .ok found) : found = files.record? thread := by
  unfold loadThread at loaded
  dsimp only at loaded
  unfold ThreadFiles.record?
  rcases loadThreadUnlocked_cases (env.metadata thread) (files.file thread) with
    ⟨error, next, read, -⟩ | ⟨absent, read⟩ | ⟨record, stored, read⟩
  · rw [read] at loaded
    cases loaded
  · rw [read] at loaded
    cases loaded
    rw [absent]
    rfl
  · rw [read] at loaded
    cases loaded
    rw [stored]
    rfl

theorem loadThreads_sameRecords (threads : List ThreadId) (graph : ThreadGraph) :
    SameRecords files (loadThreads env threads files graph).1 := by
  induction threads generalizing files graph with
  | nil => exact fun thread => rfl
  | cons thread rest ih =>
    have first := @loadThread_sameRecords env files thread
    unfold loadThreads
    generalize loadThread env files thread = loaded at first ⊢
    match loaded with
    | (_, .error error) => exact first
    | (_, .ok none) => exact fun other => (ih graph other).trans (first other)
    | (_, .ok (some file)) => exact fun other => (ih _ other).trans (first other)

theorem loadThreads_ok {threads : List ThreadId} {graph found : ThreadGraph}
    (loaded : (loadThreads env threads files graph).2 = .ok found) (other : ThreadId) :
    found.get? other =
      if other ∈ threads then (files.record? other).or (graph.get? other) else graph.get? other := by
  induction threads generalizing files graph with
  | nil =>
    cases loaded
    simp
  | cons thread rest ih =>
    have same := @loadThread_sameRecords env files thread
    have read (found : Option ThreadFile) : (loadThread env files thread).2 = .ok found →
        found = files.record? thread := loadThread_ok
    unfold loadThreads at loaded
    generalize loadThread env files thread = outcome at same read loaded
    rcases outcome with ⟨_, error | _ | file⟩
    · cases loaded
    · rw [ih loaded, same]
      have absent := read none rfl
      by_cases here : other = thread
      · subst here
        simp [← absent]
      · simp [here]
    · rw [ih loaded, same, IndexMap.get?_insert]
      have present := read (some file) rfl
      by_cases here : other = thread
      · subst here
        simp [← present]
      · simp [here]

theorem loadThreadGraph_sameRecords : SameRecords files (loadThreadGraph env files).1 := by
  unfold loadThreadGraph
  cases env.listFault with
  | some message => exact fun thread => rfl
  | none => exact loadThreads_sameRecords files.keys .empty

theorem loadThreadGraph_ok {graph : ThreadGraph}
    (loaded : (loadThreadGraph env files).2 = .ok graph) : graph.get? = files.record? := by
  unfold loadThreadGraph at loaded
  cases fault : env.listFault with
  | some message =>
    rw [fault] at loaded
    cases loaded
  | none =>
    rw [fault] at loaded
    funext thread
    rw [loadThreads_ok loaded thread, IndexMap.get?_empty, Option.or_none]
    split
    · rfl
    · next absent =>
      unfold ThreadFiles.record? ThreadFiles.file
      rw [IndexMap.get?_eq_none.2 absent]
      rfl

theorem inheritedGitWorkspaceFrom_sameRecords (fuel : ℕ) (seen : List ThreadId)
    (next : Option ThreadId) :
    SameRecords files (inheritedGitWorkspaceFrom env fuel seen files next).1 := by
  induction fuel generalizing seen files next with
  | zero => cases next <;> exact fun thread => rfl
  | succ fuel ih =>
    cases next with
    | none => exact fun thread => rfl
    | some parent =>
      have first := @loadThread_sameRecords env files parent
      unfold inheritedGitWorkspaceFrom
      split
      · exact fun thread => rfl
      · generalize loadThread env files parent = loaded at first ⊢
        match loaded with
        | (_, .error error) => exact first
        | (_, .ok none) => exact first
        | (_, .ok (some file)) =>
          dsimp only
          cases file.gitWorkspace with
          | some workspace => exact first
          | none => exact fun other => (ih _ _ other).trans (first other)

theorem effectiveThreadWorkspaceRoot_sameRecords (project : ProjectConfig) (thread : ThreadFile) :
    SameRecords files (effectiveThreadWorkspaceRoot env files project thread).1 := by
  have walked : SameRecords files (inheritedGitWorkspace env files thread).1 := by
    unfold inheritedGitWorkspace
    cases thread.gitWorkspace with
    | some workspace => exact fun other => rfl
    | none => exact inheritedGitWorkspaceFrom_sameRecords _ _ _
  unfold effectiveThreadWorkspaceRoot
  generalize inheritedGitWorkspace env files thread = outcome at walked ⊢
  match outcome with
  | (_, .error error) => exact walked
  | (_, .ok workspace) => exact walked

end Reads

/-! ## The forest -/

/-- The later record of one thread: a thread keeps its id and its native id, and the only kind
and parent that change are those of an orphan without a parent, which becomes a sub-agent. -/
structure Succeeds (before after : ThreadFile) : Prop where
  id : after.id = before.id
  harness : after.harness = before.harness
  native : after.harnessThreadId = before.harnessThreadId
  owner : (after.kind = before.kind ∧ after.parentThreadId = before.parentThreadId) ∨
    (before.kind = .orphan ∧ before.parentThreadId = none ∧
      after.kind = .subagent ∧ after.parentThreadId ≠ none)

/-- Two points of a run: every thread is still there. -/
def Evolves (before after : ThreadFiles) : Prop :=
  ∀ thread file, before.record? thread = some file →
    ∃ later, after.record? thread = some later ∧ Succeeds file later

/-- Every sub-agent has a valid parent chain, and no other thread has a parent. -/
structure Forest (files : ThreadFiles) : Prop where
  chains : ∀ thread file, files.record? thread = some file → file.kind = .subagent →
    Rooted (ancestry files.record?) thread
  parentless : ∀ thread file, files.record? thread = some file → file.kind ≠ .subagent →
    file.parentThreadId = none

/-- Every file is named after the thread it records, and no two threads have the native id of one
harness. -/
structure NativeIds (files : ThreadFiles) : Prop where
  keyed : ∀ thread file, files.record? thread = some file → file.id = thread
  distinct : ∀ thread file thread' file', files.record? thread = some file →
    files.record? thread' = some file' → file.harness = file'.harness →
    file.harnessThreadId = file'.harnessThreadId → thread = thread'

theorem Succeeds.refl (file : ThreadFile) : Succeeds file file := ⟨rfl, rfl, rfl, .inl ⟨rfl, rfl⟩⟩

theorem Succeeds.trans {first second third : ThreadFile} (left : Succeeds first second)
    (right : Succeeds second third) : Succeeds first third where
  id := right.id.trans left.id
  harness := right.harness.trans left.harness
  native := right.native.trans left.native
  owner := by
    rcases left.owner with ⟨kind, parent⟩ | ⟨orphan, none, kind, parent⟩
    · rw [← kind, ← parent]
      exact right.owner
    · rcases right.owner with ⟨kind', parent'⟩ | ⟨orphan', -⟩
      · exact .inr ⟨orphan, none, kind'.trans kind, by rwa [parent']⟩
      · rw [kind] at orphan'
        cases orphan'

namespace Evolves

theorem of_sameRecords {files next : ThreadFiles} (same : SameRecords files next) :
    Evolves files next := by
  intro thread file stored
  exact ⟨file, by rw [same, stored], .refl file⟩

theorem refl (files : ThreadFiles) : Evolves files files := of_sameRecords fun _ => rfl

theorem trans {first second third : ThreadFiles} (left : Evolves first second)
    (right : Evolves second third) : Evolves first third := by
  intro thread file stored
  obtain ⟨file', stored', succeeds⟩ := left thread file stored
  obtain ⟨file'', stored'', succeeds'⟩ := right thread file' stored'
  exact ⟨file'', stored'', succeeds.trans succeeds'⟩

theorem ancestry_eq {files next : ThreadFiles} (evolves : Evolves files next) (thread : ThreadId)
    (placed : ancestry files.record? thread ≠ none) :
    ancestry next.record? thread = ancestry files.record? thread := by
  unfold ancestry at placed ⊢
  cases stored : files.record? thread with
  | none =>
    rw [stored] at placed
    exact absurd rfl placed
  | some file =>
    obtain ⟨later, stored', succeeds⟩ := evolves thread file stored
    rw [stored] at placed
    rw [stored']
    dsimp only at placed ⊢
    rcases succeeds.owner with ⟨kind, parent⟩ | ⟨orphan, -⟩
    · rw [kind, parent]
    · rw [orphan] at placed
      exact absurd rfl placed

theorem rooted {files next : ThreadFiles} (evolves : Evolves files next) {thread : ThreadId}
    (rooted : Rooted (ancestry files.record?) thread) :
    Rooted (ancestry next.record?) thread :=
  rooted.mono evolves.ancestry_eq

theorem once {first second third : ThreadFiles} (left : Evolves first second)
    (right : Evolves second third) {thread : ThreadId} {file file' : ThreadFile}
    (stored : first.record? thread = some file) (stored' : second.record? thread = some file')
    (changed : file'.kind ≠ file.kind ∨ file'.parentThreadId ≠ file.parentThreadId) :
    ∃ file'', third.record? thread = some file'' ∧ file''.kind = file'.kind ∧
      file''.parentThreadId = file'.parentThreadId := by
  obtain ⟨later, there, succeeds⟩ := left thread file stored
  rw [stored', Option.some_inj] at there
  subst there
  obtain ⟨file'', stored'', succeeds'⟩ := right thread file' stored'
  refine ⟨file'', stored'', ?_⟩
  rcases succeeds.owner with ⟨kind, parent⟩ | ⟨-, -, kind, -⟩
  · rcases changed with changed | changed
    · exact absurd kind changed
    · exact absurd parent changed
  · rcases succeeds'.owner with same | ⟨orphan, -⟩
    · exact same
    · rw [kind] at orphan
      cases orphan

end Evolves

/-- The forest is what the check of the thread graph finds nothing wrong with. SOURCE:
thread_graph.rs:156-191. -/
theorem forest_iff_graphIssue {files : ThreadFiles} {graph : ThreadGraph}
    (keyed : ∀ thread file, files.record? thread = some file → file.id = thread)
    (loaded : graph.get? = files.record?) :
    Forest files ↔
      ∀ thread file, files.record? thread = some file → graphIssue graph file = none := by
  constructor
  · intro forest thread file stored
    have chain := forest.chains thread file stored
    have parentless := forest.parentless thread file stored
    rw [← loaded, ← parentChainIsValid_iff, ← keyed thread file stored] at chain
    unfold graphIssue
    cases kind : file.kind with
    | primary => rw [parentless (by simp [kind])]
    | orphan => rw [parentless (by simp [kind])]
    | subagent =>
      have valid := chain kind
      cases owner : file.parentThreadId with
      | some parent => exact if_pos valid
      | none =>
        have rooted := (parentChainIsValid_iff.1 valid).placed
        rw [loaded, keyed thread file stored, ancestry, stored] at rooted
        simp [kind, owner] at rooted
  · intro clean
    constructor
    · intro thread file stored kind
      have issue := clean thread file stored
      unfold graphIssue at issue
      rw [kind] at issue
      cases owner : file.parentThreadId with
      | none =>
        rw [owner] at issue
        cases issue
      | some parent =>
        rw [owner] at issue
        rw [← loaded, ← parentChainIsValid_iff, ← keyed thread file stored]
        by_contra invalid
        simp [invalid] at issue
    · intro thread file stored kind
      have issue := clean thread file stored
      unfold graphIssue at issue
      cases owner : file.parentThreadId with
      | none => rfl
      | some parent =>
        rw [owner] at issue
        cases other : file.kind with
        | subagent => exact absurd other kind
        | primary =>
          rw [other] at issue
          cases issue
        | orphan =>
          rw [other] at issue
          cases issue

/-! ## What a stage can do -/

/-- A change of one thread's record. -/
structure Rewrites (files next : ThreadFiles) (thread : ThreadId) (before after : ThreadFile) :
    Prop where
  stored : files.record? thread = some before
  records : ∀ other, next.record? other = if other = thread then some after else files.record? other
  id : after.id = before.id
  harness : after.harness = before.harness
  native : after.harnessThreadId = before.harnessThreadId

/-- Everything that a stage can do to the records. -/
inductive StageEffect (files next : ThreadFiles) : Admitting → Prop
  | read (stage : Admitting) (same : SameRecords files next) : StageEffect files next stage
  | created (handle : ThreadHandle) (file : ThreadFile) (absent : files.record? file.id = none)
      (records : ∀ other, next.record? other =
        if other = file.id then some { file with revision := 1 } else files.record? other) :
      StageEffect files next (.creating handle file)
  | classified (handle : ThreadHandle) (link : Link) (parent file before after : ThreadFile)
      (rewrites : Rewrites files next file.id before after) (orphan : before.kind = .orphan)
      (kind : after.kind = .subagent) (owner : after.parentThreadId = some parent.id) :
      StageEffect files next (.classifying handle link parent file)
  | rewritten (stage : Admitting) (thread : ThreadId) (before after : ThreadFile)
      (rewrites : Rewrites files next thread before after) (kind : after.kind = before.kind)
      (owner : after.parentThreadId = before.parentThreadId) : StageEffect files next stage

section Stages

variable {site : AdmissionSite} {env : AdmissionEnv} {files : ThreadFiles}

theorem createThread_effect (thread : ThreadFile) :
    SameRecords files (createThread site env files thread).1 ∨
    files.record? thread.id = none ∧ ∀ other, (createThread site env files thread).1.record? other =
      if other = thread.id then some { thread with revision := 1 } else files.record? other := by
  have same := @loadThread_sameRecords env files thread.id
  have read (found : Option ThreadFile) : (loadThread env files thread.id).2 = .ok found →
      found = files.record? thread.id := loadThread_ok
  unfold createThread
  split
  · exact .inl fun _ => rfl
  · generalize loadThread env files thread.id = outcome at same read ⊢
    match outcome with
    | (_, .error error) => exact .inl same
    | (_, .ok (some file)) => exact .inl same
    | (loaded, .ok none) =>
      unfold saveThreadUnlocked
      dsimp only
      cases (env.metadata thread.id).writeFault with
      | some message => exact .inl same
      | none =>
        refine .inr ⟨(read none rfl).symm, fun other => ?_⟩
        have put : (loaded.put thread.id (.record { thread with revision := 1 })).record? other =
            if other = thread.id then some { thread with revision := 1 }
            else files.record? other := by
          rw [record?_put, same]
          rfl
        cases env.headerFault <;> exact put

theorem mutateThread_effect (thread : ThreadId) (f : ThreadFile → ThreadFile) :
    SameRecords files (mutateThread site env files thread f).1 ∨
    ∃ before after, files.record? thread = some before ∧ after.id = before.id ∧
      after.kind = (f before).kind ∧ after.parentThreadId = (f before).parentThreadId ∧
      after.harness = (f before).harness ∧ after.harnessThreadId = (f before).harnessThreadId ∧
      ∀ other, (mutateThread site env files thread f).1.record? other =
        if other = thread then some after else files.record? other := by
  have step := @updateThreadWithRecencyUnlocked_step site.crates (env.metadata thread) thread
    .preserve f (files.file thread)
  unfold mutateThread
  generalize updateThreadWithRecencyUnlocked site.crates (env.metadata thread) thread .preserve f
    (files.file thread) = outcome at step ⊢
  obtain ⟨next, result⟩ := outcome
  dsimp only at step ⊢
  have stays (same : next.record? = (files.file thread).record?) :
      SameRecords files (files.put thread next) := by
    intro other
    rw [record?_put]
    split
    · next here => rw [same, here, ThreadFiles.record?]
    · rfl
  cases step with
  | failed error next kept => exact .inl (stays (record?_of_stays kept))
  | missing absent => exact .inl (stays rfl)
  | unchanged before stored same => exact .inl (stays rfl)
  | changed before after updatedAt revision stored identity touched different advanced shape =>
    simp only [changesIdentity, Bool.or_eq_false_iff, decide_eq_false_iff_not, not_not] at identity
    refine .inr ⟨before, after, ?_, ?_, ?_, ?_, ?_, ?_, fun other => ?_⟩
    · rw [ThreadFiles.record?, stored]
      rfl
    · rw [shape]
      exact identity.1.1.1
    · rw [shape]
      rfl
    · rw [shape]
      rfl
    · rw [shape]
      rfl
    · rw [shape]
      rfl
    · rw [record?_put]
      rfl

theorem OrphanClassification.apply_cases (revision : UInt64)
    (classification : OrphanClassification) (file : ThreadFile) :
    classification.apply revision file = file ∨ file.kind = .orphan ∧
      (classification.apply revision file).kind = .subagent ∧
      (classification.apply revision file).parentThreadId = some classification.parentThreadId := by
  unfold OrphanClassification.apply
  split
  · exact .inl rfl
  · next guard =>
    rw [not_or, not_not, not_not] at guard
    exact .inr ⟨guard.2, rfl, rfl⟩

theorem OrphanClassification.apply_native (revision : UInt64)
    (classification : OrphanClassification) (file : ThreadFile) :
    (classification.apply revision file).harness = file.harness ∧
      (classification.apply revision file).harnessThreadId = file.harnessThreadId := by
  unfold OrphanClassification.apply
  split <;> exact ⟨rfl, rfl⟩

theorem classifyOrphan_effect (handle : ThreadHandle) (link : Link) (parent file : ThreadFile)
    (classification : OrphanClassification) (named : classification.parentThreadId = parent.id) :
    StageEffect files (classifyOrphan site env files file.id file.revision classification).1
      (.classifying handle link parent file) := by
  rcases @mutateThread_effect site env files file.id (classification.apply file.revision) with
    same | ⟨before, after, stored, id, kind, owner, harness, native, records⟩
  · exact .read _ same
  · have unmoved := classification.apply_native file.revision before
    have rewrites : Rewrites files
        (classifyOrphan site env files file.id file.revision classification).1 file.id before after :=
      ⟨stored, records, id, harness.trans unmoved.1, native.trans unmoved.2⟩
    rcases classification.apply_cases file.revision before with same | ⟨orphan, kind', owner'⟩
    · rw [same] at kind owner
      exact .rewritten _ file.id before after rewrites kind owner
    · exact .classified handle link parent file before after rewrites orphan (kind.trans kind')
        (by rw [owner, owner', named])

theorem refreshTitle_effect (stage : Admitting) (thread : ThreadId) (desired : String) :
    StageEffect files (mutateThread site env files thread (Admitting.refreshTitle desired)).1
      stage := by
  have same (file : ThreadFile) : (Admitting.refreshTitle desired file).kind = file.kind ∧
      (Admitting.refreshTitle desired file).parentThreadId = file.parentThreadId ∧
      (Admitting.refreshTitle desired file).harness = file.harness ∧
      (Admitting.refreshTitle desired file).harnessThreadId = file.harnessThreadId := by
    unfold Admitting.refreshTitle
    split <;> exact ⟨rfl, rfl, rfl, rfl⟩
  rcases @mutateThread_effect site env files thread (Admitting.refreshTitle desired) with
    kept | ⟨before, after, stored, id, kind, owner, harness, native, records⟩
  · exact .read _ kept
  · obtain ⟨kind', owner', harness', native'⟩ := same before
    exact .rewritten _ thread before after
      ⟨stored, records, id, harness.trans harness', native.trans native'⟩ (kind.trans kind')
      (owner.trans owner')

theorem openDiscovered_sameRecords (project : ProjectConfig) (record : ThreadDiscovered) :
    SameRecords files (Admitting.openDiscovered site env files project record).1 := by
  have walked := @effectiveThreadWorkspaceRoot_sameRecords env files project
    (orphanFile env.now site.projectId record.thread record.harnessThreadId site.harnessName
      .unknown)
  unfold Admitting.openDiscovered
  dsimp only
  generalize effectiveThreadWorkspaceRoot env files project _ = outcome at walked ⊢
  match outcome with
  | (_, .error error) => exact walked
  | (_, .ok root) => exact walked

theorem openLink_sameRecords (project : ProjectConfig) (link : Link) :
    SameRecords files (Admitting.openLink env files project link).1 := by
  have read := @loadThread_sameRecords env files link.parentThreadId
  unfold Admitting.openLink
  generalize loadThread env files link.parentThreadId = outcome at read ⊢
  match outcome with
  | (_, .error error) => exact read
  | (_, .ok none) => exact read
  | (loaded, .ok (some parent)) =>
    have walked := @effectiveThreadWorkspaceRoot_sameRecords env loaded project parent
    dsimp only
    generalize effectiveThreadWorkspaceRoot env loaded project parent = outcome at walked ⊢
    match outcome with
    | (_, .error error) => exact fun thread => (walked thread).trans (read thread)
    | (_, .ok root) => exact fun thread => (walked thread).trans (read thread)

theorem openAdmission_sameRecords (source : Admission) :
    SameRecords files (Admitting.openAdmission site env files source).1 := by
  unfold Admitting.openAdmission
  cases env.project with
  | error error => exact fun _ => rfl
  | ok project =>
    cases project with
    | none => exact fun _ => rfl
    | some project =>
      cases source with
      | discovered record => exact openDiscovered_sameRecords project record
      | link link => exact openLink_sameRecords project link

theorem claimThread_sameRecords (link : Link) (parent : ThreadFile) (root : String) :
    SameRecords files (Admitting.claimThread env files link parent root).1 := by
  unfold Admitting.claimThread
  cases env.claimNativeThread env.newThreadId link.info.nativeThreadId root with
  | error error => exact fun _ => rfl
  | ok handle =>
    dsimp only
    split <;> exact fun _ => rfl

theorem loadClaimed_sameRecords (handle : ThreadHandle) (link : Option (Link × ThreadFile)) :
    SameRecords files (Admitting.loadClaimed site env files handle link).1 := by
  have read := @loadThread_sameRecords env files handle.thread
  unfold Admitting.loadClaimed
  generalize loadThread env files handle.thread = outcome at read ⊢
  match outcome with
  | (_, .error error) => exact read
  | (_, .ok none) => exact read
  | (_, .ok (some file)) =>
    cases link with
    | some link => exact read
    | none =>
      dsimp only
      split <;> exact read

theorem materialize_sameRecords (handle : ThreadHandle) (link : Option (Link × ThreadFile)) :
    SameRecords files (Admitting.materialize site env files handle link).1 := by
  have read := @loadThreadGraph_sameRecords env files
  unfold Admitting.materialize
  generalize loadThreadGraph env files = outcome at read ⊢
  match outcome with
  | (_, .error error) => exact read
  | (_, .ok graph) =>
    dsimp only
    split <;> exact read

theorem relate_sameRecords (handle : ThreadHandle) (link : Link) (parent file : ThreadFile) :
    SameRecords files (Admitting.relate site env files handle link parent file).1 := by
  have read := @loadThreadGraph_sameRecords env files
  unfold Admitting.relate
  split
  · generalize loadThreadGraph env files = outcome at read ⊢
    match outcome with
    | (_, .error error) => exact read
    | (_, .ok graph) => exact read
  · exact fun _ => rfl

theorem createFile_files (handle : ThreadHandle) (file : ThreadFile) :
    (Admitting.createFile site env files handle file).1 =
      (createThread site env files file).1 := by
  unfold Admitting.createFile
  match createThread site env files file with
  | (_, .error error) => rfl
  | (_, .ok file) => rfl

theorem classify_effect (handle : ThreadHandle) (link : Link) (parent file : ThreadFile) :
    StageEffect files (Admitting.classify site env files handle link parent file).1
      (.classifying handle link parent file) := by
  have effect := @classifyOrphan_effect site env files handle link parent file
    { parentThreadId := parent.id
      spawnedByTurnId := link.spawnedByTurnId
      title := subagentThreadTitle (subagentInfoWithAgentName link.info handle.agentName)
      mode := parent.mode
      permissionPreset := parent.permissionPreset } rfl
  unfold Admitting.classify
  generalize classifyOrphan site env files file.id file.revision _ = outcome at effect ⊢
  match outcome with
  | (_, .error error) => exact effect
  | (_, .ok mutation) =>
    dsimp only
    cases mutation.intoCurrent with
    | none => exact effect
    | some current =>
      dsimp only
      split
      · exact effect
      · split <;> exact effect

theorem retitle_effect (handle : ThreadHandle) (link : Link) (file : ThreadFile) :
    StageEffect files (Admitting.retitle site env files handle link file).1
      (.titling handle link file) := by
  have effect := @refreshTitle_effect site env files (.titling handle link file) file.id
    (subagentThreadTitle (subagentInfoWithAgentName link.info handle.agentName))
  unfold Admitting.retitle
  dsimp only
  split
  · generalize mutateThread site env files file.id _ = outcome at effect ⊢
    match outcome with
    | (_, .error error) => exact effect
    | (_, .ok mutation) => exact effect
  · exact .read _ fun _ => rfl

theorem step_effect (stage : Admitting) :
    StageEffect files (stage.step site env files).1 stage := by
  cases stage with
  | opening source => exact .read _ (openAdmission_sameRecords source)
  | claiming link parent root => exact .read _ (claimThread_sameRecords link parent root)
  | loading handle link => exact .read _ (loadClaimed_sameRecords handle link)
  | materializing handle link => exact .read _ (materialize_sameRecords handle link)
  | creating handle file =>
    rw [Admitting.step, createFile_files]
    rcases @createThread_effect site env files file with same | ⟨absent, records⟩
    · exact .read _ same
    · exact .created handle file absent records
  | relating handle link parent file => exact .read _ (relate_sameRecords handle link parent file)
  | classifying handle link parent file => exact classify_effect handle link parent file
  | titling handle link file => exact retitle_effect handle link file
  | finished result => exact .read _ fun _ => rfl

end Stages

/-! ## Stages keep the forest -/

/-- A record that may be written: a sub-agent under a thread with a valid chain, or an orphan
without a parent. -/
def Placed (files : ThreadFiles) (file : ThreadFile) : Prop :=
  (file.kind = .subagent ∧ ∃ parent, file.parentThreadId = some parent ∧
    Rooted (ancestry files.record?) parent) ∨ file.kind = .orphan ∧ file.parentThreadId = none

/-- What a stage has found out about the parent that it is going to write. -/
def Admitting.Sound (files : ThreadFiles) : Admitting → Prop
  | .creating _ file => Placed files file
  | .classifying _ _ parent _ => Rooted (ancestry files.record?) parent.id
  | _ => True

/-- What a stage that nothing interrupts has found out about the native id it is going to write. -/
def Admitting.Unclaimed (files : ThreadFiles) : Admitting → Prop
  | .materializing handle _ => files.record? handle.thread = none
  | .creating _ file => ∀ thread record, files.record? thread = some record →
      record.harness = file.harness → record.harnessThreadId ≠ file.harnessThreadId
  | _ => True

theorem Rewrites.evolves {files next : ThreadFiles} {thread : ThreadId} {before after : ThreadFile}
    (rewrites : Rewrites files next thread before after)
    (owner : (after.kind = before.kind ∧ after.parentThreadId = before.parentThreadId) ∨
      (before.kind = .orphan ∧ before.parentThreadId = none ∧
        after.kind = .subagent ∧ after.parentThreadId ≠ none)) : Evolves files next := by
  intro other file stored
  rw [rewrites.records]
  split
  · next here =>
    subst here
    rw [rewrites.stored, Option.some_inj] at stored
    subst stored
    exact ⟨after, rfl, rewrites.id, rewrites.harness, rewrites.native, owner⟩
  · exact ⟨file, stored, .refl file⟩

/-- A forest that evolves stays one when what is written has a place. -/
theorem Forest.of_evolves {files next : ThreadFiles} (forest : Forest files)
    (evolves : Evolves files next)
    (written : ∀ thread file, next.record? thread = some file → Placed files file ∨
      ∃ old, files.record? thread = some old ∧ file.kind = old.kind ∧
        file.parentThreadId = old.parentThreadId) : Forest next where
  chains := by
    intro thread file stored kind
    rcases written thread file stored with placed | ⟨old, there, same, -⟩
    · rcases placed with ⟨-, parent, owner, rooted⟩ | ⟨orphan, -⟩
      · have hangs : ancestry next.record? thread = some (some parent) := by
          rw [ancestry, stored]
          dsimp only
          rw [kind, owner]
        exact .child hangs (evolves.rooted rooted)
      · rw [kind] at orphan
        cases orphan
    · exact evolves.rooted (forest.chains thread old there (same ▸ kind))
  parentless := by
    intro thread file stored kind
    rcases written thread file stored with placed | ⟨old, there, same, owner⟩
    · rcases placed with ⟨subagent, -⟩ | ⟨-, parentless⟩
      · exact absurd subagent kind
      · exact parentless
    · rw [owner]
      exact forest.parentless thread old there (same ▸ kind)

namespace StageEffect

variable {files next : ThreadFiles} {stage : Admitting}

theorem evolves (effect : StageEffect files next stage) (forest : Forest files) :
    Evolves files next := by
  cases effect with
  | read _ same => exact .of_sameRecords same
  | created handle file absent records =>
    intro thread old stored
    have other : thread ≠ file.id := by
      rintro rfl
      rw [absent] at stored
      cases stored
    exact ⟨old, by rw [records, if_neg other, stored], .refl old⟩
  | classified handle link parent file before after rewrites orphan kind owner =>
    have parentless := forest.parentless file.id before rewrites.stored (by simp [orphan])
    exact rewrites.evolves (.inr ⟨orphan, parentless, kind, by simp [owner]⟩)
  | rewritten _ thread before after rewrites kind owner =>
    exact rewrites.evolves (.inl ⟨kind, owner⟩)

theorem forest (effect : StageEffect files next stage) (forest : Forest files)
    (sound : stage.Sound files) : Forest next := by
  apply forest.of_evolves (effect.evolves forest)
  intro thread file stored
  cases effect with
  | read _ same => exact .inr ⟨file, by rw [← same, stored], rfl, rfl⟩
  | created handle created absent records =>
    rw [records] at stored
    split at stored
    · cases stored
      exact .inl sound
    · exact .inr ⟨file, stored, rfl, rfl⟩
  | classified handle link parent orphaned before after rewrites orphan kind owner =>
    rw [rewrites.records] at stored
    split at stored
    · cases stored
      exact .inl (.inl ⟨kind, parent.id, owner, sound⟩)
    · exact .inr ⟨file, stored, rfl, rfl⟩
  | rewritten _ changed before after rewrites kind owner =>
    rw [rewrites.records] at stored
    split at stored
    · next here =>
      cases stored
      exact .inr ⟨before, by rw [here, rewrites.stored], kind, owner⟩
    · exact .inr ⟨file, stored, rfl, rfl⟩

/-- Where a record comes from: the thread's own one before, or a creation. -/
theorem origin (effect : StageEffect files next stage) {thread : ThreadId} {file : ThreadFile}
    (stored : next.record? thread = some file) :
    (∃ old, files.record? thread = some old ∧ file.id = old.id ∧ file.harness = old.harness ∧
      file.harnessThreadId = old.harnessThreadId) ∨
    ∃ handle created, stage = .creating handle created ∧ thread = created.id ∧
      file = { created with revision := 1 } := by
  have rewrite_origin {changed : ThreadId} {before after : ThreadFile}
      (rewrites : Rewrites files next changed before after) :
      ∃ old, files.record? thread = some old ∧ file.id = old.id ∧ file.harness = old.harness ∧
        file.harnessThreadId = old.harnessThreadId := by
    rw [rewrites.records] at stored
    split at stored
    · next here =>
      cases stored
      exact ⟨before, by rw [here, rewrites.stored], rewrites.id, rewrites.harness, rewrites.native⟩
    · exact ⟨file, stored, rfl, rfl, rfl⟩
  cases effect with
  | read _ same => exact .inl ⟨file, by rw [← same, stored], rfl, rfl, rfl⟩
  | created handle created absent records =>
    rw [records] at stored
    split at stored
    · next here =>
      cases stored
      exact .inr ⟨handle, created, rfl, here, rfl⟩
    · exact .inl ⟨file, stored, rfl, rfl, rfl⟩
  | classified handle link parent orphaned before after rewrites =>
    exact .inl (rewrite_origin rewrites)
  | rewritten _ changed before after rewrites => exact .inl (rewrite_origin rewrites)

theorem absent {handle : ThreadHandle} {link : Option (Link × ThreadFile)}
    (effect : StageEffect files next (.materializing handle link)) {thread : ThreadId}
    (absent : files.record? thread = none) : next.record? thread = none := by
  cases stored : next.record? thread with
  | none => rfl
  | some file =>
    rcases effect.origin stored with ⟨old, there, -⟩ | ⟨handle', created, other, -⟩
    · rw [absent] at there
      cases there
    · cases other

theorem nativeIds (effect : StageEffect files next stage) (native : NativeIds files)
    (unclaimed : stage.Unclaimed files) : NativeIds next where
  keyed := by
    intro thread file stored
    rcases effect.origin stored with ⟨old, there, id, -⟩ | ⟨handle, created, -, here, rfl⟩
    · rw [id, native.keyed thread old there]
    · exact here.symm
  distinct := by
    intro thread file thread' file' stored stored' harness same
    rcases effect.origin stored with ⟨old, there, -, harness₁, native₁⟩ |
      ⟨handle, created, rfl, here, rfl⟩
    · rcases effect.origin stored' with ⟨old', there', -, harness₂, native₂⟩ |
        ⟨handle, created, rfl, here, rfl⟩
      · exact native.distinct thread old thread' old' there there'
          (by rw [← harness₁, ← harness₂, harness]) (by rw [← native₁, ← native₂, same])
      · exact absurd (native₁.symm.trans same)
          (unclaimed thread old there (harness₁.symm.trans harness))
    · rcases effect.origin stored' with ⟨old', there', -, harness₂, native₂⟩ |
        ⟨handle', created', again, here', rfl⟩
      · exact absurd (native₂.symm.trans same.symm)
          (unclaimed thread' old' there' (harness₂.symm.trans harness.symm))
      · cases again
        rw [here, here']

end StageEffect

/-! ## What a stage finds out -/

/-- The stages that an admission can still have before it. -/
def Admitting.remaining : Admitting → ℕ
  | .opening _ => 6
  | .claiming .. => 5
  | .loading .. => 4
  | .relating .. => 3
  | .materializing .. => 2
  | .classifying .. => 2
  | .creating .. => 1
  | .titling .. => 1
  | .finished _ => 0

/-- A stage that has found out nothing that it will rely on. -/
def Admitting.Plain : Admitting → Prop
  | .materializing .. => False
  | .creating .. => False
  | .classifying .. => False
  | _ => True

/-- Everything that can follow a stage, with what has been found out, about the files it leaves. -/
inductive StageNext (site : AdmissionSite) (env : AdmissionEnv) (next : ThreadFiles) :
    Admitting → Admitting → Prop
  | plain (stage following : Admitting) (plain : following.Plain)
      (nearer : following.remaining ≤ stage.remaining - 1) : StageNext site env next stage following
  | materializing (handle : ThreadHandle) (link : Option (Link × ThreadFile))
      (absent : next.record? handle.thread = none) :
      StageNext site env next (.loading handle link) (.materializing handle link)
  | creating (handle : ThreadHandle) (link : Option (Link × ThreadFile)) (graph : ThreadGraph)
      (loaded : graph.get? = next.record?)
      (free : ∀ record ∈ graph.values, record.harness = site.harnessName →
        record.harnessThreadId = handle.harnessThreadId → record.id = handle.thread) :
      StageNext site env next (.materializing handle link)
        (.creating handle (Admitting.materializedFile site env handle graph link))
  | classifying (handle : ThreadHandle) (link : Link) (parent file : ThreadFile)
      (rooted : Rooted (ancestry next.record?) parent.id) :
      StageNext site env next (.relating handle link parent file)
        (.classifying handle link parent file)

section Findings

variable {site : AdmissionSite} {env : AdmissionEnv} {files : ThreadFiles}

theorem openAdmission_next (source : Admission) :
    StageNext site env (Admitting.openAdmission site env files source).1 (.opening source)
      (Admitting.openAdmission site env files source).2 := by
  have ended (next : ThreadFiles) (result : Except HarnessError (Option Admitted)) :
      StageNext site env next (.opening source) (.finished result) :=
    .plain _ _ trivial (Nat.zero_le _)
  unfold Admitting.openAdmission
  cases env.project with
  | error error => exact ended _ _
  | ok project =>
    cases project with
    | none => exact ended _ _
    | some project =>
      cases source with
      | discovered record =>
        unfold Admitting.openDiscovered
        dsimp only
        split
        · exact ended _ _
        · exact .plain _ _ trivial (Nat.le_of_ble_eq_true rfl)
      | link link =>
        unfold Admitting.openLink
        dsimp only
        split
        · exact ended _ _
        · exact ended _ _
        · split
          · exact ended _ _
          · exact .plain _ _ trivial (Nat.le_of_ble_eq_true rfl)

theorem claimThread_next (link : Link) (parent : ThreadFile) (root : String) :
    StageNext site env (Admitting.claimThread env files link parent root).1
      (.claiming link parent root) (Admitting.claimThread env files link parent root).2 := by
  unfold Admitting.claimThread
  split
  · exact .plain _ _ trivial (Nat.le_of_ble_eq_true rfl)
  · split <;> exact .plain _ _ trivial (Nat.le_of_ble_eq_true rfl)

theorem loadClaimed_next (handle : ThreadHandle) (link : Option (Link × ThreadFile)) :
    StageNext site env (Admitting.loadClaimed site env files handle link).1 (.loading handle link)
      (Admitting.loadClaimed site env files handle link).2 := by
  have same := @loadThread_sameRecords env files handle.thread
  have read (found : Option ThreadFile) : (loadThread env files handle.thread).2 = .ok found →
      found = files.record? handle.thread := loadThread_ok
  unfold Admitting.loadClaimed
  generalize loadThread env files handle.thread = outcome at same read ⊢
  match outcome with
  | (_, .error error) => exact .plain _ _ trivial (Nat.le_of_ble_eq_true rfl)
  | (_, .ok none) =>
    exact .materializing handle link ((same handle.thread).trans (read none rfl).symm)
  | (_, .ok (some file)) =>
    cases link with
    | some link => exact .plain _ _ trivial (Nat.le_of_ble_eq_true rfl)
    | none =>
      dsimp only
      split <;> exact .plain _ _ trivial (Nat.le_of_ble_eq_true rfl)

theorem materialize_next (handle : ThreadHandle) (link : Option (Link × ThreadFile)) :
    StageNext site env (Admitting.materialize site env files handle link).1
      (.materializing handle link) (Admitting.materialize site env files handle link).2 := by
  have same := @loadThreadGraph_sameRecords env files
  have found (graph : ThreadGraph) : (loadThreadGraph env files).2 = .ok graph →
      graph.get? = files.record? := loadThreadGraph_ok
  unfold Admitting.materialize
  generalize loadThreadGraph env files = outcome at same found ⊢
  match outcome with
  | (_, .error error) => exact .plain _ _ trivial (Nat.le_of_ble_eq_true rfl)
  | (loaded, .ok graph) =>
    dsimp only
    split
    · exact .plain _ _ trivial (Nat.le_of_ble_eq_true rfl)
    · next free =>
      refine .creating handle link graph ((found graph rfl).trans (funext same).symm) ?_
      intro record member harness native
      by_contra other
      apply free
      rw [List.any_eq_true]
      exact ⟨record, member, by simp [harness, native, other]⟩

theorem relateIn_next (graph : Option ThreadGraph) (handle : ThreadHandle) (link : Link)
    (parent file : ThreadFile) (loaded : ∀ found, graph = some found → found.get? = files.record?) :
    StageNext site env files (.relating handle link parent file)
      (Admitting.relateIn site graph handle link parent file) := by
  have ended (result : Except HarnessError (Option Admitted)) :
      StageNext site env files (.relating handle link parent file) (.finished result) :=
    .plain _ _ trivial (Nat.zero_le _)
  have titled : StageNext site env files (.relating handle link parent file)
      (.titling handle link file) := .plain _ _ trivial (Nat.le_of_ble_eq_true rfl)
  unfold Admitting.relateIn
  cases graph with
  | none =>
    dsimp only
    generalize (if file.kind = .primary then ExistingLinkDisposition.primaryThread
      else .ownedChild) = disposition
    split
    · exact ended _
    · split
      · exact ended _
      · split
        · exact ended _
        · exact titled
  | some graph =>
    dsimp only
    generalize classifyExistingLink graph parent.id file = disposition
    split
    · exact ended _
    · split
      · exact ended _
      · split
        · split
          · exact ended _
          · next valid =>
            split
            · exact ended _
            · apply StageNext.classifying
              rw [← loaded graph rfl, ← parentChainIsValid_iff]
              simpa using valid
        · exact titled

theorem relate_next (handle : ThreadHandle) (link : Link) (parent file : ThreadFile) :
    StageNext site env (Admitting.relate site env files handle link parent file).1
      (.relating handle link parent file)
      (Admitting.relate site env files handle link parent file).2 := by
  have same := @loadThreadGraph_sameRecords env files
  have found (graph : ThreadGraph) : (loadThreadGraph env files).2 = .ok graph →
      graph.get? = files.record? := loadThreadGraph_ok
  unfold Admitting.relate
  split
  · generalize loadThreadGraph env files = outcome at same found ⊢
    match outcome with
    | (_, .error error) => exact .plain _ _ trivial (Nat.le_of_ble_eq_true rfl)
    | (loaded, .ok graph) =>
      dsimp only
      apply relateIn_next
      rintro graph' ⟨⟩
      exact (found graph rfl).trans (funext same).symm
  · dsimp only
    apply relateIn_next
    rintro graph ⟨⟩

theorem classify_next (handle : ThreadHandle) (link : Link) (parent file : ThreadFile) :
    StageNext site env (Admitting.classify site env files handle link parent file).1
      (.classifying handle link parent file)
      (Admitting.classify site env files handle link parent file).2 := by
  unfold Admitting.classify
  split
  · exact .plain _ _ trivial (Nat.le_of_ble_eq_true rfl)
  · split
    · exact .plain _ _ trivial (Nat.le_of_ble_eq_true rfl)
    · split
      · exact .plain _ _ trivial (Nat.le_of_ble_eq_true rfl)
      · split <;> exact .plain _ _ trivial (Nat.le_of_ble_eq_true rfl)

theorem step_next (stage : Admitting) :
    StageNext site env (stage.step site env files).1 stage (stage.step site env files).2 := by
  cases stage with
  | opening source => exact openAdmission_next source
  | claiming link parent root => exact claimThread_next link parent root
  | loading handle link => exact loadClaimed_next handle link
  | materializing handle link => exact materialize_next handle link
  | creating handle file =>
    rw [Admitting.step, Admitting.createFile]
    split <;> exact .plain _ _ trivial (Nat.le_of_ble_eq_true rfl)
  | relating handle link parent file => exact relate_next handle link parent file
  | classifying handle link parent file => exact classify_next handle link parent file
  | titling handle link file =>
    rw [Admitting.step, Admitting.retitle]
    split
    · split <;> exact .plain _ _ trivial (Nat.le_of_ble_eq_true rfl)
    · exact .plain _ _ trivial (Nat.le_of_ble_eq_true rfl)
  | finished result => exact .plain _ _ trivial (Nat.le_of_ble_eq_true rfl)

theorem materializedFile_placed (handle : ThreadHandle) {graph : ThreadGraph}
    (loaded : graph.get? = files.record?) (link : Option (Link × ThreadFile)) :
    Placed files (Admitting.materializedFile site env handle graph link) := by
  cases link with
  | none => exact .inr ⟨rfl, rfl⟩
  | some link =>
    obtain ⟨link, parent⟩ := link
    unfold Admitting.materializedFile
    dsimp only
    split
    · exact .inr ⟨rfl, rfl⟩
    · next valid =>
      split
      · exact .inr ⟨rfl, rfl⟩
      · refine .inl ⟨rfl, parent.id, rfl, ?_⟩
        rw [← loaded, ← parentChainIsValid_iff]
        simpa using valid

theorem materializedFile_native (handle : ThreadHandle) (graph : ThreadGraph)
    (link : Option (Link × ThreadFile)) :
    (Admitting.materializedFile site env handle graph link).harness = site.harnessName ∧
      (Admitting.materializedFile site env handle graph link).harnessThreadId =
        handle.harnessThreadId := by
  cases link with
  | none => exact ⟨rfl, rfl⟩
  | some link =>
    unfold Admitting.materializedFile
    dsimp only
    split
    · exact ⟨rfl, rfl⟩
    · split <;> exact ⟨rfl, rfl⟩

end Findings

namespace StageNext

variable {site : AdmissionSite} {env : AdmissionEnv} {files next : ThreadFiles}
  {stage following : Admitting}

theorem sound (turns : StageNext site env next stage following) : following.Sound next := by
  cases turns with
  | plain _ _ plain _ =>
    cases following <;> trivial
  | materializing => trivial
  | creating handle link graph loaded free => exact materializedFile_placed handle loaded link
  | classifying handle link parent file rooted => exact rooted

theorem unclaimed (turns : StageNext site env next stage following)
    (effect : StageEffect files next stage) (native : NativeIds next)
    (before : stage.Unclaimed files) : following.Unclaimed next := by
  cases turns with
  | plain _ _ plain _ =>
    cases following <;> trivial
  | materializing handle link absent => exact absent
  | creating handle link graph loaded free =>
    intro thread record stored harness taken
    rw [(materializedFile_native handle graph link).1] at harness
    rw [(materializedFile_native handle graph link).2] at taken
    have member : record ∈ graph.values := by
      rw [← loaded, IndexMap.get?_eq_some] at stored
      exact List.mem_map.2 ⟨_, stored, rfl⟩
    have here := free record member harness taken
    rw [native.keyed thread record stored] at here
    rw [here, effect.absent before] at stored
    cases stored
  | classifying => trivial

end StageNext

/-! ## Runs -/

/-- An admission: what it admits, and what the environment decides about each of its stages. -/
structure AdmissionCall where
  envs : ℕ → AdmissionEnv
  source : Admission

/-- The files after an admission that nothing interrupts. -/
def admitCall (site : AdmissionSite) (files : ThreadFiles) (call : AdmissionCall) : ThreadFiles :=
  (runAdmission site call.envs call.source files).1

/-- The files of a project and the admissions under way. -/
structure AdmissionRun where
  files : ThreadFiles
  calls : ℕ → Admitting

/-- One admission takes its next stage. -/
def AdmissionRun.step (site : AdmissionSite) (run : AdmissionRun) (choice : ℕ × AdmissionEnv) :
    AdmissionRun :=
  let (files, stage) := (run.calls choice.1).step site choice.2 run.files
  ⟨files, Function.update run.calls choice.1 stage⟩

/-- A thread whose kind or parent is another one at the second of three points has the same kind
and parent at the third. -/
def OwnersSettle (first second third : ThreadFiles) : Prop :=
  ∀ thread file file', first.record? thread = some file → second.record? thread = some file' →
    (file'.kind ≠ file.kind ∨ file'.parentThreadId ≠ file.parentThreadId) →
    ∃ file'', third.record? thread = some file'' ∧ file''.kind = file'.kind ∧
      file''.parentThreadId = file'.parentThreadId

theorem Admitting.Sound.mono {files next : ThreadFiles} {stage : Admitting}
    (sound : stage.Sound files) (evolves : Evolves files next) : stage.Sound next := by
  cases stage with
  | creating handle file =>
    rcases sound with ⟨kind, parent, owner, rooted⟩ | orphan
    · exact .inl ⟨kind, parent, owner, evolves.rooted rooted⟩
    · exact .inr orphan
  | classifying handle link parent file => exact evolves.rooted sound
  | _ => trivial

section Runs

variable {site : AdmissionSite}

theorem admitStages_succ (envs : ℕ → AdmissionEnv) (source : Admission) (files : ThreadFiles)
    (stages : ℕ) : admitStages site envs source files (stages + 1) =
      (admitStages site envs source files stages).2.step site (envs stages)
        (admitStages site envs source files stages).1 := by
  unfold admitStages
  rw [List.range_succ, List.foldl_append]
  rfl

theorem admitStages_keeps (envs : ℕ → AdmissionEnv) (source : Admission) {files : ThreadFiles}
    (forest : Forest files) (native : NativeIds files) (stages : ℕ) :
    Evolves files (admitStages site envs source files stages).1 ∧
      Forest (admitStages site envs source files stages).1 ∧
      NativeIds (admitStages site envs source files stages).1 ∧
      (admitStages site envs source files stages).2.Sound
        (admitStages site envs source files stages).1 ∧
      (admitStages site envs source files stages).2.Unclaimed
        (admitStages site envs source files stages).1 := by
  induction stages with
  | zero => exact ⟨.refl files, forest, native, trivial, trivial⟩
  | succ stages ih =>
    rw [admitStages_succ]
    generalize admitStages site envs source files stages = state at ih ⊢
    obtain ⟨evolves, forest, native, sound, unclaimed⟩ := ih
    have effect := @step_effect site (envs stages) state.1 state.2
    have next := @step_next site (envs stages) state.1 state.2
    have native' := effect.nativeIds native unclaimed
    exact ⟨evolves.trans (effect.evolves forest), effect.forest forest sound, native', next.sound,
      next.unclaimed effect native' unclaimed⟩

theorem admissions_keep (files : ThreadFiles) (calls : List AdmissionCall) (forest : Forest files)
    (native : NativeIds files) :
    Evolves files (Schedule.run (admitCall site) files calls) ∧
      Forest (Schedule.run (admitCall site) files calls) ∧
      NativeIds (Schedule.run (admitCall site) files calls) := by
  refine @Schedule.run_preserves _ _ (admitCall site)
    (fun next => Evolves files next ∧ Forest next ∧ NativeIds next) files
    ⟨.refl files, forest, native⟩ ?_ calls
  rintro next call ⟨evolves, forest, native⟩
  obtain ⟨evolves', forest', native', -⟩ :=
    @admitStages_keeps site call.envs call.source next forest native 6
  exact ⟨evolves.trans evolves', forest', native'⟩

theorem AdmissionRun.step_keeps {run : AdmissionRun} (forest : Forest run.files)
    (sound : ∀ call, (run.calls call).Sound run.files) (choice : ℕ × AdmissionEnv) :
    Evolves run.files (run.step site choice).files ∧ Forest (run.step site choice).files ∧
      ∀ call, ((run.step site choice).calls call).Sound (run.step site choice).files := by
  have effect := @step_effect site choice.2 run.files (run.calls choice.1)
  have next := @step_next site choice.2 run.files (run.calls choice.1)
  have evolves := effect.evolves forest
  refine ⟨evolves, effect.forest forest (sound choice.1), fun call => ?_⟩
  unfold AdmissionRun.step
  dsimp only
  by_cases here : call = choice.1
  · subst here
    rw [Function.update_self]
    exact next.sound
  · rw [Function.update_of_ne here]
    exact (sound call).mono evolves

theorem stages_keep (run : AdmissionRun) (schedule : List (ℕ × AdmissionEnv))
    (forest : Forest run.files) (sound : ∀ call, (run.calls call).Sound run.files) :
    Evolves run.files (Schedule.run (AdmissionRun.step site) run schedule).files ∧
      Forest (Schedule.run (AdmissionRun.step site) run schedule).files ∧
      ∀ call, ((Schedule.run (AdmissionRun.step site) run schedule).calls call).Sound
        (Schedule.run (AdmissionRun.step site) run schedule).files := by
  refine @Schedule.run_preserves _ _ (AdmissionRun.step site)
    (fun next => Evolves run.files next.files ∧ Forest next.files ∧
      ∀ call, (next.calls call).Sound next.files) run ⟨.refl run.files, forest, sound⟩ ?_ schedule
  rintro next choice ⟨evolves, forest, sound⟩
  obtain ⟨evolves', forest', sound'⟩ := @AdmissionRun.step_keeps site next forest sound choice
  exact ⟨evolves.trans evolves', forest', sound'⟩

theorem admissions_evolve (files : ThreadFiles) (first second : List AdmissionCall)
    (forest : Forest files) (native : NativeIds files) :
    Evolves (Schedule.run (admitCall site) files first)
      (Schedule.run (admitCall site) files (first ++ second)) := by
  obtain ⟨-, forest', native'⟩ := @admissions_keep site files first forest native
  rw [Schedule.run_append]
  exact (admissions_keep _ second forest' native').1

theorem stages_evolve (run : AdmissionRun) (first second : List (ℕ × AdmissionEnv))
    (forest : Forest run.files) (sound : ∀ call, (run.calls call).Sound run.files) :
    Evolves (Schedule.run (AdmissionRun.step site) run first).files
      (Schedule.run (AdmissionRun.step site) run (first ++ second)).files := by
  obtain ⟨-, forest', sound'⟩ := @stages_keep site run first forest sound
  rw [Schedule.run_append]
  exact (stages_keep _ second forest' sound').1

end Runs

/-- Admissions that start from a forest with distinct native ids. Whole admissions, one after the
other, keep both, and a thread's kind and parent change from those of an orphan to those of a
sub-agent only, and at most once. Admissions whose stages interleave in any order do the same,
except that they can give two threads one native id. -/
theorem admissions_keep_forest (site : AdmissionSite) (files : ThreadFiles)
    (forest : Forest files) (native : NativeIds files) :
    (∀ calls : List AdmissionCall, Forest (Schedule.run (admitCall site) files calls) ∧
      NativeIds (Schedule.run (admitCall site) files calls)) ∧
    (∀ first second third : List AdmissionCall,
      Evolves (Schedule.run (admitCall site) files first)
        (Schedule.run (admitCall site) files (first ++ second)) ∧
      OwnersSettle (Schedule.run (admitCall site) files first)
        (Schedule.run (admitCall site) files (first ++ second))
        (Schedule.run (admitCall site) files (first ++ second ++ third))) ∧
    ∀ (sources : ℕ → Admission) (first second third : List (ℕ × AdmissionEnv)),
      let start : AdmissionRun := ⟨files, fun call => .opening (sources call)⟩
      Forest (Schedule.run (AdmissionRun.step site) start first).files ∧
      Evolves (Schedule.run (AdmissionRun.step site) start first).files
        (Schedule.run (AdmissionRun.step site) start (first ++ second)).files ∧
      OwnersSettle (Schedule.run (AdmissionRun.step site) start first).files
        (Schedule.run (AdmissionRun.step site) start (first ++ second)).files
        (Schedule.run (AdmissionRun.step site) start (first ++ second ++ third)).files := by
  refine ⟨?_, ?_, ?_⟩
  · intro calls
    exact (admissions_keep files calls forest native).2
  · intro first second third
    have left := @admissions_evolve site files first second forest native
    have right := @admissions_evolve site files (first ++ second) third forest native
    exact ⟨left, fun _ _ _ stored stored' changed => left.once right stored stored' changed⟩
  · intro sources first second third start
    have sound : ∀ call, (start.calls call).Sound start.files := fun _ => trivial
    have left := @stages_evolve site start first second forest sound
    have right := @stages_evolve site start (first ++ second) third forest sound
    exact ⟨(stages_keep start first forest sound).2.1, left,
      fun _ _ _ stored stored' changed => left.once right stored stored' changed⟩

/-! ## A project with an orphan -/

noncomputable def sampleSite : AdmissionSite :=
  ⟨.reference, ⟨⟨0⟩⟩, "codex", false⟩

/-- A thread of the sample project. -/
def sampleThread (id : BitVec 128) (kind : ThreadKind) (native : String) : ThreadFile :=
  { orphanFile ⟨0, 0⟩ ⟨⟨0⟩⟩ ⟨⟨id⟩⟩ native "codex" .unknown with kind := kind, revision := 1 }

/-- A primary thread and an orphan. -/
def sampleThreads : ThreadFiles :=
  (IndexMap.empty.insert ⟨⟨1⟩⟩ (.record (sampleThread 1 .primary "main"))).insert ⟨⟨2⟩⟩
    (.record (sampleThread 2 .orphan "agent"))

/-- No faults, and a harness that claims the orphan. -/
def sampleAdmissionEnv : AdmissionEnv where
  now := ⟨0, 0⟩
  metadata := fun _ => ⟨"thread.json", ⟨0, 0⟩, none, false, none⟩
  listFault := none
  headerFault := none
  project := .ok (some ⟨1, ⟨⟨0⟩⟩, "project", "/project", "codex", none, ⟨0, 0⟩, ⟨0, 0⟩⟩)
  newThreadId := ⟨⟨3⟩⟩
  claimNativeThread := fun _ native root => .ok (.opened ⟨⟨2⟩⟩ native root)
  owner := none

/-- The primary thread links to the orphan. -/
def sampleLink : AdmissionCall :=
  ⟨fun _ => sampleAdmissionEnv,
    .link ⟨⟨⟨1⟩⟩, ⟨⟨7⟩⟩, ⟨⟨8⟩⟩, "item", "agent", some "Ada", none, none⟩⟩

theorem sampleThreads_record {thread : ThreadId} {file : ThreadFile}
    (stored : sampleThreads.record? thread = some file) :
    thread = ⟨⟨1⟩⟩ ∧ file = sampleThread 1 .primary "main" ∨
      thread = ⟨⟨2⟩⟩ ∧ file = sampleThread 2 .orphan "agent" := by
  unfold sampleThreads ThreadFiles.record? ThreadFiles.file at stored
  rw [IndexMap.get?_insert, IndexMap.get?_insert, IndexMap.get?_empty] at stored
  split at stored
  · next here =>
    cases stored
    exact .inr ⟨here, rfl⟩
  · split at stored
    · next here =>
      cases stored
      exact .inl ⟨here, rfl⟩
    · cases stored

theorem sampleThreads_forest : Forest sampleThreads where
  chains := by
    intro thread file stored kind
    rcases sampleThreads_record stored with ⟨-, rfl⟩ | ⟨-, rfl⟩ <;> cases kind
  parentless := by
    intro thread file stored kind
    rcases sampleThreads_record stored with ⟨-, rfl⟩ | ⟨-, rfl⟩ <;> rfl

theorem sampleThreads_nativeIds : NativeIds sampleThreads where
  keyed := by
    intro thread file stored
    rcases sampleThreads_record stored with ⟨rfl, rfl⟩ | ⟨rfl, rfl⟩ <;> rfl
  distinct := by
    intro thread file thread' file' stored stored' harness native
    rcases sampleThreads_record stored with ⟨rfl, rfl⟩ | ⟨rfl, rfl⟩ <;>
      rcases sampleThreads_record stored' with ⟨rfl, rfl⟩ | ⟨rfl, rfl⟩ <;>
      first | rfl | exact absurd native (by decide)

/-- The threads of the sample are a forest, and the check finds nothing wrong with their graph. -/
theorem forest_iff_graphIssue_sample :
    ∃ graph, (loadThreadGraph sampleAdmissionEnv sampleThreads).2 = .ok graph ∧
      ∀ thread file, sampleThreads.record? thread = some file → graphIssue graph file = none := by
  obtain ⟨graph, loaded⟩ :
      ∃ graph, (loadThreadGraph sampleAdmissionEnv sampleThreads).2 = .ok graph := ⟨_, rfl⟩
  exact ⟨graph, loaded, (forest_iff_graphIssue sampleThreads_nativeIds.keyed
    (loadThreadGraph_ok loaded)).1 sampleThreads_forest⟩

/-- The orphan becomes a sub-agent of the primary thread, and the forest stays one. -/
theorem admissions_keep_forest_sample :
    Forest (Schedule.run (admitCall sampleSite) sampleThreads [sampleLink]) ∧
    NativeIds (Schedule.run (admitCall sampleSite) sampleThreads [sampleLink]) ∧
    ((Schedule.run (admitCall sampleSite) sampleThreads [sampleLink]).record? ⟨⟨2⟩⟩).map
      (fun file => (file.kind, file.parentThreadId, file.title)) =
      some (.subagent, some ⟨⟨1⟩⟩, "Sub-agent: Ada") := by
  have kept := (admissions_keep_forest sampleSite sampleThreads sampleThreads_forest
    sampleThreads_nativeIds).1 [sampleLink]
  exact ⟨kept.1, kept.2, by decide +kernel⟩

end Giskard
