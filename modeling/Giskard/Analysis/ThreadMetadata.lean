import Mathlib
import Giskard.Model.ThreadMetadata

/-!
# The store's own fields of thread metadata

An update either leaves the file as it is or replaces the record by one whose revision is the
next one and whose time stamp is not earlier. Identity, version and creation time stay. The only
file that a failing update does not leave in place is one that is no record: the read moves it
aside.

SOURCE: crates/giskard-persist/src/store.rs.
-/

set_option autoImplicit false

namespace Giskard

namespace DateTime

/-- Not later. -/
def le (left right : DateTime) : Prop := left = right ∨ left < right

instance : LE DateTime := ⟨le⟩

theorem lt_iff {left right : DateTime} : left < right ↔
    left.seconds.toInt < right.seconds.toInt ∨
      left.seconds = right.seconds ∧ left.nanos.toNat < right.nanos.toNat := by
  change (_ ∨ _ ∧ _) ↔ _
  rw [Int64.lt_iff_toInt_lt, UInt32.lt_iff_toNat_lt]

theorem lt_irrefl (instant : DateTime) : ¬ instant < instant := by
  rw [lt_iff]
  omega

theorem lt_trans {first second third : DateTime} (left : first < second)
    (right : second < third) : first < third := by
  rw [lt_iff] at left right ⊢
  rcases left with left | ⟨same, left⟩
  · rcases right with right | ⟨same', right⟩
    · exact .inl (left.trans right)
    · exact .inl (same' ▸ left)
  · rcases right with right | ⟨same', right⟩
    · exact .inl (same ▸ right)
    · exact .inr ⟨same.trans same', left.trans right⟩

theorem le_refl (instant : DateTime) : instant ≤ instant := .inl rfl

theorem le_trans {first second third : DateTime} (left : first ≤ second)
    (right : second ≤ third) : first ≤ third := by
  rcases left with rfl | left
  · exact right
  · rcases right with rfl | right
    · exact .inr left
    · exact .inr (lt_trans left right)

theorem lt_checkedSucc {instant later : DateTime} (next : instant.checkedSucc = some later) :
    instant < later := by
  unfold checkedSucc at next
  split at next
  · next inside =>
    cases next
    have bound : instant.nanos.toNat < 1999999999 := by
      have low : (999999999 : UInt32).toNat = 999999999 := rfl
      have high : (1999999999 : UInt32).toNat = 1999999999 := rfl
      rcases inside with inside | ⟨-, inside⟩ <;>
        (rw [UInt32.lt_iff_toNat_lt] at inside; omega)
    have one : (1 : UInt32).toNat = 1 := rfl
    rw [lt_iff]
    refine .inr ⟨rfl, ?_⟩
    dsimp only
    rw [UInt32.toNat_add, one]
    omega
  · split at next
    · next below =>
      cases next
      rw [lt_iff]
      refine .inl ?_
      dsimp only
      rw [Int64.lt_iff_toInt_lt] at below
      have max : maxSeconds.toInt = 8210266876799 := by decide
      have least := instant.seconds.le_toInt
      have one : (1 : Int64).toInt = 1 := rfl
      rw [Int64.toInt_add, one, Int.bmod_eq_of_le] <;> omega
    · cases next

end DateTime

/-! ## One update -/

/-- The fields of a record besides its revision and time stamp. -/
def ThreadFile.durable (file : ThreadFile) : ThreadFile :=
  { file with revision := 0, updatedAt := ⟨0, 0⟩ }

theorem nextRecency_later {now previous later : DateTime}
    (next : nextRecency now previous = .ok later) : previous < later := by
  unfold nextRecency at next
  split at next
  · next before =>
    cases next
    exact before
  · split at next
    · next found =>
      cases next
      exact DateTime.lt_checkedSucc found
    · cases next

theorem mutatedRecency_le {now updatedAt : DateTime} {recency : ThreadRecency}
    {before after : ThreadFile}
    (result : mutatedRecency now recency before after = .ok updatedAt) :
    before.updatedAt ≤ updatedAt := by
  unfold mutatedRecency at result
  cases recency with
  | preserve =>
    cases result
    exact DateTime.le_refl _
  | touchIfChanged =>
    dsimp only at result
    split at result
    · exact .inr (nextRecency_later result)
    · cases result
      exact DateTime.le_refl _
  | recordActivity => exact .inr (nextRecency_later result)
  | restoreActivity activityAt =>
    dsimp only at result
    split at result
    · next later =>
      cases result
      exact .inr later
    · cases result
      exact DateTime.le_refl _

theorem nextRevision_eq_some {revision next : UInt64} (found : nextRevision revision = some next) :
    next.toNat = revision.toNat + 1 ∧ next ≤ maxThreadRevision := by
  unfold nextRevision at found
  rw [Option.filter_eq_some_iff] at found
  obtain ⟨found, bound⟩ := found
  split at found
  · next small =>
    cases found
    refine ⟨?_, by simpa using bound⟩
    rw [UInt64.toNat_add]
    exact Nat.mod_eq_of_lt small
  · cases found

/-- A file that a read moves aside. -/
def Quarantined (before after : MetadataFile) : Prop :=
  ∃ bytes message, before = .damaged bytes message ∧ after = .absent

theorem loadThreadUnlocked_cases (env : MetadataEnv) (file : MetadataFile) :
    (∃ error next, loadThreadUnlocked env file = (next, .error error) ∧
      (next = file ∨ Quarantined file next)) ∨
    (file = .absent ∧ loadThreadUnlocked env file = (file, .ok none)) ∨
    (∃ record, file = .record record ∧ loadThreadUnlocked env file = (file, .ok (some record))) := by
  unfold loadThreadUnlocked readJsonOrQuarantine
  cases env.readFault with
  | some message => exact .inl ⟨_, file, rfl, .inl rfl⟩
  | none =>
    cases file with
    | absent => exact .inr (.inl ⟨rfl, rfl⟩)
    | damaged bytes message =>
      refine .inl ⟨_, _, rfl, ?_⟩
      split
      · exact .inl rfl
      · exact .inr ⟨bytes, message, rfl, rfl⟩
    | record record =>
      dsimp only
      split
      · exact .inl ⟨_, _, rfl, .inl rfl⟩
      · exact .inr (.inr ⟨record, rfl, rfl⟩)

/-- Everything that an update can do. -/
inductive UpdateStep (now : DateTime) (recency : ThreadRecency) (f : ThreadFile → ThreadFile)
    (file : MetadataFile) : MetadataFile → Except PersistError ThreadMutation → Prop
  | failed (error : PersistError) (next : MetadataFile) (stays : next = file ∨ Quarantined file next) :
      UpdateStep now recency f file next (.error error)
  | missing (absent : file = .absent) : UpdateStep now recency f file file (.ok .missing)
  | unchanged (before : ThreadFile) (stored : file = .record before)
      (same : mutatedRecord f before = before) :
      UpdateStep now recency f file file (.ok (.unchanged before))
  | changed (before after : ThreadFile) (updatedAt : DateTime) (revision : UInt64)
      (stored : file = .record before)
      (identity : changesIdentity before (mutatedRecord f before) = false)
      (touched : mutatedRecency now recency before (mutatedRecord f before) = .ok updatedAt)
      (different : { mutatedRecord f before with updatedAt := updatedAt } ≠ before)
      (next : nextRevision before.revision = some revision)
      (result : after =
        { mutatedRecord f before with updatedAt := updatedAt, revision := revision }) :
      UpdateStep now recency f file (.record after) (.ok (.changed before after))

section Update

variable {crates : Crates} {env : MetadataEnv} {thread : ThreadId} {recency : ThreadRecency}
  {f : ThreadFile → ThreadFile} {file : MetadataFile}

theorem updateThreadWithRecencyUnlocked_step :
    UpdateStep env.now recency f file
      (updateThreadWithRecencyUnlocked crates env thread recency f file).1
      (updateThreadWithRecencyUnlocked crates env thread recency f file).2 := by
  unfold updateThreadWithRecencyUnlocked
  rcases loadThreadUnlocked_cases env file with ⟨error, next, loaded, stays⟩ |
    ⟨absent, loaded⟩ | ⟨before, stored, loaded⟩
  · rw [loaded]
    exact .failed error next stays
  · rw [loaded]
    exact .missing absent
  · rw [loaded]
    dsimp only
    split
    · exact .failed _ file (.inl rfl)
    · next identity =>
      cases touched : mutatedRecency env.now recency before (mutatedRecord f before) with
      | error error => exact .failed error file (.inl rfl)
      | ok updatedAt =>
        dsimp only
        split
        · next same =>
          refine .unchanged before stored ?_
          have stamp := congrArg ThreadFile.updatedAt same
          dsimp only at stamp
          rw [stamp] at same
          exact same
        · next different =>
          cases advanced : nextRevision before.revision with
          | none => exact .failed _ file (.inl rfl)
          | some revision =>
            unfold saveThreadUnlocked
            cases env.writeFault with
            | some message => exact .failed _ file (.inl rfl)
            | none =>
              exact .changed before _ updatedAt revision stored (by simpa using identity) touched
                different advanced rfl

end Update

namespace UpdateStep

variable {now : DateTime} {recency : ThreadRecency} {f : ThreadFile → ThreadFile}
  {file next : MetadataFile} {result : Except PersistError ThreadMutation}

/-- A changed record differs from the one before in a durable field or in its time stamp. -/
theorem changed_iff (step : UpdateStep now recency f file next result) :
    (∃ before after, result = .ok (.changed before after)) ↔
      ∃ before after, file = .record before ∧ next = .record after ∧
        (after.durable ≠ before.durable ∨ after.updatedAt ≠ before.updatedAt) := by
  have unmoved {before after : ThreadFile} (stored : file = .record before)
      (stored' : file = .record after)
      (moved : after.durable ≠ before.durable ∨ after.updatedAt ≠ before.updatedAt) : False := by
    rw [stored] at stored'
    cases stored'
    rcases moved with moved | moved <;> exact moved rfl
  constructor
  · rintro ⟨before, after, rfl⟩
    cases step with
    | changed before after updatedAt revision stored identity touched different advanced shape =>
      refine ⟨before, after, stored, rfl, ?_⟩
      by_contra same
      rw [not_or, not_not, not_not] at same
      apply different
      subst shape
      have durable := same.1
      have stamp := same.2
      unfold ThreadFile.durable at durable
      dsimp only at durable stamp
      rw [stamp]
      have fields := congrArg (fun file => { file with
        revision := before.revision, updatedAt := before.updatedAt }) durable
      exact fields
  · rintro ⟨before, after, stored, rfl, moved⟩
    cases step with
    | failed error _ stays =>
      rcases stays with same | ⟨bytes, message, damaged, absent⟩
      · exact (unmoved stored same.symm moved).elim
      · cases absent
    | missing absent => exact (unmoved stored rfl moved).elim
    | unchanged before' stored' same => exact (unmoved stored rfl moved).elim
    | changed before' after' updatedAt revision => exact ⟨before', after, rfl⟩

theorem changed_record {before after : ThreadFile}
    (step : UpdateStep now recency f file next (.ok (.changed before after))) :
    file = .record before ∧ next = .record after ∧
      after.revision.toNat = before.revision.toNat + 1 ∧
      after.durable = (mutatedRecord f before).durable := by
  cases step with
  | changed before after updatedAt revision stored identity touched different advanced shape =>
    subst shape
    exact ⟨stored, rfl, (nextRevision_eq_some advanced).1, rfl⟩

theorem unchanged_file (step : UpdateStep now recency f file next result)
    (other : ¬ ∃ before after, result = .ok (.changed before after)) :
    next = file ∨ Quarantined file next ∧ ∃ error, result = .error error := by
  cases step with
  | failed error _ stays =>
    rcases stays with same | moved
    · exact .inl same
    · exact .inr ⟨moved, error, rfl⟩
  | missing absent => exact .inl rfl
  | unchanged before stored same => exact .inl rfl
  | changed before after => exact (other ⟨before, after, rfl⟩).elim

theorem ok_record {mutation : ThreadMutation} {after : ThreadFile}
    (step : UpdateStep now recency f file next (.ok mutation)) (stored : next = .record after) :
    ∃ before, file = .record before ∧ after.durable = (mutatedRecord f before).durable := by
  cases step with
  | missing absent =>
    rw [stored] at absent
    cases absent
  | unchanged before stored' same =>
    rw [stored] at stored'
    cases stored'
    exact ⟨after, stored, by rw [same]⟩
  | changed before after' updatedAt revision stored' identity touched different advanced shape =>
    cases stored
    subst shape
    exact ⟨before, stored', rfl⟩

theorem error_record {error : PersistError} {after : ThreadFile}
    (step : UpdateStep now recency f file next (.error error)) (stored : next = .record after) :
    file = .record after := by
  cases step with
  | failed _ _ stays =>
    rcases stays with same | ⟨bytes, message, -, absent⟩
    · rw [← same, stored]
    · rw [stored] at absent
      cases absent

/-- A record stays one, with its identity and with a time stamp that is not earlier. -/
theorem keeps_record {before : ThreadFile} (step : UpdateStep now recency f file next result)
    (stored : file = .record before) :
    ∃ after, next = .record after ∧ after.id = before.id ∧ after.projectId = before.projectId ∧
      after.version = before.version ∧ after.createdAt = before.createdAt ∧
      before.updatedAt ≤ after.updatedAt ∧
      (before.revision ≤ maxThreadRevision → after.revision ≤ maxThreadRevision) := by
  have same : file = .record before → ∃ after, file = .record after ∧ after.id = before.id ∧
      after.projectId = before.projectId ∧ after.version = before.version ∧
      after.createdAt = before.createdAt ∧ before.updatedAt ≤ after.updatedAt ∧
      (before.revision ≤ maxThreadRevision → after.revision ≤ maxThreadRevision) := fun stored =>
    ⟨before, stored, rfl, rfl, rfl, rfl, DateTime.le_refl _, fun bound => bound⟩
  cases step with
  | failed error _ stays =>
    rcases stays with rfl | ⟨bytes, message, damaged, absent⟩
    · exact same stored
    · rw [stored] at damaged
      cases damaged
  | missing absent => exact same stored
  | unchanged before' stored' _ => exact same stored
  | changed before' after updatedAt revision stored' identity touched different advanced shape =>
    rw [stored] at stored'
    cases stored'
    subst shape
    simp only [changesIdentity, Bool.or_eq_false_iff, decide_eq_false_iff_not, not_not] at identity
    obtain ⟨⟨⟨id, project⟩, version⟩, created⟩ := identity
    exact ⟨_, rfl, id, project, version, created, mutatedRecency_le touched,
      fun _ => (nextRevision_eq_some advanced).2⟩

end UpdateStep

/-! ## Runs -/

/-- One call of `update_thread_with_recency`. -/
structure MetadataCall where
  env : MetadataEnv
  recency : ThreadRecency
  f : ThreadFile → ThreadFile

/-- The file after a call, and its result. -/
def MetadataCall.apply (crates : Crates) (thread : ThreadId) (call : MetadataCall)
    (file : MetadataFile) : MetadataFile × Except PersistError ThreadMutation :=
  updateThreadWithRecencyUnlocked crates call.env thread call.recency call.f file

/-- The file after a sequence of calls. -/
def metadataRun (crates : Crates) (thread : ThreadId) (file : MetadataFile)
    (calls : List MetadataCall) : MetadataFile :=
  calls.foldl (fun file call => (call.apply crates thread file).1) file

theorem metadataRun_keeps (crates : Crates) (thread : ThreadId) (calls : List MetadataCall)
    (first : ThreadFile) :
    ∃ last, metadataRun crates thread (.record first) calls = .record last ∧
      last.id = first.id ∧ last.projectId = first.projectId ∧ last.version = first.version ∧
      last.createdAt = first.createdAt ∧ first.updatedAt ≤ last.updatedAt ∧
      (first.revision ≤ maxThreadRevision → last.revision ≤ maxThreadRevision) := by
  induction calls generalizing first with
  | nil => exact ⟨first, rfl, rfl, rfl, rfl, rfl, DateTime.le_refl _, fun bound => bound⟩
  | cons call calls ih =>
    have step := @updateThreadWithRecencyUnlocked_step crates call.env thread call.recency call.f
      (.record first)
    obtain ⟨second, stored, id, project, version, created, later, bound⟩ := step.keeps_record rfl
    obtain ⟨last, reached, id', project', version', created', later', bound'⟩ := ih second
    refine ⟨last, ?_, id'.trans id, project'.trans project, version'.trans version,
      created'.trans created, DateTime.le_trans later later', fun small => bound' (bound small)⟩
    rw [← reached, ← stored]
    rfl

/-- After any sequence of calls, a further call changes the record exactly when a durable field
or the time stamp is another one, and then the revision is the next; else the file is as it was,
unless it is no record and the read moves it aside. Over every sequence identity, version and
creation time stay, the time stamp does not go back and the revision stays in its bound. -/
theorem metadata_ordering (crates : Crates) (thread : ThreadId) (file : MetadataFile)
    (calls : List MetadataCall) (call : MetadataCall) :
    let reached := metadataRun crates thread file calls
    let next := (call.apply crates thread reached).1
    let result := (call.apply crates thread reached).2
    ((∃ before after, result = .ok (.changed before after)) ↔
      ∃ before after, reached = .record before ∧ next = .record after ∧
        (after.durable ≠ before.durable ∨ after.updatedAt ≠ before.updatedAt)) ∧
    (∀ before after, result = .ok (.changed before after) →
      reached = .record before ∧ next = .record after ∧
        after.revision.toNat = before.revision.toNat + 1 ∧
        after.durable = (mutatedRecord call.f before).durable) ∧
    ((¬ ∃ before after, result = .ok (.changed before after)) →
      next = reached ∨ Quarantined reached next ∧ ∃ error, result = .error error) ∧
    (∀ first, file = .record first → ∃ last, reached = .record last ∧
      last.id = first.id ∧ last.projectId = first.projectId ∧ last.version = first.version ∧
      last.createdAt = first.createdAt ∧ first.updatedAt ≤ last.updatedAt ∧
      (first.revision ≤ maxThreadRevision → last.revision ≤ maxThreadRevision)) := by
  intro reached next result
  have step : UpdateStep call.env.now call.recency call.f reached next result :=
    updateThreadWithRecencyUnlocked_step
  refine ⟨step.changed_iff, ?_, step.unchanged_file, ?_⟩
  · intro before after changed
    rw [changed] at step
    exact step.changed_record
  · rintro first rfl
    exact metadataRun_keeps crates thread calls first

/-- A damaged record is moved aside by the call that fails on it. -/
theorem metadata_quarantined :
    let file : MetadataFile := .damaged [123] "EOF while parsing an object at line 1 column 1"
    let call : MetadataCall := ⟨⟨"thread.json", ⟨0, 0⟩, none, false, none⟩, .preserve, id⟩
    (call.apply Crates.reference ⟨⟨1⟩⟩ file).2 =
        .error (.corrupt "thread.json: EOF while parsing an object at line 1 column 1") ∧
      (call.apply Crates.reference ⟨⟨1⟩⟩ file).1 ≠ file := by
  intro file call
  have moved : (call.apply Crates.reference ⟨⟨1⟩⟩ file).1 = .absent := rfl
  refine ⟨rfl, ?_⟩
  rw [moved]
  exact MetadataFile.noConfusion

end Giskard
