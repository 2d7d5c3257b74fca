import Mathlib
import Giskard.Model.ThreadRemoval

/-!
# Deletions can be interrupted anywhere

Of a thread's files the history of the older layout is never there without the metadata, and the
staging directory neither without the metadata nor beside the directory. Migrations and deletions
keep to this at every step, so a thread that is not listed, having no directory and no metadata,
has nothing left but what its deletion renamed, which the sweep removes.

## Main results

* `sound_run`: the invariant of a run
* `interrupted_deletions_leave_nothing`: what completed deletions and sweeps leave, what is left of
  threads that are not listed, and which files a step touches
-/

set_option autoImplicit false

namespace Giskard.ThreadRemoval

open Foundation (IndexMap Node Entries Removal)
open Foundation.Schedule (Meets run run_preserves)

/-! ## Names -/

/-- The text of a thread id has no dot. -/
def Plain (crates : Crates) : Prop := ∀ ulid, '.' ∉ (crates.ulid.print ulid).toList

variable {crates : Crates}

theorem takeWhile_nameOf (plain : Plain crates) (thread : ThreadId) (part : Part) :
    (nameOf crates thread part).takeWhile (fun c => decide (c ≠ '.'))
      = (crates.ulid.print thread.ulid).toList := by
  have stem : ∀ c ∈ (crates.ulid.print thread.ulid).toList, decide (c ≠ '.') = true := by
    intro c member
    apply decide_eq_true
    rintro rfl
    exact plain thread.ulid member
  have tail : part.suffix.takeWhile (fun c => decide (c ≠ '.')) = [] := by
    cases part <;> rfl
  unfold nameOf
  rw [List.takeWhile_append_of_pos stem, tail, List.append_nil]

theorem nameOf_inj (plain : Plain crates) {one other : ThreadId} {first second : Part}
    (same : nameOf crates one first = nameOf crates other second) :
    one = other ∧ first = second := by
  have stems := takeWhile_nameOf plain one first
  rw [same, takeWhile_nameOf plain other second] at stems
  have ids : one = other := by
    have parsed := crates.ulid.parse_print one.ulid
    rw [← String.toList_injective stems, crates.ulid.parse_print] at parsed
    cases one
    cases other
    exact congrArg ThreadId.mk (Option.some.inj parsed).symm
  subst ids
  refine ⟨rfl, ?_⟩
  have suffixes := List.append_cancel_left same
  cases first <;> cases second <;> first | rfl | cases suffixes

theorem stripSuffix_append (stem suffix : Name) :
    stripSuffix suffix (stem ++ suffix) = some stem := by
  unfold stripSuffix
  rw [if_pos (List.suffix_append _ _), List.length_append, Nat.add_sub_cancel, List.take_left]

theorem parseThread_print (thread : ThreadId) :
    parseThread crates (crates.ulid.print thread.ulid).toList = some thread := by
  unfold parseThread
  rw [String.ofList_toList, crates.ulid.parse_print]
  rfl

variable {files next : Files} {thread other : ThreadId} {part : Part} {env : FsEnv}

/-- A part of a thread's files is there. -/
def Has (crates : Crates) (files : Files) (thread : ThreadId) (part : Part) : Prop :=
  ∃ node, files.get? (nameOf crates thread part) = some node

theorem not_has :
    ¬Has crates files thread part ↔ files.get? (nameOf crates thread part) = none := by
  unfold Has
  rw [Option.eq_none_iff_forall_ne_some, not_exists]

theorem mem_listThreads_of_entry {name : Name} {node : Node Name}
    (found : files.get? name = some node) (shows : listed crates (name, node) = some thread) :
    thread ∈ listThreads crates files := by
  unfold listThreads
  rw [List.mem_eraseDups, List.mem_filterMap]
  exact ⟨_, IndexMap.get?_eq_some.1 found, shows⟩

/-! ## What a thread's files can be -/

/-- The parts of a thread that are there belong together. -/
structure Coherent (crates : Crates) (files : Files) (thread : ThreadId) : Prop where
  typed : ∀ part node, files.get? (nameOf crates thread part) = some node →
    node.isDir = part.isDir
  recorded : Has crates files thread .flatHistory → Has crates files thread .flatMetadata
  staged : Has crates files thread .migratingDir →
    Has crates files thread .flatMetadata ∧ ¬Has crates files thread .dir

theorem Coherent.listed (coherent : Coherent crates files thread)
    (there : Has crates files thread .dir ∨ Has crates files thread .flatMetadata) :
    thread ∈ listThreads crates files := by
  rcases there with ⟨node, found⟩ | ⟨node, found⟩
  · apply mem_listThreads_of_entry found
    have directory : node.isDir = true := coherent.typed _ _ found
    unfold ThreadRemoval.listed
    rw [if_pos directory]
    unfold nameOf Part.suffix
    rw [List.append_nil]
    exact parseThread_print thread
  · apply mem_listThreads_of_entry found
    have plainFile : node.isDir = false := coherent.typed _ _ found
    unfold ThreadRemoval.listed
    rw [if_neg (by rw [plainFile]; exact Bool.false_ne_true)]
    unfold nameOf
    rw [stripSuffix_append]
    exact parseThread_print thread

theorem Coherent.unlisted (coherent : Coherent crates files thread)
    (hidden : thread ∉ listThreads crates files) (part : Part)
    (there : Has crates files thread part) : part = .deletingDir := by
  have dir : ¬Has crates files thread .dir := fun there => hidden (coherent.listed (.inl there))
  have metadata : ¬Has crates files thread .flatMetadata :=
    fun there => hidden (coherent.listed (.inr there))
  cases part with
  | dir => exact absurd there dir
  | migratingDir => exact absurd (coherent.staged there).1 metadata
  | deletingDir => rfl
  | flatHistory => exact absurd (coherent.recorded there) metadata
  | flatMetadata => exact absurd there metadata

/-- What the stage of an operation knows of its thread. -/
def Task.Knows (crates : Crates) (files : Files) (thread : ThreadId) : Task → Prop
  | .deleting .checking | .deleting .clearing | .deleting .moving => True
  | .deleting .staging => ¬Has crates files thread .dir
  | .deleting .history =>
    ¬Has crates files thread .dir ∧ ¬Has crates files thread .migratingDir
  | .deleting .metadata =>
    ¬Has crates files thread .dir ∧ ¬Has crates files thread .migratingDir ∧
      ¬Has crates files thread .flatHistory
  | .deleting .removing =>
    ¬Has crates files thread .dir ∧ ¬Has crates files thread .migratingDir ∧
      ¬Has crates files thread .flatHistory ∧ ¬Has crates files thread .flatMetadata
  | .migrating .planning => True
  | .migrating .reading | .migrating .discarding | .migrating .creating | .migrating .writing =>
    ¬Has crates files thread .dir ∧ Has crates files thread .flatMetadata
  | .migrating .verifying | .migrating .committing => True
  | .migrating .relocating | .migrating .movingHistory => ¬Has crates files thread .migratingDir
  | .migrating .movingMetadata =>
    ¬Has crates files thread .migratingDir ∧ ¬Has crates files thread .flatHistory

/-- Two directories have the same parts of a thread. -/
def Agree (crates : Crates) (thread : ThreadId) (files next : Files) : Prop :=
  ∀ part, next.get? (nameOf crates thread part) = files.get? (nameOf crates thread part)

theorem Agree.has (agree : Agree crates thread files next) :
    Has crates next thread part ↔ Has crates files thread part := by
  unfold Has
  rw [agree part]

theorem Coherent.of_agree (coherent : Coherent crates files thread)
    (agree : Agree crates thread files next) : Coherent crates next thread := by
  refine ⟨?_, ?_, ?_⟩
  · intro part node found
    rw [agree part] at found
    exact coherent.typed part node found
  · rw [agree.has, agree.has]
    exact coherent.recorded
  · rw [agree.has, agree.has, agree.has]
    exact coherent.staged

theorem Task.Knows.of_agree {task : Task} (knows : task.Knows crates files thread)
    (agree : Agree crates thread files next) : task.Knows crates next thread := by
  cases task with
  | deleting stage =>
    cases stage <;> simp only [Task.Knows, agree.has] at knows ⊢ <;> exact knows
  | migrating stage =>
    cases stage <;> simp only [Task.Knows, agree.has] at knows ⊢ <;> exact knows

/-! ## What a step changes -/

/-- Every part of a thread that is there was there, as a file or as a directory. -/
def Within (crates : Crates) (thread : ThreadId) (files next : Files) : Prop :=
  ∀ part node, next.get? (nameOf crates thread part) = some node →
    ∃ old, files.get? (nameOf crates thread part) = some old ∧ old.isDir = node.isDir

theorem Within.has (within : Within crates thread files next)
    (there : Has crates next thread part) : Has crates files thread part := by
  obtain ⟨node, found⟩ := there
  obtain ⟨old, before, -⟩ := within part node found
  exact ⟨old, before⟩

theorem Coherent.within (coherent : Coherent crates files thread)
    (within : Within crates thread files next)
    (kept : Has crates files thread .flatMetadata → Has crates next thread .flatMetadata
      ∨ ¬Has crates next thread .flatHistory ∧ ¬Has crates next thread .migratingDir) :
    Coherent crates next thread := by
  refine ⟨?_, ?_, ?_⟩
  · intro part node found
    obtain ⟨old, before, same⟩ := within part node found
    rw [← same]
    exact coherent.typed part old before
  · intro history
    rcases kept (coherent.recorded (within.has history)) with there | ⟨gone, -⟩
    · exact there
    · exact absurd history gone
  · intro staging
    have staged := coherent.staged (within.has staging)
    refine ⟨?_, fun dir => staged.2 (within.has dir)⟩
    rcases kept staged.1 with there | ⟨-, gone⟩
    · exact there
    · exact absurd staging gone

variable {name : Name}

theorem removing_others {σ : Type} {stage : σ} {after : Outcome σ} {other : Name}
    (apart : other ≠ name) :
    (removing files env name stage after).1.get? other = files.get? other := by
  unfold removing
  have others := @Entries.removeAll_others _ _ _ files name other env.pick apart
  split
  · next same => rwa [same] at others
  · next same => rwa [same] at others
  · next same => rwa [same] at others

theorem removing_left {σ : Type} {stage : σ} {after : Outcome σ} {node : Node Name}
    (left : (removing files env name stage after).1.get? name = some node) :
    ∃ old, files.get? name = some old ∧ old.isDir = node.isDir := by
  unfold removing at left
  split at left
  · next same => exact @Entries.removeAll_left _ _ _ files name env.pick node (by rwa [same])
  · next same => exact @Entries.removeAll_left _ _ _ files name env.pick node (by rwa [same])
  · next same => exact @Entries.removeAll_left _ _ _ files name env.pick node (by rwa [same])

theorem removing_cases {σ : Type} (stage : σ) (after : Outcome σ) :
    (removing files env name stage after).2 = .next stage
      ∨ (removing files env name stage after).2 = after ∧
        (removing files env name stage after).1.get? name = none
      ∨ (removing files env name stage after).2 = .failed := by
  unfold removing
  have gone := @Entries.removeAll_gone _ _ _ files name env.pick
  split
  · exact .inl rfl
  · next same =>
    rw [same] at gone
    exact .inr (.inl ⟨rfl, gone rfl⟩)
  · exact .inr (.inr rfl)

theorem attempted_cases {σ : Type} (result : Option Files) (after : Outcome σ) :
    (∃ left, result = some left ∧ attempted files result after = (left, after))
      ∨ attempted files result after = (files, .failed) := by
  cases result with
  | none => exact .inr rfl
  | some left => exact .inl ⟨left, rfl, rfl⟩

theorem removing_within {σ : Type} {stage : σ} {after : Outcome σ} (plain : Plain crates) :
    Within crates thread files
      (removing files env (nameOf crates thread part) stage after).1 := by
  intro other node found
  by_cases same : other = part
  · subst same
    exact removing_left found
  · rw [removing_others] at found
    · exact ⟨node, found, rfl⟩
    · exact fun names => same (nameOf_inj plain names).2

theorem removing_has {σ : Type} {stage : σ} {after : Outcome σ} (plain : Plain crates)
    {kept : Part} (apart : kept ≠ part) :
    Has crates (removing files env (nameOf crates thread part) stage after).1 thread kept
      ↔ Has crates files thread kept := by
  unfold Has
  rw [removing_others]
  exact fun names => apart (nameOf_inj plain names).2

theorem nameOf_ne (plain : Plain crates) {first second : Part} (apart : first ≠ second) :
    nameOf crates thread first ≠ nameOf crates thread second :=
  fun names => apart (nameOf_inj plain names).2

theorem has_congr
    (same : next.get? (nameOf crates thread part) = files.get? (nameOf crates thread part)) :
    Has crates next thread part ↔ Has crates files thread part := by
  unfold Has
  rw [same]

theorem has_isDir (coherent : Coherent crates files thread) (directory : part.isDir = true) :
    files.isDir (nameOf crates thread part) = true ↔ Has crates files thread part := by
  rw [Entries.isDir_iff]
  constructor
  · rintro ⟨inside, found⟩
    exact ⟨_, found⟩
  · rintro ⟨node, found⟩
    have typed := coherent.typed part node found
    cases node with
    | file => cases typed.trans directory
    | dir inside => exact ⟨inside, found⟩

theorem removeFile_within (plain : Plain crates)
    (removed : files.removeFile (nameOf crates thread part) = some next) :
    Within crates thread files next := by
  intro other node found
  by_cases same : other = part
  · subst same
    cases (Entries.removeFile_gone removed).symm.trans found
  · rw [Entries.removeFile_others removed (nameOf_ne plain same)] at found
    exact ⟨node, found, rfl⟩

theorem write_within {file : Name} (plain : Plain crates)
    (written : Entries.write files (nameOf crates thread part) file = some next) :
    Within crates thread files next := by
  intro other node found
  by_cases same : other = part
  · subst same
    exact Entries.write_left written found
  · rw [Entries.write_others written (nameOf_ne plain same)] at found
    exact ⟨node, found, rfl⟩

/-! ## What an outcome leaves -/

/-- What a deletion that is over has left of its thread. -/
def Task.Done (crates : Crates) (files : Files) (thread : ThreadId) : Task → Prop
  | .deleting _ => ∀ part, ¬Has crates files thread part
  | .migrating _ => True

/-- An outcome of a stage knows what the next stage does. -/
def Outcome.Meets {σ : Type} (crates : Crates) (wrap : σ → Task) (stage : σ) (files : Files)
    (thread : ThreadId) : Outcome σ → Prop
  | .next after => (wrap after).Knows crates files thread
  | .finished => (wrap stage).Done crates files thread
  | .failed => True

/-- A step leaves the files of its thread coherent and its outcome true. -/
def Lands {σ : Type} (crates : Crates) (wrap : σ → Task) (stage : σ) (thread : ThreadId)
    (result : Files × Outcome σ) : Prop :=
  Coherent crates result.1 thread ∧ result.2.Meets crates wrap stage result.1 thread

variable {σ : Type} {wrap : σ → Task} {stage : σ} {after : Outcome σ}

theorem removing_lands (plain : Plain crates) (coherent : Coherent crates files thread)
    (apart : .flatMetadata ≠ part)
    (again : (wrap stage).Knows crates
      (removing files env (nameOf crates thread part) stage after).1 thread)
    (ended :
      ¬Has crates (removing files env (nameOf crates thread part) stage after).1 thread part →
      after.Meets crates wrap stage
        (removing files env (nameOf crates thread part) stage after).1 thread) :
    Lands crates wrap stage thread
      (removing files env (nameOf crates thread part) stage after) := by
  constructor
  · apply coherent.within (removing_within plain)
    exact fun metadata => .inl ((removing_has plain apart).2 metadata)
  · rcases @removing_cases files env (nameOf crates thread part) σ stage after
      with more | ⟨last, gone⟩ | failed
    · rw [more]
      exact again
    · rw [last]
      exact ended (not_has.2 gone)
    · rw [failed]
      trivial

theorem attempted_lands {result : Option Files} (coherent : Coherent crates files thread)
    (happens : ∀ left, result = some left →
      Coherent crates left thread ∧ after.Meets crates wrap stage left thread) :
    Lands crates wrap stage thread (attempted files result after) := by
  rcases @attempted_cases files σ result after with ⟨left, found, same⟩ | same
  · rw [same]
    exact happens left found
  · rw [same]
    exact ⟨coherent, trivial⟩

theorem renameDir_typed (plain : Plain crates) (coherent : Coherent crates files thread)
    {source target : Part} (apart : source ≠ target) (directory : target.isDir = true)
    (renamed : files.renameDir (nameOf crates thread source) (nameOf crates thread target)
      = some next) (node : Node Name)
    (found : next.get? (nameOf crates thread part) = some node) : node.isDir = part.isDir := by
  by_cases first : part = source
  · subst first
    cases (Entries.renameDir_source renamed (nameOf_ne plain apart)).symm.trans found
  · by_cases second : part = target
    · subst second
      obtain ⟨inside, there⟩ := Entries.renameDir_target renamed
      cases there.symm.trans found
      exact directory.symm
    · rw [Entries.renameDir_others renamed (nameOf_ne plain first)
        (nameOf_ne plain second)] at found
      exact coherent.typed part node found

theorem renameDir_has (plain : Plain crates) {source target : Part} (first : part ≠ source)
    (second : part ≠ target)
    (renamed : files.renameDir (nameOf crates thread source) (nameOf crates thread target)
      = some next) : Has crates next thread part ↔ Has crates files thread part :=
  has_congr (Entries.renameDir_others renamed (nameOf_ne plain first) (nameOf_ne plain second))

theorem renameDir_gone (plain : Plain crates) {source target : Part} (apart : source ≠ target)
    (renamed : files.renameDir (nameOf crates thread source) (nameOf crates thread target)
      = some next) : ¬Has crates next thread source :=
  not_has.2 (Entries.renameDir_source renamed (nameOf_ne plain apart))

/-- The deletion of a thread takes its parts away in an order that keeps them coherent. -/
theorem deleteStep_lands (plain : Plain crates) {stage : DeleteStage}
    (coherent : Coherent crates files thread)
    (knows : (Task.deleting stage).Knows crates files thread) :
    Lands crates .deleting stage thread (deleteStep crates files thread env stage) := by
  cases stage with
  | checking =>
    refine ⟨coherent, ?_⟩
    unfold deleteStep Outcome.Meets
    dsimp only
    split
    · trivial
    · next absent => exact fun dir => absent ((has_isDir coherent rfl).2 dir)
  | clearing =>
    apply removing_lands plain coherent (by decide)
    · trivial
    · exact fun _ => trivial
  | moving =>
    apply attempted_lands coherent
    intro left renamed
    have gone := renameDir_gone plain (by decide) renamed
    refine ⟨⟨fun part => renameDir_typed plain coherent (by decide) rfl renamed, ?_, ?_⟩, gone⟩
    · rw [renameDir_has plain (by decide) (by decide) renamed,
        renameDir_has plain (by decide) (by decide) renamed]
      exact coherent.recorded
    · intro staging
      rw [renameDir_has plain (by decide) (by decide) renamed] at staging
      refine ⟨?_, gone⟩
      rw [renameDir_has plain (by decide) (by decide) renamed]
      exact (coherent.staged staging).1
  | staging =>
    have dir : ¬Has crates (deleteStep crates files thread env .staging).1 thread .dir :=
      (removing_has plain (by decide)).not.2 knows
    apply removing_lands plain coherent (by decide)
    · exact dir
    · exact fun gone => ⟨dir, gone⟩
  | history =>
    obtain ⟨dir, staging⟩ := knows
    apply attempted_lands coherent
    intro left removed
    have shrunk := removeFile_within plain removed
    refine ⟨coherent.within shrunk ?_, mt shrunk.has dir, mt shrunk.has staging,
      not_has.2 (Entries.removeFile_gone removed)⟩
    intro metadata
    rw [has_congr (Entries.removeFile_others removed (nameOf_ne plain (by decide)))]
    exact .inl metadata
  | metadata =>
    obtain ⟨dir, staging, history⟩ := knows
    apply attempted_lands coherent
    intro left removed
    have shrunk := removeFile_within plain removed
    refine ⟨coherent.within shrunk ?_, mt shrunk.has dir, mt shrunk.has staging,
      mt shrunk.has history, not_has.2 (Entries.removeFile_gone removed)⟩
    exact fun _ => .inr ⟨mt shrunk.has history, mt shrunk.has staging⟩
  | removing =>
    obtain ⟨dir, staging, history, metadata⟩ := knows
    have shrunk : Within crates thread files (deleteStep crates files thread env .removing).1 :=
      removing_within plain
    have rest := And.intro (mt shrunk.has dir) (And.intro (mt shrunk.has staging)
      (And.intro (mt shrunk.has history) (mt shrunk.has metadata)))
    apply removing_lands plain coherent (by decide)
    · exact rest
    · intro gone part
      cases part with
      | dir => exact rest.1
      | migratingDir => exact rest.2.1
      | deletingDir => exact gone
      | flatHistory => exact rest.2.2.1
      | flatMetadata => exact rest.2.2.2

theorem hasOriginals_metadata (coherent : Coherent crates files thread)
    (originals : hasOriginals crates files thread = true) :
    Has crates files thread .flatMetadata := by
  unfold hasOriginals at originals
  rcases Bool.or_eq_true _ _ ▸ originals with metadata | history
  · exact Option.isSome_iff_exists.1 metadata
  · exact coherent.recorded (Option.isSome_iff_exists.1 history)

theorem plannedOutcome_meets (coherent : Coherent crates files thread) :
    (plannedOutcome crates files thread).Meets crates .migrating .planning files thread := by
  unfold plannedOutcome
  split
  · next dir originals =>
    intro staging
    exact (coherent.staged staging).2 ((has_isDir coherent rfl).1 dir)
  · trivial
  · next dir originals =>
    refine ⟨?_, hasOriginals_metadata coherent originals⟩
    intro there
    cases dir.symm.trans ((has_isDir coherent rfl).2 there)
  · trivial

theorem createDir_typed (plain : Plain crates) (coherent : Coherent crates files thread)
    {target : Part} (directory : target.isDir = true)
    (created : files.createDir (nameOf crates thread target) = some next) (node : Node Name)
    (found : next.get? (nameOf crates thread part) = some node) : node.isDir = part.isDir := by
  by_cases same : part = target
  · subst same
    obtain ⟨inside, there⟩ := Entries.createDir_self created
    cases there.symm.trans found
    exact directory.symm
  · rw [Entries.createDir_others created (nameOf_ne plain same)] at found
    exact coherent.typed part node found

theorem moveInto_within {source target : Name} {file : Name}
    (moved : Entries.moveInto files source target file = some next) :
    Within crates thread files next :=
  fun _ _ found => Entries.moveInto_left moved found

/-- The migration of a thread keeps its parts coherent too. -/
theorem migrateStep_lands (plain : Plain crates) {stage : MigrateStage}
    (coherent : Coherent crates files thread)
    (knows : (Task.migrating stage).Knows crates files thread) :
    Lands crates .migrating stage thread (migrateStep crates files thread env stage) := by
  cases stage with
  | planning => exact ⟨coherent, plannedOutcome_meets coherent⟩
  | reading => exact ⟨coherent, knows⟩
  | discarding =>
    dsimp only [migrateStep]
    split
    · obtain ⟨dir, metadata⟩ := knows
      apply removing_lands plain coherent (by decide)
      · exact ⟨(removing_has plain (by decide)).not.2 dir,
          (removing_has plain (by decide)).2 metadata⟩
      · exact fun _ => ⟨(removing_has plain (by decide)).not.2 dir,
          (removing_has plain (by decide)).2 metadata⟩
    · exact ⟨coherent, knows⟩
  | creating =>
    obtain ⟨dir, metadata⟩ := knows
    apply attempted_lands coherent
    intro left created
    have others : ∀ part, part ≠ .migratingDir →
        (Has crates left thread part ↔ Has crates files thread part) :=
      fun part apart => has_congr (Entries.createDir_others created (nameOf_ne plain apart))
    have kept := And.intro ((others .dir (by decide)).not.2 dir)
      ((others .flatMetadata (by decide)).2 metadata)
    refine ⟨⟨fun part => createDir_typed plain coherent rfl created, ?_, ?_⟩, kept⟩
    · exact fun _ => kept.2
    · exact fun _ => ⟨kept.2, kept.1⟩
  | writing =>
    obtain ⟨dir, metadata⟩ := knows
    dsimp only [migrateStep]
    split
    · apply attempted_lands coherent
      intro left written
      have shrunk := write_within plain written
      have kept := (has_congr (Entries.write_others written
        (nameOf_ne plain (by decide : Part.flatMetadata ≠ .migratingDir)))).2 metadata
      exact ⟨coherent.within shrunk fun _ => .inl kept, mt shrunk.has dir, kept⟩
    · exact ⟨coherent, trivial⟩
  | verifying => exact ⟨coherent, trivial⟩
  | committing =>
    apply attempted_lands coherent
    intro left renamed
    have gone := renameDir_gone plain (by decide) renamed
    refine ⟨⟨fun part => renameDir_typed plain coherent (by decide) rfl renamed, ?_, ?_⟩, gone⟩
    · rw [renameDir_has plain (by decide) (by decide) renamed,
        renameDir_has plain (by decide) (by decide) renamed]
      exact coherent.recorded
    · exact fun staging => absurd staging gone
  | relocating =>
    dsimp only [migrateStep]
    split
    · apply attempted_lands coherent
      intro left written
      have shrunk := write_within plain written
      refine ⟨coherent.within shrunk fun metadata => .inl ?_, mt shrunk.has knows⟩
      exact (has_congr (Entries.write_others written (nameOf_ne plain (by decide)))).2 metadata
    · exact ⟨coherent, trivial⟩
  | movingHistory =>
    apply attempted_lands coherent
    intro left moved
    have shrunk : Within crates thread files left := moveInto_within moved
    refine ⟨coherent.within shrunk fun metadata => .inl ?_, mt shrunk.has knows,
      not_has.2 (Entries.moveInto_source moved (nameOf_ne plain (by decide)))⟩
    exact (has_congr (Entries.moveInto_others moved (nameOf_ne plain (by decide))
      (nameOf_ne plain (by decide)))).2 metadata
  | movingMetadata =>
    obtain ⟨staging, history⟩ := knows
    apply attempted_lands coherent
    intro left moved
    have shrunk : Within crates thread files left := moveInto_within moved
    exact ⟨coherent.within shrunk fun _ => .inr ⟨mt shrunk.has history, mt shrunk.has staging⟩,
      trivial⟩

theorem Outcome.meets_map (outcome : Outcome σ) :
    (outcome.map wrap).Meets crates id (wrap stage) files thread
      ↔ outcome.Meets crates wrap stage files thread := by
  cases outcome <;> rfl

theorem taskStep_lands (plain : Plain crates) {task : Task}
    (coherent : Coherent crates files thread) (knows : task.Knows crates files thread) :
    Lands crates id task thread (taskStep crates files thread env task) := by
  cases task with
  | deleting stage =>
    dsimp only [taskStep]
    split
    · exact ⟨coherent, trivial⟩
    · obtain ⟨after, outcome⟩ := @deleteStep_lands _ files thread env plain stage coherent knows
      exact ⟨after, (Outcome.meets_map _).2 outcome⟩
  | migrating stage =>
    dsimp only [taskStep]
    split
    · exact ⟨coherent, trivial⟩
    · obtain ⟨after, outcome⟩ := @migrateStep_lands _ files thread env plain stage coherent knows
      exact ⟨after, (Outcome.meets_map _).2 outcome⟩

/-! ## What a step leaves alone -/

theorem attempted_others {result : Option Files} {name : Name}
    (kept : ∀ left, result = some left → left.get? name = files.get? name) :
    (attempted files result after).1.get? name = files.get? name := by
  rcases @attempted_cases files σ result after with ⟨left, found, same⟩ | same
  · rw [same]
    exact kept left found
  · rw [same]

theorem deleteStep_others {stage : DeleteStage} (apart : ∀ part, name ≠ nameOf crates thread part) :
    (deleteStep crates files thread env stage).1.get? name = files.get? name := by
  cases stage with
  | checking => rfl
  | clearing => exact removing_others (apart _)
  | moving =>
    exact attempted_others fun _ renamed => Entries.renameDir_others renamed (apart _) (apart _)
  | staging => exact removing_others (apart _)
  | history => exact attempted_others fun _ removed => Entries.removeFile_others removed (apart _)
  | metadata => exact attempted_others fun _ removed => Entries.removeFile_others removed (apart _)
  | removing => exact removing_others (apart _)

theorem migrateStep_others {stage : MigrateStage}
    (apart : ∀ part, name ≠ nameOf crates thread part) :
    (migrateStep crates files thread env stage).1.get? name = files.get? name := by
  cases stage with
  | planning => rfl
  | reading => rfl
  | discarding =>
    dsimp only [migrateStep]
    split
    · exact removing_others (apart _)
    · rfl
  | creating =>
    exact attempted_others fun _ created => Entries.createDir_others created (apart _)
  | writing =>
    dsimp only [migrateStep]
    split
    · exact attempted_others fun _ written => Entries.write_others written (apart _)
    · rfl
  | verifying => rfl
  | committing =>
    exact attempted_others fun _ renamed => Entries.renameDir_others renamed (apart _) (apart _)
  | relocating =>
    dsimp only [migrateStep]
    split
    · exact attempted_others fun _ written => Entries.write_others written (apart _)
    · rfl
  | movingHistory =>
    exact attempted_others fun _ moved => Entries.moveInto_others moved (apart _) (apart _)
  | movingMetadata =>
    exact attempted_others fun _ moved => Entries.moveInto_others moved (apart _) (apart _)

theorem taskStep_others {task : Task} (apart : ∀ part, name ≠ nameOf crates thread part) :
    (taskStep crates files thread env task).1.get? name = files.get? name := by
  cases task with
  | deleting stage =>
    dsimp only [taskStep]
    split
    · rfl
    · exact deleteStep_others apart
  | migrating stage =>
    dsimp only [taskStep]
    split
    · rfl
    · exact migrateStep_others apart

theorem taskStep_agree (plain : Plain crates) {task : Task} (apart : other ≠ thread) :
    Agree crates other files (taskStep crates files thread env task).1 :=
  fun _ => taskStep_others fun _ names => apart (nameOf_inj plain names).1

/-! ## What the sweep removes -/

theorem suffix_of_plain {stem tail ending : Name} (plain : '.' ∉ stem)
    (ends : '.' :: ending <:+ stem ++ tail) : '.' :: ending <:+ tail := by
  rcases List.suffix_or_suffix_of_suffix ends (List.suffix_append stem tail)
    with inside | ⟨rest, same⟩
  · exact inside
  · obtain ⟨front, whole⟩ := ends
    rw [← same, ← List.append_assoc] at whole
    have stems := List.append_cancel_right whole
    cases rest with
    | nil =>
      rw [← same]
      exact List.suffix_refl _
    | cons first rest =>
      cases same
      exact absurd (stems ▸ List.mem_append_right front List.mem_cons_self) plain

theorem stripSuffix_suffix {suffix name stem : Name}
    (stripped : stripSuffix suffix name = some stem) : suffix <:+ name := by
  unfold stripSuffix at stripped
  split at stripped
  · next ends => exact ends
  · cases stripped

theorem sweeps_part (plain : Plain crates)
    (removes : sweeps crates files (nameOf crates thread part) = true) : part = .deletingDir := by
  unfold sweeps at removes
  have found := (Bool.and_eq_true _ _ ▸ removes).1
  obtain ⟨swept, bound⟩ := Option.isSome_iff_exists.1 found
  obtain ⟨stem, stripped, -⟩ := Option.bind_eq_some_iff.1 bound
  have ends := suffix_of_plain (plain thread.ulid) (stripSuffix_suffix stripped)
  revert ends
  cases part <;> decide

theorem sweeps_deletingDir (coherent : Coherent crates files thread)
    (there : Has crates files thread .deletingDir) :
    sweeps crates files (nameOf crates thread .deletingDir) = true := by
  unfold sweeps
  rw [(has_isDir coherent rfl).2 there, Bool.and_true]
  unfold nameOf
  rw [stripSuffix_append, Option.bind_some, parseThread_print]
  rfl

/-! ## The store -/

/-- Every thread's files are coherent, every operation knows its stage, and the sweep has every
deleting directory before it. -/
structure Sound (crates : Crates) (store : Store) : Prop where
  coherent : ∀ thread, Coherent crates store.files thread
  known : ∀ thread task, store.running.get? thread = some task →
    task.Knows crates store.files thread
  sweeping : ∀ left, store.sweep = some left → (∀ thread, store.running.get? thread = none) ∧
    ∀ thread, Has crates store.files thread .deletingDir →
      nameOf crates thread .deletingDir ∈ left

variable {store : Store}

theorem sound_begin (sound : Sound crates store) {task : Task}
    (knows : task.Knows crates store.files thread) :
    Sound crates (store.begin thread task) := by
  unfold Store.begin
  split
  · exact sound
  · next free =>
    refine ⟨sound.coherent, ?_, ?_⟩
    · intro other running found
      rw [IndexMap.get?_insert] at found
      split at found
      · next same =>
        cases found
        exact same ▸ knows
      · exact sound.known other running found
    · intro left sweep
      cases free (by rw [Bool.or_eq_true]; exact .inl (Option.isSome_iff_exists.2 ⟨left, sweep⟩))

/-- A step of an operation on a thread leaves the other operations what they know. -/
theorem sound_advance (plain : Plain crates) (sound : Sound crates store) :
    Sound crates (store.advance crates thread env) := by
  unfold Store.advance
  split
  · exact sound
  · next task running =>
    have knows := sound.known thread task running
    obtain ⟨here, outcome⟩ :=
      @taskStep_lands _ store.files thread env plain task (sound.coherent thread) knows
    have agree : ∀ other, other ≠ thread →
        Agree crates other store.files (taskStep crates store.files thread env task).1 :=
      fun other apart => taskStep_agree plain apart
    have coherent : ∀ other,
        Coherent crates (taskStep crates store.files thread env task).1 other := by
      intro other
      by_cases same : other = thread
      · exact same ▸ here
      · exact (sound.coherent other).of_agree (agree other same)
    have idle : ∀ left, store.sweep ≠ some left := by
      intro left sweep
      cases ((sound.sweeping left sweep).1 thread).symm.trans running
    split
    · next files after same =>
      rw [same] at outcome agree coherent
      refine ⟨coherent, ?_, fun left sweep => absurd sweep (idle left)⟩
      intro other next found
      rw [IndexMap.get?_insert] at found
      split at found
      · next there =>
        cases found
        exact there ▸ outcome
      · next apart => exact (sound.known other next found).of_agree (agree other apart)
    · next files ended goesOn same =>
      rw [same] at agree coherent
      refine ⟨coherent, ?_, fun left sweep => absurd sweep (idle left)⟩
      intro other next found
      rw [IndexMap.get?_shiftRemove] at found
      split at found
      · cases found
      · next apart => exact (sound.known other next found).of_agree (agree other apart)

theorem coherent_swept (plain : Plain crates) (coherent : Coherent crates files thread)
    (removes : sweeps crates files name = true) {pick : ℕ} :
    Coherent crates (files.removeAll name pick).1 thread := by
  apply coherent.within
  · intro part node found
    by_cases same : nameOf crates thread part = name
    · rw [same] at found ⊢
      exact Entries.removeAll_left found
    · rw [Entries.removeAll_others same] at found
      exact ⟨node, found, rfl⟩
  · rintro ⟨node, found⟩
    refine .inl ⟨node, ?_⟩
    rw [Entries.removeAll_others, found]
    rintro rfl
    cases sweeps_part plain removes

theorem removeAll_has {pick : ℕ} (there : Has crates (files.removeAll name pick).1 thread part) :
    Has crates files thread part := by
  obtain ⟨node, found⟩ := there
  by_cases same : nameOf crates thread part = name
  · rw [same] at found
    obtain ⟨old, before, -⟩ := Entries.removeAll_left found
    exact ⟨old, same ▸ before⟩
  · rw [Entries.removeAll_others same] at found
    exact ⟨node, found⟩

theorem sound_sweepOn (plain : Plain crates) (sound : Sound crates store) :
    Sound crates (store.sweepOn crates env) := by
  unfold Store.sweepOn
  split
  · exact sound
  · exact ⟨sound.coherent, sound.known, fun left ended => by cases ended⟩
  · next name left sweep =>
    obtain ⟨idle, inside⟩ := sound.sweeping _ sweep
    have known (files : Files) : ∀ thread task, store.running.get? thread = some task →
        task.Knows crates files thread := by
      intro thread task running
      cases (idle thread).symm.trans running
    split
    · next removes =>
      have coherent : ∀ thread, Coherent crates (store.files.removeAll name env.pick).1 thread :=
        fun thread => coherent_swept plain (sound.coherent thread) removes
      split
      · exact ⟨sound.coherent, sound.known, fun left ended => by cases ended⟩
      · split
        · next files same =>
          have shrunk := fun thread =>
            @removeAll_has crates store.files thread .deletingDir name env.pick
          rw [same] at coherent shrunk
          refine ⟨coherent, known files, ?_⟩
          intro rest remains
          cases sweep.symm.trans remains
          exact ⟨idle, fun thread there => inside thread (shrunk thread there)⟩
        · next files same =>
          have shrunk := fun thread =>
            @removeAll_has crates store.files thread .deletingDir name env.pick
          have gone := @Entries.removeAll_gone _ _ _ store.files name env.pick
          rw [same] at coherent shrunk gone
          refine ⟨coherent, known files, ?_⟩
          rintro rest ⟨⟩
          refine ⟨idle, fun thread there => ?_⟩
          rcases List.mem_cons.1 (inside thread (shrunk thread there)) with here | later
          · obtain ⟨node, found⟩ := there
            rw [here, gone rfl] at found
            cases found
          · exact later
        · next files same =>
          rw [same] at coherent
          exact ⟨coherent, known files, fun left ended => by cases ended⟩
    · next passes =>
      refine ⟨sound.coherent, sound.known, ?_⟩
      rintro rest ⟨⟩
      refine ⟨idle, fun thread there => ?_⟩
      rcases List.mem_cons.1 (inside thread there) with here | later
      · exact absurd (here ▸ sweeps_deletingDir (sound.coherent thread) there) passes
      · exact later

theorem sound_step (plain : Plain crates) (sound : Sound crates store) (choice : Choice) :
    Sound crates (store.step crates choice) := by
  cases choice with
  | delete thread => exact sound_begin sound trivial
  | migrate thread => exact sound_begin sound trivial
  | advance thread env => exact sound_advance plain sound
  | crash =>
    refine ⟨sound.coherent, ?_, fun left ended => by cases ended⟩
    intro thread task found
    cases found
  | beginSweep =>
    dsimp only [Store.step]
    split
    · next idle =>
      refine ⟨sound.coherent, sound.known, ?_⟩
      rintro left ⟨⟩
      refine ⟨fun thread => ?_, fun thread there => IndexMap.mem_keys_iff.2 there⟩
      rw [IndexMap.get?_eq_none]
      unfold IndexMap.keys
      rw [idle]
      exact List.not_mem_nil
    · exact sound
  | sweepOn env => exact sound_sweepOn plain sound

theorem sound_run (plain : Plain crates) (sound : Sound crates store) (choices : List Choice) :
    Sound crates (run (Store.step crates) store choices) :=
  run_preserves sound (fun _ choice kept => sound_step plain kept choice) choices

/-! ## Interrupted deletions -/

/-- The threads of a directory are of one layout each: a directory, or metadata with or without a
history. -/
structure Pristine (crates : Crates) (files : Files) : Prop where
  typed : ∀ thread part node, files.get? (nameOf crates thread part) = some node →
    node.isDir = part.isDir
  layout : ∀ thread, (∀ part, Has crates files thread part → part = .dir)
    ∨ Has crates files thread .flatMetadata ∧
      ∀ part, Has crates files thread part → part = .flatMetadata ∨ part = .flatHistory

def Store.starting (files : Files) : Store := ⟨files, IndexMap.empty, none⟩

theorem Pristine.sound (pristine : Pristine crates files) :
    Sound crates (Store.starting files) := by
  refine ⟨fun thread => ?_, (fun _ _ found => by cases found), (fun _ ended => by cases ended)⟩
  refine ⟨pristine.typed thread, ?_, ?_⟩
  · intro history
    rcases pristine.layout thread with directory | ⟨metadata, -⟩
    · cases directory _ history
    · exact metadata
  · intro staging
    rcases pristine.layout thread with directory | ⟨-, flat⟩
    · cases directory _ staging
    · rcases flat _ staging with same | same <;> cases same

/-- What can be said of the files of threads after any run. -/
structure Recoverable (crates : Crates) (store : Store) : Prop where
  /-- A thread is listed, or has nothing left but what its deletion renamed. -/
  visible : ∀ thread, thread ∈ listThreads crates store.files ∨
    ∀ part, Has crates store.files thread part → part = .deletingDir
  /-- The step that completes a deletion leaves nothing of its thread. -/
  deleted : ∀ thread stage env, store.running.get? thread = some (.deleting stage) →
    (taskStep crates store.files thread env (.deleting stage)).2 = .finished →
    ∀ part, ¬Has crates (store.advance crates thread env).files thread part
  /-- A sweep that has passed all entries leaves nothing of a thread that is not listed. -/
  swept : store.sweep = some [] → ∀ thread, thread ∉ listThreads crates store.files →
    ∀ part, ¬Has crates store.files thread part
  /-- A step of an operation touches only the names of its thread. -/
  own : ∀ thread env name, (∀ part, name ≠ nameOf crates thread part) →
    (store.advance crates thread env).files.get? name = store.files.get? name
  /-- So it touches nothing of another thread. -/
  others : ∀ thread env other part, other ≠ thread →
    (store.advance crates thread env).files.get? (nameOf crates other part)
      = store.files.get? (nameOf crates other part)
  /-- A step of the sweep touches only what deletions renamed. -/
  leftovers : ∀ env thread part, part ≠ .deletingDir →
    (store.sweepOn crates env).files.get? (nameOf crates thread part)
      = store.files.get? (nameOf crates thread part)

theorem advance_others (apart : ∀ part, name ≠ nameOf crates thread part) :
    (store.advance crates thread env).files.get? name = store.files.get? name := by
  unfold Store.advance
  split
  · rfl
  · next task running =>
    have others := @taskStep_others crates store.files thread env name task apart
    split
    · next files after same => rwa [same] at others
    · next files ended goesOn same => rwa [same] at others

theorem sweepOn_others (plain : Plain crates) (apart : part ≠ .deletingDir) :
    (store.sweepOn crates env).files.get? (nameOf crates thread part)
      = store.files.get? (nameOf crates thread part) := by
  unfold Store.sweepOn
  split
  · rfl
  · rfl
  · next name left sweep =>
    split
    · next removes =>
      have names : nameOf crates thread part ≠ name := by
        rintro rfl
        exact apart (sweeps_part plain removes)
      have others := @Entries.removeAll_others _ _ _ store.files name _ env.pick names
      split
      · rfl
      · split
        · next files same => rwa [same] at others
        · next files same => rwa [same] at others
        · next files same => rwa [same] at others
    · rfl

theorem sound_deleted (plain : Plain crates) (sound : Sound crates store) {stage : DeleteStage}
    (running : store.running.get? thread = some (.deleting stage))
    (finished : (taskStep crates store.files thread env (.deleting stage)).2 = .finished)
    (part : Part) : ¬Has crates (store.advance crates thread env).files thread part := by
  have lands := @taskStep_lands _ store.files thread env plain _ (sound.coherent thread)
    (sound.known thread _ running)
  have left := lands.2
  rw [finished] at left
  unfold Store.advance
  rw [running]
  dsimp only
  split
  · next files after same =>
    rw [same] at finished
    cases finished
  · next files ended goesOn same =>
    rw [same] at left
    exact left part

theorem Sound.recoverable (plain : Plain crates) (sound : Sound crates store) :
    Recoverable crates store where
  visible thread := by
    by_cases shows : thread ∈ listThreads crates store.files
    · exact .inl shows
    · exact .inr ((sound.coherent thread).unlisted shows)
  deleted _ _ _ running finished := sound_deleted plain sound running finished
  swept ended thread hidden part there := by
    cases (sound.coherent thread).unlisted hidden part there
    exact absurd ((sound.sweeping [] ended).2 thread there) List.not_mem_nil
  own _ _ _ apart := advance_others apart
  others _ _ _ _ apart := advance_others fun _ names => apart (nameOf_inj plain names).1
  leftovers _ _ _ apart := sweepOn_others plain apart

/-- Whatever deletions and migrations ran, failed or were cut off, and wherever sweeps stopped, a
thread is listed or has nothing but what a sweep removes; a deletion that completes leaves nothing
of its thread, and neither touches what is another thread's. -/
theorem interrupted_deletions_leave_nothing (plain : Plain crates)
    (pristine : Pristine crates files) (choices : List Choice) :
    Recoverable crates (run (Store.step crates) (Store.starting files) choices) :=
  (sound_run plain pristine.sound choices).recoverable plain

/-! ## A deletion cut off after its rename -/

theorem base32Digit_ne_dot (n : Fin 32) : Foundation.base32Digit n ≠ '.' := by
  revert n
  decide

theorem base32_no_dot (width n : ℕ) : '.' ∉ Foundation.base32 width n := by
  induction width generalizing n with
  | zero => exact List.not_mem_nil
  | succ width ih =>
    unfold Foundation.base32
    rw [List.mem_append, List.mem_singleton]
    rintro (inside | last)
    · exact ih _ inside
    · exact base32Digit_ne_dot _ last.symm

theorem plain_reference : Plain Crates.reference := by
  intro ulid
  change '.' ∉ (String.ofList (Foundation.base32 26 ulid.bits.toNat)).toList
  rw [String.toList_ofList]
  exact base32_no_dot _ _

def sampleThread : ThreadId := ⟨⟨1⟩⟩

/-- A thread of the older layout, with its history. -/
noncomputable def sampleFiles : Files :=
  (IndexMap.empty.insert (nameOf Crates.reference sampleThread .flatHistory) .file).insert
    (nameOf Crates.reference sampleThread .flatMetadata) .file

theorem sampleFiles_get? {name : Name} {node : Node Name}
    (found : sampleFiles.get? name = some node) : node = .file ∧
      (name = nameOf Crates.reference sampleThread .flatMetadata
        ∨ name = nameOf Crates.reference sampleThread .flatHistory) := by
  unfold sampleFiles at found
  rw [IndexMap.get?_insert, IndexMap.get?_insert] at found
  split at found
  · next same =>
    cases found
    exact ⟨rfl, .inl same⟩
  · split at found
    · next same =>
      cases found
      exact ⟨rfl, .inr same⟩
    · cases found

theorem sampleFiles_pristine : Pristine Crates.reference sampleFiles := by
  refine ⟨?_, fun thread => ?_⟩
  · intro thread part node found
    obtain ⟨rfl, same | same⟩ := sampleFiles_get? found
    · rw [(nameOf_inj plain_reference same).2]
      rfl
    · rw [(nameOf_inj plain_reference same).2]
      rfl
  · by_cases same : thread = sampleThread
    · subst same
      refine .inr ⟨⟨.file, ?_⟩, ?_⟩
      · unfold sampleFiles
        rw [IndexMap.get?_insert, if_pos rfl]
      · rintro part ⟨node, found⟩
        obtain ⟨-, names | names⟩ := sampleFiles_get? found
        · exact .inl (nameOf_inj plain_reference names).2
        · exact .inr (nameOf_inj plain_reference names).2
    · refine .inl ?_
      rintro part ⟨node, found⟩
      obtain ⟨-, names | names⟩ := sampleFiles_get? found
      · exact absurd (nameOf_inj plain_reference names).1 same
      · exact absurd (nameOf_inj plain_reference names).1 same

/-- The history is unlinked, and the process dies before the metadata is. -/
def sampleChoices : List Choice :=
  let env : FsEnv := ⟨false, 0, none⟩
  [.delete sampleThread, .advance sampleThread env, .advance sampleThread env,
    .advance sampleThread env, .crash, .beginSweep, .sweepOn env]

theorem interrupted_deletions_leave_nothing_sample :
    Recoverable Crates.reference
      (run (Store.step Crates.reference) (Store.starting sampleFiles) sampleChoices) :=
  interrupted_deletions_leave_nothing plain_reference sampleFiles_pristine sampleChoices

end Giskard.ThreadRemoval
