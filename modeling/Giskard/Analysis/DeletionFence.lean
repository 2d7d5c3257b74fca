import Mathlib
import Giskard.Foundation.Schedule
import Giskard.Model.DeletionService

/-!
# The fence follows the running deletions

What the two maps of the service say is one thing: which roots have claimed which threads. A
claim is made by a reservation, widened by the start of the cascade, and given up by the last
operation of the guard that holds it. `Fits` relates the maps to the claims, and each operation is
one of four steps on them: `Fits.claim`, `Fits.enter`, `Fits.release` and `Fits.touch`.

Every thread belongs to one project, and a reservation claims threads of its own project only.
-/

set_option autoImplicit false

namespace Giskard.Deletions

open Foundation (IndexMap)
open Foundation.Schedule (Meets run_invariant)

/-- Which threads each root has claimed. -/
abbrev Claims : Type := ThreadId → Option (List ThreadId)

variable {owner : ThreadId → ProjectId} {jobs : Jobs} {claims : Claims} {root : ThreadId}

/-! ## Maps and claims -/

/-- A record that is running. -/
def Jobs.Running (byRoot : IndexMap ThreadId DeletionJob) (root : ThreadId) : Prop :=
  ∃ job, byRoot.get? root = some job ∧ job.isRunning = true

/-- The two maps say what has been claimed: the records of the claiming roots are running, and
the fence stands around the threads of their claims. A project has one claim at most. -/
structure Fits (owner : ThreadId → ProjectId) (jobs : Jobs) (claims : Claims) : Prop where
  project : ∀ root job, jobs.byRoot.get? root = some job → job.progress.projectId = owner root
  running : ∀ root, Jobs.Running jobs.byRoot root ↔ (claims root).isSome = true
  fence : ∀ thread root, jobs.members.get? thread = some root ↔
    ∃ threads, claims root = some threads ∧ thread ∈ threads
  owned : ∀ root threads, claims root = some threads →
    ∀ thread ∈ threads, owner thread = owner root
  single : ∀ first second, (claims first).isSome = true → (claims second).isSome = true →
    owner first = owner second → first = second

theorem Fits.new : Fits owner ThreadDeletionService.new.jobs fun _ => none where
  project _ _ found := by cases found
  running root := by
    constructor
    · rintro ⟨_, found, _⟩
      cases found
    · intro claimed
      cases claimed
  fence thread root := by
    constructor
    · intro found
      cases found
    · rintro ⟨_, found, _⟩
      cases found
  owned _ _ found := by cases found
  single _ _ claimed := by cases claimed

/-- A project whose roots have claimed nothing gets its first claim, without a thread yet. -/
theorem Fits.claim (fits : Fits owner jobs claims)
    (free : ∀ other, owner other = owner root → claims other = none) {job : DeletionJob}
    (running : job.isRunning = true) (project : job.progress.projectId = owner root) :
    Fits owner { jobs with byRoot := jobs.byRoot.insert root job }
      (Function.update claims root (some [])) where
  project other record found := by
    rw [IndexMap.get?_insert] at found
    split at found
    · next same =>
      cases found
      rw [project, same]
    · exact fits.project other record found
  running other := by
    by_cases same : other = root
    · subst same
      rw [Function.update_self]
      exact ⟨fun _ => rfl, fun _ => ⟨job, IndexMap.get?_insert_self _ _ _, running⟩⟩
    · rw [Function.update_of_ne same, ← fits.running]
      unfold Jobs.Running
      rw [IndexMap.get?_insert_of_ne _ same]
  fence thread other := by
    rw [fits.fence]
    by_cases same : other = root
    · subst same
      rw [Function.update_self, free other rfl]
      simp
    · rw [Function.update_of_ne same]
  owned other threads found thread member := by
    by_cases same : other = root
    · subst same
      rw [Function.update_self, Option.some.injEq] at found
      subst found
      cases member
    · rw [Function.update_of_ne same] at found
      exact fits.owned other threads found thread member
  single first second one two same := by
    by_cases here : first = root
    · by_cases there : second = root
      · rw [here, there]
      · rw [Function.update_of_ne there, free second (by rw [← same, here])] at two
        cases two
    · rw [Function.update_of_ne here] at one
      by_cases there : second = root
      · rw [free first (by rw [same, there])] at one
        cases one
      · rw [Function.update_of_ne there] at two
        exact fits.single first second one two same

theorem get?_enter (threads : List ThreadId) (thread : ThreadId) :
    (jobs.enter root threads).members.get? thread =
      if thread ∈ threads then some root else jobs.members.get? thread := by
  unfold Jobs.enter
  generalize jobs.members = members
  induction threads generalizing members with
  | nil => simp
  | cons first threads ih =>
    rw [List.foldl_cons, ih, IndexMap.get?_insert]
    by_cases later : thread ∈ threads
    · rw [if_pos later, if_pos (List.mem_cons_of_mem _ later)]
    · rw [if_neg later]
      by_cases here : thread = first
      · rw [if_pos here, if_pos (by rw [here]; exact List.mem_cons_self)]
      · rw [if_neg here, if_neg (by simp [here, later])]

/-- A claim is widened by threads of its project. -/
theorem Fits.enter (fits : Fits owner jobs claims) {threads : List ThreadId}
    (claimed : claims root = some threads) {more : List ThreadId}
    (owned : ∀ thread ∈ more, owner thread = owner root) :
    Fits owner (jobs.enter root more) (Function.update claims root (some (threads ++ more))) where
  project := fits.project
  running other := by
    by_cases same : other = root
    · subst same
      rw [Function.update_self]
      exact ⟨fun _ => rfl, fun _ => (fits.running other).2 (by rw [claimed]; rfl)⟩
    · rw [Function.update_of_ne same]
      exact fits.running other
  fence thread other := by
    rw [get?_enter]
    by_cases same : other = root
    · subst same
      rw [Function.update_self]
      by_cases inside : thread ∈ more
      · rw [if_pos inside]
        exact ⟨fun _ => ⟨_, rfl, List.mem_append_right _ inside⟩, fun _ => rfl⟩
      · rw [if_neg inside, fits.fence, claimed]
        simp [inside]
    · rw [Function.update_of_ne same, ← fits.fence]
      by_cases inside : thread ∈ more
      · rw [if_pos inside, Option.some.injEq, fits.fence]
        constructor
        · exact fun eq => absurd eq.symm same
        · rintro ⟨others, found, member⟩
          -- A thread that two roots claim has both for a project, which has one claim.
          have project : owner other = owner root := by
            rw [← fits.owned other others found thread member, owned thread inside]
          exact (fits.single root other (by rw [claimed]; rfl) (by rw [found]; rfl)
            project.symm)
      · rw [if_neg inside]
  owned other others found thread member := by
    by_cases same : other = root
    · subst same
      rw [Function.update_self, Option.some.injEq] at found
      subst found
      rcases List.mem_append.1 member with before | now
      · exact fits.owned other threads claimed thread before
      · exact owned thread now
    · rw [Function.update_of_ne same] at found
      exact fits.owned other others found thread member
  single first second one two same := by
    have known (other : ThreadId)
        (here : (Function.update claims root (some (threads ++ more)) other).isSome = true) :
        (claims other).isSome = true := by
      by_cases eq : other = root
      · rw [eq, claimed]
        rfl
      · rwa [Function.update_of_ne eq] at here
    exact fits.single first second (known first one) (known second two) same

/-- A claim is given up with its fence, and its record is gone or no longer running. -/
theorem Fits.release (fits : Fits owner jobs claims) {byRoot : IndexMap ThreadId DeletionJob}
    (others : ∀ other, other ≠ root → byRoot.get? other = jobs.byRoot.get? other)
    (here : ∀ job, byRoot.get? root = some job →
      job.isRunning = false ∧ job.progress.projectId = owner root) :
    Fits owner { jobs.release root with byRoot := byRoot } (Function.update claims root none) where
  project other job found := by
    by_cases same : other = root
    · subst same
      exact (here job found).2
    · rw [others other same] at found
      exact fits.project other job found
  running other := by
    by_cases same : other = root
    · subst same
      rw [Function.update_self]
      constructor
      · rintro ⟨job, found, running⟩
        rw [(here job found).1] at running
        cases running
      · intro claimed
        cases claimed
    · rw [Function.update_of_ne same, ← fits.running]
      unfold Jobs.Running
      rw [others other same]
  fence thread other := by
    have kept : (jobs.release root).members.get? thread =
        (jobs.members.get? thread).filter fun jobRoot => jobRoot ≠ root :=
      IndexMap.get?_retain _ _ _
    rw [kept, Option.filter_eq_some_iff, fits.fence]
    by_cases same : other = root
    · subst same
      simp
    · rw [Function.update_of_ne same]
      simp [same]
  owned other threads found thread member := by
    by_cases same : other = root
    · subst same
      rw [Function.update_self] at found
      cases found
    · rw [Function.update_of_ne same] at found
      exact fits.owned other threads found thread member
  single first second one two same := by
    have known (other : ThreadId)
        (claimed : (Function.update claims root none other).isSome = true) :
        (claims other).isSome = true := by
      by_cases eq : other = root
      · rw [eq, Function.update_self] at claimed
        cases claimed
      · rwa [Function.update_of_ne eq] at claimed
    exact fits.single first second (known first one) (known second two) same

theorem Fits.touch (fits : Fits owner jobs claims) {byRoot : IndexMap ThreadId DeletionJob}
    (project : ∀ root job, byRoot.get? root = some job → job.progress.projectId = owner root)
    (running : ∀ root, Jobs.Running byRoot root ↔ Jobs.Running jobs.byRoot root) :
    Fits owner { jobs with byRoot := byRoot } claims where
  project := project
  running root := (running root).trans (fits.running root)
  fence := fits.fence
  owned := fits.owned
  single := fits.single

theorem Fits.touchOne (fits : Fits owner jobs claims) {old new : DeletionJob}
    (found : jobs.byRoot.get? root = some old)
    (project : new.progress.projectId = old.progress.projectId)
    (running : new.isRunning = old.isRunning) :
    Fits owner { jobs with byRoot := jobs.byRoot.insert root new } claims := by
  apply fits.touch
  · intro other job present
    rw [IndexMap.get?_insert] at present
    split at present
    · next same =>
      cases present
      rw [project, same]
      exact fits.project root old found
    · exact fits.project other job present
  · intro other
    unfold Jobs.Running
    rw [IndexMap.get?_insert]
    by_cases same : other = root
    · subst same
      rw [if_pos rfl, found]
      simp [running]
    · rw [if_neg same]

/-! ## The service -/

/-- The claims that the guards of a service hold. -/
def ThreadDeletionService.claimed (service : ThreadDeletionService) : Claims := fun root =>
  (service.guards.get? root).map Guard.subtree

/-- Every thread of a request belongs to the project of its root, and a project is forgotten only
when none of its deletions is running. -/
def Orderly (owner : ThreadId → ProjectId) (service : ThreadDeletionService) : DeletionOp → Prop
  | .reserve project root members =>
    owner root = project ∧ ∀ thread ∈ members, owner thread = project
  | .start _ root files => ∀ thread ∈ files, owner thread = owner root
  | .forgetProject project => service.jobs.running? project = none
  | _ => True

variable {service : ThreadDeletionService}

theorem claimed_insert (root : ThreadId) (g : Guard) (jobs : Jobs) :
    ThreadDeletionService.claimed ⟨jobs, service.guards.insert root g⟩ =
      Function.update service.claimed root (some g.subtree) := by
  funext other
  unfold ThreadDeletionService.claimed
  dsimp only
  rw [IndexMap.get?_insert]
  by_cases same : other = root
  · subst same
    rw [if_pos rfl, Function.update_self]
    rfl
  · rw [if_neg same, Function.update_of_ne same]

theorem claimed_shiftRemove (root : ThreadId) (jobs : Jobs) :
    ThreadDeletionService.claimed ⟨jobs, service.guards.shiftRemove root⟩ =
      Function.update service.claimed root none := by
  funext other
  unfold ThreadDeletionService.claimed
  dsimp only
  rw [IndexMap.get?_shiftRemove]
  by_cases same : other = root
  · subst same
    rw [if_pos rfl, Function.update_self]
    rfl
  · rw [if_neg same, Function.update_of_ne same]

theorem claimed_of_holds {kind : GuardKind} (held : service.holds kind root = true) :
    service.claimed root = some (service.subtree root) := by
  unfold ThreadDeletionService.claimed ThreadDeletionService.subtree
  cases found : service.guards.get? root with
  | none =>
    rw [ThreadDeletionService.holds, found] at held
    cases held
  | some g => rfl

theorem Fits.record_of_holds (fits : Fits owner service.jobs service.claimed) {kind : GuardKind}
    (held : service.holds kind root = true) :
    ∃ job, service.jobs.byRoot.get? root = some job ∧ job.isRunning = true :=
  (fits.running root).2 (by rw [claimed_of_holds held]; rfl)

theorem Fits.free_of_running?_none (fits : Fits owner jobs claims) {project : ProjectId}
    (idle : jobs.running? project = none) {other : ThreadId} (owned : owner other = project) :
    claims other = none := by
  by_contra claimed
  obtain ⟨job, found, running⟩ :=
    (fits.running other).2 (Option.isSome_iff_ne_none.2 claimed)
  have all := List.find?_eq_none.1 idle job (IndexMap.mem_values_iff.2 ⟨other, found⟩)
  rw [fits.project other job found, owned, running] at all
  simp at all

theorem Fits.reserve (fits : Fits owner service.jobs service.claimed) {project : ProjectId}
    (idle : service.jobs.running? project = none) (owned : owner root = project)
    {members : List ThreadId} (inside : ∀ thread ∈ members, owner thread = project) :
    Fits owner (service.jobs.reserved project root members)
      (Function.update service.claimed root (some members)) := by
  let job := Jobs.reservedJob project root members.length
  have fresh : Fits owner { service.jobs with byRoot := service.jobs.byRoot.insert root job }
      (Function.update service.claimed root (some [])) :=
    fits.claim (fun other same => fits.free_of_running?_none idle (same.trans owned)) rfl
      owned.symm
  have entered := fresh.enter (Function.update_self root _ _)
    fun thread member => (inside thread member).trans owned.symm
  rw [Function.update_idem, List.nil_append] at entered
  exact entered

theorem Fits.start (fits : Fits owner service.jobs service.claimed) (project : ProjectId)
    {kind : GuardKind} (held : service.holds kind root = true) {files : List ThreadId}
    (inside : ∀ thread ∈ files, owner thread = owner root) :
    Fits owner (service.jobs.started project root files)
      (Function.update service.claimed root (some (service.subtree root ++ files))) := by
  obtain ⟨job, found, running⟩ := fits.record_of_holds held
  have entered := fits.enter (claimed_of_holds held) inside
  have present : (service.jobs.enter root files).byRoot.get? root = some job := found
  unfold Jobs.started
  dsimp only
  rw [present, Option.getD_some]
  exact entered.touchOne present rfl rfl

/-- What a guard's last operation does with the record of its root. -/
def Ended (jobs : Jobs) (root : ThreadId) (after : Jobs) : Prop :=
  ∃ byRoot, after = { jobs.release root with byRoot := byRoot } ∧
    (∀ other, other ≠ root → byRoot.get? other = jobs.byRoot.get? other) ∧
    ∀ job, byRoot.get? root = some job →
      job.isRunning = false ∧
        ∃ old, jobs.byRoot.get? root = some old ∧ job.progress.projectId = old.progress.projectId

theorem Ended.removed (jobs : Jobs) (root : ThreadId) :
    Ended jobs root { jobs.release root with byRoot := jobs.byRoot.shiftRemove root } := by
  refine ⟨_, rfl, fun other apart => ?_, fun job found => ?_⟩
  · rw [IndexMap.get?_shiftRemove, if_neg apart]
  · rw [IndexMap.get?_shiftRemove, if_pos rfl] at found
    cases found

theorem Ended.replaced {old new : DeletionJob} (found : jobs.byRoot.get? root = some old)
    (ended : new.isRunning = false) (project : new.progress.projectId = old.progress.projectId) :
    Ended jobs root { jobs.release root with byRoot := jobs.byRoot.insert root new } := by
  refine ⟨_, rfl, fun other apart => IndexMap.get?_insert_of_ne _ apart _, fun job present => ?_⟩
  rw [IndexMap.get?_insert_self] at present
  cases present
  exact ⟨ended, old, found, project⟩

theorem Ended.absent (none_ : jobs.byRoot.get? root = none) :
    Ended jobs root (jobs.release root) := by
  refine ⟨jobs.byRoot, rfl, fun _ _ => rfl, fun job found => ?_⟩
  rw [none_] at found
  cases found

theorem dropReservation_ended (jobs : Jobs) (root : ThreadId) :
    Ended jobs root (jobs.dropReservation root) := Ended.removed jobs root

theorem dropRun_ended (jobs : Jobs) (root : ThreadId) : Ended jobs root (jobs.dropRun root) := by
  unfold Jobs.dropRun
  dsimp only
  split
  · next none_ => exact .absent none_
  · next job found => exact .replaced found rfl rfl

theorem finish_ended (jobs : Jobs) (root : ThreadId) {state : ThreadDeletionState}
    (ended : state ≠ .running) (deleted : ℕ) (error : Option String) :
    Ended jobs root (jobs.finish root state deleted error) := by
  unfold Jobs.finish
  dsimp only
  split
  · next none_ => exact .absent none_
  · next job found =>
    split
    · exact .removed jobs root
    · exact .replaced found (by simpa [DeletionJob.isRunning] using ended) rfl

theorem Fits.ended (fits : Fits owner jobs claims) {after : Jobs} (ended : Ended jobs root after) :
    Fits owner after (Function.update claims root none) := by
  obtain ⟨byRoot, rfl, others, here⟩ := ended
  apply fits.release others
  intro job found
  obtain ⟨stopped, old, present, project⟩ := here job found
  exact ⟨stopped, project.trans (fits.project root old present)⟩

theorem Fits.cancel (fits : Fits owner jobs claims) (root : ThreadId) :
    Fits owner (jobs.cancel root) claims := by
  unfold Jobs.cancel
  split
  · exact fits
  · next job found =>
    split
    · exact fits.touchOne found rfl rfl
    · exact fits

theorem Fits.publishRunning (fits : Fits owner jobs claims) (root : ThreadId) (deleted : ℕ) :
    Fits owner (jobs.publishRunning root deleted) claims := by
  unfold Jobs.publishRunning
  split
  · exact fits
  · next job found => exact fits.touchOne found rfl rfl

theorem Fits.dismiss (fits : Fits owner jobs claims) (root : ThreadId) :
    Fits owner (jobs.dismiss root) claims := by
  unfold Jobs.dismiss
  split
  · exact fits
  · next job found =>
    split
    · exact fits
    · next stopped =>
      apply fits.touch
      · exact fun other record present =>
          fits.project other record (IndexMap.get?_of_shiftRemove present)
      · intro other
        unfold Jobs.Running
        rw [IndexMap.get?_shiftRemove]
        by_cases same : other = root
        · subst same
          rw [if_pos rfl, found]
          simp [stopped]
        · rw [if_neg same]

/-- Forgetting an idle project leaves every fence standing: the roots behind them are others. -/
theorem Fits.forgetProject (fits : Fits owner jobs claims) {project : ProjectId}
    (idle : jobs.running? project = none) : Fits owner (jobs.forgetProject project) claims := by
  have kept (root : ThreadId) :
      (jobs.forgetProject project).byRoot.get? root =
        (jobs.byRoot.get? root).filter fun job => job.progress.projectId ≠ project :=
    IndexMap.get?_retain _ _ _
  have running (root : ThreadId) :
      Jobs.Running (jobs.forgetProject project).byRoot root ↔ Jobs.Running jobs.byRoot root := by
    unfold Jobs.Running
    rw [kept]
    constructor
    · rintro ⟨job, found, isRunning⟩
      exact ⟨job, (Option.filter_eq_some_iff.1 found).1, isRunning⟩
    · rintro ⟨job, found, isRunning⟩
      refine ⟨job, Option.filter_eq_some_iff.2 ⟨found, ?_⟩, isRunning⟩
      have all := List.find?_eq_none.1 idle job (IndexMap.mem_values_iff.2 ⟨root, found⟩)
      simpa [isRunning] using all
  have members : (jobs.forgetProject project).members = jobs.members := by
    apply IndexMap.ext
    apply List.filter_eq_self.2
    rintro ⟨thread, root⟩ member
    obtain ⟨threads, claimed, _⟩ := (fits.fence thread root).1 (IndexMap.get?_eq_some.2 member)
    obtain ⟨job, found, _⟩ :=
      (running root).2 ((fits.running root).2 (by rw [claimed]; rfl))
    exact decide_eq_true (IndexMap.mem_keys_iff.2 ⟨job, found⟩)
  have projects (root : ThreadId) (job : DeletionJob)
      (found : (jobs.forgetProject project).byRoot.get? root = some job) :
      job.progress.projectId = owner root := by
    rw [kept] at found
    exact fits.project root job (Option.filter_eq_some_iff.1 found).1
  have touched := fits.touch projects running
  rw [← members] at touched
  exact touched

/-- One operation keeps the maps and the guards together. -/
theorem Fits.step (fits : Fits owner service.jobs service.claimed) {op : DeletionOp}
    (orderly : Orderly owner service op) :
    Fits owner (service.step op).jobs (service.step op).claimed := by
  cases op with
  | reserve project root members =>
    unfold ThreadDeletionService.step
    dsimp only
    split
    · exact fits
    · next idle =>
      rw [Option.not_isSome_iff_eq_none] at idle
      rw [claimed_insert]
      exact fits.reserve idle orderly.1 orderly.2
  | dropReservation root =>
    unfold ThreadDeletionService.step
    dsimp only
    split
    · rw [claimed_shiftRemove]
      exact fits.ended (dropReservation_ended _ root)
    · exact fits
  | start project root files =>
    unfold ThreadDeletionService.step
    dsimp only
    split
    · next held =>
      rw [claimed_insert]
      exact fits.start project held orderly
    · exact fits
  | publishRunning root deleted =>
    unfold ThreadDeletionService.step
    dsimp only
    split
    · exact fits.publishRunning root deleted
    · exact fits
  | finish root state ended deleted error =>
    unfold ThreadDeletionService.step
    dsimp only
    split
    · rw [claimed_shiftRemove]
      exact fits.ended (finish_ended _ root ended deleted error)
    · exact fits
  | dropRun root =>
    unfold ThreadDeletionService.step
    dsimp only
    split
    · rw [claimed_shiftRemove]
      exact fits.ended (dropRun_ended _ root)
    · exact fits
  | cancel root => exact fits.cancel root
  | dismiss root => exact fits.dismiss root
  | forgetProject project => exact fits.forgetProject orderly

/-! ## Terminal records -/

/-- The operations that may replace or drop a terminal record. -/
def DeletionOp.Replaces (job : DeletionJob) (root : ThreadId) : DeletionOp → Prop
  | .reserve _ other _ => other = root
  | .dismiss other => other = root
  | .forgetProject project => project = job.progress.projectId
  | _ => False

theorem Ended.get?_other {after : Jobs} (ended : Ended jobs root after) {other : ThreadId}
    (apart : other ≠ root) : after.byRoot.get? other = jobs.byRoot.get? other := by
  obtain ⟨byRoot, rfl, others, _⟩ := ended
  exact others other apart

/-- A record that is not running stays as it is under every other operation: a guard's
operations are about running records, and a cancellation changes running records only. -/
theorem Fits.terminal (fits : Fits owner service.jobs service.claimed) {op : DeletionOp}
    {job : DeletionJob} (found : service.jobs.byRoot.get? root = some job)
    (stopped : job.isRunning = false) (spared : ¬op.Replaces job root) :
    (service.step op).jobs.byRoot.get? root = some job := by
  have apart {kind : GuardKind} {other : ThreadId} (held : service.holds kind other = true) :
      root ≠ other := by
    rintro rfl
    obtain ⟨record, present, running⟩ := fits.record_of_holds held
    rw [found, Option.some.injEq] at present
    rw [← present, stopped] at running
    cases running
  unfold ThreadDeletionService.step
  cases op with
  | reserve project other members =>
    dsimp only
    split
    · exact found
    · have different : root ≠ other := fun same => spared same.symm
      exact (IndexMap.get?_insert_of_ne _ different _).trans found
  | dropReservation other =>
    dsimp only
    split
    · next held => exact ((dropReservation_ended _ other).get?_other (apart held)).trans found
    · exact found
  | start project other files =>
    dsimp only
    split
    · next held => exact (IndexMap.get?_insert_of_ne _ (apart held) _).trans found
    · exact found
  | publishRunning other deleted =>
    dsimp only
    split
    · next held =>
      unfold Jobs.publishRunning
      split
      · exact found
      · exact (IndexMap.get?_insert_of_ne _ (apart held) _).trans found
    · exact found
  | finish other state ended deleted error =>
    dsimp only
    split
    · next held =>
      exact ((finish_ended _ other ended deleted error).get?_other (apart held)).trans found
    · exact found
  | dropRun other =>
    dsimp only
    split
    · next held => exact ((dropRun_ended _ other).get?_other (apart held)).trans found
    · exact found
  | cancel other =>
    dsimp only
    unfold Jobs.cancel
    split
    · exact found
    · next record present =>
      split
      · next running =>
        have different : root ≠ other := by
          rintro rfl
          rw [found, Option.some.injEq] at present
          rw [← present, stopped] at running
          cases running
        exact (IndexMap.get?_insert_of_ne _ different _).trans found
      · exact found
  | dismiss other =>
    dsimp only
    unfold Jobs.dismiss
    have different : root ≠ other := fun same => spared same.symm
    split
    · exact found
    · split
      · exact found
      · dsimp only
        rw [IndexMap.get?_shiftRemove, if_neg different, found]
  | forgetProject project =>
    have kept : (service.jobs.forgetProject project).byRoot.get? root =
        (service.jobs.byRoot.get? root).filter fun job => job.progress.projectId ≠ project :=
      IndexMap.get?_retain _ _ _
    dsimp only
    rw [kept, found, Option.filter_eq_some_iff]
    exact ⟨rfl, decide_eq_true fun same => spared same.symm⟩

/-! ## Every sequence of operations -/

/-- The service after a sequence of operations. -/
def ThreadDeletionService.after (ops : List DeletionOp) : ThreadDeletionService :=
  Foundation.Schedule.run ThreadDeletionService.step .new ops

theorem Fits.after {ops : List DeletionOp}
    (orderly : Meets ThreadDeletionService.step (Orderly owner) .new ops) :
    Fits owner (ThreadDeletionService.after ops).jobs
      (ThreadDeletionService.after ops).claimed :=
  @run_invariant _ _ ThreadDeletionService.step (Orderly owner)
    (fun service => Fits owner service.jobs service.claimed) .new ops Fits.new orderly
    fun _ _ fits orderly => fits.step orderly

/-- **The fence follows the running deletions.** After every orderly sequence of operations a
thread stands behind a root exactly when that root's deletion is running and the thread is in its
reserved or planned subtree; one deletion of a project is running at most; a terminal record
changes only by a reservation of its root, its dismissal or the end of its project; and a project
without a guard has no thread behind a fence. -/
theorem fence_follows_deletions (owner : ThreadId → ProjectId) (ops : List DeletionOp)
    (orderly : Meets ThreadDeletionService.step (Orderly owner) .new ops) :
    let service := ThreadDeletionService.after ops
    (∀ thread root, service.jobs.deletingRoot thread = some root ↔
      Jobs.Running service.jobs.byRoot root ∧ thread ∈ service.subtree root) ∧
    (∀ first second one two, service.jobs.byRoot.get? first = some one →
      service.jobs.byRoot.get? second = some two → one.isRunning = true → two.isRunning = true →
      one.progress.projectId = two.progress.projectId → first = second) ∧
    (∀ op root job, service.jobs.byRoot.get? root = some job → job.isRunning = false →
      ¬op.Replaces job root → (service.step op).jobs.byRoot.get? root = some job) ∧
    ∀ project, (∀ root, owner root = project → service.guards.get? root = none) →
      ∀ thread, owner thread = project → service.jobs.deletingRoot thread = none := by
  intro service
  have fits : Fits owner service.jobs service.claimed := Fits.after orderly
  have behind (thread root : ThreadId) : service.jobs.deletingRoot thread = some root ↔
      ∃ threads, service.claimed root = some threads ∧ thread ∈ threads := fits.fence thread root
  refine ⟨fun thread root => ?_, fun first second one two found found' running running' same => ?_,
    fun op root job found stopped spared => fits.terminal found stopped spared,
    fun project free thread owned => ?_⟩
  · have subtree : service.subtree root = (service.claimed root).getD [] := rfl
    rw [behind, fits.running, subtree]
    cases service.claimed root with
    | none => simp
    | some threads => simp
  · apply fits.single first second
    · exact (fits.running first).1 ⟨one, found, running⟩
    · exact (fits.running second).1 ⟨two, found', running'⟩
    · rw [← fits.project first one found, ← fits.project second two found', same]
  · by_contra fenced
    obtain ⟨root, found⟩ := Option.ne_none_iff_exists'.1 fenced
    obtain ⟨threads, claimed, member⟩ := (behind thread root).1 found
    have project' : owner root = project := by
      rw [← fits.owned root threads claimed thread member, owned]
    have none_ : service.claimed root = none := by
      unfold ThreadDeletionService.claimed
      rw [free root project', Option.map_none]
    rw [none_] at claimed
    cases claimed

/-! ## A retried deletion -/

def sampleProject : ProjectId := ⟨⟨0⟩⟩

def sampleRoot : ThreadId := ⟨⟨1⟩⟩

def sampleChild : ThreadId := ⟨⟨2⟩⟩

/-- A deletion that fails after its first thread, and its retry, which finds the root alone. -/
def retriedDeletion : List DeletionOp :=
  [.reserve sampleProject sampleRoot [sampleChild, sampleRoot],
    .start sampleProject sampleRoot [sampleChild, sampleRoot], .publishRunning sampleRoot 1,
    .finish sampleRoot .failed (by decide) 1 (some "stuck"),
    .reserve sampleProject sampleRoot [sampleRoot], .start sampleProject sampleRoot [sampleRoot]]

theorem fence_follows_deletions_sample :
    let service := ThreadDeletionService.after retriedDeletion
    service.jobs.deletingRoot sampleRoot = some sampleRoot ∧
      service.jobs.deletingRoot sampleChild ≠ some sampleRoot := by
  have follows := fence_follows_deletions (fun _ => sampleProject) retriedDeletion
    (by simp [retriedDeletion, Meets, Orderly])
  refine ⟨(follows.1 sampleRoot sampleRoot).2 ⟨⟨_, rfl, rfl⟩, by decide⟩, fun fenced => ?_⟩
  exact absurd ((follows.1 sampleChild sampleRoot).1 fenced).2 (by decide)

end Giskard.Deletions
