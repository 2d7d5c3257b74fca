import Mathlib
import Giskard.Foundation.IndexMap
import Giskard.Model.ThreadRuntime

/-!
# The record of running deletions

A process-wide record of the deletions in flight, and of the last one that failed, for each root
thread, and the fence around the threads of the running ones. A deletion is claimed by a
reservation, which the cascade takes over; both are guards, whose drop releases the claim.

The state holds the two maps of the service and the guards that are alive. A guard remembers the
threads it was given, which the source does not keep; nothing reads them.

SOURCE: crates/giskard-server/src/thread_deletion.rs, crates/giskard-proto/src/lib.rs.
-/

set_option autoImplicit false

namespace Giskard.Deletions

open Foundation (IndexMap)

/-- SOURCE: proto lib.rs:675-684. -/
inductive ThreadDeletionState where
  | running
  | done
  | failed
  | cancelled
  deriving DecidableEq

/-- SOURCE: proto lib.rs:690-700. -/
structure ThreadDeletionProgress where
  projectId : ProjectId
  threadId : ThreadId
  state : ThreadDeletionState
  deleted : ℕ
  total : ℕ
  error : Option String
  deriving DecidableEq

/-- SOURCE: thread_deletion.rs:64-67. -/
structure DeletionJob where
  progress : ThreadDeletionProgress
  cancel : Bool
  deriving DecidableEq

def DeletionJob.isRunning (job : DeletionJob) : Bool := job.progress.state = .running

/-- SOURCE: thread_deletion.rs:70-90. -/
structure Jobs where
  byRoot : IndexMap ThreadId DeletionJob
  members : IndexMap ThreadId ThreadId

/-- Which of the two guards it is. SOURCE: thread_deletion.rs:141-148, 161-182. -/
inductive GuardKind where
  | reservation
  | run
  deriving DecidableEq

/-- A guard that is alive, and the threads it was given. -/
structure Guard where
  kind : GuardKind
  subtree : List ThreadId

/-- The service and the guards that are alive, by their roots. -/
structure ThreadDeletionService where
  jobs : Jobs
  guards : IndexMap ThreadId Guard

def ThreadDeletionService.new : ThreadDeletionService :=
  ⟨⟨IndexMap.empty, IndexMap.empty⟩, IndexMap.empty⟩

namespace Jobs

/-- Take the fence of a root down. -/
def release (jobs : Jobs) (root : ThreadId) : Jobs :=
  { jobs with members := jobs.members.retain fun _ jobRoot => jobRoot ≠ root }

/-- Put threads inside the fence of a root. -/
def enter (jobs : Jobs) (root : ThreadId) (threads : List ThreadId) : Jobs :=
  { jobs with
    members := threads.foldl (fun members thread => members.insert thread root) jobs.members }

/-- The running deletion of a project. SOURCE: thread_deletion.rs:304-308. -/
def running? (jobs : Jobs) (project : ProjectId) : Option DeletionJob :=
  jobs.byRoot.values.find? fun job => job.progress.projectId = project && job.isRunning

/-- SOURCE: thread_deletion.rs:217-220. -/
def deletingRoot (jobs : Jobs) (thread : ThreadId) : Option ThreadId := jobs.members.get? thread

/-- SOURCE: thread_deletion.rs:141-148. -/
def dropReservation (jobs : Jobs) (root : ThreadId) : Jobs :=
  { jobs.release root with byRoot := jobs.byRoot.shiftRemove root }

/-- SOURCE: thread_deletion.rs:161-182. -/
def dropRun (jobs : Jobs) (root : ThreadId) : Jobs :=
  let jobs := jobs.release root
  match jobs.byRoot.get? root with
  | none => jobs
  | some job =>
    { jobs with
      byRoot := jobs.byRoot.insert root
        { job with
          progress := { job.progress with
            state := .failed
            error := some ("the deletion task ended unexpectedly after deleting " ++
              toString job.progress.deleted ++ " of " ++ toString job.progress.total ++
              " thread(s)") } } }

/-- SOURCE: thread_deletion.rs:253-271. -/
def cancel (jobs : Jobs) (root : ThreadId) : Jobs :=
  match jobs.byRoot.get? root with
  | none => jobs
  | some job =>
    if job.isRunning then
      { jobs with byRoot := jobs.byRoot.insert root { job with cancel := true } }
    else jobs

/-- SOURCE: thread_deletion.rs:274-286. -/
def dismiss (jobs : Jobs) (root : ThreadId) : Jobs :=
  match jobs.byRoot.get? root with
  | none => jobs
  | some job => if job.isRunning then jobs else { jobs with byRoot := jobs.byRoot.shiftRemove root }

/-- SOURCE: thread_deletion.rs:289-294. -/
def forgetProject (jobs : Jobs) (project : ProjectId) : Jobs :=
  let byRoot := jobs.byRoot.retain fun _ job => job.progress.projectId ≠ project
  { byRoot := byRoot
    members := jobs.members.retain fun _ root => root ∈ byRoot.keys }

/-- The record that a reservation starts. -/
def reservedJob (project : ProjectId) (root : ThreadId) (total : ℕ) : DeletionJob where
  progress := {
    projectId := project
    threadId := root
    state := .running
    deleted := 0
    total := total
    error := none }
  cancel := false

/-- SOURCE: thread_deletion.rs:310-333. -/
def reserved (jobs : Jobs) (project : ProjectId) (root : ThreadId) (members : List ThreadId) :
    Jobs :=
  { jobs with byRoot := jobs.byRoot.insert root (reservedJob project root members.length) }.enter
    root members

/-- SOURCE: thread_deletion.rs:359-379. -/
def started (jobs : Jobs) (project : ProjectId) (root : ThreadId) (files : List ThreadId) : Jobs :=
  let jobs := jobs.enter root files
  let job := (jobs.byRoot.get? root).getD (reservedJob project root 0)
  { jobs with
    byRoot := jobs.byRoot.insert root
      { job with progress := { job.progress with total := files.length } } }

/-- SOURCE: thread_deletion.rs:598-608. -/
def publishRunning (jobs : Jobs) (root : ThreadId) (deleted : ℕ) : Jobs :=
  match jobs.byRoot.get? root with
  | none => jobs
  | some job =>
    { jobs with
      byRoot := jobs.byRoot.insert root
        { job with progress := { job.progress with deleted := deleted } } }

/-- SOURCE: thread_deletion.rs:613-651. -/
def finish (jobs : Jobs) (root : ThreadId) (state : ThreadDeletionState) (deleted : ℕ)
    (error : Option String) : Jobs :=
  let jobs := jobs.release root
  match jobs.byRoot.get? root with
  | none => jobs
  | some job =>
    if state = .done then { jobs with byRoot := jobs.byRoot.shiftRemove root }
    else
      { jobs with
        byRoot := jobs.byRoot.insert root
          { job with
            progress := { job.progress with state := state, deleted := deleted, error := error } } }

end Jobs

/-- What can happen to the service. A guard's operations name its root; the outcome that a cascade
finishes with is never `running`. -/
inductive DeletionOp where
  | reserve (project : ProjectId) (root : ThreadId) (members : List ThreadId)
  | dropReservation (root : ThreadId)
  | start (project : ProjectId) (root : ThreadId) (files : List ThreadId)
  | publishRunning (root : ThreadId) (deleted : ℕ)
  | finish (root : ThreadId) (state : ThreadDeletionState) (ended : state ≠ .running)
      (deleted : ℕ) (error : Option String)
  | dropRun (root : ThreadId)
  | cancel (root : ThreadId)
  | dismiss (root : ThreadId)
  | forgetProject (project : ProjectId)

namespace ThreadDeletionService

/-- Whether a guard of a kind is alive for a root. -/
def holds (service : ThreadDeletionService) (kind : GuardKind) (root : ThreadId) : Bool :=
  (service.guards.get? root).any fun g => g.kind = kind

/-- The threads that the guard of a root was given. -/
def subtree (service : ThreadDeletionService) (root : ThreadId) : List ThreadId :=
  ((service.guards.get? root).map Guard.subtree).getD []

/-- One operation. What a guard does happens only while it is alive: it is a value that the
reservation or the cascade owns, and that its last operation consumes. -/
def step (service : ThreadDeletionService) : DeletionOp → ThreadDeletionService
  | .reserve project root members =>
    if (service.jobs.running? project).isSome then service
    else
      { jobs := service.jobs.reserved project root members
        guards := service.guards.insert root ⟨.reservation, members⟩ }
  | .dropReservation root =>
    if service.holds .reservation root then
      { jobs := service.jobs.dropReservation root, guards := service.guards.shiftRemove root }
    else service
  | .start project root files =>
    if service.holds .reservation root then
      { jobs := service.jobs.started project root files
        guards := service.guards.insert root ⟨.run, service.subtree root ++ files⟩ }
    else service
  | .publishRunning root deleted =>
    if service.holds .run root then
      { service with jobs := service.jobs.publishRunning root deleted }
    else service
  | .finish root state _ deleted error =>
    if service.holds .run root then
      { jobs := service.jobs.finish root state deleted error
        guards := service.guards.shiftRemove root }
    else service
  | .dropRun root =>
    if service.holds .run root then
      { jobs := service.jobs.dropRun root, guards := service.guards.shiftRemove root }
    else service
  | .cancel root => { service with jobs := service.jobs.cancel root }
  | .dismiss root => { service with jobs := service.jobs.dismiss root }
  | .forgetProject project => { service with jobs := service.jobs.forgetProject project }

end ThreadDeletionService

end Giskard.Deletions
