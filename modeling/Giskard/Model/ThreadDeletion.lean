import Mathlib
import Giskard.Foundation.PostOrder
import Giskard.Model.Admission

/-!
# The deletion of a thread and what hangs under it

The threads that name a thread as their parent, directly or through others, are deleted with it,
leaf first. The cascade handles one thread at a time and stops at the first failure, between two
threads when it is cancelled or when the server shuts down.

The graph of a project's threads is what `load_thread_graph` makes of its metadata files. What
the harness and the file system make of one thread's deletion is a choice of the environment. The
record of a deletion, its progress and the texts of its errors are left out.

SOURCE: crates/giskard-server/src/thread_graph.rs:201-236, thread_deletion.rs:431-850,
routes.rs:2140-2160.
-/

set_option autoImplicit false

namespace Giskard

open Foundation (IndexMap)

namespace ThreadGraph

/-- The threads that name a thread as their parent, in the order of their printed ids.
SOURCE: thread_graph.rs:217-222. -/
def children (crates : Crates) (graph : ThreadGraph) (current : ThreadId) : List ThreadId :=
  ((graph.values.filter fun thread => thread.parentThreadId = some current).map
    fun thread => thread.id).mergeSort
      fun a b => decide (crates.ulid.print a.ulid ≤ crates.ulid.print b.ulid)

/-- The graph without some threads. -/
def without (graph : ThreadGraph) (threads : List ThreadId) : ThreadGraph :=
  graph.retain fun thread _ => thread ∉ threads

/-- A thread's record names another one as its parent. -/
def Hangs (graph : ThreadGraph) (child parent : ThreadId) : Prop :=
  ∃ file ∈ graph.values, file.id = child ∧ file.parentThreadId = some parent

/-- Each record stands under its own id. -/
def Keyed (graph : ThreadGraph) : Prop :=
  ∀ thread file, (thread, file) ∈ graph.entries → file.id = thread

end ThreadGraph

/-- The threads a deletion of `root` deletes, in order. The recursion of the source descends as
far as the fuel goes. SOURCE: thread_graph.rs:201-236. -/
def descendantDeletionOrder (crates : Crates) (fuel : ℕ) (graph : ThreadGraph)
    (root : ThreadId) : Option (List ThreadId) :=
  if root ∈ graph.keys then
    (Foundation.PostOrder.visit (graph.children crates) fuel root ([], [])).map Prod.snd
  else some []

/-- The records of the threads to delete. SOURCE: routes.rs:2155-2158. -/
def deletionFiles (graph : ThreadGraph) (order : List ThreadId) : List ThreadFile :=
  order.filterMap graph.get?

/-- SOURCE: giskard-proto/src/http.rs, `ThreadDeletionState`. -/
inductive ThreadDeletionState where
  | done
  | failed
  | cancelled
  deriving DecidableEq

/-- What becomes of the deletion of one thread. SOURCE: thread_deletion.rs:458-510, 654-849. -/
inductive DeletionStep where
  /-- A cancellation or a shutdown is noticed before the thread is touched. -/
  | stopped
  /-- Its worktree or its native thread could not be deleted. -/
  | kept
  /-- The store failed, before or after it moved the directory out of enumeration. -/
  | storeFailed (gone : Bool)
  | deleted
  /-- The store did not return in time. -/
  | removalStillRunning (gone : Bool)

/-- The threads after one of them was deleted, if its directory is gone. -/
def ThreadGraph.afterRemoval (graph : ThreadGraph) (thread : ThreadId) (gone : Bool) :
    ThreadGraph :=
  if gone then graph.shiftRemove thread else graph

/-- The state of a deletion that a step stopped: a step that a shutdown caught is no failure.
SOURCE: thread_deletion.rs:565-592. -/
def ThreadDeletionState.ofFailure (shuttingDown : Bool) : ThreadDeletionState :=
  if shuttingDown then .cancelled else .failed

/-- The cascade over the records that are left, with the number of threads it deleted so far.
SOURCE: thread_deletion.rs:431-596. -/
def runCascade (env : ThreadId → DeletionStep) (shuttingDown : Bool) (total : ℕ) :
    List ThreadFile → ThreadGraph → ℕ → ThreadGraph × ThreadDeletionState × ℕ
  | [], graph, deleted => (graph, .done, deleted)
  | file :: files, graph, deleted =>
    match env file.id with
    | .stopped => (graph, .cancelled, deleted)
    | .kept => (graph, .ofFailure shuttingDown, deleted)
    | .storeFailed gone => (graph.afterRemoval file.id gone, .ofFailure shuttingDown, deleted)
    | .deleted => runCascade env shuttingDown total files (graph.shiftRemove file.id) (deleted + 1)
    | .removalStillRunning gone =>
      -- The last thread's removal is left to itself.
      if deleted + 1 = total then
        runCascade env shuttingDown total files (graph.afterRemoval file.id gone) (deleted + 1)
      else (graph.afterRemoval file.id gone, .ofFailure shuttingDown, deleted + 1)

end Giskard
