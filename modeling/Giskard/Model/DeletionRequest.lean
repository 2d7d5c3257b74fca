import Mathlib
import Giskard.Foundation.Schedule
import Giskard.Model.DeletionService

/-!
# A deletion request among messages

The request to delete a thread looks for live threads in the subtree, probes its worktrees, puts a
fence around it, retires its threads, looks for live threads again and starts the cascade. A
message to a thread passes the fence, opens the thread if nothing owns its events, and asks the
owner for a turn, which the owner reserves before it has the harness start it. Each of these is a
step, and the steps of one request and of any number of messages interleave.

Of a runtime entry there is what the liveness check reads. The native turns that a harness starts
by itself, the failures of event streams and the other deletions of the project are left out.

SOURCE: crates/giskard-server/src/routes.rs:605-660, 2067-2175, registry.rs:1592-1638, ws.rs:1531-1690,
thread_runtime.rs:1006-1069, 1128-1142, registry/event_forwarder.rs:1023-1250.
-/

set_option autoImplicit false

namespace Giskard.DeletionRequest

open Foundation (IndexMap)
open Deletions (ThreadDeletionService)

/-! ## Threads -/

/-- What the liveness check reads of a runtime entry. SOURCE: thread_runtime.rs:56-86. -/
structure RuntimeEntry where
  gate : TurnGate
  liveActive : Bool
  runningTasks : List String

def RuntimeEntry.empty : RuntimeEntry := ⟨TurnGate.empty, false, []⟩

/-- The event owner of a thread: the message whose turn it admitted and the harness has not
answered yet, and whether it owns a turn. SOURCE: event_forwarder.rs:742-765. -/
structure EventOwner where
  inflight : Option ℕ
  owned : Bool

def EventOwner.idle : EventOwner := ⟨none, false⟩

def EventOwner.isBusy (owner : EventOwner) : Bool := owner.inflight.isSome || owner.owned

structure ThreadState where
  /-- An authority is interned for it. -/
  known : Bool
  owner : Option EventOwner
  entry : Option RuntimeEntry
  /-- The harness has started a turn of the thread and not completed it. -/
  running : Bool

namespace ThreadState

def unloaded : ThreadState := ⟨false, none, none, false⟩

/-- SOURCE: thread_runtime.rs:1214-1216. -/
def entryOrCreate (thread : ThreadState) : RuntimeEntry := thread.entry.getD .empty

/-- SOURCE: thread_runtime.rs:1024-1031. -/
def hasActiveTurn (thread : ThreadState) : Bool :=
  thread.entry.any fun entry => entry.gate.active.isSome

/-- SOURCE: thread_runtime.rs:581-588. -/
def liveIsActive (thread : ThreadState) : Bool := thread.entry.any RuntimeEntry.liveActive

/-- SOURCE: thread_runtime.rs:698-709. -/
def tasks (thread : ThreadState) : List String :=
  (thread.entry.map RuntimeEntry.runningTasks).getD []

/-- Install an owner where there is none. SOURCE: registry.rs:903-1010, event_forwarder.rs:861-893. -/
def open_ (thread : ThreadState) : ThreadState :=
  { thread with
    known := true
    owner := some (thread.owner.getD .idle)
    entry := some thread.entryOrCreate }

/-- The owner admits the turn of a message, if it may. SOURCE: event_forwarder.rs:1024-1090,
thread_runtime.rs:1006-1022. -/
def reserveTurn (thread : ThreadState) (id : ThreadId) (message : ℕ)
    (reservation : TurnReservation) : ThreadState :=
  match thread.owner with
  | none => thread
  | some owner =>
    if owner.isBusy then thread
    else match thread.entryOrCreate.gate.reserve id reservation with
      | .error _ => thread
      | .ok gate =>
        { thread with
          owner := some ⟨some message, false⟩
          entry := some { thread.entryOrCreate with gate := gate } }

/-- SOURCE: thread_runtime.rs:1055-1069. -/
def releaseTurn (thread : ThreadState) : ThreadState :=
  { thread with
    entry := thread.entry.map fun entry => { entry with gate := entry.gate.release } }

/-- The harness starts the turn of a message. SOURCE: event_forwarder.rs:1091-1100. -/
def startTurn (thread : ThreadState) (message : ℕ) : ThreadState :=
  match thread.owner with
  | none => thread
  | some owner =>
    if owner.inflight = some message then
      { thread with owner := some ⟨none, true⟩, running := true }
    else thread

/-- The harness refuses the turn of a message. SOURCE: event_forwarder.rs:1175-1215. -/
def refuseTurn (thread : ThreadState) (message : ℕ) : ThreadState :=
  match thread.owner with
  | none => thread
  | some owner =>
    if owner.inflight = some message then
      { thread with owner := some { owner with inflight := none } }.releaseTurn
    else thread

/-- The first event of a turn begins the live turn. SOURCE: thread_runtime.rs:641-653. -/
def beginLive (thread : ThreadState) : ThreadState :=
  match thread.owner with
  | none => thread
  | some owner =>
    if owner.owned then
      { thread with entry := some { thread.entryOrCreate with liveActive := true } }
    else thread

/-- An event changes the running commands. SOURCE: thread_runtime.rs:787-886. -/
def setTasks (thread : ThreadState) (tasks : List String) : ThreadState :=
  match thread.owner with
  | none => thread
  | some _ => { thread with entry := some { thread.entryOrCreate with runningTasks := tasks } }

/-- The owner settles the turn that the harness completed; a turn that was not persisted keeps the
gate. SOURCE: thread_runtime.rs:964-1004. -/
def settle (thread : ThreadState) (blocked : Option (Turn × String)) : ThreadState :=
  match thread.owner with
  | none => thread
  | some owner =>
    if owner.owned ∧ thread.running = false then
      let entry := thread.entryOrCreate
      { thread with
        owner := some { owner with owned := false }
        entry := some (match blocked with
          | none => { entry with gate := entry.gate.release, liveActive := false }
          | some (turn, error) =>
            { entry with gate := (entry.gate.blockOnPersistence turn error).getD entry.gate }) }
    else thread

/-- The owner is cancelled and ends, which releases the turn it holds and drops the request it has
in flight. SOURCE: registry.rs:1599-1617, event_forwarder.rs:1017-1023, 1236-1298. -/
def detach (thread : ThreadState) : ThreadState :=
  match thread.owner with
  | none => thread
  | some owner =>
    { (if owner.isBusy then thread.releaseTurn else thread) with owner := none }

/-- SOURCE: thread_runtime.rs:1128-1142. -/
def forget (thread : ThreadState) : ThreadState := { thread with entry := none }

end ThreadState

/-! ## The request and the messages -/

/-- Why a request is refused. -/
inductive Refusal where
  | notFound
  | beingDeleted
  | activeTurn
  | runningCommands
  | worktree
  | deletionRunning
  | persistence
  deriving DecidableEq

/-- The steps of retiring a thread: its authority is looked up, its owner is detached, and its
entry is dropped if there was an authority. SOURCE: registry.rs:1632-1638. -/
inductive Retirement where
  | look
  | detach (known : Bool)
  | forget
  deriving DecidableEq

/-- Where the request is. -/
inductive Stage where
  | checking (order left : List ThreadId)
  | probing (order left : List ThreadId)
  | reserving (order : List ThreadId)
  | retiring (left : List ThreadId) (next : Retirement)
  | reloading
  | rechecking (checked left : List ThreadId)
  | starting (plan : List ThreadId)
  | started (plan : List ThreadId)
  | refused (refusal : Refusal)
  deriving DecidableEq

/-- A message that passed the fence, and whether it saw an owner of its thread or opens one. -/
structure Message where
  thread : ThreadId
  opened : Bool
  deriving DecidableEq

structure State where
  threads : ThreadId → ThreadState
  deletions : ThreadDeletionService
  stage : Stage
  messages : IndexMap ℕ Message
  sent : ℕ
  /-- The threads whose owner the request detached. -/
  detached : List ThreadId
  /-- The threads whose runtime entry the request dropped. -/
  forgotten : List ThreadId

/-- What a request is about. SOURCE: routes.rs:2060-2071. -/
structure Request where
  project : ProjectId
  root : ThreadId
  force : Bool

/-- What the environment decides about a step of the request: what Git reports of the next
worktree, if there is one, and what the store loads. -/
structure RequestEnv where
  impact : Option (Except Unit Bool)
  plan : Option (List ThreadId)
  project : Option Bool

namespace State

/-- A server that has nothing loaded, and a request whose subtree has been read. -/
def initial (order : List ThreadId) : State where
  threads := fun _ => .unloaded
  deletions := .new
  stage := .checking order order
  messages := IndexMap.empty
  sent := 0
  detached := []
  forgotten := []

def setThread (state : State) (id : ThreadId) (thread : ThreadState) : State :=
  { state with threads := Function.update state.threads id thread }

/-- SOURCE: routes.rs:635-660. -/
def rejectIfLiveIgnoringFence (state : State) (id : ThreadId) : Option Refusal :=
  if (state.threads id).hasActiveTurn || (state.threads id).liveIsActive then some .activeTurn
  else if (state.threads id).tasks ≠ [] then some .runningCommands
  else none

/-- SOURCE: routes.rs:614-631. -/
def rejectIfLive (state : State) (id : ThreadId) : Option Refusal :=
  if (state.deletions.jobs.deletingRoot id).isSome then some .beingDeleted
  else state.rejectIfLiveIgnoringFence id

/-- The request fails, and the reservation it may hold is dropped. -/
def refuse (request : Request) (state : State) (refusal : Refusal) : State :=
  { state with
    stage := .refused refusal
    deletions := state.deletions.step (.dropReservation request.root) }

/-- What Git's report on a worktree refuses. SOURCE: routes.rs:2098-2124. -/
def probed (request : Request) (impact : Option (Except Unit Bool)) : Bool :=
  request.force || match impact with
    | some (.error ()) => false
    | some (.ok destroysWork) => !destroysWork
    | none => true

/-- The owner of a thread goes. SOURCE: registry.rs:1599-1617. -/
def detach (state : State) (id : ThreadId) : State :=
  { state.setThread id (state.threads id).detach with
    detached := if (state.threads id).owner.isSome then id :: state.detached else state.detached }

/-- The runtime entry of a thread goes. SOURCE: thread_runtime.rs:1128-1142. -/
def forget (state : State) (id : ThreadId) : State :=
  { state.setThread id (state.threads id).forget with
    forgotten :=
      if (state.threads id).entry.isSome then id :: state.forgotten else state.forgotten }

/-- One step of the request. SOURCE: routes.rs:2086-2175. -/
def deletionStep (request : Request) (state : State) (env : RequestEnv) : State :=
  match state.stage with
  | .checking order [] => { state with stage := .probing order order }
  | .checking order (candidate :: left) =>
    match state.rejectIfLive candidate with
    | some refusal => state.refuse request refusal
    | none => { state with stage := .checking order left }
  | .probing order [] => { state with stage := .reserving order }
  | .probing order (_ :: left) =>
    if probed request env.impact then { state with stage := .probing order left }
    else state.refuse request .worktree
  | .reserving order =>
    if (state.deletions.jobs.running? request.project).isSome then
      state.refuse request .deletionRunning
    else
      { state with
        stage := .retiring order .look
        deletions := state.deletions.step (.reserve request.project request.root order) }
  | .retiring [] _ => { state with stage := .reloading }
  | .retiring (candidate :: left) .look =>
    { state with stage := .retiring (candidate :: left) (.detach (state.threads candidate).known) }
  | .retiring (candidate :: left) (.detach known) =>
    { state.detach candidate with
      stage := if known then .retiring (candidate :: left) .forget else .retiring left .look }
  | .retiring (candidate :: left) .forget =>
    { state.forget candidate with stage := .retiring left .look }
  | .reloading =>
    match env.plan with
    | none => state.refuse request .persistence
    | some [] => state.refuse request .notFound
    | some plan => { state with stage := .rechecking [] plan }
  | .rechecking checked (candidate :: left) =>
    match state.rejectIfLiveIgnoringFence candidate with
    | some refusal => state.refuse request refusal
    | none => { state with stage := .rechecking (checked ++ [candidate]) left }
  | .rechecking checked [] =>
    match env.project with
    | none => state.refuse request .persistence
    | some false => state.refuse request .notFound
    | some true => { state with stage := .starting checked }
  | .starting plan =>
    { state with
      stage := .started plan
      deletions := state.deletions.step (.start request.project request.root plan) }
  | .started _ | .refused _ => state

/-- A message meets the fence. SOURCE: ws.rs:1538-1560. -/
def send (state : State) (id : ThreadId) : State :=
  if (state.deletions.jobs.deletingRoot id).isSome then state
  else
    { state with
      messages := state.messages.insert state.sent ⟨id, (state.threads id).owner.isSome⟩
      sent := state.sent + 1 }

end State

/-- What happens next: a step of the request, of a message, of the harness or of an owner. -/
inductive Choice where
  | deletion (env : RequestEnv)
  | send (thread : ThreadId)
  | openThread (message : ℕ)
  | reserveTurn (message : ℕ) (reservation : TurnReservation)
  | startTurn (thread : ThreadId) (message : ℕ)
  | refuseTurn (thread : ThreadId) (message : ℕ)
  | complete (thread : ThreadId)
  | beginLive (thread : ThreadId)
  | setTasks (thread : ThreadId) (tasks : List String)
  | settle (thread : ThreadId) (blocked : Option (Turn × String))

def State.step (request : Request) (state : State) : Choice → State
  | .deletion env => state.deletionStep request env
  | .send thread => state.send thread
  | .openThread number =>
    match state.messages.get? number with
    | some ⟨thread, false⟩ =>
      { state.setThread thread (state.threads thread).open_ with
        messages := state.messages.insert number ⟨thread, true⟩ }
    | _ => state
  | .reserveTurn number reservation =>
    match state.messages.get? number with
    | some ⟨thread, true⟩ =>
      { state.setThread thread ((state.threads thread).reserveTurn thread number reservation) with
        messages := state.messages.shiftRemove number }
    | _ => state
  | .startTurn thread number => state.setThread thread ((state.threads thread).startTurn number)
  | .refuseTurn thread number => state.setThread thread ((state.threads thread).refuseTurn number)
  | .complete thread => state.setThread thread { state.threads thread with running := false }
  | .beginLive thread => state.setThread thread (state.threads thread).beginLive
  | .setTasks thread tasks => state.setThread thread ((state.threads thread).setTasks tasks)
  | .settle thread blocked => state.setThread thread ((state.threads thread).settle blocked)

end Giskard.DeletionRequest
