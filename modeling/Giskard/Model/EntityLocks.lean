import Mathlib
import Giskard.Foundation.IndexMap
import Giskard.Foundation.Schedule
import Giskard.Model.ThreadRuntime

/-!
# Interned entity locks

The lifecycle lock of a project and the owner lock of a thread. A published authority owns its
lock; before that an index keeps the lock weakly, so that callers who name an unpublished id meet
the same one for as long as any of them lives. Projects and threads are interned by the same code
over different authorities, which is written here once.

A lock is a number, fresh for each mutex that is made. Its strong handles are those of the calls
that wait for it or hold its guard, and those of the published authorities; an authority never
leaves its index. What an authority holds besides is left out.

SOURCE: crates/giskard-server/src/registry.rs, registry/project.rs, registry/thread.rs.
-/

set_option autoImplicit false

namespace Giskard.EntityLocks

open Foundation (IndexMap)

/-- The identity of a mutex. SOURCE: project.rs:15, thread.rs:253. -/
abbrev Lock := ℕ

/-- SOURCE: project.rs:55-68, 86-89. -/
structure ProjectAuthority where
  projectId : ProjectId
  lifecycleLock : Lock
  deriving DecidableEq

/-- SOURCE: thread.rs:304-310, 335-342. -/
structure ThreadAuthority where
  threadId : ThreadId
  projectId : ProjectId
  ownerLock : Lock
  deriving DecidableEq

/-- SOURCE: registry.rs:295-299. -/
structure ThreadProjectMismatch where
  threadId : ThreadId
  existingProjectId : ProjectId
  requestedProjectId : ProjectId
  deriving DecidableEq

/-- What is interned: authorities `α` under ids `κ`, on requests `ρ` that a published authority
may refuse with an `ε`. -/
structure Entity (κ ρ α ε : Type) where
  lock : α → Lock
  new : κ → ρ → Lock → α
  confirm : α → κ → ρ → Except ε α
  /-- A new authority owns the lock it adopted. -/
  lock_new : ∀ id request adopted, lock (new id request adopted) = adopted

/-- The index of the authorities. SOURCE: registry.rs:319-343. -/
structure Index (κ α : Type) where
  authorities : IndexMap κ α
  unpublishedLocks : IndexMap κ Lock

/-- Where a call of the lock function is after it obtained its handle. -/
inductive Phase where
  | waiting
  | holding
  deriving DecidableEq

/-- A call that has a strong handle on the lock of the id it named. -/
structure Call (κ : Type) where
  id : κ
  lock : Lock
  phase : Phase
  deriving DecidableEq

structure State (κ α : Type) where
  index : Index κ α
  calls : IndexMap ℕ (Call κ)
  /-- Mutexes made so far. -/
  locks : ℕ
  /-- Calls begun so far. -/
  begun : ℕ

section

variable {κ ρ α ε : Type} [DecidableEq κ] (entity : Entity κ ρ α ε)

namespace State

def empty : State κ α := ⟨⟨IndexMap.empty, IndexMap.empty⟩, IndexMap.empty, 0, 0⟩

/-- SOURCE: project.rs:49-51, thread.rs:292-294. -/
def strongCount (state : State κ α) (lock : Lock) : ℕ :=
  (state.calls.values.filter fun call => call.lock = lock).length
    + (state.index.authorities.values.filter fun authority => entity.lock authority = lock).length

/-- SOURCE: project.rs:44-46, thread.rs:287-289. -/
def upgrade (state : State κ α) (lock : Lock) : Option Lock :=
  if 0 < state.strongCount entity lock then some lock else none

/-- The unpublished locks without those that nobody has a handle on. -/
def retained (state : State κ α) : IndexMap κ Lock :=
  state.index.unpublishedLocks.retain fun _ lock => 0 < state.strongCount entity lock

/-- The part of the lock function under the mutex of the index: the handle that the call goes on
to wait for. SOURCE: registry.rs:1894-1915, 1923-1944. -/
def obtain (state : State κ α) (id : κ) : Lock × State κ α :=
  match state.index.authorities.get? id with
  | some authority => (entity.lock authority, state)
  | none =>
    match ((state.retained entity).get? id).bind (state.upgrade entity) with
    | some lock =>
      (lock, { state with
        index := { state.index with unpublishedLocks := state.retained entity } })
    | none =>
      (state.locks, { state with
        index := { state.index with
          unpublishedLocks := (state.retained entity).insert id state.locks }
        locks := state.locks + 1 })

/-- A call of the lock function up to its first wait. -/
def begin (state : State κ α) (id : κ) : State κ α :=
  let obtained := state.obtain entity id
  { obtained.2 with
    calls := obtained.2.calls.insert obtained.2.begun ⟨id, obtained.1, .waiting⟩
    begun := obtained.2.begun + 1 }

/-- Whether some guard of a mutex is alive. -/
def isLocked (state : State κ α) (lock : Lock) : Bool :=
  state.calls.values.any fun call => call.lock = lock ∧ call.phase = .holding

/-- A waiting call gets the guard of a free mutex. SOURCE: registry.rs:1916, 1945. -/
def acquire (state : State κ α) (call : ℕ) : State κ α :=
  match state.calls.get? call with
  | some waiting =>
    if waiting.phase = .waiting ∧ state.isLocked waiting.lock = false then
      { state with calls := state.calls.insert call { waiting with phase := .holding } }
    else state
  | none => state

/-- A waiting call is cancelled, or a guard is dropped: the handle goes. -/
def release (state : State κ α) (call : ℕ) (phase : Phase) : State κ α :=
  match state.calls.get? call with
  | some ending =>
    if ending.phase = phase then { state with calls := state.calls.shiftRemove call } else state
  | none => state

/-- SOURCE: registry.rs:380-396, 402-429. -/
def internAuthority (state : State κ α) (id : κ) (request : ρ) : Except ε α × State κ α :=
  match state.index.authorities.get? id with
  | some authority => (entity.confirm authority id request, state)
  | none =>
    match ((state.retained entity).get? id).bind (state.upgrade entity) with
    | some lock =>
      (.ok (entity.new id request lock), { state with
        index :=
          { authorities := state.index.authorities.insert id (entity.new id request lock)
            unpublishedLocks := (state.retained entity).shiftRemove id } })
    | none =>
      (.ok (entity.new id request state.locks), { state with
        index :=
          { authorities := state.index.authorities.insert id (entity.new id request state.locks)
            unpublishedLocks := (state.retained entity).shiftRemove id }
        locks := state.locks + 1 })

end State

/-- What a caller does next. -/
inductive Action (κ ρ : Type) where
  | lock (id : κ)
  | acquire (call : ℕ)
  | cancel (call : ℕ)
  | dropGuard (call : ℕ)
  | intern (id : κ) (request : ρ)

def State.step (state : State κ α) : Action κ ρ → State κ α
  | .lock id => state.begin entity id
  | .acquire call => state.acquire call
  | .cancel call => state.release call .waiting
  | .dropGuard call => state.release call .holding
  | .intern id request => (state.internAuthority entity id request).2

/-- A call holds the guard it asked for under some id. -/
def State.Holds (state : State κ α) (call : ℕ) (id : κ) : Prop :=
  ∃ lock, state.calls.get? call = some ⟨id, lock, .holding⟩

end

/-- `lock_project_lifecycle` and `intern_project_authority`.
SOURCE: registry.rs:380-396, 1890-1917. -/
def projects : Entity ProjectId Unit ProjectAuthority Empty where
  lock := ProjectAuthority.lifecycleLock
  new id _ lifecycle := ⟨id, lifecycle⟩
  confirm authority _ _ := .ok authority
  lock_new _ _ _ := rfl

/-- `lock_thread_owner` and `intern_thread_authority`. SOURCE: registry.rs:402-429, 1919-1946. -/
def threads : Entity ThreadId ProjectId ThreadAuthority ThreadProjectMismatch where
  lock := ThreadAuthority.ownerLock
  new id project owner := ⟨id, project, owner⟩
  confirm authority id project :=
    if authority.projectId ≠ project then .error ⟨id, authority.projectId, project⟩
    else .ok authority
  lock_new _ _ _ := rfl

end Giskard.EntityLocks
