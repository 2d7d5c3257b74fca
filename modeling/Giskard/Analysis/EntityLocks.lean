import Mathlib
import Giskard.Model.EntityLocks

/-!
# One lock per entity

However lookups, publications, acquisitions, cancelled waits and dropped guards interleave, every
call that has a handle under an id has one on the lock that the index answers for that id. An
unpublished lock is pruned only when nobody has a handle on it, and its publication adopts it
while anybody has; so no two live mutexes stand for one id, and at most one call holds its guard.

## Main results

* `interned_run`: the invariant of a run
* `lifecycle_and_owner_locks_are_exclusive`: projects and threads
-/

set_option autoImplicit false

namespace Giskard.EntityLocks

open Foundation (IndexMap Schedule.run Schedule.run_preserves)

variable {κ ρ α ε : Type} [DecidableEq κ] (entity : Entity κ ρ α ε)

/-! ## The lock that stands for an id -/

/-- The lock that the index answers for an id, if it knows one. -/
def State.registered (state : State κ α) (id : κ) : Option Lock :=
  match state.index.authorities.get? id with
  | some authority => some (entity.lock authority)
  | none => state.index.unpublishedLocks.get? id

variable {entity} {state next : State κ α} {id other : κ} {lock known : Lock}

theorem registered_of_published {authority : α}
    (published : state.index.authorities.get? id = some authority) :
    state.registered entity id = some (entity.lock authority) := by
  unfold State.registered
  rw [published]

theorem registered_of_unpublished (unpublished : state.index.authorities.get? id = none) :
    state.registered entity id = state.index.unpublishedLocks.get? id := by
  unfold State.registered
  rw [unpublished]

omit [DecidableEq κ] in
theorem strongCount_pos_of_call {call : ℕ} {holder : Call κ}
    (found : state.calls.get? call = some holder) :
    0 < state.strongCount entity holder.lock := by
  have member : holder ∈ state.calls.values := IndexMap.mem_values_iff.2 ⟨call, found⟩
  unfold State.strongCount
  apply Nat.add_pos_left
  apply List.length_pos_of_mem
  exact List.mem_filter.2 ⟨member, decide_eq_true rfl⟩

theorem get?_retained :
    (state.retained entity).get? id
      = (state.index.unpublishedLocks.get? id).filter
          fun lock => 0 < state.strongCount entity lock := by
  unfold State.retained
  rw [IndexMap.get?_retain]

theorem get?_retained_of_live (found : state.index.unpublishedLocks.get? id = some lock)
    (live : 0 < state.strongCount entity lock) :
    (state.retained entity).get? id = some lock := by
  rw [get?_retained, found, Option.filter_some, if_pos (decide_eq_true live)]

theorem get?_of_retained (found : (state.retained entity).get? id = some lock) :
    state.index.unpublishedLocks.get? id = some lock ∧ 0 < state.strongCount entity lock := by
  rw [get?_retained, Option.filter_eq_some_iff] at found
  exact ⟨found.1, of_decide_eq_true found.2⟩

theorem retained_upgrade :
    ((state.retained entity).get? id).bind (state.upgrade entity)
      = (state.retained entity).get? id := by
  cases found : (state.retained entity).get? id with
  | none => rfl
  | some lock =>
    rw [Option.bind_some, State.upgrade, if_pos (get?_of_retained found).2]

/-! ## What settling an id changes -/

/-- An id has come to stand for a lock: the locks that somebody has a handle on stand where they
stood, and the only new one is a mutex made just now. -/
structure Settled (entity : Entity κ ρ α ε) (state next : State κ α) (id : κ) (lock : Lock) :
    Prop where
  calls : next.calls = state.calls
  begun : next.begun = state.begun
  locks : state.locks ≤ next.locks
  here : next.registered entity id = some lock
  kept : ∀ other known, state.registered entity other = some known →
    0 < state.strongCount entity known → next.registered entity other = some known
  known : ∀ other known, next.registered entity other = some known →
    state.registered entity other = some known
      ∨ other = id ∧ known = state.locks ∧ state.locks < next.locks

theorem settled_refl (here : state.registered entity id = some lock) :
    Settled entity state state id lock := by
  refine ⟨rfl, rfl, Nat.le_refl _, here, ?_, ?_⟩
  · exact fun _ _ stands _ => stands
  · exact fun _ _ stands => .inl stands

theorem registered_pruned (unpublishedLocks : IndexMap κ Lock)
    (same : next.index.authorities.get? other = state.index.authorities.get? other)
    (locks : next.index.unpublishedLocks = unpublishedLocks)
    (pruned : unpublishedLocks.get? other = (state.retained entity).get? other) :
    (state.registered entity other = some known → 0 < state.strongCount entity known →
        next.registered entity other = some known)
      ∧ (next.registered entity other = some known →
          state.registered entity other = some known) := by
  unfold State.registered
  rw [same, locks, pruned]
  cases state.index.authorities.get? other with
  | some authority => exact ⟨fun stands _ => stands, id⟩
  | none => exact ⟨get?_retained_of_live, fun found => (get?_of_retained found).1⟩

variable {request : ρ}

theorem obtain_settled :
    Settled entity state (state.obtain entity id).2 id (state.obtain entity id).1 := by
  unfold State.obtain
  split
  · next authority published => exact settled_refl (registered_of_published published)
  · next unpublished =>
    rw [retained_upgrade]
    split
    · next lock live =>
      have pruned (other : κ) (known : Lock) := @registered_pruned κ ρ α ε _ entity state
        { state with index := { state.index with unpublishedLocks := state.retained entity } }
        other known (state.retained entity) rfl rfl rfl
      refine ⟨rfl, rfl, Nat.le_refl _, ?_, ?_, ?_⟩
      · unfold State.registered
        dsimp only
        rw [unpublished]
        exact live
      · exact fun other known => (pruned other known).1
      · exact fun other known stands => .inl ((pruned other known).2 stands)
    · next dead =>
      have fresh {known : Lock} (stands : state.registered entity id = some known) :
          ¬0 < state.strongCount entity known := by
        intro live
        rw [registered_of_unpublished unpublished] at stands
        rw [get?_retained_of_live stands live] at dead
        cases dead
      have elsewhere {other : κ} (apart : other ≠ id) (known : Lock) :=
        @registered_pruned κ ρ α ε _ entity state
          { state with
            index := { state.index with
              unpublishedLocks := (state.retained entity).insert id state.locks }
            locks := state.locks + 1 }
          other known _ rfl rfl (IndexMap.get?_insert_of_ne _ apart _)
      have here : State.registered entity
          { state with
            index := { state.index with
              unpublishedLocks := (state.retained entity).insert id state.locks }
            locks := state.locks + 1 } id = some state.locks := by
        unfold State.registered
        dsimp only
        rw [unpublished]
        exact IndexMap.get?_insert_self _ _ _
      refine ⟨rfl, rfl, Nat.le_succ _, here, ?_, ?_⟩
      · intro other known stands live
        by_cases same : other = id
        · exact absurd live (fresh (same ▸ stands))
        · exact (elsewhere same known).1 stands live
      · intro other known stands
        by_cases same : other = id
        · rw [same] at stands
          exact .inr ⟨same, Option.some.inj (stands.symm.trans here), Nat.lt_succ_self _⟩
        · exact .inl ((elsewhere same known).2 stands)

/-- The lock of the authority that a request for one ends up with, published before or now. -/
theorem internAuthority_settled :
    ∃ lock, Settled entity state (state.internAuthority entity id request).2 id lock := by
  unfold State.internAuthority
  split
  · next authority published =>
    exact ⟨_, settled_refl (registered_of_published published)⟩
  · next unpublished =>
    rw [retained_upgrade]
    have elsewhere {other : κ} (apart : other ≠ id) (known adopted : Lock) (locks : ℕ) :=
      @registered_pruned κ ρ α ε _ entity state
        { state with
          index :=
            { authorities := state.index.authorities.insert id (entity.new id request adopted)
              unpublishedLocks := (state.retained entity).shiftRemove id }
          locks := locks }
        other known _ (IndexMap.get?_insert_of_ne _ apart _) rfl
        ((IndexMap.get?_shiftRemove _ _ _).trans (if_neg apart))
    have here (adopted : Lock) (locks : ℕ) :
        State.registered entity
          { state with
            index :=
              { authorities := state.index.authorities.insert id (entity.new id request adopted)
                unpublishedLocks := (state.retained entity).shiftRemove id }
            locks := locks } id = some adopted := by
      rw [registered_of_published (IndexMap.get?_insert_self _ _ _), entity.lock_new]
    split
    · next lock live =>
      have stood : state.registered entity id = some lock :=
        (registered_of_unpublished unpublished).trans (get?_of_retained live).1
      refine ⟨lock, rfl, rfl, Nat.le_refl _, here lock _, ?_, ?_⟩
      · intro other known stands used
        by_cases same : other = id
        · rw [same] at stands ⊢
          rw [here lock, ← stood, stands]
        · exact (elsewhere same known lock _).1 stands used
      · intro other known stands
        by_cases same : other = id
        · rw [same, here lock] at stands
          exact .inl (same ▸ stood.trans stands)
        · exact .inl ((elsewhere same known lock _).2 stands)
    · next dead =>
      refine ⟨state.locks, rfl, rfl, Nat.le_succ _, here _ _, ?_, ?_⟩
      · intro other known stands used
        by_cases same : other = id
        · rw [same, registered_of_unpublished unpublished] at stands
          rw [get?_retained_of_live stands used] at dead
          cases dead
        · exact (elsewhere same known _ _).1 stands used
      · intro other known stands
        by_cases same : other = id
        · rw [same, here _ _] at stands
          exact .inr ⟨same, (Option.some.inj stands).symm, Nat.lt_succ_self _⟩
        · exact .inl ((elsewhere same known _ _).2 stands)

/-! ## The invariant -/

/-- Every handle of a call is on the lock that stands for its id, a lock stands for one id only,
and a mutex has one guard at most. -/
structure Interned (entity : Entity κ ρ α ε) (state : State κ α) : Prop where
  stands : ∀ call holder, state.calls.get? call = some holder →
    state.registered entity holder.id = some holder.lock
  guards : ∀ one other first second, state.calls.get? one = some first →
    state.calls.get? other = some second → first.phase = .holding → second.phase = .holding →
    first.lock = second.lock → one = other
  begun : ∀ call holder, state.calls.get? call = some holder → call < state.begun
  made : ∀ id lock, state.registered entity id = some lock → lock < state.locks
  apart : ∀ one other lock, state.registered entity one = some lock →
    state.registered entity other = some lock → one = other

theorem interned_empty : Interned entity (State.empty : State κ α) := by
  refine ⟨?_, ?_, ?_, ?_, ?_⟩
  · exact fun _ _ found => by cases found
  · exact fun _ _ _ _ found => by cases found
  · exact fun _ _ found => by cases found
  · exact fun _ _ found => by cases found
  · exact fun _ _ _ found => by cases found

theorem Interned.settled (interned : Interned entity state)
    (settled : Settled entity state next id lock) : Interned entity next := by
  refine ⟨?_, ?_, ?_, ?_, ?_⟩
  · intro call holder found
    rw [settled.calls] at found
    apply settled.kept _ _ (interned.stands call holder found)
    exact strongCount_pos_of_call found
  · rw [settled.calls]
    exact interned.guards
  · rw [settled.calls, settled.begun]
    exact interned.begun
  · intro other known stands
    rcases settled.known other known stands with old | ⟨-, rfl, more⟩
    · exact Nat.lt_of_lt_of_le (interned.made other known old) settled.locks
    · exact more
  · intro one other known first second
    rcases settled.known one known first with old | ⟨rfl, rfl, -⟩
    · rcases settled.known other known second with older | ⟨-, rfl, -⟩
      · exact interned.apart one other known old older
      · exact absurd (interned.made one _ old) (Nat.lt_irrefl _)
    · rcases settled.known other _ second with older | ⟨same, -, -⟩
      · exact absurd (interned.made other _ older) (Nat.lt_irrefl _)
      · exact same.symm

theorem Interned.calls {calls : IndexMap ℕ (Call κ)} {begun : ℕ} (interned : Interned entity state)
    (stands : ∀ call holder, calls.get? call = some holder →
      state.registered entity holder.id = some holder.lock ∧ call < begun)
    (guards : ∀ one other first second, calls.get? one = some first →
      calls.get? other = some second → first.phase = .holding → second.phase = .holding →
      first.lock = second.lock → one = other) :
    Interned entity { state with calls := calls, begun := begun } :=
  ⟨fun call holder found => (stands call holder found).1, guards,
    fun call holder found => (stands call holder found).2, interned.made, interned.apart⟩

theorem Interned.begin (interned : Interned entity state) (id : κ) :
    Interned entity (state.begin entity id) := by
  have settled : Settled entity state (state.obtain entity id).2 id (state.obtain entity id).1 :=
    obtain_settled
  have after := interned.settled settled
  unfold State.begin
  apply after.calls
  · intro call holder found
    rw [IndexMap.get?_insert] at found
    split at found
    · next same =>
      cases found
      exact ⟨settled.here, same ▸ Nat.lt_succ_self _⟩
    · exact ⟨after.stands call holder found, Nat.lt_succ_of_lt (after.begun call holder found)⟩
  · intro one other first second here there holds held same
    rw [IndexMap.get?_insert] at here there
    split at here
    · cases here
      cases holds
    · split at there
      · cases there
        cases held
      · exact after.guards one other first second here there holds held same

omit [DecidableEq κ] in
theorem not_isLocked (free : state.isLocked lock = false) {call : ℕ} {holder : Call κ}
    (found : state.calls.get? call = some holder) (same : holder.lock = lock) :
    holder.phase ≠ .holding := by
  intro holds
  have member : holder ∈ state.calls.values := IndexMap.mem_values_iff.2 ⟨call, found⟩
  have unlocked := List.any_eq_false.1 free holder member
  exact unlocked (decide_eq_true ⟨same, holds⟩)

theorem Interned.acquire (interned : Interned entity state) (call : ℕ) :
    Interned entity (state.acquire call) := by
  unfold State.acquire
  split
  · next waiting found =>
    split
    · next free =>
      apply interned.calls
      · intro other holder there
        rw [IndexMap.get?_insert] at there
        split at there
        · next same =>
          cases there
          exact ⟨interned.stands call waiting found, same ▸ interned.begun call waiting found⟩
        · exact ⟨interned.stands other holder there, interned.begun other holder there⟩
      · intro one other first second here there holds held same
        rw [IndexMap.get?_insert] at here there
        split at here
        · next one_is =>
          split at there
          · next other_is => rw [one_is, other_is]
          · cases here
            exact absurd held (not_isLocked free.2 there same.symm)
        · split at there
          · cases there
            exact absurd holds (not_isLocked free.2 here same)
          · exact interned.guards one other first second here there holds held same
    · exact interned
  · exact interned

theorem Interned.release (interned : Interned entity state) (call : ℕ) (phase : Phase) :
    Interned entity (state.release call phase) := by
  unfold State.release
  split
  · split
    · apply interned.calls
      · intro other holder there
        have found := IndexMap.get?_of_shiftRemove there
        exact ⟨interned.stands other holder found, interned.begun other holder found⟩
      · intro one other first second here there
        exact interned.guards one other first second (IndexMap.get?_of_shiftRemove here)
          (IndexMap.get?_of_shiftRemove there)
    · exact interned
  · exact interned

theorem Interned.step (interned : Interned entity state) (action : Action κ ρ) :
    Interned entity (state.step entity action) := by
  cases action with
  | lock id => exact interned.begin id
  | acquire call => exact interned.acquire call
  | cancel call => exact interned.release call .waiting
  | dropGuard call => exact interned.release call .holding
  | intern id request =>
    obtain ⟨lock, settled⟩ :
        ∃ lock, Settled entity state (state.internAuthority entity id request).2 id lock :=
      internAuthority_settled
    exact interned.settled settled

variable (entity) in
theorem interned_run (actions : List (Action κ ρ)) :
    Interned entity (Schedule.run (State.step entity) (State.empty : State κ α) actions) :=
  Schedule.run_preserves interned_empty (fun _ action interned => interned.step action) actions

theorem Interned.one_holder (interned : Interned entity state) {one another : ℕ}
    (holds : state.Holds one id) (held : state.Holds another id) : one = another := by
  obtain ⟨lock, here⟩ := holds
  obtain ⟨other, there⟩ := held
  apply interned.guards one another _ _ here there rfl rfl
  have stands := interned.stands _ _ here
  rw [interned.stands _ _ there] at stands
  exact (Option.some.inj stands).symm

/-! ## Projects and threads -/

/-- At most one caller holds the lifecycle guard of a project, and at most one the owner guard of
a thread, after any interleaving of lookups, acquisitions, cancelled waits, dropped guards and
publications. -/
theorem lifecycle_and_owner_locks_are_exclusive :
    (∀ (actions : List (Action ProjectId Unit)) (project : ProjectId) (one another : ℕ),
        (Schedule.run (State.step projects) State.empty actions).Holds one project →
        (Schedule.run (State.step projects) State.empty actions).Holds another project →
        one = another)
      ∧ ∀ (actions : List (Action ThreadId ProjectId)) (thread : ThreadId) (one another : ℕ),
          (Schedule.run (State.step threads) State.empty actions).Holds one thread →
          (Schedule.run (State.step threads) State.empty actions).Holds another thread →
          one = another := by
  constructor
  · intro actions project one another
    exact (interned_run projects actions).one_holder
  · intro actions thread one another
    exact (interned_run threads actions).one_holder

/-- The first caller of an unpublished id keeps the second one out, through the publication. -/
theorem lifecycle_and_owner_locks_are_exclusive_sample :
    ¬(Schedule.run (State.step projects) State.empty
        [.lock ⟨⟨1⟩⟩, .acquire 0, .intern ⟨⟨1⟩⟩ (), .lock ⟨⟨1⟩⟩, .acquire 1]).Holds 1 ⟨⟨1⟩⟩
      ∧ ¬(Schedule.run (State.step threads) State.empty
          [.lock ⟨⟨2⟩⟩, .acquire 0, .intern ⟨⟨2⟩⟩ ⟨⟨1⟩⟩, .lock ⟨⟨2⟩⟩, .acquire 1]).Holds 1
            ⟨⟨2⟩⟩ := by
  constructor
  · intro holds
    have same := lifecycle_and_owner_locks_are_exclusive.1 _ _ 0 1 ⟨0, rfl⟩ holds
    cases same
  · intro holds
    have same := lifecycle_and_owner_locks_are_exclusive.2 _ _ 0 1 ⟨0, rfl⟩ holds
    cases same

end Giskard.EntityLocks
