import Mathlib
import Giskard.Analysis.NativeRoutes
import Giskard.Analysis.CodexCommands

/-!
# What the mapper of a Codex worker looks up

Every message names at most one native thread that is looked up, and it is looked up first. So a
message either finds its thread and is mapped, or it fails and leaves the mapper as it was; and
the event that it is mapped to belongs to the thread it found.
-/

set_option autoImplicit false

namespace Giskard.Codex

open Foundation (IndexMap Fallible)
open Foundation.Fallible (Returns Gated)

/-! ## Drawing ids -/

/-- The ids of native turns are drawn, and no two turns have the same, as long as the draws differ. -/
def TurnIdsApart (env : MapperEnv) (mapper : CodexMapper) : Prop :=
  Set.InjOn env.ulid (Set.Iio mapper.minted) →
    (∀ key turn, mapper.turnIds.get? key = some turn →
      ∃ i < mapper.minted, turn = ⟨env.ulid i⟩) ∧
    ∀ key key' turn, mapper.turnIds.get? key = some turn → mapper.turnIds.get? key' = some turn →
      key = key'

/-- Two mappers that differ in the ids that were drawn between them. -/
structure Drawn (env : MapperEnv) (before after : CodexMapper) : Prop where
  same : after =
    { before with turnIds := after.turnIds, itemIds := after.itemIds, minted := after.minted }
  minted_le : before.minted ≤ after.minted
  turnIds_grow : ∀ key turn, before.turnIds.get? key = some turn →
    after.turnIds.get? key = some turn
  apart : TurnIdsApart env before → TurnIdsApart env after

namespace Drawn

variable {env : MapperEnv} {before middle after : CodexMapper}

theorem refl (mapper : CodexMapper) : Drawn env mapper mapper :=
  ⟨rfl, le_refl _, fun _ _ found => found, id⟩

theorem trans (first : Drawn env before middle) (second : Drawn env middle after) :
    Drawn env before after where
  same := by rw [second.same, first.same]
  minted_le := first.minted_le.trans second.minted_le
  turnIds_grow := fun key turn found => second.turnIds_grow key turn (first.turnIds_grow key turn found)
  apart := second.apart ∘ first.apart

theorem routes (drawn : Drawn env before after) : after.routes = before.routes := by
  rw [drawn.same]

theorem turns (drawn : Drawn env before after) : after.turns = before.turns := by
  rw [drawn.same]

theorem activeTurns (drawn : Drawn env before after) : after.activeTurns = before.activeTurns := by
  rw [drawn.same]

theorem pendingApprovalResponses (drawn : Drawn env before after) :
    after.pendingApprovalResponses = before.pendingApprovalResponses := by
  rw [drawn.same]

theorem pendingServerRequests (drawn : Drawn env before after) :
    after.pendingServerRequests = before.pendingServerRequests := by
  rw [drawn.same]

end Drawn

section Draws

variable {α β : Type} (env : MapperEnv)

/-- An operation that cannot fail and changes nothing but the drawn ids. -/
def Draws (m : Mapping α) : Prop :=
  ∀ mapper, ∃ a next, m mapper = (.ok a, next) ∧ Drawn env mapper next

variable {env} {m : Mapping α} {f : α → Mapping β}

theorem Draws.pure (a : α) : Draws env (Pure.pure a : Mapping α) :=
  fun mapper => ⟨a, mapper, rfl, .refl mapper⟩

theorem Draws.get (f : CodexMapper → α) : Draws env (Fallible.get f : Mapping α) :=
  fun mapper => ⟨f mapper, mapper, rfl, .refl mapper⟩

theorem Draws.bind (first : Draws env m) (rest : ∀ a, Draws env (f a)) : Draws env (m >>= f) := by
  intro mapper
  obtain ⟨a, middle, ok, drawn⟩ := first mapper
  obtain ⟨b, next, ok', drawn'⟩ := rest a middle
  exact ⟨b, next, by rw [Fallible.bind_ok ok, ok'], drawn.trans drawn'⟩

theorem TurnIdsApart.skip {mapper : CodexMapper} (apart : TurnIdsApart env mapper) :
    TurnIdsApart env { mapper with minted := mapper.minted + 1 } := by
  intro distinct
  have fewer : Set.Iio mapper.minted ⊆ Set.Iio (mapper.minted + 1) :=
    Set.Iio_subset_Iio (Nat.le_succ _)
  obtain ⟨drawn, injective⟩ := apart (distinct.mono fewer)
  refine ⟨?_, injective⟩
  intro key turn found
  obtain ⟨i, below, rfl⟩ := drawn key turn found
  exact ⟨i, Nat.lt_succ_of_lt below, rfl⟩

theorem Drawn.minted (mapper : CodexMapper) :
    Drawn env mapper { mapper with minted := mapper.minted + 1 } :=
  ⟨rfl, Nat.le_succ _, fun _ _ found => found, TurnIdsApart.skip⟩

theorem mint_draws : Draws env (mint env) :=
  fun mapper => ⟨_, _, rfl, .minted mapper⟩

/-- A turn that has no id yet gets the one that was drawn. -/
theorem Drawn.turn {mapper : CodexMapper} {key : NativeTurnKey}
    (absent : mapper.turnIds.get? key = none) :
    Drawn env mapper { mapper with
      turnIds := mapper.turnIds.insert key ⟨env.ulid mapper.minted⟩
      minted := mapper.minted + 1 } where
  same := rfl
  minted_le := Nat.le_succ _
  turnIds_grow := by
    intro other turn found
    have ne : other ≠ key := by
      rintro rfl
      rw [absent] at found
      cases found
    rw [IndexMap.get?_insert_of_ne _ ne]
    exact found
  apart := by
    intro apart distinct
    obtain ⟨drawn, injective⟩ := apart.skip distinct
    have new : ∀ other, mapper.turnIds.get? other ≠ some ⟨env.ulid mapper.minted⟩ := by
      intro other found
      have fewer : Set.Iio mapper.minted ⊆ Set.Iio (mapper.minted + 1) :=
        Set.Iio_subset_Iio (Nat.le_succ _)
      obtain ⟨i, below, same⟩ := (apart (distinct.mono fewer)).1 other _ found
      have last : mapper.minted = i := by
        refine distinct ?_ ?_ ?_
        · exact Set.mem_Iio.2 (Nat.lt_succ_self _)
        · exact Set.mem_Iio.2 (Nat.lt_succ_of_lt below)
        · exact congrArg TurnId.ulid same
      omega
    refine ⟨?_, ?_⟩
    · intro other turn found
      rw [IndexMap.get?_insert] at found
      split at found
      · cases found
        exact ⟨mapper.minted, Nat.lt_succ_self _, rfl⟩
      · exact drawn other turn found
    · intro one other turn found found'
      rw [IndexMap.get?_insert] at found found'
      split at found <;> split at found'
      · next here there => rw [here, there]
      · cases found
        exact absurd found' (new other)
      · cases found'
        exact absurd found (new one)
      · exact injective one other turn found found'

theorem resolveTurn_draws (thread : ThreadId) (native : String) :
    Draws env (resolveTurn env thread native) := by
  intro mapper
  unfold resolveTurn
  by_cases empty : native = ""
  · rw [if_pos empty]
    exact (mint_draws.bind fun ulid => .pure _) mapper
  · rw [if_neg empty]
    cases found : mapper.turnIds.get? ⟨thread, native⟩ with
    | some turn =>
      refine ⟨turn, mapper, ?_, .refl mapper⟩
      simp only [Fallible.bind_apply, Fallible.get, found, Fallible.pure_apply]
    | none =>
      refine ⟨⟨env.ulid mapper.minted⟩, _, ?_, .turn found⟩
      simp only [Fallible.bind_apply, Fallible.get, found]
      rfl

theorem Drawn.item (mapper : CodexMapper) (itemIds : IndexMap NativeItemKey ItemId) :
    Drawn env mapper { mapper with itemIds := itemIds, minted := mapper.minted + 1 } :=
  ⟨rfl, Nat.le_succ _, fun _ _ found => found, fun apart => apart.skip⟩

theorem resolveItem_draws (thread : ThreadId) (turn : TurnId) (native : String) :
    Draws env (resolveItem env thread turn native) := by
  intro mapper
  unfold resolveItem
  by_cases empty : native = ""
  · rw [if_pos empty]
    exact (mint_draws.bind fun ulid => .pure _) mapper
  · rw [if_neg empty]
    cases found : mapper.itemIds.get? ⟨thread, turn, native⟩ with
    | some item =>
      refine ⟨item, mapper, ?_, .refl mapper⟩
      simp only [Fallible.bind_apply, Fallible.get, found, Fallible.pure_apply]
    | none =>
      refine ⟨⟨env.ulid mapper.minted⟩, _, ?_, .item mapper
        (mapper.itemIds.insert ⟨thread, turn, native⟩ ⟨env.ulid mapper.minted⟩)⟩
      simp only [Fallible.bind_apply, Fallible.get, found]
      rfl

theorem activeTurnForThread_draws (thread : ThreadId) :
    Draws env (activeTurnForThread env thread) := by
  refine (Draws.get _).bind fun active => ?_
  cases active with
  | none => exact .pure _
  | some native => exact (resolveTurn_draws thread native).bind fun turn => .pure _

theorem explicitOrActiveTurn_draws (thread : ThreadId) (explicit : Option TurnId) :
    Draws env (explicitOrActiveTurn env thread explicit) := by
  cases explicit with
  | none => exact activeTurnForThread_draws thread
  | some turn => exact .pure _

theorem turnOf_draws (thread : ThreadId) (native : String) :
    Draws env (turnOf env thread native) := by
  unfold turnOf
  split
  · exact .pure _
  · exact (resolveTurn_draws thread native).bind fun turn => .pure _

end Draws

/-! ## Looking a thread up -/

/-- The thread that a message belongs to: the one its native thread is bound to, or the fallback. -/
def CodexMapper.Resolves (named : Option String) (fallback thread : ThreadId)
    (mapper : CodexMapper) : Prop :=
  match named with
  | some native => mapper.routes.resolve native fallback = .ok thread
  | none => thread = fallback

/-- What a message becomes: an event, if any, of the thread it belongs to. It says that a turn is
over when the message does. -/
def Mapped (named : Option String) (ends : Bool) (fallback : ThreadId)
    (result : Option AgentEvent) (mapper : CodexMapper) : Prop :=
  ∃ thread, mapper.Resolves named fallback thread ∧
    ∀ event ∈ result, event.threadId = thread ∧ isTurnCompleted event = ends

/-- The mapping of a message whose thread is looked up before anything else. -/
def LooksUp (named : Option String) (ends : Bool) (fallback : ThreadId)
    (m : Mapping (Option AgentEvent)) : Prop :=
  Gated (fun mapper => ∃ thread, mapper.Resolves named fallback thread)
    (NativeThreadId.trimmed (named.getD "")) (Mapped named ends fallback) m

section LookUp

variable {env : MapperEnv} {α β : Type} {named : Option String} {fallback thread : ThreadId}
  {native : String} {m : Mapping α} {f : α → Mapping β} {R : β → CodexMapper → Prop}
  {change : CodexMapper → CodexMapper} {ends : Bool}

theorem NativeThreadRoutes.resolve_cases (routes : NativeThreadRoutes) (native : String)
    (fallback : ThreadId) :
    (∃ thread, routes.resolve native fallback = .ok thread) ∨
      routes.resolve native fallback = .error (NativeThreadId.trimmed native) := by
  unfold NativeThreadRoutes.resolve
  dsimp only
  split
  · exact .inl ⟨fallback, rfl⟩
  · split
    · next route _ => exact .inl ⟨route.threadId, rfl⟩
    · split
      · exact .inl ⟨fallback, rfl⟩
      · exact .inr rfl

theorem resolveThread_gated (native : String) (fallback : ThreadId) :
    Gated (fun mapper : CodexMapper => ∃ thread, mapper.Resolves (some native) fallback thread)
      (NativeThreadId.trimmed native)
      (fun thread mapper => mapper.Resolves (some native) fallback thread)
      (resolveThread native fallback) where
  returns := by
    rintro mapper ⟨thread, found⟩
    exact ⟨thread, mapper, congrArg (·, mapper) found, found⟩
  fails := by
    intro mapper never
    rcases NativeThreadRoutes.resolve_cases mapper.routes native fallback with found | failed
    · exact absurd found never
    · exact congrArg (·, mapper) failed

theorem returns_draw (draws : Draws env m)
    (rest : ∀ a, Returns (CodexMapper.Resolves named fallback thread) R (f a)) :
    Returns (CodexMapper.Resolves named fallback thread) R (m >>= f) := by
  intro mapper found
  obtain ⟨a, next, ok, drawn⟩ := draws mapper
  rw [Fallible.bind_ok ok]
  refine rest a next ?_
  unfold CodexMapper.Resolves at found ⊢
  rwa [drawn.routes]

theorem returns_change {rest : Unit → Mapping β}
    (keeps : ∀ mapper, (change mapper).routes = mapper.routes)
    (returns : Returns (CodexMapper.Resolves named fallback thread) R (rest ())) :
    Returns (CodexMapper.Resolves named fallback thread) R
      (Fallible.modify change >>= rest) := by
  intro mapper found
  refine returns (change mapper) ?_
  unfold CodexMapper.Resolves at found ⊢
  rwa [keeps]

theorem returns_look {g : CodexMapper → α}
    (rest : ∀ a, Returns (CodexMapper.Resolves named fallback thread) R (f a)) :
    Returns (CodexMapper.Resolves named fallback thread) R (Fallible.get g >>= f) :=
  fun mapper found => rest (g mapper) mapper found

theorem returns_event {result : Option AgentEvent}
    (belongs : ∀ event ∈ result, event.threadId = thread ∧ isTurnCompleted event = ends) :
    Returns (CodexMapper.Resolves named fallback thread) (Mapped named ends fallback)
      (pure result : Mapping (Option AgentEvent)) :=
  Returns.pure fun _ found => ⟨thread, found, belongs⟩

theorem LooksUp.resolve {f : ThreadId → Mapping (Option AgentEvent)}
    (rest : ∀ thread, Returns (CodexMapper.Resolves (some native) fallback thread)
      (Mapped (some native) ends fallback) (f thread)) :
    LooksUp (some native) ends fallback (resolveThread native fallback >>= f) :=
  (resolveThread_gated native fallback).bind rest

theorem LooksUp.unnamed {f : Mapping (Option AgentEvent)}
    (returns : Returns (CodexMapper.Resolves none fallback fallback) (Mapped none ends fallback)
      f) : LooksUp none ends fallback f := by
  refine Gated.of_returns (fun mapper => ⟨fallback, rfl⟩) ?_
  rintro mapper ⟨thread, rfl⟩
  exact returns mapper rfl

end LookUp

/-! ## Notifications -/

/-- The native thread that a notification is looked up under. An empty piece of text is dropped
without a look. -/
def Notification.named : Notification → Option String
  | .turnStarted threadId _ | .turnCompleted threadId _ _ | .threadTokenUsageUpdated threadId _ _ _
  | .itemStarted threadId _ _ | .itemCompleted threadId _ _ | .reasoningSummaryPartAdded threadId _ _
  | .turnDiffUpdated threadId _ _ | .error threadId _ _ _ | .turnPlanUpdated threadId _ _ _
  | .modelRerouted threadId _ _ _ _ | .serverRequestResolved threadId _ | .threadClosed threadId
  | .threadGoalUpdated threadId | .threadGoalCleared threadId | .threadQueueChanged threadId
  | .guardianWarning threadId _ => some threadId
  | .cmdOutputDelta delta | .fileChangePatchUpdated delta _ => some delta.threadId
  | .agentMessageDelta delta | .fileChangeOutputDelta delta | .reasoningDelta delta
  | .reasoningTextDelta delta | .planDelta delta | .mcpToolCallProgress delta =>
    if delta.text = "" then none else some delta.threadId
  | .warning threadId _ => threadId
  | .configWarning _ _ | .deprecationNotice _ _ | .other _ => none

/-- The notification of a turn that is over. -/
def Notification.ends : Notification → Bool
  | .turnCompleted _ _ _ => true
  | _ => false

section NotificationLookUps

variable {env : MapperEnv} {fallback thread : ThreadId} {named : Option String}

theorem entries_eq_nil_iff {κ ν : Type} [DecidableEq κ] (map : IndexMap κ ν) :
    map.entries = [] ↔ ∀ key, map.get? key = none := by
  constructor
  · intro empty key
    rw [IndexMap.get?_eq_none, IndexMap.keys, empty]
    exact List.not_mem_nil
  · intro absent
    refine List.eq_nil_iff_forall_not_mem.2 ?_
    intro entry member
    exact IndexMap.get?_eq_none.1 (absent entry.1) (List.mem_map_of_mem member)

/-- Which thread a native thread is bound to is all that looking it up depends on. -/
theorem NativeThreadRoutes.resolve_congr {routes other : NativeThreadRoutes}
    (same : ∀ native, (other.byNative.get? native).map NativeRoute.threadId =
      (routes.byNative.get? native).map NativeRoute.threadId) (native : String) :
    other.resolve native fallback = routes.resolve native fallback := by
  have none_iff : ∀ native, other.byNative.get? native = none ↔
      routes.byNative.get? native = none := by
    intro native
    rw [← Option.map_eq_none_iff (f := NativeRoute.threadId), same, Option.map_eq_none_iff]
  have empty : other.byNative.entries = [] ↔ routes.byNative.entries = [] := by
    rw [entries_eq_nil_iff, entries_eq_nil_iff]
    exact forall_congr' none_iff
  unfold NativeThreadRoutes.resolve NativeThreadRoutes.routeForNative
  dsimp only
  split
  · rfl
  · next present =>
    have threads := same (NativeThreadId.trimmed (NativeThreadId.trimmed native).text)
    cases found : routes.byNative.get? (NativeThreadId.trimmed (NativeThreadId.trimmed native).text)
      with
    | none =>
      rw [(none_iff _).2 found]
      simp only [empty]
    | some route =>
      rw [found] at threads
      obtain ⟨known, there, eq⟩ := Option.map_eq_some_iff.1 threads
      rw [there]
      exact congrArg Except.ok eq

theorem NativeThreadRoutes.threadId_setContextWindow (routes : NativeThreadRoutes)
    (other : String) (owner : ThreadId) (value : Option UInt32) (native : NativeThreadId) :
    ((routes.setContextWindow other owner value).1.byNative.get? native).map
        NativeRoute.threadId = (routes.byNative.get? native).map NativeRoute.threadId := by
  unfold NativeThreadRoutes.setContextWindow
  split
  · rfl
  · next route kept =>
    dsimp only
    rw [IndexMap.get?_insert]
    split
    · next here =>
      subst here
      rw [(Option.filter_eq_some_iff.1 kept).1]
      rfl
    · rfl

theorem returns_textDelta (delta : TextDelta) :
    Returns (CodexMapper.Resolves (some delta.threadId) fallback thread)
      (Mapped (some delta.threadId) false fallback) (mapTextDelta env delta fallback) := by
  unfold mapTextDelta
  split
  · exact returns_event fun event none => by cases none
  · refine (Returns.bind (Q := fun found => CodexMapper.Resolves (some delta.threadId) fallback found) ?_ ?_)
    · intro mapper found
      exact (resolveThread_gated _ _).returns mapper ⟨thread, found⟩
    · intro thread
      refine returns_draw (resolveTurn_draws thread _) fun turn => ?_
      refine returns_draw (resolveItem_draws thread turn _) fun item => ?_
      exact returns_event fun event same => by cases same; exact ⟨rfl, rfl⟩

theorem mapTextDelta_looksUp (delta : TextDelta) :
    LooksUp (if delta.text = "" then none else some delta.threadId) false fallback
      (mapTextDelta env delta fallback) := by
  unfold mapTextDelta
  split
  · exact .unnamed (returns_event fun event none => by cases none)
  · refine .resolve fun thread => ?_
    refine returns_draw (resolveTurn_draws thread _) fun turn => ?_
    refine returns_draw (resolveItem_draws thread turn _) fun item => ?_
    exact returns_event fun event same => by cases same; exact ⟨rfl, rfl⟩

theorem mapTokenUsage_looksUp (threadId turnId : String) (last : TokenUsage) (window : Option ℤ) :
    LooksUp (some threadId) false fallback
      (mapTokenUsage env threadId turnId last window fallback) := by
  unfold mapTokenUsage
  refine .resolve fun thread => ?_
  split
  · exact returns_event fun event none => by cases none
  · refine returns_look fun active => ?_
    split
    · exact returns_event fun event none => by cases none
    · refine returns_look fun updated => ?_
      refine returns_change (fun mapper => rfl) ?_
      split
      · refine returns_draw (resolveTurn_draws thread _) fun turn => ?_
        exact returns_event fun event same => by cases same; exact ⟨rfl, rfl⟩
      · exact returns_event fun event none => by cases none

theorem mapTurnCompleted_looksUp (threadId turnId : String) (status : TurnStatus) :
    LooksUp (some threadId) true fallback
      (mapTurnCompleted env threadId turnId status fallback) := by
  unfold mapTurnCompleted
  refine .resolve fun thread => ?_
  refine returns_change (fun mapper => ?_) ?_
  · split <;> rfl
  · refine returns_look fun usage => ?_
    refine returns_change (fun mapper => rfl) ?_
    refine returns_draw (resolveTurn_draws thread _) fun turn => ?_
    refine returns_change (fun mapper => rfl) ?_
    exact returns_event fun event same => by cases same; exact ⟨rfl, rfl⟩

theorem trackCommandStart_same (item : String) (command : Option CommandExecutionStart)
    (thread : ThreadId) (turn : TurnId) (native : String) (mapper : CodexMapper) :
    ∃ commands turns, trackCommandStart item command thread turn native mapper =
      { mapper with runningCommands := commands, runningCommandTurns := turns } := by
  unfold trackCommandStart
  split
  · exact ⟨_, _, rfl⟩
  · split
    · dsimp only
      split
      · exact ⟨_, _, rfl⟩
      · exact ⟨_, _, rfl⟩
    · exact ⟨_, _, rfl⟩

theorem trackCompletedItem_same (item : String) (payload : ItemPayload)
    (thread : ThreadId) (turn : TurnId) (native : String) (mapper : CodexMapper) :
    ∃ commands turns, trackCompletedItem item payload thread turn native mapper =
      { mapper with runningCommands := commands, runningCommandTurns := turns } := by
  unfold trackCompletedItem
  split
  · split
    · dsimp only
      split
      · split
        · exact ⟨_, _, rfl⟩
        · exact ⟨_, _, rfl⟩
      · exact ⟨_, _, rfl⟩
    · dsimp only
      split
      · exact ⟨_, _, rfl⟩
      · exact ⟨_, _, rfl⟩
  · exact ⟨_, _, rfl⟩

theorem mapItemStarted_looksUp (threadId turnId : String) (item : StartedItem) :
    LooksUp (some threadId) false fallback (mapItemStarted env threadId turnId item fallback) := by
  unfold mapItemStarted
  refine .resolve fun thread => ?_
  refine returns_draw (resolveTurn_draws thread _) fun turn => ?_
  refine returns_change (fun mapper => by split <;> rfl) ?_
  refine returns_change (fun mapper => by split <;> rfl) ?_
  refine returns_draw (resolveItem_draws thread turn _) fun id => ?_
  refine returns_change (fun mapper => ?_) ?_
  · obtain ⟨commands, turns, same⟩ := trackCommandStart_same item.harnessItemId item.command thread
      turn turnId mapper
    rw [same]
  · exact returns_event fun event same => by cases same; exact ⟨rfl, rfl⟩

theorem mapItemCompleted_looksUp (threadId turnId : String) (item : CompletedItem) :
    LooksUp (some threadId) false fallback (mapItemCompleted env threadId turnId item fallback) := by
  unfold mapItemCompleted
  refine .resolve fun thread => ?_
  refine returns_draw (resolveTurn_draws thread _) fun turn => ?_
  refine returns_draw (resolveItem_draws thread turn _) fun id => ?_
  refine returns_change (fun mapper => by split <;> rfl) ?_
  refine returns_change (fun mapper => ?_) ?_
  · obtain ⟨commands, turns, same⟩ := trackCompletedItem_same item.harnessItemId item.payload thread
      turn turnId mapper
    rw [same]
  · exact returns_event fun event same => by cases same; exact ⟨rfl, rfl⟩

theorem activityEvent_draws (turn : TurnId) (item title detail : String)
    («meta» : Option Foundation.Json) :
    ∀ mapper, ∃ event next, activityEvent env thread turn item title detail «meta» mapper =
      (.ok event, next) ∧ Drawn env mapper next ∧ event.threadId = thread ∧
        isTurnCompleted event = false := by
  intro mapper
  obtain ⟨id, next, ok, drawn⟩ := resolveItem_draws thread turn item mapper
  unfold activityEvent
  rw [Fallible.bind_ok ok]
  exact ⟨_, next, rfl, drawn, rfl, rfl⟩

theorem activityEvent_returns (turn : TurnId) (item title detail : String)
    («meta» : Option Foundation.Json) :
    Returns (CodexMapper.Resolves named fallback thread) (Mapped named false fallback)
      (activityEvent env thread turn item title detail «meta» >>= fun event =>
        pure (some event)) := by
  intro mapper found
  obtain ⟨event, next, ok, drawn, belongs⟩ := @activityEvent_draws env thread turn item title
    detail «meta» mapper
  rw [Fallible.bind_ok ok]
  refine ⟨some event, next, rfl, thread, ?_, ?_⟩
  · unfold CodexMapper.Resolves at found ⊢
    rwa [drawn.routes]
  · rintro _ ⟨⟩
    exact belongs

theorem mapServerRequestResolved_looksUp (threadId : String) (requestId : RequestId) :
    LooksUp (some threadId) false fallback (mapServerRequestResolved threadId requestId fallback) := by
  unfold mapServerRequestResolved
  refine .resolve fun thread => ?_
  refine returns_look fun turn => ?_
  refine returns_change (fun mapper => rfl) ?_
  exact returns_event fun event same => by cases same; exact ⟨rfl, rfl⟩

theorem LooksUp.plain {native : String} {event : ThreadId → AgentEvent}
    (belongs : ∀ thread, (event thread).threadId = thread ∧
      isTurnCompleted (event thread) = false) :
    LooksUp (some native) false fallback
      (resolveThread native fallback >>= fun thread => pure (some (event thread))) :=
  .resolve fun thread => returns_event fun event same => by cases same; exact belongs thread

/-- Every notification is looked up before anything changes. -/
theorem tryMapNotification_looksUp (notification : Notification) (fallback : ThreadId) :
    LooksUp notification.named notification.ends fallback
      (tryMapNotification env notification fallback) := by
  cases notification with
  | turnStarted threadId turnId =>
    refine .resolve fun thread => ?_
    refine returns_change (fun mapper => rfl) ?_
    refine returns_draw (resolveTurn_draws thread _) fun turn => ?_
    exact returns_event fun event same => by cases same; exact ⟨rfl, rfl⟩
  | turnCompleted threadId turnId status => exact mapTurnCompleted_looksUp threadId turnId status
  | threadTokenUsageUpdated threadId turnId last window =>
    exact mapTokenUsage_looksUp threadId turnId last window
  | itemStarted threadId turnId item => exact mapItemStarted_looksUp threadId turnId item
  | itemCompleted threadId turnId item => exact mapItemCompleted_looksUp threadId turnId item
  | agentMessageDelta delta => exact mapTextDelta_looksUp delta
  | cmdOutputDelta delta =>
    refine .resolve fun thread => ?_
    refine returns_draw (resolveTurn_draws thread _) fun turn => ?_
    refine returns_draw (resolveItem_draws thread turn _) fun item => ?_
    exact returns_event fun event same => by cases same; exact ⟨rfl, rfl⟩
  | fileChangeOutputDelta delta => exact mapTextDelta_looksUp delta
  | fileChangePatchUpdated summary changes =>
    refine .resolve fun thread => ?_
    refine returns_draw (resolveTurn_draws thread _) fun turn => ?_
    exact returns_change (fun mapper => rfl) (returns_textDelta summary)
  | reasoningDelta delta => exact mapTextDelta_looksUp delta
  | reasoningTextDelta delta => exact mapTextDelta_looksUp delta
  | planDelta delta => exact mapTextDelta_looksUp delta
  | mcpToolCallProgress delta => exact mapTextDelta_looksUp delta
  | reasoningSummaryPartAdded threadId turnId itemId =>
    refine .resolve fun thread => ?_
    refine returns_draw (resolveTurn_draws thread _) fun turn => ?_
    refine returns_draw (resolveItem_draws thread turn _) fun item => ?_
    exact returns_event fun event none => by cases none
  | turnDiffUpdated threadId turnId diff =>
    refine .resolve fun thread => ?_
    refine returns_draw (resolveTurn_draws thread _) fun turn => ?_
    exact returns_event fun event same => by cases same; exact ⟨rfl, rfl⟩
  | error threadId turnId willRetry message =>
    refine .resolve fun thread => ?_
    refine returns_draw (turnOf_draws thread _) fun turn => ?_
    exact returns_event fun event same => by cases same; exact ⟨rfl, rfl⟩
  | turnPlanUpdated threadId turnId detail «meta» =>
    refine .resolve fun thread => ?_
    refine returns_draw (resolveTurn_draws thread _) fun turn => ?_
    exact activityEvent_returns turn _ _ _ _
  | modelRerouted threadId turnId fromModel toModel «meta» =>
    refine .resolve fun thread => ?_
    refine returns_draw (resolveTurn_draws thread _) fun turn => ?_
    exact activityEvent_returns turn _ _ _ _
  | serverRequestResolved threadId requestId =>
    exact mapServerRequestResolved_looksUp threadId requestId
  | threadClosed threadId =>
    refine .resolve fun thread => ?_
    refine Returns.bind (Q := fun _ => CodexMapper.Resolves (some threadId) fallback thread) ?_ ?_
    · refine Returns.modify fun mapper found => ?_
      have same := NativeThreadRoutes.threadId_setContextWindow mapper.routes threadId thread none
      exact (NativeThreadRoutes.resolve_congr same threadId).trans found
    · exact fun _ => returns_event fun event none => by cases none
  | threadGoalUpdated threadId => exact .plain fun thread => ⟨rfl, rfl⟩
  | threadGoalCleared threadId => exact .plain fun thread => ⟨rfl, rfl⟩
  | threadQueueChanged threadId => exact .plain fun thread => ⟨rfl, rfl⟩
  | warning threadId message =>
    cases threadId with
    | some threadId => exact .plain fun thread => ⟨rfl, rfl⟩
    | none => exact .unnamed (returns_event fun event same => by cases same; exact ⟨rfl, rfl⟩)
  | configWarning summary details =>
    exact .unnamed (returns_event fun event same => by cases same; exact ⟨rfl, rfl⟩)
  | guardianWarning threadId message => exact .plain fun thread => ⟨rfl, rfl⟩
  | deprecationNotice summary details =>
    exact .unnamed (returns_event fun event same => by cases same; exact ⟨rfl, rfl⟩)
  | other method => exact .unnamed (returns_event fun event none => by cases none)

end NotificationLookUps

end Giskard.Codex
