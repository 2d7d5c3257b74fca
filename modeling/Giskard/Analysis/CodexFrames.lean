import Mathlib
import Giskard.Analysis.CodexMapping

/-!
# What a Codex notification leaves

No notification binds a native thread or answers an approval. A server request is dropped only when
one is resolved, and what is known of a turn changes only with what tells of one.
-/

set_option autoImplicit false

namespace Giskard.Codex

open Foundation (IndexMap Fallible)

/-! ## What a notification leaves -/

/-- Routes that bind the same threads. -/
structure SameThreads (before after : NativeThreadRoutes) : Prop where
  byNative : ∀ native, (after.byNative.get? native).map NativeRoute.threadId =
    (before.byNative.get? native).map NativeRoute.threadId
  nativeByThread : after.nativeByThread = before.nativeByThread
  nextEpoch : after.nextEpoch = before.nextEpoch

/-- What every notification leaves of a mapper, the server requests unless `requests` fails, and
what is known of its turns unless `turns` fails. -/
structure Kept (env : MapperEnv) (requests turns : Prop) (before after : CodexMapper) : Prop where
  routes : SameThreads before.routes after.routes
  pendingApprovalResponses : after.pendingApprovalResponses = before.pendingApprovalResponses
  pendingServerRequests : requests → after.pendingServerRequests = before.pendingServerRequests
  turns : turns → after.turns = before.turns ∧ after.activeTurns = before.activeTurns
  minted_le : before.minted ≤ after.minted
  turnIds_grow : ∀ key turn, before.turnIds.get? key = some turn →
    after.turnIds.get? key = some turn
  apart : TurnIdsApart env before → TurnIdsApart env after

section Frames

open Foundation.Fallible (Frames)

variable {env : MapperEnv} {requests turns : Prop} {α β : Type} {m : Mapping α}
  {f : α → Mapping β} {fallback : ThreadId}

instance : Std.Refl (Kept env requests turns) where
  refl _ := ⟨⟨fun _ => rfl, rfl, rfl⟩, rfl, fun _ => rfl, fun _ => ⟨rfl, rfl⟩, le_refl _,
    fun _ _ found => found, id⟩

instance : IsTrans CodexMapper (Kept env requests turns) where
  trans _ _ _ first second :=
    { routes := {
        byNative := fun native =>
          (second.routes.byNative native).trans (first.routes.byNative native)
        nativeByThread := second.routes.nativeByThread.trans first.routes.nativeByThread
        nextEpoch := second.routes.nextEpoch.trans first.routes.nextEpoch }
      pendingApprovalResponses :=
        second.pendingApprovalResponses.trans first.pendingApprovalResponses
      pendingServerRequests := fun kept =>
        (second.pendingServerRequests kept).trans (first.pendingServerRequests kept)
      turns := fun kept =>
        ⟨(second.turns kept).1.trans (first.turns kept).1,
          (second.turns kept).2.trans (first.turns kept).2⟩
      minted_le := first.minted_le.trans second.minted_le
      turnIds_grow := fun key turn found =>
        second.turnIds_grow key turn (first.turnIds_grow key turn found)
      apart := second.apart ∘ first.apart }

theorem Drawn.kept {before after : CodexMapper} (drawn : Drawn env before after) :
    Kept env requests turns before after where
  routes := by
    rw [drawn.routes]
    exact ⟨fun _ => rfl, rfl, rfl⟩
  pendingApprovalResponses := drawn.pendingApprovalResponses
  pendingServerRequests := fun _ => drawn.pendingServerRequests
  turns := fun _ => ⟨drawn.turns, drawn.activeTurns⟩
  minted_le := drawn.minted_le
  turnIds_grow := drawn.turnIds_grow
  apart := drawn.apart

theorem Draws.frames (draws : Draws env m) : Frames (Kept env requests turns) m := by
  intro mapper
  obtain ⟨a, next, ok, drawn⟩ := draws mapper
  rw [ok]
  exact drawn.kept

theorem frames_other {change : CodexMapper → CodexMapper}
    (same : ∀ mapper, ∃ parents commands running previews, change mapper =
      { mapper with
        nativeParents := parents
        runningCommandTurns := commands
        runningCommands := running
        fileChangePreviews := previews }) :
    Frames (Kept env requests turns) (Fallible.modify change : Mapping Unit) := by
  intro mapper
  obtain ⟨parents, commands, running, previews, same⟩ := same mapper
  show Kept env requests turns mapper (change mapper)
  rw [same]
  exact ⟨⟨fun _ => rfl, rfl, rfl⟩, rfl, fun _ => rfl, fun _ => ⟨rfl, rfl⟩, le_refl _,
    fun _ _ found => found, id⟩

theorem frames_turns {change : CodexMapper → CodexMapper} (told : ¬ turns)
    (same : ∀ mapper, ∃ states active previews, change mapper =
      { mapper with turns := states, activeTurns := active, fileChangePreviews := previews }) :
    Frames (Kept env requests turns) (Fallible.modify change : Mapping Unit) := by
  intro mapper
  obtain ⟨states, active, previews, same⟩ := same mapper
  show Kept env requests turns mapper (change mapper)
  rw [same]
  exact ⟨⟨fun _ => rfl, rfl, rfl⟩, rfl, fun _ => rfl, fun kept => absurd kept told, le_refl _,
    fun _ _ found => found, id⟩

theorem resolveThread_frames (native : String) :
    Frames (Kept env requests turns) (resolveThread native fallback) := .check _

theorem frames_turn {native turnId : String} {f : ThreadId → TurnId → Mapping β}
    (rest : ∀ thread turn, Frames (Kept env requests turns) (f thread turn)) :
    Frames (Kept env requests turns) (resolveThread native fallback >>= fun thread =>
      resolveTurn env thread turnId >>= f thread) :=
  (resolveThread_frames native).bind fun thread =>
    (resolveTurn_draws thread turnId).frames.bind fun turn => rest thread turn

theorem mapTextDelta_frames (delta : TextDelta) :
    Frames (Kept env requests turns) (mapTextDelta env delta fallback) := by
  unfold mapTextDelta
  split
  · exact .pure _
  · exact frames_turn fun thread turn =>
      (resolveItem_draws thread turn _).frames.bind fun item => .pure _

theorem mapTurnCompleted_frames (told : ¬ turns) (threadId turnId : String) (status : TurnStatus) :
    Frames (Kept env requests turns) (mapTurnCompleted env threadId turnId status fallback) := by
  refine (resolveThread_frames threadId).bind fun thread => ?_
  refine (frames_turns told fun mapper => ?_).bind fun _ => ?_
  · split <;> exact ⟨_, _, _, rfl⟩
  · refine (Frames.get _).bind fun usage => ?_
    refine (frames_turns told fun mapper => ⟨_, _, _, rfl⟩).bind fun _ => ?_
    refine (resolveTurn_draws thread turnId).frames.bind fun turn => ?_
    exact (frames_turns told fun mapper => ⟨_, _, _, rfl⟩).bind fun _ => .pure _

theorem mapTokenUsage_frames (told : ¬ turns) (threadId turnId : String) (last : TokenUsage)
    (window : Option ℤ) :
    Frames (Kept env requests turns)
      (mapTokenUsage env threadId turnId last window fallback) := by
  refine (resolveThread_frames threadId).bind fun thread => ?_
  dsimp only
  split
  · exact .pure _
  · refine (Frames.get _).bind fun active => ?_
    split
    · exact .pure _
    · refine (Frames.get _).bind fun updated => ?_
      refine (frames_turns told fun mapper => ⟨_, _, _, rfl⟩).bind fun _ => ?_
      split
      · exact (resolveTurn_draws thread turnId).frames.bind fun turn => .pure _
      · exact .pure _

theorem mapItemStarted_frames (threadId turnId : String) (item : StartedItem) :
    Frames (Kept env requests turns) (mapItemStarted env threadId turnId item fallback) := by
  refine frames_turn fun thread turn => ?_
  refine (frames_other fun mapper => ?_).bind fun _ => ?_
  · split <;> exact ⟨_, _, _, _, rfl⟩
  · refine (frames_other fun mapper => ?_).bind fun _ => ?_
    · split <;> exact ⟨_, _, _, _, rfl⟩
    · refine (resolveItem_draws thread turn _).frames.bind fun id => ?_
      refine (frames_other fun mapper => ?_).bind fun _ => .pure _
      obtain ⟨commands, running, same⟩ := trackCommandStart_same item.harnessItemId item.command
        thread turn turnId mapper
      exact ⟨_, _, _, _, same⟩

theorem mapItemCompleted_frames (threadId turnId : String) (item : CompletedItem) :
    Frames (Kept env requests turns) (mapItemCompleted env threadId turnId item fallback) := by
  refine frames_turn fun thread turn => ?_
  refine (resolveItem_draws thread turn _).frames.bind fun id => ?_
  refine (frames_other fun mapper => ?_).bind fun _ => ?_
  · split <;> exact ⟨_, _, _, _, rfl⟩
  · refine (frames_other fun mapper => ?_).bind fun _ => .pure _
    obtain ⟨commands, running, same⟩ := trackCompletedItem_same item.harnessItemId item.payload
      thread turn turnId mapper
    exact ⟨_, _, _, _, same⟩

theorem activityEvent_frames (thread : ThreadId) (turn : TurnId) (item title detail : String)
    («meta» : Option Foundation.Json) :
    Frames (Kept env requests turns) (activityEvent env thread turn item title detail «meta»)
    := (resolveItem_draws thread turn item).frames.bind fun id => .pure _

/-- The notifications that say how far a turn is. -/
def Notification.tellsTurn : Notification → Bool
  | .turnStarted _ _ | .turnCompleted _ _ _ | .threadTokenUsageUpdated _ _ _ _ => true
  | _ => false

/-- The request that a notification resolves. -/
def Notification.resolved : Notification → Option RequestId
  | .serverRequestResolved _ id => some id
  | _ => none

/-- The approvals stay; the server requests change only when one is resolved, and what is known of
the turns only with what tells of one. -/
theorem tryMapNotification_frames (notification : Notification) :
    Frames (Kept env (notification.resolved = none) (notification.tellsTurn = false))
      (tryMapNotification env notification fallback) := by
  cases notification with
  | turnStarted threadId turnId =>
    refine (resolveThread_frames threadId).bind fun thread => ?_
    refine (frames_turns (by simp [Notification.tellsTurn]) fun mapper => ⟨_, _, _, rfl⟩).bind
      fun _ => (resolveTurn_draws thread turnId).frames.bind fun turn => .pure _
  | turnCompleted threadId turnId status =>
    exact mapTurnCompleted_frames (by simp [Notification.tellsTurn]) threadId turnId status
  | threadTokenUsageUpdated threadId turnId last window =>
    exact mapTokenUsage_frames (by simp [Notification.tellsTurn]) threadId turnId last window
  | itemStarted threadId turnId item => exact mapItemStarted_frames threadId turnId item
  | itemCompleted threadId turnId item => exact mapItemCompleted_frames threadId turnId item
  | agentMessageDelta delta => exact mapTextDelta_frames delta
  | cmdOutputDelta delta =>
    exact frames_turn fun thread turn =>
      (resolveItem_draws thread turn _).frames.bind fun item => .pure _
  | fileChangeOutputDelta delta => exact mapTextDelta_frames delta
  | fileChangePatchUpdated summary changes =>
    refine frames_turn fun thread turn => ?_
    exact (frames_other fun mapper => ⟨_, _, _, _, rfl⟩).bind fun _ => mapTextDelta_frames summary
  | reasoningDelta delta => exact mapTextDelta_frames delta
  | reasoningTextDelta delta => exact mapTextDelta_frames delta
  | planDelta delta => exact mapTextDelta_frames delta
  | mcpToolCallProgress delta => exact mapTextDelta_frames delta
  | reasoningSummaryPartAdded threadId turnId itemId =>
    exact frames_turn fun thread turn =>
      (resolveItem_draws thread turn _).frames.bind fun item => .pure _
  | turnDiffUpdated threadId turnId diff => exact frames_turn fun thread turn => .pure _
  | error threadId turnId willRetry message =>
    exact (resolveThread_frames threadId).bind fun thread =>
      (turnOf_draws thread _).frames.bind fun turn => .pure _
  | turnPlanUpdated threadId turnId detail «meta» =>
    exact frames_turn fun thread turn =>
      (activityEvent_frames thread turn _ _ _ _).bind fun event => .pure _
  | modelRerouted threadId turnId fromModel toModel «meta» =>
    exact frames_turn fun thread turn =>
      (activityEvent_frames thread turn _ _ _ _).bind fun event => .pure _
  | serverRequestResolved threadId requestId =>
    refine (resolveThread_frames threadId).bind fun thread => ?_
    refine (Frames.get _).bind fun turn => Frames.bind (.modify fun mapper => ?_) fun _ => .pure _
    exact ⟨⟨fun _ => rfl, rfl, rfl⟩, rfl, fun kept => (by cases kept), fun _ => ⟨rfl, rfl⟩,
      le_refl _, fun _ _ found => found, id⟩
  | threadClosed threadId =>
    refine (resolveThread_frames threadId).bind fun thread => ?_
    refine Frames.bind (.modify fun mapper => ?_) fun _ => .pure _
    refine ⟨⟨?_, ?_, ?_⟩, rfl, fun _ => rfl, fun _ => ⟨rfl, rfl⟩, le_refl _,
      fun _ _ found => found, id⟩
    · exact NativeThreadRoutes.threadId_setContextWindow mapper.routes threadId thread none
    · unfold NativeThreadRoutes.setContextWindow
      split <;> rfl
    · unfold NativeThreadRoutes.setContextWindow
      split <;> rfl
  | threadGoalUpdated threadId => exact (resolveThread_frames threadId).bind fun thread => .pure _
  | threadGoalCleared threadId => exact (resolveThread_frames threadId).bind fun thread => .pure _
  | threadQueueChanged threadId => exact (resolveThread_frames threadId).bind fun thread => .pure _
  | warning threadId message =>
    cases threadId with
    | some threadId => exact (resolveThread_frames threadId).bind fun thread => .pure _
    | none => exact .pure _
  | configWarning summary details => exact .pure _
  | guardianWarning threadId message =>
    exact (resolveThread_frames threadId).bind fun thread => .pure _
  | deprecationNotice summary details => exact .pure _
  | other method => exact .pure _

theorem registerActiveTurn_frames (told : ¬ turns) (thread : ThreadId) (native : String) :
    Frames (Kept env requests turns) (registerActiveTurn env thread native) := by
  unfold registerActiveTurn
  dsimp only
  split
  · exact .pure _
  · exact (frames_turns told fun mapper => ⟨_, _, _, rfl⟩).bind fun _ =>
      (resolveTurn_draws thread _).frames.bind fun turn => .pure _

theorem registerStartedTurn_frames (thread : ThreadId) (model : Option ModelRef)
    (native : String) :
    Frames (Kept env requests False) (CodexInstance.registerStartedTurn env thread model native) := by
  cases model with
  | none => exact registerActiveTurn_frames id thread native
  | some model =>
    refine (registerActiveTurn_frames id thread native).bind fun turn => ?_
    cases turn with
    | none => exact .pure _
    | some turn =>
      exact (frames_turns id fun mapper => ⟨_, _, _, rfl⟩).bind fun _ => .pure _

end Frames

end Giskard.Codex
