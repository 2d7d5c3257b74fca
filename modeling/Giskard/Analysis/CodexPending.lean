import Mathlib
import Giskard.Foundation.WaitingRoom
import Giskard.Analysis.CodexDiscovery

/-!
# A Codex request is answered at most once

The requests of the app-server wait in two maps under the text of their ids. What waits there was
received and is not answered; an answer removes it, and so does an interrupt. A notification that a
request was resolved removes it only from the second map, so an approval that was resolved can
still be answered. When no approval waits under a resolved id, no answer follows a resolution.
-/

set_option autoImplicit false

namespace Giskard.Codex

open Foundation (IndexMap Fallible WaitingRoom)

/-! ## What waits for an answer -/

/-- The request that an effect answers. -/
def WorkerEffect.answered : WorkerEffect → Option RequestId
  | .wrote id _ => some id
  | _ => none

/-- The ids of the responses that reached the app-server. -/
def CodexInstance.written (worker : CodexInstance) : List RequestId :=
  worker.effects.filterMap WorkerEffect.answered

/-- The ids of the requests that wait for an answer. -/
def CodexMapper.waiting (mapper : CodexMapper) : Set RequestId :=
  {id | (∃ key pending, mapper.pendingApprovalResponses.get? key = some pending ∧
      pending.requestId = id) ∨
    ∃ key pending, mapper.pendingServerRequests.get? key = some pending ∧ pending.requestId = id}

/-- Every request waits under the text of its id, and in one of the two maps. -/
structure Keyed (mapper : CodexMapper) : Prop where
  approvals : ∀ key pending, mapper.pendingApprovalResponses.get? key = some pending →
    key = ⟨requestIdToString pending.requestId⟩
  requests : ∀ key pending, mapper.pendingServerRequests.get? key = some pending →
    key = ⟨requestIdToString pending.requestId⟩
  apart : ∀ key pending key' pending', mapper.pendingApprovalResponses.get? key = some pending →
    mapper.pendingServerRequests.get? key' = some pending' →
    pending.requestId ≠ pending'.requestId

/-- What waits afterwards waited before. -/
structure Fewer (before after : CodexMapper) : Prop where
  approvals : ∀ key pending, after.pendingApprovalResponses.get? key = some pending →
    before.pendingApprovalResponses.get? key = some pending
  requests : ∀ key pending, after.pendingServerRequests.get? key = some pending →
    before.pendingServerRequests.get? key = some pending

section Waiting

variable {before middle after : CodexMapper}

theorem Fewer.refl (mapper : CodexMapper) : Fewer mapper mapper := ⟨fun _ _ => id, fun _ _ => id⟩

theorem Fewer.trans (first : Fewer before middle) (second : Fewer middle after) :
    Fewer before after where
  approvals := fun key pending found => first.approvals key pending (second.approvals key pending found)
  requests := fun key pending found => first.requests key pending (second.requests key pending found)

theorem Fewer.of_eq
    (approvals : after.pendingApprovalResponses = before.pendingApprovalResponses)
    (requests : after.pendingServerRequests = before.pendingServerRequests) :
    Fewer before after := by
  refine ⟨?_, ?_⟩
  · rw [approvals]
    exact fun _ _ => id
  · rw [requests]
    exact fun _ _ => id

theorem Fewer.waiting (fewer : Fewer before after) : after.waiting ⊆ before.waiting := by
  rintro id (⟨key, pending, found, same⟩ | ⟨key, pending, found, same⟩)
  · exact .inl ⟨key, pending, fewer.approvals key pending found, same⟩
  · exact .inr ⟨key, pending, fewer.requests key pending found, same⟩

theorem Fewer.keyed (fewer : Fewer before after) (keyed : Keyed before) : Keyed after where
  approvals := fun key pending found => keyed.approvals key pending (fewer.approvals key pending found)
  requests := fun key pending found => keyed.requests key pending (fewer.requests key pending found)
  apart := fun key pending key' pending' found found' =>
    keyed.apart key pending key' pending' (fewer.approvals key pending found)
      (fewer.requests key' pending' found')

theorem Keyed.approval_gone {key : ApprovalId} {pending : PendingApprovalResponse}
    (keyed : Keyed before) (fewer : Fewer before after)
    (found : before.pendingApprovalResponses.get? key = some pending)
    (gone : after.pendingApprovalResponses.get? key = none) :
    pending.requestId ∉ after.waiting := by
  rintro (⟨other, there, here, same⟩ | ⟨other, there, here, same⟩)
  · have one := keyed.approvals other there (fewer.approvals other there here)
    rw [same, ← keyed.approvals key pending found] at one
    rw [one, gone] at here
    cases here
  · exact keyed.apart key pending other there found (fewer.requests other there here) same.symm

theorem Keyed.request_gone {key : ServerRequestId} {pending : PendingServerRequest}
    (keyed : Keyed before) (fewer : Fewer before after)
    (found : before.pendingServerRequests.get? key = some pending)
    (gone : after.pendingServerRequests.get? key = none) :
    pending.requestId ∉ after.waiting := by
  rintro (⟨other, there, here, same⟩ | ⟨other, there, here, same⟩)
  · exact keyed.apart other there key pending (fewer.approvals other there here) found same
  · have one := keyed.requests other there (fewer.requests other there here)
    rw [same, ← keyed.requests key pending found] at one
    rw [one, gone] at here
    cases here

end Waiting

/-! ## Progress -/

/-- The worker's requests are keyed, and its answers are in order. -/
structure Answering (received resolved : List RequestId) (worker : CodexInstance) : Prop where
  keyed : Keyed worker.mapper
  room : WaitingRoom received resolved worker.mapper.waiting worker.written

/-- Requests are answered or dropped, and only those that are named. -/
structure Progress (received resolved : List RequestId) (names : RequestId → Prop)
    (before after : CodexInstance) : Prop where
  answering : Answering received resolved before → Answering received resolved after
  fewer : Fewer before.mapper after.mapper
  written : ∃ more, after.written = before.written ++ more ∧
    (Answering received resolved before → ∀ id ∈ more, names id ∧ id ∉ resolved)

namespace Progress

variable {received resolved : List RequestId} {names : RequestId → Prop}
  {before middle after worker : CodexInstance}

theorem idle (fewer : Fewer before.mapper after.mapper)
    (written : after.written = before.written) : Progress received resolved names before after where
  answering := fun sound => ⟨fewer.keyed sound.keyed, written ▸ sound.room.drop fewer.waiting⟩
  fewer := fewer
  written := ⟨[], by rw [written, List.append_nil], fun _ _ none => by cases none⟩

theorem refl (worker : CodexInstance) : Progress received resolved names worker worker :=
  idle (.refl _) rfl

theorem trans (first : Progress received resolved names before middle)
    (second : Progress received resolved names middle after) :
    Progress received resolved names before after where
  answering := second.answering ∘ first.answering
  fewer := first.fewer.trans second.fewer
  written := by
    obtain ⟨one, same, named⟩ := first.written
    obtain ⟨two, same', named'⟩ := second.written
    refine ⟨one ++ two, by rw [same', same, List.append_assoc], ?_⟩
    intro sound id member
    rcases List.mem_append.1 member with early | late
    · exact named sound id early
    · exact named' (first.answering sound) id late

theorem answer {id : RequestId} (fewer : Fewer before.mapper after.mapper)
    (waits : id ∈ before.mapper.waiting) (gone : Keyed before.mapper → id ∉ after.mapper.waiting)
    (named : names id) (written : after.written = before.written ++ [id]) :
    Progress received resolved names before after where
  answering := fun sound =>
    ⟨fewer.keyed sound.keyed,
      written ▸ sound.room.answer waits fewer.waiting (gone sound.keyed)⟩
  fewer := fewer
  written := by
    refine ⟨[id], written, ?_⟩
    intro sound other member
    rw [List.mem_singleton.1 member]
    exact ⟨named, sound.room.waiting_resolved id waits⟩

end Progress

/-! ## Steps that answer nothing -/

section Idle

variable {received resolved : List RequestId} {names : RequestId → Prop} {env : MapperEnv}
  {worker : CodexInstance}

theorem written_emit {effect : WorkerEffect} (silent : effect.answered = none) :
    (worker.emit effect).written = worker.written := by
  unfold CodexInstance.written CodexInstance.emit
  rw [List.filterMap_append, List.filterMap_cons_none silent, List.filterMap_nil, List.append_nil]

theorem Progress.broadcastEvent (worker : CodexInstance) (thread : ThreadId) (event : AgentEvent) :
    Progress received resolved names worker (worker.broadcastEvent thread event) := by
  unfold CodexInstance.broadcastEvent
  split
  · exact .idle (.refl _) (written_emit rfl)
  · exact .refl worker

theorem Progress.setMapper (worker : CodexInstance) {mapper : CodexMapper}
    (fewer : Fewer worker.mapper mapper) :
    Progress received resolved names worker (worker.setMapper mapper) :=
  .idle fewer rfl

theorem Progress.bindRoute (worker : CodexInstance)
    (result : NativeThreadRoutes × Except HarnessError NativeRoute) :
    Progress received resolved names worker (worker.bindRoute result).1 := by
  unfold CodexInstance.bindRoute
  dsimp only
  split
  · exact .idle (.of_eq rfl rfl) rfl
  · exact .idle (.of_eq rfl rfl) rfl

theorem OpeningActs.progress {crates : Crates} {replaced : NativeThreadId → Prop}
    {before after : CodexInstance} (acts : OpeningActs crates replaced before after) :
    Progress received resolved names before after := by
  refine acts.keep .refl Progress.trans fun act => ?_
  cases act with
  | claimed text owner => exact .bindRoute _ _
  | adopted text owner => exact .bindRoute _ _
  | replaced text owner may => exact .bindRoute _ _
  | configured text owner value => exact .idle (.of_eq rfl rfl) rfl
  | told owner running => exact .broadcastEvent _ owner _

theorem Kept.fewer {requests turns : Prop} {before after : CodexMapper}
    (kept : Kept env requests turns before after) (here : requests) : Fewer before after :=
  .of_eq kept.pendingApprovalResponses (kept.pendingServerRequests here)

theorem Progress.fallbackThread (worker : CodexInstance) (pick : ℕ) :
    Progress received resolved names worker (worker.fallbackThread env pick).1 := by
  unfold CodexInstance.fallbackThread
  dsimp only
  split
  · exact .refl worker
  · exact .setMapper worker (.of_eq rfl rfl)

theorem Progress.bindDiscovered (worker : CodexInstance) (native : NativeThreadId)
    (epoch : NativeRouteEpoch) :
    Progress received resolved names worker (worker.bindDiscovered env native epoch) :=
  .idle (.of_eq rfl rfl) (written_emit rfl)

theorem Maps.progress {α : Type} {named : Option String} {fallback : ThreadId} {map : Mapping α}
    {after : CodexInstance} {result : Option α}
    (maps : Maps env worker named fallback map after result)
    (fewer : ∀ mapper, Fewer mapper (map mapper).2) :
    Progress received resolved names worker after := by
  cases maps with
  | found found mapped =>
    have less := fewer worker.mapper
    rw [mapped] at less
    exact .setMapper worker less
  | @discovered text epoch result next name unknown fresh room present mapped _ =>
    have less := fewer (worker.bindDiscovered env (.trimmed text) epoch).mapper
    rw [mapped] at less
    exact (Progress.bindDiscovered worker _ epoch).trans (.setMapper _ less)
  | dropped unknown full => exact .setMapper worker (.of_eq rfl rfl)

theorem Fewer.shiftRemove (mapper : CodexMapper) (key : ServerRequestId) :
    Fewer mapper { mapper with
      pendingServerRequests := mapper.pendingServerRequests.shiftRemove key } :=
  ⟨fun _ _ => id, fun _ _ found => IndexMap.get?_of_shiftRemove found⟩

theorem tryMapNotification_fewer (notification : Notification) (fallback : ThreadId)
    (mapper : CodexMapper) :
    Fewer mapper (tryMapNotification env notification fallback mapper).2 := by
  have kept := @tryMapNotification_frames env fallback notification mapper
  cases resolves : notification.resolved with
  | none => exact kept.fewer resolves
  | some id =>
    cases notification with
    | serverRequestResolved threadId requestId =>
      show Fewer mapper (mapServerRequestResolved threadId requestId fallback mapper).2
      unfold mapServerRequestResolved
      rcases NativeThreadRoutes.resolve_cases mapper.routes threadId fallback with ⟨thread, found⟩ | none
      · have ok : resolveThread threadId fallback mapper = (.ok thread, mapper) :=
          congrArg (·, mapper) found
        rw [Fallible.bind_ok ok]
        exact .shiftRemove mapper _
      · have failed : resolveThread threadId fallback mapper = (.error _, mapper) :=
          congrArg (·, mapper) none
        rw [Fallible.bind_error failed]
        exact .refl mapper
    | _ => cases resolves

theorem Progress.mapNotification (worker : CodexInstance) (notification : Notification)
    (pick : ℕ) :
    Progress received resolved names worker
      (worker.mapMessage env (.notification notification) pick).1 :=
  (Progress.fallbackThread worker pick).trans
    ((mapMessage_maps worker _ pick).progress (tryMapNotification_fewer notification _))

theorem clearActiveTurnIfMatches_fewer (thread : ThreadId) (turn : TurnId) (mapper : CodexMapper) :
    Fewer mapper (mapper.clearActiveTurnIfMatches thread turn) := by
  unfold CodexMapper.clearActiveTurnIfMatches
  split
  · split
    · exact .of_eq rfl rfl
    · exact .refl mapper
  · exact .refl mapper

theorem Progress.handleEvent (worker : CodexInstance) (fatal : Option String)
    (event : AgentEvent) :
    Progress received resolved names worker (worker.handleEvent fatal event) := by
  have marked : Progress received resolved names worker (worker.markTurnStarted event) := by
    unfold CodexInstance.markTurnStarted
    split
    · split
      · exact .idle (.refl _) rfl
      · exact .refl worker
    · exact .refl worker
  have told : Progress received resolved names worker _ :=
    marked.trans (.broadcastEvent _ event.threadId event)
  unfold CodexInstance.handleEvent
  dsimp only
  split
  · exact told.trans (.idle (clearActiveTurnIfMatches_fewer _ _ _) rfl)
  · exact told.trans ((Progress.broadcastEvent _ _ _).trans (.idle (.of_eq rfl rfl) rfl))
  · exact told

theorem Progress.notified (worker : CodexInstance) (notification : Notification) (pick : ℕ) :
    Progress received resolved names (worker.mapMessage env (.notification notification) pick).1
      (worker.handleNotification env notification pick) := by
  show Progress received resolved names _
    (.afterNotification notification (worker.mapMessage env (.notification notification) pick))
  unfold CodexInstance.afterNotification
  split
  · next after event same =>
    rw [same]
    exact .handleEvent _ _ _
  · next after result _ same =>
    rw [same]
    exact .refl _

theorem Progress.handleNotification (worker : CodexInstance) (notification : Notification)
    (pick : ℕ) :
    Progress received resolved names worker (worker.handleNotification env notification pick) :=
  (Progress.mapNotification worker notification pick).trans (.notified worker notification pick)

end Idle

/-! ## Answers -/

section Answers

variable {received resolved : List RequestId} {names : RequestId → Prop} {env : MapperEnv}
  {worker : CodexInstance} {writes : RequestId → Bool}

theorem written_respond {id : RequestId} (body : ApprovalResponseBody) (reaches : writes id = true) :
    (worker.respond writes id body).written = worker.written ++ [id] := by
  unfold CodexInstance.respond CodexInstance.written CodexInstance.emit
  rw [if_pos reaches, List.filterMap_append]
  rfl

theorem respond_unwritten {id : RequestId} (body : ApprovalResponseBody)
    (fails : ¬ writes id = true) : worker.respond writes id body = worker := by
  unfold CodexInstance.respond
  rw [if_neg fails]

theorem prepareApprovalResponse_ok {mapper : CodexMapper} {key : ApprovalId}
    {decision : ApprovalDecision} {prepared : PreparedApprovalResponse}
    (ok : mapper.prepareApprovalResponse key decision = .ok prepared) :
    ∃ pending, mapper.pendingApprovalResponses.get? key = some pending ∧
      prepared.requestId = pending.requestId ∧
      mapper.removeExactApprovalResponse prepared =
        { mapper with
          pendingApprovalResponses := mapper.pendingApprovalResponses.shiftRemove key } := by
  unfold CodexMapper.prepareApprovalResponse at ok
  split at ok
  · cases ok
  · next pending found =>
    cases ok
    refine ⟨pending, found, rfl, ?_⟩
    unfold CodexMapper.removeExactApprovalResponse
    rw [found]
    exact if_pos rfl

theorem Progress.answerApproval {key : ApprovalId} {pending : PendingApprovalResponse}
    (found : worker.mapper.pendingApprovalResponses.get? key = some pending)
    (named : names pending.requestId) (body : ApprovalResponseBody)
    (reaches : writes pending.requestId = true) :
    Progress received resolved names worker
      ((worker.respond writes pending.requestId body).setMapper { worker.mapper with
        pendingApprovalResponses :=
          worker.mapper.pendingApprovalResponses.shiftRemove key }) := by
  have fewer : Fewer worker.mapper { worker.mapper with
      pendingApprovalResponses := worker.mapper.pendingApprovalResponses.shiftRemove key } :=
    ⟨fun _ _ found => IndexMap.get?_of_shiftRemove found, fun _ _ => id⟩
  refine .answer fewer (.inl ⟨key, pending, found, rfl⟩) ?_ named (written_respond body reaches)
  intro keyed
  refine keyed.approval_gone fewer found ?_
  exact (IndexMap.get?_shiftRemove _ _ _).trans (if_pos rfl)

theorem Progress.respondApproval {key : ApprovalId} {decision : ApprovalDecision}
    (named : ∀ pending, worker.mapper.pendingApprovalResponses.get? key = some pending →
      names pending.requestId) :
    Progress received resolved names worker (worker.respondApproval key decision writes).1 := by
  unfold CodexInstance.respondApproval
  split
  · exact .refl worker
  · next prepared ok =>
    obtain ⟨pending, found, same, removed⟩ := prepareApprovalResponse_ok ok
    split
    · next reaches =>
      rw [removed]
      rw [same] at reaches ⊢
      exact .answerApproval found (named pending found) _ reaches
    · exact .refl worker

theorem Progress.cancelApproval {key : ApprovalId}
    (named : ∀ pending, worker.mapper.pendingApprovalResponses.get? key = some pending →
      names pending.requestId) :
    Progress received resolved names worker (worker.cancelApproval writes key) := by
  unfold CodexInstance.cancelApproval
  split
  · exact .refl worker
  · next prepared ok =>
    obtain ⟨pending, found, same, removed⟩ := prepareApprovalResponse_ok ok
    rw [removed, same]
    by_cases reaches : writes pending.requestId = true
    · exact .answerApproval found (named pending found) _ reaches
    · rw [respond_unwritten _ reaches]
      exact .setMapper worker ⟨fun _ _ found => IndexMap.get?_of_shiftRemove found, fun _ _ => id⟩

theorem Progress.respondServerRequest {key : ServerRequestId} {response : ServerRequestResponse}
    (named : ∀ pending, worker.mapper.pendingServerRequests.get? key = some pending →
      names pending.requestId) :
    Progress received resolved names worker
      (worker.respondServerRequest key response writes).1 := by
  unfold CodexInstance.respondServerRequest CodexMapper.pendingServerRequest
  cases found : worker.mapper.pendingServerRequests.get? key with
  | none => exact .refl worker
  | some pending =>
    dsimp only
    split
    · next reaches =>
      have fewer := Fewer.shiftRemove worker.mapper key
      have removed : worker.mapper.resolveServerRequest key pending.requestId =
          { worker.mapper with
            pendingServerRequests := worker.mapper.pendingServerRequests.shiftRemove key } := by
        unfold CodexMapper.resolveServerRequest
        rw [found]
        exact if_pos rfl
      rw [removed]
      refine Progress.trans ?_ (.broadcastEvent _ _ _)
      refine .answer fewer (.inr ⟨key, pending, found, rfl⟩) ?_ (named pending found)
        (written_respond _ reaches)
      intro keyed
      refine keyed.request_gone fewer found ?_
      exact (IndexMap.get?_shiftRemove _ _ _).trans (if_pos rfl)
    · exact .refl worker

theorem Progress.foldl {ι : Type} {step : CodexInstance → ι → CodexInstance} {list : List ι}
    (each : ∀ state, ∀ i ∈ list, Fewer worker.mapper state.mapper →
      Progress received resolved names state (step state i)) :
    Progress received resolved names worker (list.foldl step worker) := by
  have general : ∀ (rest : List ι) (state : CodexInstance), rest ⊆ list →
      Progress received resolved names worker state →
      Progress received resolved names worker (rest.foldl step state) := by
    intro rest
    induction rest with
    | nil => exact fun state _ progress => progress
    | cons i rest ih =>
      intro state inside progress
      refine ih (step state i) (List.subset_of_cons_subset inside) (progress.trans ?_)
      exact each state i (inside List.mem_cons_self) progress.fewer
  exact general list worker (fun _ => id) (.refl worker)

/-- What waits for a thread. -/
def CodexMapper.waitsFor (mapper : CodexMapper) (thread : ThreadId) (id : RequestId) : Prop :=
  (∃ key pending, mapper.pendingApprovalResponses.get? key = some pending ∧
      pending.thread = thread ∧ pending.requestId = id) ∨
    ∃ key pending, mapper.pendingServerRequests.get? key = some pending ∧
      pending.thread = thread ∧ pending.requestId = id

theorem Progress.rejectPendingRequests (worker : CodexInstance) (thread : ThreadId) :
    Progress received resolved (worker.mapper.waitsFor thread) worker
      (worker.rejectPendingRequests thread writes) := by
  unfold CodexInstance.rejectPendingRequests
  dsimp only
  have cancelled : Progress received resolved (worker.mapper.waitsFor thread) worker
      ((worker.mapper.pendingApprovalIdsForThread thread).foldl
        (fun worker id => worker.cancelApproval writes id) worker) := by
    refine .foldl fun state key listed fewer => .cancelApproval fun pending found => ?_
    obtain ⟨⟨_, owner⟩, entry, rfl⟩ := List.mem_map.1 listed
    obtain ⟨there, same⟩ := List.mem_filter.1 entry
    have one := fewer.approvals _ pending found
    rw [IndexMap.get?_eq_some.2 there] at one
    cases one
    exact .inl ⟨_, pending, IndexMap.get?_eq_some.2 there, of_decide_eq_true same, rfl⟩
  refine cancelled.trans (.foldl fun state key listed fewer => .respondServerRequest
    fun pending found => ?_)
  obtain ⟨⟨_, owner⟩, entry, rfl⟩ := List.mem_map.1 listed
  obtain ⟨there, same⟩ := List.mem_filter.1 entry
  have one := cancelled.fewer.requests _ pending (fewer.requests _ pending found)
  rw [IndexMap.get?_eq_some.2 there] at one
  cases one
  exact .inr ⟨_, pending, IndexMap.get?_eq_some.2 there, of_decide_eq_true same, rfl⟩

end Answers

/-! ## The steps of the worker -/

/-- The request that an input brings. -/
def WorkerInput.received : WorkerInput → Option RequestId
  | .serverMessage (.request id _) _ _ => some id
  | _ => none

/-- The request that an input resolves. -/
def WorkerInput.resolved : WorkerInput → Option RequestId
  | .serverMessage (.notification notification) _ _ => notification.resolved
  | _ => none

/-- The requests whose answer an input may call for: the one it brings, the one that waits under
the id it names, or those of the thread it interrupts. -/
def WorkerInput.Names (worker : CodexInstance) : WorkerInput → RequestId → Prop
  | .serverMessage (.request other _) _ _, id => id = other
  | .respondApproval key _ _, id => requestIdToString id = key.text ∧
      ∃ pending, worker.mapper.pendingApprovalResponses.get? key = some pending ∧
        pending.requestId = id
  | .respondServerRequest key _ _, id => requestIdToString id = key.text ∧
      ∃ pending, worker.mapper.pendingServerRequests.get? key = some pending ∧
        pending.requestId = id
  | .interrupt thread _ _, id => worker.mapper.waitsFor thread id
  | _, _ => False

/-- An input that resolves a request is mapped, and no approval waits with that request's id. -/
def CodexInstance.Resolving (env : MapperEnv) (worker : CodexInstance) (input : WorkerInput) :
    Prop :=
  ∀ notification pick writes id,
    input = .serverMessage (.notification notification) pick writes →
    notification.resolved = some id →
    ((∃ thread, worker.mapper.Resolves notification.named (worker.fallbackThread env pick).2 thread) ∨
      worker.CanBind env pick) ∧
    ∀ key pending, worker.mapper.pendingApprovalResponses.get? key = some pending →
      pending.requestId ≠ id

section Steps

variable {received resolved : List RequestId} {env : MapperEnv} {worker : CodexInstance}

/-- The outcome of a step for the requests: they are in order again, and what it answered was named
and neither received nor resolved earlier. -/
structure Answers (env : MapperEnv) (received resolved : List RequestId) (worker : CodexInstance)
    (input : WorkerInput) (after : CodexInstance) : Prop where
  answering : Answering (received ++ input.received.toList) (resolved ++ input.resolved.toList) after
  written : ∃ more, after.written = worker.written ++ more ∧
    ∀ id ∈ more, input.Names worker id ∧ id ∉ resolved

theorem Progress.answers {input : WorkerInput} {after : CodexInstance}
    (progress : Progress received resolved (input.Names worker) worker after)
    (sound : Answering received resolved worker) (asks : input.received = none)
    (resolves : input.resolved = none) : Answers env received resolved worker input after where
  answering := by
    rw [asks, resolves]
    show Answering (received ++ []) (resolved ++ []) after
    rw [List.append_nil, List.append_nil]
    exact progress.answering sound
  written := by
    obtain ⟨more, same, named⟩ := progress.written
    exact ⟨more, same, named sound⟩

/-- A request that is new in one of the maps, under its text. -/
theorem Keyed.more {id : RequestId} {before after : CodexMapper} (keyed : Keyed before)
    (new : id ∉ before.waiting)
    (approvals : ∀ key pending, after.pendingApprovalResponses.get? key = some pending →
      (key = ⟨requestIdToString id⟩ ∧ pending.requestId = id) ∨
        before.pendingApprovalResponses.get? key = some pending)
    (requests : ∀ key pending, after.pendingServerRequests.get? key = some pending →
      (key = ⟨requestIdToString id⟩ ∧ pending.requestId = id) ∨
        before.pendingServerRequests.get? key = some pending)
    (one : after.pendingApprovalResponses = before.pendingApprovalResponses ∨
      after.pendingServerRequests = before.pendingServerRequests) :
    Keyed after ∧ after.waiting ⊆ insert id before.waiting := by
  refine ⟨⟨?_, ?_, ?_⟩, ?_⟩
  · intro key pending found
    rcases approvals key pending found with ⟨here, same⟩ | old
    · rw [here, same]
    · exact keyed.approvals key pending old
  · intro key pending found
    rcases requests key pending found with ⟨here, same⟩ | old
    · rw [here, same]
    · exact keyed.requests key pending old
  · intro key pending key' pending' found found' both
    rcases one with same | same
    · rw [same] at found
      rcases requests key' pending' found' with ⟨_, here⟩ | old
      · exact new (.inl ⟨key, pending, found, both.trans here⟩)
      · exact keyed.apart key pending key' pending' found old both
    · rw [same] at found'
      rcases approvals key pending found with ⟨_, here⟩ | old
      · exact new (.inr ⟨key', pending', found', both.symm.trans here⟩)
      · exact keyed.apart key pending key' pending' old found' both
  · rintro other (⟨key, pending, found, rfl⟩ | ⟨key, pending, found, rfl⟩)
    · rcases approvals key pending found with ⟨_, same⟩ | old
      · exact .inl same
      · exact .inr (.inl ⟨key, pending, old, rfl⟩)
    · rcases requests key pending found with ⟨_, same⟩ | old
      · exact .inl same
      · exact .inr (.inr ⟨key, pending, old, rfl⟩)

/-- A request that is asked waits under its text. -/
theorem Asked.waiting {id : RequestId} {body : ServerRequestBody} {thread : ThreadId}
    {before after : CodexMapper} {result : Option AgentEvent}
    (asked : Asked env id body thread before result after) (keyed : Keyed before)
    (new : id ∉ before.waiting) : Keyed after ∧ after.waiting ⊆ insert id before.waiting := by
  cases asked with
  | @approval middle turn kind request drawn named active =>
    have requests : ∀ key pending, middle.pendingServerRequests.get? key = some pending →
        before.pendingServerRequests.get? key = some pending := by
      rw [drawn.pendingServerRequests]
      exact fun _ _ found => found
    refine keyed.more new ?_ (fun key pending found => .inr (requests key pending found))
      (.inr drawn.pendingServerRequests)
    intro key pending found
    rw [IndexMap.get?_insert, drawn.pendingApprovalResponses] at found
    split at found
    · next here =>
      cases found
      exact .inl ⟨here, rfl⟩
    · exact .inr found
  | @generic middle turn request drawn named generic =>
    have approvals : ∀ key pending, middle.pendingApprovalResponses.get? key = some pending →
        before.pendingApprovalResponses.get? key = some pending := by
      rw [drawn.pendingApprovalResponses]
      exact fun _ _ found => found
    refine keyed.more new (fun key pending found => .inr (approvals key pending found)) ?_
      (.inl drawn.pendingApprovalResponses)
    intro key pending found
    rw [IndexMap.get?_insert, drawn.pendingServerRequests] at found
    split at found
    · next here =>
      cases found
      exact .inl ⟨here, rfl⟩
    · exact .inr found
  | refused drawn legacy idle =>
    have fewer : Fewer before after :=
      .of_eq drawn.pendingApprovalResponses drawn.pendingServerRequests
    exact ⟨fewer.keyed keyed, fewer.waiting.trans (Set.subset_insert _ _)⟩

theorem Asked.waiting_none {id : RequestId} {body : ServerRequestBody} {thread : ThreadId}
    {before after : CodexMapper} (asked : Asked env id body thread before none after) :
    Fewer before after := by
  generalize shown : (none : Option AgentEvent) = result at asked
  cases asked with
  | approval drawn named active => cases shown
  | generic drawn named generic => cases shown
  | refused drawn legacy idle =>
    exact .of_eq drawn.pendingApprovalResponses drawn.pendingServerRequests

/-- What mapping a request adds to what waits. -/
structure Waits (id : RequestId) (before : CodexInstance) (shown : Bool) (after : CodexInstance) :
    Prop where
  keyed : Keyed after.mapper
  waiting : after.mapper.waiting ⊆ insert id before.mapper.waiting
  unseen : shown = false → after.mapper.waiting ⊆ before.mapper.waiting
  written : after.written = before.written

theorem Maps.ran {α : Type} {named : Option String} {fallback : ThreadId} {map : Mapping α}
    {after : CodexInstance} {result : Option α}
    (maps : Maps env worker named fallback map after result) :
    (∃ state a mapper thread, Progress received resolved (fun _ => False) worker state ∧
        state.mapper.Resolves named fallback thread ∧ map state.mapper = (.ok a, mapper) ∧
        result = some a ∧ after = state.setMapper mapper) ∨
      result = none ∧ (¬ ∃ thread, worker.mapper.Resolves named fallback thread) ∧
        (worker.mapper.routes.nativeByThread.get? ⟨env.ulid worker.mapper.minted⟩ ≠ none ∨
          worker.mapper.routes.nextEpoch.checkedNext = none) ∧
        Progress received resolved (fun _ => False) worker after := by
  cases maps with
  | @found thread a mapper found mapped =>
    exact .inl ⟨worker, a, mapper, thread, .refl worker, found, mapped, rfl, rfl⟩
  | @discovered text epoch a mapper name unknown fresh room present mapped unresolved =>
    refine .inl ⟨_, a, mapper, ⟨env.ulid worker.mapper.minted⟩, .bindDiscovered worker _ epoch, ?_,
      mapped, rfl, rfl⟩
    have bound : (worker.bindDiscovered env (.trimmed text) epoch).mapper.routes.byNative.get?
        (.trimmed text) = some ⟨⟨env.ulid worker.mapper.minted⟩, epoch, none⟩ :=
      IndexMap.get?_insert_self _ _ _
    rw [name]
    exact resolves_bound present bound fallback
  | dropped unresolved full =>
    exact .inr ⟨rfl, unresolved, full, .setMapper worker (.of_eq rfl rfl)⟩

theorem Progress.silent {after : CodexInstance}
    (progress : Progress received resolved (fun _ => False) worker after)
    (sound : Answering received resolved worker) : after.written = worker.written := by
  obtain ⟨more, same, named⟩ := progress.written
  have none : more = [] := List.eq_nil_iff_forall_not_mem.2 fun id member =>
    (named sound id member).1
  rw [same, none, List.append_nil]

theorem mapRequest_waits {id : RequestId} {request : CodexServerRequest} {pick : ℕ}
    (sound : Answering received resolved worker) (new : id ∉ received) :
    Waits id worker ((worker.mapMessage env (.request id request) pick).2.join.isSome)
      (worker.mapMessage env (.request id request) pick).1 := by
  have fallback := @Progress.fallbackThread received resolved (fun _ => False) env worker pick
  rcases (@mapMessage_maps env worker (.request id request) pick).ran with
    ⟨state, result, mapper, thread, progress, found, ran, same, after⟩ |
      ⟨same, _, _, progress⟩
  · rw [same, after]
    have before : Progress received resolved (fun _ => False) worker state :=
      fallback.trans progress
    have sound' := before.answering sound
    obtain ⟨other, ok, asked⟩ := (tryMapServerRequest_returns request found).result
      (Drawn.refl _) ran
    cases ok
    have absent : id ∉ state.mapper.waiting := fun there =>
      new (sound'.room.waiting_received id there)
    obtain ⟨keyed, waiting⟩ := asked.waiting sound'.keyed absent
    exact
      { keyed := keyed
        waiting := waiting.trans (Set.insert_subset_insert before.fewer.waiting)
        unseen := by
          intro unseen
          cases result with
          | some event => cases unseen
          | none => exact asked.waiting_none.waiting.trans before.fewer.waiting
        written := before.silent sound }
  · rw [same]
    have before : Progress received resolved (fun _ => False) worker _ := fallback.trans progress
    have waiting := before.fewer.waiting
    exact ⟨before.fewer.keyed sound.keyed, waiting.trans (Set.subset_insert _ _),
      fun _ => waiting, before.silent sound⟩

theorem broadcastEvent_mapper (thread : ThreadId) (event : AgentEvent) :
    (worker.broadcastEvent thread event).mapper = worker.mapper := by
  unfold CodexInstance.broadcastEvent
  split <;> rfl

theorem broadcastEvent_written (thread : ThreadId) (event : AgentEvent) :
    (worker.broadcastEvent thread event).written = worker.written := by
  unfold CodexInstance.broadcastEvent
  split
  · exact written_emit rfl
  · rfl

/-- A request that arrives waits, or is refused at once. -/
theorem handleServerRequest_answers {id : RequestId} {request : CodexServerRequest} {pick : ℕ}
    {writes : RequestId → Bool} (sound : Answering received resolved worker) (new : id ∉ received)
    (unresolved : id ∉ resolved) :
    Answers env received resolved worker (.serverMessage (.request id request) pick writes)
      (worker.handleServerRequest env id request pick writes) := by
  have waits := @mapRequest_waits received resolved env worker id request pick sound new
  have handled : worker.handleServerRequest env id request pick writes =
      .afterRequest writes id (worker.mapMessage env (.request id request) pick) := rfl
  rw [handled]
  unfold CodexInstance.afterRequest
  split
  · next after event same =>
    rw [same] at waits
    refine ⟨⟨?_, ?_⟩, [], ?_, fun _ none => by cases none⟩
    · rw [broadcastEvent_mapper]
      exact waits.keyed
    · rw [broadcastEvent_mapper, broadcastEvent_written, waits.written]
      show WaitingRoom (received ++ [id]) (resolved ++ []) _ _
      rw [List.append_nil]
      exact sound.room.ask new unresolved waits.waiting
    · rw [broadcastEvent_written, waits.written, List.append_nil]
  · next after result other same =>
    rw [same] at waits
    have unseen : result.join.isSome = false := by
      cases result with
      | none => rfl
      | some inner =>
        cases inner with
        | none => rfl
        | some event => exact (other event rfl).elim
    have dropped := sound.room.drop (waits.unseen unseen)
    have written : (after.respond writes id CodexInstance.unroutableResponse).written =
        worker.written ++ if writes id then [id] else [] := by
      split
      · next reaches => rw [written_respond _ reaches, waits.written]
      · next fails => rw [respond_unwritten _ fails, waits.written, List.append_nil]
    refine ⟨⟨?_, ?_⟩, _, written, ?_⟩
    · rw [respond_mapper]
      exact waits.keyed
    · rw [respond_mapper, written]
      show WaitingRoom (received ++ [id]) (resolved ++ []) _ _
      rw [List.append_nil]
      split
      · exact dropped.refuse new
      · rw [List.append_nil]
        exact dropped.receive
    · intro one member
      split at member
      · rw [List.mem_singleton.1 member]
        exact ⟨rfl, unresolved⟩
      · cases member

theorem tryMapNotification_resolves {notification : Notification} {id : RequestId}
    {fallback : ThreadId} {mapper after : CodexMapper} {result : Option AgentEvent}
    (resolves : notification.resolved = some id)
    (ran : tryMapNotification env notification fallback mapper = (.ok result, after)) :
    after.pendingServerRequests.get? ⟨requestIdToString id⟩ = none := by
  cases notification with
  | serverRequestResolved threadId requestId =>
    cases resolves
    have ran : mapServerRequestResolved threadId id fallback mapper = (.ok result, after) := ran
    unfold mapServerRequestResolved at ran
    rcases NativeThreadRoutes.resolve_cases mapper.routes threadId fallback with ⟨thread, found⟩ | none
    · have ok : resolveThread threadId fallback mapper = (.ok thread, mapper) :=
        congrArg (·, mapper) found
      rw [Fallible.bind_ok ok] at ran
      cases ran
      exact (IndexMap.get?_shiftRemove _ _ _).trans (if_pos rfl)
    · have failed : resolveThread threadId fallback mapper = (.error _, mapper) :=
        congrArg (·, mapper) none
      rw [Fallible.bind_error failed] at ran
      cases ran
  | _ => cases resolves

theorem mapNotification_resolves {notification : Notification} {id : RequestId} {pick : ℕ}
    (resolves : notification.resolved = some id)
    (mapped : (∃ thread, worker.mapper.Resolves notification.named
      (worker.fallbackThread env pick).2 thread) ∨ worker.CanBind env pick) :
    (worker.mapMessage env (.notification notification) pick).1.mapper.pendingServerRequests.get?
      ⟨requestIdToString id⟩ = none := by
  rcases (@Maps.ran [] [] env _ _ _ _ _ _ _
    (@mapMessage_maps env worker (.notification notification) pick)) with
    ⟨state, result, mapper, thread, _, _, ran, _, after⟩ | ⟨_, unresolved, full, _⟩
  · rw [after]
    exact tryMapNotification_resolves resolves ran
  · exfalso
    rcases mapped with ⟨thread, found⟩ | canBind
    · exact unresolved ⟨thread, resolves_fallbackThread.2 found⟩
    · rw [(@fallbackThread_same env worker pick).2.1] at full
      rcases full with taken | used
      · exact taken canBind.unused
      · exact canBind.room used

/-- A request that is resolved waits no longer, when no approval waits with its id. -/
theorem handleNotification_answers {notification : Notification} {pick : ℕ}
    {writes : RequestId → Bool} (sound : Answering received resolved worker)
    (resolving : worker.Resolving env (.serverMessage (.notification notification) pick writes)) :
    Answers env received resolved worker (.serverMessage (.notification notification) pick writes)
      (worker.handleNotification env notification pick) := by
  have progress := @Progress.handleNotification received resolved (fun _ => False) env worker
    notification pick
  have written := progress.silent sound
  refine ⟨?_, [], by rw [written, List.append_nil], fun _ none => by cases none⟩
  have after := progress.answering sound
  cases resolves : notification.resolved with
  | none =>
    show Answering (received ++ []) (resolved ++ notification.resolved.toList) _
    rw [resolves]
    show Answering (received ++ []) (resolved ++ []) _
    rw [List.append_nil, List.append_nil]
    exact after
  | some id =>
    show Answering (received ++ []) (resolved ++ notification.resolved.toList) _
    rw [resolves, List.append_nil]
    refine ⟨after.keyed, after.room.resolve (fun _ there => there) ?_⟩
    obtain ⟨mapped, other⟩ := resolving notification pick writes id rfl resolves
    rintro (⟨key, pending, found, same⟩ | ⟨key, pending, found, same⟩)
    · exact other key pending (progress.fewer.approvals key pending found) same
    · have here := after.keyed.requests key pending found
      rw [same] at here
      have gone := @mapNotification_resolves env worker notification id pick resolves mapped
      have there := (@Progress.notified received resolved (fun _ => False) env worker notification
        pick).fewer.requests key pending found
      rw [here, gone] at there
      cases there

theorem Progress.startTurn {names : RequestId → Prop} (worker : CodexInstance)
    (owner : ThreadHandle) (model : Option ModelRef) (window : Option UInt32)
    (replies : ContextReplies) (reply : Except HarnessError String) :
    Progress received resolved names worker
      (worker.startTurn env owner model window replies reply) := by
  have ensured : Progress received resolved names worker _ :=
    (@ensureContext_acts env.crates (fun _ => False) worker owner model window replies).progress
  unfold CodexInstance.startTurn
  split
  · next after error _ same =>
    rw [same] at ensured
    exact ensured
  · next after error same =>
    rw [same] at ensured
    exact ensured
  · next after text same =>
    rw [same] at ensured
    have kept := @registerStartedTurn_frames env True owner.thread model text after.mapper
    split
    · next turn mapper registered =>
      rw [registered] at kept
      refine ensured.trans ((Progress.setMapper after (kept.fewer trivial)).trans ?_)
      exact .idle (.refl _) (@written_emit (after.setMapper mapper) (.turnReturned _ _ _) rfl)
    · next result mapper other registered =>
      rw [registered] at kept
      exact ensured.trans (.setMapper after (kept.fewer trivial))

theorem Progress.emitIncompleteActiveTurns {names : RequestId → Prop} (worker : CodexInstance)
    (message : String) :
    Progress received resolved names worker (worker.emitIncompleteActiveTurns message) := by
  refine Progress.trans (.foldl fun state entry _ _ => ?_) (.idle (.refl _) rfl)
  exact (Progress.broadcastEvent _ _ _).trans (.setMapper _ (.of_eq rfl rfl))

theorem Progress.deleteThread {names : RequestId → Prop} (worker : CodexInstance)
    (owner : ThreadHandle) (deleted : Bool) :
    Progress received resolved names worker (worker.deleteThread owner deleted) := by
  unfold CodexInstance.deleteThread
  split
  · exact .refl worker
  · split
    · exact .idle (.refl _) rfl
    · exact .refl worker

/-- A step keeps the requests in order, when new requests have new ids. -/
theorem step_answers {input : WorkerInput} (sound : Answering received resolved worker)
    (running : worker.stopped = false)
    (new : ∀ id, input.received = some id → id ∉ received ∧ id ∉ resolved)
    (resolving : worker.Resolving env input) :
    Answers env received resolved worker input (CodexInstance.step env worker input) := by
  unfold CodexInstance.step
  rw [running, if_neg Bool.false_ne_true]
  cases input with
  | serverMessage message pick writes =>
    cases message with
    | notification notification => exact handleNotification_answers sound resolving
    | request id request =>
      exact handleServerRequest_answers sound (new id rfl).1 (new id rfl).2
  | openThread owner resume resumed started window =>
    exact (openThread_acts worker resume resumed started window).progress.answers sound rfl rfl
  | startTurn owner model window context reply =>
    exact (Progress.startTurn worker owner model window context reply).answers sound rfl rfl
  | claimNativeThread owner text => exact (Progress.bindRoute worker _).answers sound rfl rfl
  | respondApproval key decision writes =>
    refine (Progress.respondApproval fun pending found => ?_).answers sound rfl rfl
    exact ⟨congrArg ApprovalId.text (sound.keyed.approvals key pending found).symm, pending, found,
      rfl⟩
  | respondServerRequest key response writes =>
    refine (Progress.respondServerRequest fun pending found => ?_).answers sound rfl rfl
    exact ⟨congrArg ServerRequestId.text (sound.keyed.requests key pending found).symm, pending,
      found, rfl⟩
  | interrupt owner accepted writes =>
    dsimp only
    split
    · exact (Progress.rejectPendingRequests worker owner).answers sound rfl rfl
    · exact (Progress.refl worker).answers sound rfl rfl
  | deleteThread owner deleted =>
    exact (Progress.deleteThread worker owner deleted).answers sound rfl rfl
  | streamEnded =>
    refine Progress.answers ?_ sound rfl rfl
    exact (Progress.emitIncompleteActiveTurns worker _).trans (.idle (.refl _) rfl)
  | streamFailed message =>
    refine Progress.answers ?_ sound rfl rfl
    exact (Progress.emitIncompleteActiveTurns worker _).trans (.idle (.refl _) rfl)

end Steps

/-! ## Whole runs -/

section Runs

open Foundation (Schedule.run_append)
open Foundation.Schedule (Meets meets_append run_append)

variable {env : MapperEnv} {worker first : CodexInstance}

theorem fresh_answering : Answering [] [] CodexInstance.fresh where
  keyed := ⟨fun _ _ none => (by cases none), fun _ _ none => (by cases none),
    fun _ _ _ _ none => (by cases none)⟩
  room := by
    refine WaitingRoom.empty.drop ?_
    rintro id (⟨_, _, none, _⟩ | ⟨_, _, none, _⟩) <;> cases none

theorem new_answering {known : List (String × ThreadId)}
    (started : CodexInstance.new env.crates known = .ok first) : Answering [] [] first := by
  refine new_preserves fresh_answering ?_ started
  intro worker text thread sound
  exact (@Progress.bindRoute [] [] (fun _ => False) worker _).answering sound

/-- No request arrives twice, or after it was resolved. -/
structure InOrder (inputs : List WorkerInput) : Prop where
  distinct : (inputs.filterMap WorkerInput.received).Nodup
  unresolved : ∀ before input after, inputs = before ++ input :: after →
    ∀ id, input.received = some id → id ∉ before.filterMap WorkerInput.resolved

/-- What holds of the requests after some inputs. -/
structure Ordered (inputs : List WorkerInput) (worker : CodexInstance) : Prop where
  nodup : worker.written.Nodup
  answering : worker.stopped = false →
    Answering (inputs.filterMap WorkerInput.received) (inputs.filterMap WorkerInput.resolved) worker

/-- What a step answered was named and not resolved before. -/
def AnswersNamed (before : List WorkerInput) (worker : CodexInstance) (input : WorkerInput)
    (after : CodexInstance) : Prop :=
  ∃ more, after.written = worker.written ++ more ∧
    ∀ id ∈ more, input.Names worker id ∧ id ∉ before.filterMap WorkerInput.resolved

theorem filterMap_concat {α β : Type} (f : α → Option β) (list : List α) (a : α) :
    (list ++ [a]).filterMap f = list.filterMap f ++ (f a).toList := by
  rw [List.filterMap_append]
  cases found : f a with
  | none => rw [List.filterMap_cons_none found]; rfl
  | some b => rw [List.filterMap_cons_some found]; rfl

theorem step_ordered {before : List WorkerInput} {input : WorkerInput}
    (ordered : Ordered before worker) (inOrder : InOrder (before ++ [input]))
    (resolving : worker.stopped = false → worker.Resolving env input) :
    Ordered (before ++ [input]) (CodexInstance.step env worker input) ∧
      AnswersNamed before worker input (CodexInstance.step env worker input) := by
  cases stopped : worker.stopped with
  | true =>
    have same : CodexInstance.step env worker input = worker := by
      unfold CodexInstance.step
      rw [stopped, if_pos rfl]
    rw [same]
    refine ⟨⟨ordered.nodup, fun running => ?_⟩, [], (List.append_nil _).symm, fun _ none => by cases none⟩
    rw [stopped] at running
    cases running
  | false =>
    have new : ∀ id, input.received = some id → id ∉ before.filterMap WorkerInput.received ∧
        id ∉ before.filterMap WorkerInput.resolved := by
      intro id asks
      refine ⟨?_, inOrder.unresolved before input [] rfl id asks⟩
      have distinct := inOrder.distinct
      rw [List.filterMap_append, List.filterMap_cons_some asks, List.nodup_append] at distinct
      exact fun old => distinct.2.2 id old id List.mem_cons_self rfl
    have answers := step_answers (ordered.answering stopped) stopped new (resolving stopped)
    refine ⟨⟨answers.answering.room.written_nodup, fun _ => ?_⟩, answers.written⟩
    rw [filterMap_concat, filterMap_concat]
    exact answers.answering

theorem InOrder.front {inputs more : List WorkerInput} (inOrder : InOrder (inputs ++ more)) :
    InOrder inputs where
  distinct := by
    have distinct := inOrder.distinct
    rw [List.filterMap_append] at distinct
    exact (List.nodup_append.1 distinct).1
  unresolved := fun before input after same =>
    inOrder.unresolved before input (after ++ more) (by rw [same, List.append_assoc, List.cons_append])

theorem InOrder.single {input : WorkerInput} {rest : List WorkerInput}
    (silent : ∀ other ∈ rest, other.received = none) : InOrder (input :: rest) where
  distinct := by
    have none : rest.filterMap WorkerInput.received = [] := List.filterMap_eq_nil_iff.2 silent
    cases asked : input.received with
    | none =>
      rw [List.filterMap_cons_none asked, none]
      exact List.nodup_nil
    | some id =>
      rw [List.filterMap_cons_some asked, none]
      exact List.nodup_singleton id
  unresolved := by
    intro before other after same id asks
    cases before with
    | nil => exact List.not_mem_nil
    | cons head before =>
      have member : other ∈ rest := by
        rw [(List.cons.inj same).2]
        exact List.mem_append_right _ List.mem_cons_self
      rw [silent other member] at asks
      cases asks

theorem run_ordered {known : List (String × ThreadId)} {inputs : List WorkerInput}
    (started : CodexInstance.new env.crates known = .ok first) (inOrder : InOrder inputs)
    (meets : Meets (CodexInstance.step env)
      (fun worker input => worker.stopped = false → worker.Resolving env input) first inputs) :
    Ordered inputs (first.run env inputs) := by
  induction inputs using List.reverseRecOn with
  | nil =>
    have sound := new_answering started
    exact ⟨sound.room.written_nodup, fun _ => sound⟩
  | append_singleton inputs input ih =>
    obtain ⟨before, last⟩ := meets_append.1 meets
    have ordered := ih inOrder.front before
    have step := (step_ordered ordered inOrder last.1).1
    rw [CodexInstance.run, run_append]
    exact step

/-- When requests arrive in order and no resolution passes an approval by, every request has one
response at most, every response answers what its input named, and none answers a request that was
resolved. -/
theorem codex_requests_are_answered_once (env : MapperEnv) (known : List (String × ThreadId))
    (first : CodexInstance) (inputs : List WorkerInput)
    (started : CodexInstance.new env.crates known = .ok first) (inOrder : InOrder inputs)
    (meets : Meets (CodexInstance.step env)
      (fun worker input => worker.stopped = false → worker.Resolving env input) first inputs) :
    (first.run env inputs).written.Nodup ∧
      ∀ before input after, inputs = before ++ input :: after →
        AnswersNamed before (first.run env before) input (first.run env (before ++ [input])) := by
  refine ⟨(run_ordered started inOrder meets).nodup, ?_⟩
  rintro before input after rfl
  obtain ⟨earlier, later⟩ := meets_append.1 meets
  have upTo : InOrder (before ++ [input]) := by
    refine @InOrder.front (before ++ [input]) after ?_
    rw [List.append_assoc]
    exact inOrder
  have ordered := run_ordered started upTo.front earlier
  have step := (step_ordered ordered upTo later.1).2
  rw [show first.run env (before ++ [input]) = CodexInstance.step env (first.run env before) input
    from Schedule.run_append first before [input]]
  exact step

end Runs

/-! ## An answer after a resolution -/

/-- A request to run a command. -/
def sampleApproval : WorkerInput :=
  .serverMessage (.request (.integer 7) ⟨"item/commandExecution/requestApproval", .null,
    .cmdExecApproval "main" "t1" (.permission "run ls") none []⟩) 0 fun _ => true

/-- The app-server says that the request was resolved. -/
def sampleResolution : WorkerInput :=
  .serverMessage (.notification (.serverRequestResolved "main" (.integer 7))) 0 fun _ => true

/-- The user accepts it. -/
def sampleAnswer : WorkerInput := .respondApproval ⟨"7"⟩ .accept fun _ => true

/-- An approval that was resolved is answered afterwards. -/
theorem resolved_approval_is_answered :
    CodexInstance.new Crates.reference [("main", ⟨⟨1000⟩⟩)] = .ok sampleWorker ∧
      InOrder [sampleApproval, sampleResolution, sampleAnswer] ∧
      (sampleWorker.run sampleEnv [sampleApproval, sampleResolution]).written = [] ∧
      (sampleWorker.run sampleEnv [sampleApproval, sampleResolution, sampleAnswer]).written =
        [.integer 7] := by
  refine ⟨rfl, .single ?_, rfl, rfl⟩
  rintro other member
  rcases List.mem_cons.1 member with rfl | last
  · rfl
  · rw [List.mem_singleton.1 last]
    rfl

theorem codex_requests_are_answered_once_sample :
    (sampleWorker.run sampleEnv [sampleApproval, sampleAnswer]).written.Nodup := by
  have inOrder : InOrder [sampleApproval, sampleAnswer] :=
    .single fun other member => List.mem_singleton.1 member ▸ rfl
  refine (codex_requests_are_answered_once sampleEnv [("main", ⟨⟨1000⟩⟩)] sampleWorker
    [sampleApproval, sampleAnswer] rfl inOrder ⟨?_, ?_, trivial⟩).1
  · rintro _ _ _ _ _ ⟨⟩
  · rintro _ _ _ _ _ ⟨⟩

end Giskard.Codex
