import Mathlib
import Giskard.Analysis.CodexDiscovery

/-!
# Server requests that nobody is told of

A server request is shown in the log of the thread it belongs to, or it is refused. The worker
refuses what it cannot map, but an event for a thread without an open log is dropped after the
request was kept: then nobody can answer it. Whether that happens shows before the request is
handled.
-/

set_option autoImplicit false

namespace Giskard.Codex

open Foundation (IndexMap Fallible)

/-- An event that shows a request under the text of its id. -/
def showsRequest (id : RequestId) : AgentEvent → Prop
  | .approvalRequested _ _ request => request.id = ⟨requestIdToString id⟩
  | .serverRequestReceived _ _ request => request.id = ⟨requestIdToString id⟩
  | _ => False

/-- An effect that shows a request in the log of a thread. -/
def WorkerEffect.shows (id : RequestId) (thread : ThreadId) : WorkerEffect → Prop
  | .appended owner event => owner = thread ∧ event.threadId = thread ∧ showsRequest id event
  | _ => False

/-- An error response to a request. -/
def WorkerEffect.refuses (id : RequestId) : WorkerEffect → Prop
  | .wrote other (.error _ _) => other = id
  | _ => False

/-- The requests that wait for an answer are the same. -/
def SamePending (before after : CodexInstance) : Prop :=
  after.mapper.pendingApprovalResponses = before.mapper.pendingApprovalResponses ∧
    after.mapper.pendingServerRequests = before.mapper.pendingServerRequests

/-- A request that was handled was shown in the open log of the thread it belongs to, or was
refused; and if it was not shown, nothing waits for its answer. -/
def Handled (named : Option String) (fallback : ThreadId) (id : RequestId)
    (before after : CodexInstance) : Prop :=
  ∃ effects, after.effects = before.effects ++ effects ∧
    ((∃ thread ∈ after.senders, after.mapper.Resolves named fallback thread ∧
        ∃ effect ∈ effects, effect.shows id thread) ∨
      ((∃ effect ∈ effects, effect.refuses id) ∧ SamePending before after))

/-- When the request finds its thread, that thread has an open log, or the request is an approval
of the older kind and the thread has no active turn. -/
def CodexInstance.HasListener (env : MapperEnv) (worker : CodexInstance)
    (body : ServerRequestBody) (pick : ℕ) : Prop :=
  ∀ thread, worker.mapper.Resolves body.named (worker.fallbackThread env pick).2 thread →
    thread ∈ worker.senders ∨ body.Legacy ∧ worker.mapper.activeTurns.get? thread = none

section LostRequests

variable {env : MapperEnv} {worker : CodexInstance} {id : RequestId}
  {request : CodexServerRequest} {pick : ℕ} {writes : RequestId → Bool}

theorem Asked.shown {body : ServerRequestBody} {thread : ThreadId} {before after : CodexMapper}
    {event : AgentEvent} (asked : Asked env id body thread before (some event) after) :
    event.threadId = thread ∧ showsRequest id event ∧
      (body.Legacy → before.activeTurns.get? thread ≠ none) := by
  generalize shown : some event = result at asked
  cases asked with
  | approval drawn named active =>
    cases shown
    exact ⟨rfl, named, active⟩
  | generic drawn named generic =>
    cases shown
    refine ⟨rfl, named, fun legacy => ?_⟩
    cases body <;> first | exact legacy.elim | exact generic.elim
  | refused drawn legacy idle => cases shown

theorem Asked.refusal {body : ServerRequestBody} {thread : ThreadId}
    {before after : CodexMapper} (asked : Asked env id body thread before none after) :
    Drawn env before after ∧ body.Legacy ∧ before.activeTurns.get? thread = none := by
  generalize shown : (none : Option AgentEvent) = result at asked
  cases asked with
  | approval drawn named active => cases shown
  | generic drawn named generic => cases shown
  | refused drawn legacy idle => exact ⟨drawn, legacy, idle⟩

theorem unroutable_handled {named : Option String} {fallback : ThreadId}
    {before after : CodexInstance} (more : List WorkerEffect) (written : writes id = true)
    (effects : after.effects = before.effects ++ more) (same : SamePending before after) :
    Handled named fallback id before
      (after.respond writes id CodexInstance.unroutableResponse) := by
  unfold CodexInstance.respond
  rw [if_pos written]
  refine ⟨more ++ [.wrote id CodexInstance.unroutableResponse], ?_, .inr ⟨?_, same⟩⟩
  · rw [CodexInstance.emit, effects, List.append_assoc]
  · exact ⟨.wrote id CodexInstance.unroutableResponse,
      List.mem_append_right _ (List.mem_singleton_self _), rfl⟩

theorem shown_handled {named : Option String} {fallback thread : ThreadId} {event : AgentEvent}
    {before after : CodexInstance} (more : List WorkerEffect)
    (effects : after.effects = before.effects ++ more) (log : thread ∈ after.senders)
    (found : after.mapper.Resolves named fallback thread) (belongs : event.threadId = thread)
    (shows : showsRequest id event) :
    Handled named fallback id before (after.broadcastEvent event.threadId event) := by
  unfold CodexInstance.broadcastEvent
  rw [belongs, if_pos log]
  refine ⟨more ++ [.appended thread event], ?_, .inl ⟨thread, log, found, ?_⟩⟩
  · rw [CodexInstance.emit, effects, List.append_assoc]
  · exact ⟨.appended thread event, List.mem_append_right _ (List.mem_singleton_self _), rfl,
      belongs, shows⟩

theorem resolves_unique {mapper : CodexMapper} {named : Option String}
    {fallback one other : ThreadId} (first : mapper.Resolves named fallback one)
    (second : mapper.Resolves named fallback other) : one = other := by
  cases named with
  | none => exact (show one = fallback from first).trans (show other = fallback from second).symm
  | some native =>
    have same : (Except.ok one : Except NativeThreadId ThreadId) = .ok other :=
      (show _ = _ from first).symm.trans second
    cases same
    rfl

theorem not_handled {named : Option String} {fallback : ThreadId} {event : AgentEvent}
    {before after : CodexInstance} (thread : ThreadId) (effects : after.effects = before.effects)
    (log : thread ∉ after.senders) (belongs : event.threadId = thread) :
    ¬ Handled named fallback id before (after.broadcastEvent event.threadId event) := by
  unfold CodexInstance.broadcastEvent
  rw [belongs, if_neg log]
  rintro ⟨more, same, told⟩
  rw [effects] at same
  have none : more = [] := by
    rw [← List.append_right_eq_self]
    exact same.symm
  rw [none] at told
  rcases told with ⟨_, _, _, effect, impossible, _⟩ | ⟨⟨effect, impossible, _⟩, _⟩
  · cases impossible
  · cases impossible

theorem resolves_asked {body : ServerRequestBody} {named : Option String}
    {fallback thread owner : ThreadId} {before after : CodexMapper} {result : Option AgentEvent}
    (asked : Asked env id body owner before result after)
    (found : before.Resolves named fallback thread) : after.Resolves named fallback thread := by
  unfold CodexMapper.Resolves at found ⊢
  rwa [asked.routes]

/-- A request is shown or refused exactly when somebody listens where it belongs. -/
theorem server_requests_are_told (env : MapperEnv) (worker : CodexInstance) (id : RequestId)
    (request : CodexServerRequest) (pick : ℕ) (writes : RequestId → Bool)
    (written : writes id = true) :
    Handled request.body.named (worker.fallbackThread env pick).2 id worker
        (worker.handleServerRequest env id request pick writes) ↔
      worker.HasListener env request.body pick := by
  have handled : worker.handleServerRequest env id request pick writes =
      .afterRequest writes id (worker.mapMessage env (.request id request) pick) := rfl
  have maps := @mapMessage_maps env worker (.request id request) pick
  obtain ⟨effects, routes, senders⟩ := @fallbackThread_same env worker pick
  have silent : (worker.fallbackThread env pick).1.effects = worker.effects ++ [] := by
    rw [effects, List.append_nil]
  have drawn := @fallbackThread_mapper env worker pick
  generalize worker.mapMessage env (.request id request) pick = outcome at maps handled
  obtain ⟨next, result⟩ := outcome
  rw [handled]
  cases maps with
  | @found thread result after found ran =>
    obtain ⟨other, ok, asked⟩ := (tryMapServerRequest_returns request found).result
      (Drawn.refl _) ran
    cases ok
    have here := resolves_fallbackThread.1 found
    cases result with
    | some event =>
      obtain ⟨belongs, shows, busy⟩ := asked.shown
      rw [drawn.activeTurns] at busy
      by_cases log : thread ∈ worker.senders
      · refine iff_of_true (shown_handled [] silent ?_ ?_ belongs shows) fun owner owns => ?_
        · rw [← senders] at log
          exact log
        · exact resolves_asked asked found
        · rw [resolves_unique owns here]
          exact .inl log
      · refine iff_of_false (not_handled thread effects ?_ belongs) fun listens => ?_
        · rw [← senders] at log
          exact log
        · rcases listens thread here with there | ⟨legacy, idle⟩
          · exact log there
          · exact busy legacy idle
    | none =>
      obtain ⟨more, legacy, idle⟩ := asked.refusal
      rw [drawn.activeTurns] at idle
      refine iff_of_true (unroutable_handled [] written silent ?_) fun owner owns => ?_
      · exact ⟨(drawn.trans more).pendingApprovalResponses, (drawn.trans more).pendingServerRequests⟩
      · rw [resolves_unique owns here]
        exact .inr ⟨legacy, idle⟩
  | @discovered text epoch result after name unknown fresh room present ran unresolved =>
    have listens : worker.HasListener env request.body pick := fun thread found =>
      absurd ⟨thread, resolves_fallbackThread.2 found⟩ unresolved
    refine iff_of_true ?_ listens
    have bound : ((worker.fallbackThread env pick).1.bindDiscovered env (.trimmed text)
        epoch).mapper.routes.byNative.get? (.trimmed text) =
          some ⟨⟨env.ulid (worker.fallbackThread env pick).1.mapper.minted⟩, epoch, none⟩ :=
      IndexMap.get?_insert_self _ _ _
    have here := resolves_bound present bound (worker.fallbackThread env pick).2
    rw [← show messageNamed (.request id request) = some text from name] at here
    obtain ⟨other, ok, asked⟩ := (tryMapServerRequest_returns request here).result
      (Drawn.refl _) ran
    cases ok
    obtain ⟨record, recorded⟩ : ∃ record, ((worker.fallbackThread env pick).1.bindDiscovered env
        (.trimmed text) epoch).effects = worker.effects ++ [.discovered record] :=
      ⟨_, congrArg (· ++ _) effects⟩
    cases result with
    | some event =>
      obtain ⟨belongs, shows, _⟩ := asked.shown
      refine shown_handled [.discovered record] recorded ?_ (resolves_asked asked here) belongs
        shows
      exact List.mem_insert_self
    | none =>
      obtain ⟨more, _, _⟩ := asked.refusal
      refine unroutable_handled [.discovered record] written recorded ⟨?_, ?_⟩
      · exact more.pendingApprovalResponses.trans drawn.pendingApprovalResponses
      · exact more.pendingServerRequests.trans drawn.pendingServerRequests
  | dropped unresolved full =>
    have listens : worker.HasListener env request.body pick := fun thread found =>
      absurd ⟨thread, resolves_fallbackThread.2 found⟩ unresolved
    refine iff_of_true (unroutable_handled [] written silent ?_) listens
    exact ⟨drawn.pendingApprovalResponses, drawn.pendingServerRequests⟩

end LostRequests

/-! ## A request that is lost -/

/-- A request of a kind that the worker does not know, which names no thread. -/
def strayRequest : CodexServerRequest := ⟨"tool/ask", .null, .unknown none⟩

/-- A request that names the known thread. -/
def sampleRequest : CodexServerRequest := ⟨"item/tool/call", .null, .itemToolCall "main" "t1"⟩

/-- Without an active turn, a request that names no thread is kept and shown nowhere. -/
theorem stray_request_is_lost :
    sampleWorker.Reached sampleEnv ∧
      (sampleWorker.handleServerRequest sampleEnv (.integer 7) strayRequest 0
        fun _ => true).effects = sampleWorker.effects ∧
      ((sampleWorker.handleServerRequest sampleEnv (.integer 7) strayRequest 0
        fun _ => true).mapper.pendingServerRequests.get? ⟨"7"⟩).map
          PendingServerRequest.requestId = some (.integer 7) ∧
      ¬ Handled none (sampleWorker.fallbackThread sampleEnv 0).2 (.integer 7) sampleWorker
        (sampleWorker.handleServerRequest sampleEnv (.integer 7) strayRequest 0 fun _ => true) := by
  refine ⟨sampleWorker_reached, rfl, rfl, ?_⟩
  exact not_handled ⟨⟨0⟩⟩ rfl (by decide) rfl

theorem server_requests_are_told_sample :
    Handled (some "main") (sampleWorker.fallbackThread sampleEnv 0).2 (.integer 7) sampleWorker
      (sampleWorker.handleServerRequest sampleEnv (.integer 7) sampleRequest 0 fun _ => true) := by
  refine (server_requests_are_told sampleEnv sampleWorker (.integer 7) sampleRequest 0
    (fun _ => true) rfl).2 ?_
  intro thread found
  have same : thread = ⟨⟨1000⟩⟩ := resolves_unique found (show _ = _ from rfl)
  rw [same]
  exact .inl (by decide)

end Giskard.Codex
