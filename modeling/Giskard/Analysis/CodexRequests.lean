import Mathlib
import Giskard.Analysis.CodexMapping

/-!
# What becomes of a Codex server request

A request that finds its thread is kept, under the text of its id, as an approval or as a server
request, and the event that shows it names the same text. Only an approval of the older kind is
refused, when its thread has no active turn. A request that does not find its thread changes
nothing.
-/

set_option autoImplicit false

namespace Giskard.Codex

open Foundation (IndexMap Fallible)
open Foundation.Fallible (Returns Gated)

/-- The native thread of a request's metadata. -/
def metaThread : Option Foundation.Json → Option String
  | some (.obj members) =>
    some (((stringField members "threadId").or (stringField members "thread_id")).getD "")
  | _ => none

/-- The native thread that a request is looked up under. -/
def ServerRequestBody.named : ServerRequestBody → Option String
  | .cmdExecApproval threadId _ _ _ _ | .fileChangeApproval threadId _ _ _ _
  | .permissionsRequestApproval threadId _ _ _ _ _ | .toolRequestUserInput threadId _ _
  | .itemToolCall threadId _ => some threadId
  | .execCommandApproval conversationId _ _ _ | .applyPatchApproval conversationId _ _ _ =>
    some conversationId
  | .mcpServerElicitationRequest «meta» _ => metaThread «meta»
  | .unknown params => metaThread params
  | .chatgptAuthTokensRefresh | .attestationGenerate => none

/-- An approval of the older kind, which is not shown without an active turn. -/
def ServerRequestBody.Legacy : ServerRequestBody → Prop
  | .execCommandApproval _ _ _ _ | .applyPatchApproval _ _ _ _ => True
  | _ => False

/-- A request that is shown as it came when it is no approval. -/
def ServerRequestBody.Generic : ServerRequestBody → Prop
  | .toolRequestUserInput _ _ _ | .itemToolCall _ _ | .mcpServerElicitationRequest _ _
  | .unknown _ | .chatgptAuthTokensRefresh | .attestationGenerate => True
  | _ => False

/-- What a request that found its thread becomes, and where it waits for its answer. -/
inductive Asked (env : MapperEnv) (id : RequestId) (body : ServerRequestBody) (thread : ThreadId)
    (before : CodexMapper) : Option AgentEvent → CodexMapper → Prop
  | approval {middle : CodexMapper} {turn : TurnId} {kind : PendingApprovalResponseKind}
      {request : ApprovalRequest} (drawn : Drawn env before middle)
      (named : request.id = ⟨requestIdToString id⟩)
      (active : body.Legacy → before.activeTurns.get? thread ≠ none) :
      Asked env id body thread before (some (.approvalRequested thread turn request))
        { middle with
          pendingApprovalResponses :=
            middle.pendingApprovalResponses.insert ⟨requestIdToString id⟩ ⟨id, thread, turn, kind⟩ }
  | generic {middle : CodexMapper} {turn : Option TurnId} {request : ServerRequest}
      (drawn : Drawn env before middle) (named : request.id = ⟨requestIdToString id⟩)
      (generic : body.Generic) :
      Asked env id body thread before (some (.serverRequestReceived thread turn request))
        { middle with
          pendingServerRequests :=
            middle.pendingServerRequests.insert ⟨requestIdToString id⟩ ⟨id, thread, turn⟩ }
  | refused {after : CodexMapper} (drawn : Drawn env before after) (legacy : body.Legacy)
      (idle : before.activeTurns.get? thread = none) : Asked env id body thread before none after

section RequestLookUps

variable {env : MapperEnv} {α β : Type} {fallback thread : ThreadId} {before : CodexMapper}
  {m : Mapping α} {f : α → Mapping β} {R : β → CodexMapper → Prop} {id : RequestId}
  {request : CodexServerRequest}

theorem returns_drawn (draws : Draws env m)
    (rest : ∀ a, Returns (Drawn env before) R (f a)) : Returns (Drawn env before) R (m >>= f) := by
  intro mapper drawn
  obtain ⟨a, next, ok, more⟩ := draws mapper
  rw [Fallible.bind_ok ok]
  exact rest a next (drawn.trans more)

theorem returns_known {native : String} {f : ThreadId → Mapping β}
    (found : before.Resolves (some native) fallback thread)
    (rest : Returns (Drawn env before) R (f thread)) :
    Returns (Drawn env before) R (resolveThread native fallback >>= f) := by
  intro mapper drawn
  have there : resolveThread native fallback mapper = (.ok thread, mapper) := by
    have same : mapper.routes.resolve native fallback = .ok thread := by
      rw [drawn.routes]
      exact found
    exact congrArg (·, mapper) same
  rw [Fallible.bind_ok there]
  exact rest mapper drawn

theorem serverRequestScopeFromMeta_returns {«meta» : Option Foundation.Json}
    (found : before.Resolves (metaThread «meta») fallback thread) :
    Returns (Drawn env before) (fun scope mapper => scope.1 = thread ∧ Drawn env before mapper)
      (serverRequestScopeFromMeta env fallback «meta») := by
  unfold serverRequestScopeFromMeta
  split
  · refine returns_known found ?_
    split
    · refine returns_drawn (resolveTurn_draws thread _) fun turn => ?_
      exact Returns.pure fun mapper drawn => ⟨rfl, drawn⟩
    · exact Returns.pure fun mapper drawn => ⟨rfl, drawn⟩
  · next other =>
    have same : thread = fallback := by
      unfold metaThread at found
      split at found
      · next members => exact absurd rfl (other members)
      · exact found
    exact Returns.pure fun mapper drawn => ⟨same.symm, drawn⟩

theorem serverRequestScope_returns (generic : request.body.Generic)
    (found : before.Resolves request.body.named fallback thread) :
    Returns (Drawn env before) (fun scope mapper => scope.1 = thread ∧ Drawn env before mapper)
      (serverRequestScope env request fallback) := by
  unfold serverRequestScope
  unfold ServerRequestBody.Generic at generic
  cases body : request.body with
  | toolRequestUserInput threadId turnId detected =>
    rw [body] at found
    refine returns_known found (returns_drawn (turnOf_draws thread _) fun turn => ?_)
    exact Returns.pure fun mapper drawn => ⟨rfl, drawn⟩
  | itemToolCall threadId turnId =>
    rw [body] at found
    refine returns_known found (returns_drawn (turnOf_draws thread _) fun turn => ?_)
    exact Returns.pure fun mapper drawn => ⟨rfl, drawn⟩
  | mcpServerElicitationRequest «meta» detected =>
    rw [body] at found
    exact serverRequestScopeFromMeta_returns found
  | unknown params =>
    rw [body] at found
    exact serverRequestScopeFromMeta_returns found
  | chatgptAuthTokensRefresh =>
    rw [body] at found
    exact Returns.pure fun mapper drawn => ⟨found.symm, drawn⟩
  | attestationGenerate =>
    rw [body] at found
    exact Returns.pure fun mapper drawn => ⟨found.symm, drawn⟩
  | cmdExecApproval _ _ _ _ _ => rw [body] at generic; cases generic
  | fileChangeApproval _ _ _ _ _ => rw [body] at generic; cases generic
  | permissionsRequestApproval _ _ _ _ _ _ => rw [body] at generic; cases generic
  | execCommandApproval _ _ _ _ => rw [body] at generic; cases generic
  | applyPatchApproval _ _ _ _ => rw [body] at generic; cases generic

theorem mapGenericServerRequest_returns (generic : request.body.Generic)
    (found : before.Resolves request.body.named fallback thread) :
    Returns (Drawn env before) (Asked env id request.body thread before)
      (mapGenericServerRequest env id request fallback) := by
  unfold mapGenericServerRequest
  refine (serverRequestScope_returns generic found).bind ?_
  rintro ⟨owner, turn⟩ mapper ⟨rfl, drawn⟩
  exact ⟨_, _, rfl, .generic drawn rfl generic⟩

theorem requestApproval_returns {body : ServerRequestBody} {turn : TurnId}
    {kind : PendingApprovalResponseKind} {shown : ApprovalKind} {reason : Option String}
    {metadata : List ApprovalMetadata} {available : List ApprovalDecision}
    (active : body.Legacy → before.activeTurns.get? thread ≠ none) :
    Returns (Drawn env before) (Asked env id body thread before)
      (requestApproval id thread turn kind shown reason metadata available) :=
  fun _ drawn => ⟨_, _, rfl, .approval drawn rfl active⟩

theorem activeTurnForThread_returns (thread : ThreadId) :
    Returns (Drawn env before) (fun turn mapper => Drawn env before mapper ∧
      (turn = none ↔ before.activeTurns.get? thread = none)) (activeTurnForThread env thread) := by
  intro mapper drawn
  have same : mapper.activeTurns = before.activeTurns := drawn.activeTurns
  unfold activeTurnForThread
  cases active : mapper.activeTurns.get? thread with
  | none =>
    refine ⟨none, mapper, ?_, drawn, ?_⟩
    · simp only [Fallible.bind_apply, Fallible.get, active, Fallible.pure_apply]
    · rw [← same, active]
      simp only
  | some native =>
    obtain ⟨turn, next, ok, more⟩ := resolveTurn_draws thread native mapper
    refine ⟨some turn, next, ?_, drawn.trans more, ?_⟩
    · simp only [Fallible.bind_apply, Fallible.get, active, ok, Fallible.pure_apply]
    · rw [← same, active]
      simp

theorem mapLegacyApproval_returns {body : ServerRequestBody} {native : String}
    {kind : ApprovalKind} {reason : Option String} {metadata : List ApprovalMetadata}
    (legacy : body.Legacy) (found : before.Resolves (some native) fallback thread) :
    Returns (Drawn env before) (Asked env id body thread before)
      (mapLegacyApproval env id fallback native kind reason metadata) := by
  unfold mapLegacyApproval
  refine returns_known found ((activeTurnForThread_returns thread).bind fun turn => ?_)
  rintro mapper ⟨drawn, idle⟩
  cases turn with
  | none => exact ⟨none, mapper, rfl, .refused drawn legacy (idle.1 rfl)⟩
  | some turn =>
    refine requestApproval_returns (fun _ none => ?_) mapper drawn
    cases idle.2 none

theorem mapToolApproval_returns {detected : Option McpToolApprovalDetected}
    {transport : McpToolApprovalTransport} (generic : request.body.Generic)
    (modern : ¬ request.body.Legacy) (found : before.Resolves request.body.named fallback thread) :
    Returns (Drawn env before) (Asked env id request.body thread before)
      (mapToolApproval env id request fallback detected transport) := by
  unfold mapToolApproval
  cases detected with
  | none => exact mapGenericServerRequest_returns generic found
  | some detected =>
    refine (serverRequestScope_returns generic found).bind ?_
    rintro ⟨owner, explicit⟩ mapper ⟨rfl, drawn⟩
    refine returns_drawn (explicitOrActiveTurn_draws owner explicit) (fun turn => ?_) mapper drawn
    cases turn with
    | none => exact mapGenericServerRequest_returns generic found
    | some turn => exact requestApproval_returns fun legacy => absurd legacy modern

/-- A request that finds its thread is asked there. -/
theorem tryMapServerRequest_returns (request : CodexServerRequest)
    (found : before.Resolves request.body.named fallback thread) :
    Returns (Drawn env before) (Asked env id request.body thread before)
      (tryMapServerRequest env id request fallback) := by
  obtain ⟨method, params, body⟩ := request
  cases body with
  | cmdExecApproval threadId turnId kind reason metadata =>
    refine returns_known found (returns_drawn (resolveTurn_draws thread _) fun turn => ?_)
    exact requestApproval_returns fun legacy => by cases legacy
  | fileChangeApproval threadId turnId itemId reason metadata =>
    refine returns_known found (returns_drawn (resolveTurn_draws thread _) fun turn => ?_)
    refine returns_drawn (.get _) fun preview => ?_
    exact requestApproval_returns fun legacy => by cases legacy
  | permissionsRequestApproval threadId turnId permissions detail reason metadata =>
    refine returns_known found (returns_drawn (resolveTurn_draws thread _) fun turn => ?_)
    exact requestApproval_returns fun legacy => by cases legacy
  | execCommandApproval conversationId kind reason metadata =>
    exact mapLegacyApproval_returns trivial found
  | applyPatchApproval conversationId kind reason metadata =>
    exact mapLegacyApproval_returns trivial found
  | toolRequestUserInput threadId turnId detected =>
    exact mapToolApproval_returns trivial (fun legacy => legacy) found
  | mcpServerElicitationRequest «meta» detected =>
    exact mapToolApproval_returns trivial (fun legacy => legacy) found
  | itemToolCall threadId turnId => exact mapGenericServerRequest_returns trivial found
  | chatgptAuthTokensRefresh => exact mapGenericServerRequest_returns trivial found
  | attestationGenerate => exact mapGenericServerRequest_returns trivial found
  | unknown params => exact mapGenericServerRequest_returns trivial found

theorem resolveThread_fails {native : String}
    (never : ¬ ∃ thread, before.Resolves (some native) fallback thread)
    (f : ThreadId → Mapping α) :
    (resolveThread native fallback >>= f) before =
      (.error (NativeThreadId.trimmed native), before) :=
  Fallible.bind_error ((resolveThread_gated native fallback).fails before never)

theorem serverRequestScopeFromMeta_fails {«meta» : Option Foundation.Json}
    (never : ¬ ∃ thread, before.Resolves (metaThread «meta») fallback thread) :
    serverRequestScopeFromMeta env fallback «meta» before =
      (.error (NativeThreadId.trimmed ((metaThread «meta»).getD "")), before) := by
  unfold metaThread at never ⊢
  unfold serverRequestScopeFromMeta
  split
  · exact resolveThread_fails never _
  · next other =>
    split at never
    · next members => exact absurd rfl (other members)
    · exact absurd ⟨fallback, rfl⟩ never

theorem serverRequestScope_fails (generic : request.body.Generic)
    (never : ¬ ∃ thread, before.Resolves request.body.named fallback thread) :
    serverRequestScope env request fallback before =
      (.error (NativeThreadId.trimmed (request.body.named.getD "")), before) := by
  obtain ⟨method, params, body⟩ := request
  cases body with
  | toolRequestUserInput threadId turnId detected => exact resolveThread_fails never _
  | itemToolCall threadId turnId => exact resolveThread_fails never _
  | mcpServerElicitationRequest «meta» detected => exact serverRequestScopeFromMeta_fails never
  | unknown params => exact serverRequestScopeFromMeta_fails never
  | chatgptAuthTokensRefresh => exact absurd ⟨fallback, rfl⟩ never
  | attestationGenerate => exact absurd ⟨fallback, rfl⟩ never
  | cmdExecApproval _ _ _ _ _ => cases generic
  | fileChangeApproval _ _ _ _ _ => cases generic
  | permissionsRequestApproval _ _ _ _ _ _ => cases generic
  | execCommandApproval _ _ _ _ => cases generic
  | applyPatchApproval _ _ _ _ => cases generic

theorem mapGenericServerRequest_fails (generic : request.body.Generic)
    (never : ¬ ∃ thread, before.Resolves request.body.named fallback thread) :
    mapGenericServerRequest env id request fallback before =
      (.error (NativeThreadId.trimmed (request.body.named.getD "")), before) :=
  Fallible.bind_error (serverRequestScope_fails generic never)

theorem mapToolApproval_fails {detected : Option McpToolApprovalDetected}
    {transport : McpToolApprovalTransport} (generic : request.body.Generic)
    (never : ¬ ∃ thread, before.Resolves request.body.named fallback thread) :
    mapToolApproval env id request fallback detected transport before =
      (.error (NativeThreadId.trimmed (request.body.named.getD "")), before) := by
  cases detected with
  | none => exact mapGenericServerRequest_fails generic never
  | some detected => exact Fallible.bind_error (serverRequestScope_fails generic never)

theorem tryMapServerRequest_fails (request : CodexServerRequest)
    (never : ¬ ∃ thread, before.Resolves request.body.named fallback thread) :
    tryMapServerRequest env id request fallback before =
      (.error (NativeThreadId.trimmed (request.body.named.getD "")), before) := by
  obtain ⟨method, params, body⟩ := request
  cases body with
  | cmdExecApproval threadId turnId kind reason metadata => exact resolveThread_fails never _
  | fileChangeApproval threadId turnId itemId reason metadata => exact resolveThread_fails never _
  | permissionsRequestApproval threadId turnId permissions detail reason metadata =>
    exact resolveThread_fails never _
  | execCommandApproval conversationId kind reason metadata => exact resolveThread_fails never _
  | applyPatchApproval conversationId kind reason metadata => exact resolveThread_fails never _
  | toolRequestUserInput threadId turnId detected => exact mapToolApproval_fails trivial never
  | mcpServerElicitationRequest «meta» detected => exact mapToolApproval_fails trivial never
  | itemToolCall threadId turnId => exact mapGenericServerRequest_fails trivial never
  | chatgptAuthTokensRefresh => exact mapGenericServerRequest_fails trivial never
  | attestationGenerate => exact mapGenericServerRequest_fails trivial never
  | unknown params => exact mapGenericServerRequest_fails trivial never

theorem Asked.belongs {body : ServerRequestBody} {result : Option AgentEvent}
    {after : CodexMapper} (asked : Asked env id body thread before result after) :
    ∀ event ∈ result, event.threadId = thread ∧ isTurnCompleted event = false := by
  cases asked with
  | approval drawn named active => rintro _ ⟨⟩; exact ⟨rfl, rfl⟩
  | generic drawn named generic => rintro _ ⟨⟩; exact ⟨rfl, rfl⟩
  | refused drawn legacy idle => intro event none; cases none

theorem Asked.routes {body : ServerRequestBody} {result : Option AgentEvent}
    {after : CodexMapper} (asked : Asked env id body thread before result after) :
    after.routes = before.routes := by
  cases asked with
  | approval drawn named active => exact drawn.routes
  | generic drawn named generic => exact drawn.routes
  | refused drawn legacy idle => exact drawn.routes

theorem tryMapServerRequest_looksUp (id : RequestId) (request : CodexServerRequest)
    (fallback : ThreadId) :
    LooksUp request.body.named false fallback (tryMapServerRequest env id request fallback) where
  returns := by
    rintro mapper ⟨thread, found⟩
    obtain ⟨result, after, ok, asked⟩ := tryMapServerRequest_returns request found mapper
      (Drawn.refl mapper)
    refine ⟨result, after, ok, thread, ?_, asked.belongs⟩
    unfold CodexMapper.Resolves at found ⊢
    rwa [asked.routes]
  fails := fun _ never => tryMapServerRequest_fails request never

end RequestLookUps

end Giskard.Codex
