import Mathlib
import Giskard.Model.CodexMapper

/-!
# The requests that a Codex worker's app-server makes

A request becomes an approval, which needs a turn, or a generic server request. Either is kept
under the text of its id until it is answered; a notification can resolve a server request first.

SOURCE: crates/giskard-harness-codex/src/mapping.rs.
-/

set_option autoImplicit false

namespace Giskard.Codex

open Foundation (IndexMap Json Fallible)

/-! ## Mapping requests -/

/-- SOURCE: mapping.rs:2312-2316. -/
def stringField (members : List (String × Json)) (key : String) : Option String :=
  match members.lookup key with
  | some (.str value) => trimmedNonEmpty value
  | _ => none

/-- SOURCE: mapping.rs:1052-1057. -/
def approvalDecisions : List ApprovalDecision := [.accept, .acceptForSession, .decline, .cancel]

/-- SOURCE: mapping.rs:2467-2479. -/
def mcpToolApprovalAvailableDecisions (detected : McpToolApprovalDetected) :
    List ApprovalDecision :=
  if detected.allowSessionRemember then [.accept, .acceptForSession, .decline, .cancel]
  else [.accept, .decline, .cancel]

section Requests

variable (env : MapperEnv) (id : RequestId) (request : CodexServerRequest) (fallback : ThreadId)

/-- An approval waits for its answer, and is shown. -/
def requestApproval (thread : ThreadId) (turn : TurnId) (kind : PendingApprovalResponseKind)
    (shown : ApprovalKind) (reason : Option String) (metadata : List ApprovalMetadata)
    (available : List ApprovalDecision) : Mapping (Option AgentEvent) := do
  let approvalId : ApprovalId := ⟨requestIdToString id⟩
  Fallible.modify fun mapper =>
    { mapper with
      pendingApprovalResponses :=
        mapper.pendingApprovalResponses.insert approvalId ⟨id, thread, turn, kind⟩ }
  return some (.approvalRequested thread turn ⟨approvalId, shown, reason, metadata, available⟩)

/-- SOURCE: mapping.rs:1565-1582. -/
def serverRequestScopeFromMeta («meta» : Option Json) : Mapping (ThreadId × Option TurnId) :=
  match «meta» with
  | some (.obj members) => do
    let native := ((stringField members "threadId").or (stringField members "thread_id")).getD ""
    let thread ← resolveThread native fallback
    match (stringField members "turnId").or (stringField members "turn_id") with
    | some native => return (thread, some (← resolveTurn env thread native))
    | none => return (thread, none)
  | _ => return (fallback, none)

/-- SOURCE: mapping.rs:1537-1563. -/
def serverRequestScope : Mapping (ThreadId × Option TurnId) :=
  match request.body with
  | .toolRequestUserInput threadId turnId _ => do
    let thread ← resolveThread threadId fallback
    return (thread, ← turnOf env thread turnId)
  | .itemToolCall threadId turnId => do
    let thread ← resolveThread threadId fallback
    return (thread, ← turnOf env thread turnId)
  | .mcpServerElicitationRequest «meta» _ => serverRequestScopeFromMeta env fallback «meta»
  | .unknown params => serverRequestScopeFromMeta env fallback params
  | _ => return (fallback, none)

/-- SOURCE: mapping.rs:1508-1535. -/
def mapGenericServerRequest : Mapping (Option AgentEvent) := do
  let (thread, turn) ← serverRequestScope env request fallback
  let serverRequestId : ServerRequestId := ⟨requestIdToString id⟩
  Fallible.modify fun mapper =>
    { mapper with
      pendingServerRequests :=
        mapper.pendingServerRequests.insert serverRequestId ⟨id, thread, turn⟩ }
  return some (.serverRequestReceived thread turn
    ⟨serverRequestId, request.method, request.params, env.now⟩)

/-- An approval of the older kind, which needs an active turn. SOURCE: mapping.rs:1157-1243. -/
def mapLegacyApproval (conversationId : String) (kind : ApprovalKind) (reason : Option String)
    (metadata : List ApprovalMetadata) : Mapping (Option AgentEvent) := do
  let thread ← resolveThread conversationId fallback
  match ← activeTurnForThread env thread with
  | none => return none
  | some turn =>
    requestApproval id thread turn .legacyReviewDecision kind reason metadata approvalDecisions

/-- A request that may be a tool approval. Without a turn it stays generic. SOURCE:
mapping.rs:1251-1328, 1466-1502. -/
def mapToolApproval (detected : Option McpToolApprovalDetected)
    (transport : McpToolApprovalTransport) : Mapping (Option AgentEvent) :=
  match detected with
  | none => mapGenericServerRequest env id request fallback
  | some detected => do
    let (thread, turn) ← serverRequestScope env request fallback
    match ← explicitOrActiveTurn env thread turn with
    | some turn =>
      requestApproval id thread turn (.mcpToolCall transport detected.questionId)
        (.mcpToolCall detected.server detected.toolName) (some detected.message) []
        (mcpToolApprovalAvailableDecisions detected)
    | none => mapGenericServerRequest env id request fallback

/-- SOURCE: mapping.rs:1016-1332. -/
def tryMapServerRequest : Mapping (Option AgentEvent) :=
  match request.body with
  | .cmdExecApproval threadId turnId kind reason metadata => do
    let thread ← resolveThread threadId fallback
    let turn ← resolveTurn env thread turnId
    requestApproval id thread turn .decision kind reason metadata approvalDecisions
  | .fileChangeApproval threadId turnId itemId reason metadata => do
    let thread ← resolveThread threadId fallback
    let turn ← resolveTurn env thread turnId
    let preview ← Fallible.get fun mapper =>
      (mapper.fileChangePreviews.get? ⟨thread, turn, itemId⟩).getD []
    let shown := match preview.head? with
      | some entry => ApprovalKind.fileChange entry.path entry.change
      | none => .fileChange "" .modified
    requestApproval id thread turn .decision shown reason (metadata preview) approvalDecisions
  | .permissionsRequestApproval threadId turnId permissions detail reason metadata => do
    let thread ← resolveThread threadId fallback
    let turn ← resolveTurn env thread turnId
    requestApproval id thread turn (.permissions permissions) (.permission detail) reason metadata
      approvalDecisions
  | .execCommandApproval conversationId kind reason metadata =>
    mapLegacyApproval env id fallback conversationId kind reason metadata
  | .applyPatchApproval conversationId kind reason metadata =>
    mapLegacyApproval env id fallback conversationId kind reason metadata
  | .toolRequestUserInput _ _ detected =>
    mapToolApproval env id request fallback detected .requestUserInput
  | .mcpServerElicitationRequest _ detected =>
    mapToolApproval env id request fallback detected .elicitation
  | _ => mapGenericServerRequest env id request fallback

end Requests

/-! ## Answers -/

/-- SOURCE: mapping.rs:1675-1678. -/
inductive ApprovalResponseBody where
  | result (value : Json)
  | error (code : ℤ) (message : String)
  deriving DecidableEq

private def field (key : String) (value : Json) : Json := .obj [(key, value)]

/-- SOURCE: mapping.rs:2326-2344. -/
def mapApprovalDecision : ApprovalDecision → ApprovalResponseBody
  | .accept => .result (field "decision" (.str "accept"))
  | .acceptForSession => .result (field "decision" (.str "acceptForSession"))
  | .decline => .result (field "decision" (.str "decline"))
  | .cancel => .result (field "decision" (.str "cancel"))
  | .acceptWithExecPolicyAmendment amendment =>
    .result (field "decision" (field "acceptWithExecpolicyAmendment"
      (field "execpolicy_amendment" (.arr (amendment.map .str)))))

/-- SOURCE: mapping.rs:1764-1790. -/
def mapPermissionsApprovalDecision (permissions : Json) : ApprovalDecision → ApprovalResponseBody
  | .accept => .result (.obj [("permissions", permissions), ("scope", .str "turn")])
  | .acceptForSession => .result (.obj [("permissions", permissions), ("scope", .str "session")])
  | .decline => .error (-32000) "Permissions request declined."
  | .cancel => .error (-32000) "Permissions request cancelled."
  | .acceptWithExecPolicyAmendment _ =>
    .error (-32000) "Exec policy amendments are not valid for permissions requests."

/-- SOURCE: mapping.rs:1792-1816. -/
def mapLegacyReviewDecision : ApprovalDecision → ApprovalResponseBody
  | .accept => .result (field "decision" (.str "approved"))
  | .acceptForSession => .result (field "decision" (.str "approved_for_session"))
  | .decline => .result (field "decision" (.str "denied"))
  | .cancel => .result (field "decision" (.str "abort"))
  | .acceptWithExecPolicyAmendment amendment =>
    .result (field "decision" (field "approved_execpolicy_amendment"
      (field "proposed_execpolicy_amendment" (.arr (amendment.map .str)))))

/-- SOURCE: mapping.rs:2493-2510. -/
def mcpAnswerLabel : ApprovalDecision → String
  | .accept | .acceptWithExecPolicyAmendment _ => "Allow"
  | .acceptForSession => "Allow for this session"
  | .decline | .cancel => "Cancel"

/-- SOURCE: mapping.rs:2486-2535. -/
def mapMcpToolApprovalDecision (transport : McpToolApprovalTransport)
    (questionId : Option String) (decision : ApprovalDecision) : ApprovalResponseBody :=
  match transport with
  | .requestUserInput =>
    .result (field "answers" (.obj (questionId.toList.map fun question =>
      (question, field "answers" (.arr [.str (mcpAnswerLabel decision)])))))
  | .elicitation =>
    match decision with
    | .accept | .acceptWithExecPolicyAmendment _ =>
      .result (.obj [("action", .str "accept"), ("content", .obj [])])
    | .acceptForSession =>
      .result (.obj [("action", .str "accept"), ("content", .obj []),
        ("_meta", field "persist" (.str "session"))])
    | .decline => .result (field "action" (.str "decline"))
    | .cancel => .result (field "action" (.str "cancel"))

/-- SOURCE: mapping.rs:1342-1398. -/
def PendingApprovalResponse.answer (pending : PendingApprovalResponse)
    (decision : ApprovalDecision) : ApprovalResponseBody :=
  match pending.kind with
  | .permissions permissions => mapPermissionsApprovalDecision permissions decision
  | .legacyReviewDecision => mapLegacyReviewDecision decision
  | .decision => mapApprovalDecision decision
  | .mcpToolCall transport questionId => mapMcpToolApprovalDecision transport questionId decision

/-- An answer with the id of its request. SOURCE: mapping.rs:1607-1635. -/
structure PreparedApprovalResponse where
  approvalId : ApprovalId
  requestId : RequestId
  thread : ThreadId
  turn : TurnId
  body : ApprovalResponseBody

namespace CodexMapper

/-- SOURCE: mapping.rs:1334-1405. -/
def prepareApprovalResponse (mapper : CodexMapper) (id : ApprovalId)
    (decision : ApprovalDecision) : Except String PreparedApprovalResponse :=
  match mapper.pendingApprovalResponses.get? id with
  | none => .error ("no pending approval for id " ++ id.text)
  | some pending =>
    .ok ⟨id, pending.requestId, pending.thread, pending.turn, pending.answer decision⟩

/-- SOURCE: mapping.rs:1407-1425. -/
def removeExactApprovalResponse (mapper : CodexMapper) (prepared : PreparedApprovalResponse) :
    CodexMapper :=
  match mapper.pendingApprovalResponses.get? prepared.approvalId with
  | some pending =>
    if pending.requestId = prepared.requestId then
      { mapper with
        pendingApprovalResponses :=
          mapper.pendingApprovalResponses.shiftRemove prepared.approvalId }
    else mapper
  | none => mapper

/-- SOURCE: mapping.rs:1427-1435. -/
def pendingServerRequest (mapper : CodexMapper) (id : ServerRequestId) :
    Except String PendingServerRequest :=
  match mapper.pendingServerRequests.get? id with
  | none => .error ("no pending server request for id " ++ id.text)
  | some pending => .ok pending

/-- SOURCE: mapping.rs:1437-1449. -/
def pendingApprovalIdsForThread (mapper : CodexMapper) (thread : ThreadId) : List ApprovalId :=
  (mapper.pendingApprovalResponses.entries.filter fun entry => entry.2.thread = thread).map
    Prod.fst

def pendingServerRequestIdsForThread (mapper : CodexMapper) (thread : ThreadId) :
    List ServerRequestId :=
  (mapper.pendingServerRequests.entries.filter fun entry => entry.2.thread = thread).map Prod.fst

/-- SOURCE: mapping.rs:1451-1460. -/
def resolveServerRequest (mapper : CodexMapper) (id : ServerRequestId) (requestId : RequestId) :
    CodexMapper :=
  match mapper.pendingServerRequests.get? id with
  | some pending =>
    if pending.requestId = requestId then
      { mapper with pendingServerRequests := mapper.pendingServerRequests.shiftRemove id }
    else mapper
  | none => mapper

end CodexMapper

end Giskard.Codex
