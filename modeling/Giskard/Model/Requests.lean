import Mathlib
import Giskard.Foundation.IndexMap
import Giskard.Model.Wire

/-!
# The request ledger

The approval and server requests a thread has outstanding, and the revisioned record each one
publishes to browsers. The ledger's hash map is an `IndexMap`: its order stands for the order
in which the map is walked, which the projections below sort or do not depend on.

SOURCE: crates/giskard-server/src/thread_runtime/requests.rs.
-/

set_option autoImplicit false

namespace Giskard

open Foundation

/-- Addition of one that stays at the largest 64-bit number (`saturating_add(1)`). -/
def saturatingSucc (n : UInt64) : UInt64 := if n.toNat < 2 ^ 64 - 1 then n + 1 else n

theorem toNat_saturatingSucc (n : UInt64) :
    (saturatingSucc n).toNat = min (n.toNat + 1) (2 ^ 64 - 1) := by
  have one : (1 : UInt64).toNat = 1 := rfl
  have small := n.toNat_lt
  unfold saturatingSucc
  split
  · next below =>
    rw [UInt64.toNat_add, one, Nat.mod_eq_of_lt (by omega)]
    omega
  · omega

theorem lt_saturatingSucc {n : UInt64} (below : n.toNat < 2 ^ 64 - 1) : n < saturatingSucc n := by
  rw [UInt64.lt_iff_toNat_lt, toNat_saturatingSucc]
  omega

/-- SOURCE: server_request.rs:21-26. -/
inductive ServerRequestResponse where
  | result (value : Json)
  | error (code : Int64) (message : String)
  deriving DecidableEq

/-- SOURCE: requests.rs:20-24. -/
inductive RuntimeRequestId where
  | approval (id : ApprovalId)
  | server (id : ServerRequestId)
  deriving DecidableEq

/-- SOURCE: requests.rs:27-32. -/
def RuntimeRequestId.asStr : RuntimeRequestId → String
  | .approval id => id.text
  | .server id => id.text

/-- SOURCE: requests.rs:35-39. -/
inductive RequestPayload where
  | approval (request : ApprovalRequest)
  | server (request : ServerRequest)
  deriving DecidableEq

/-- SOURCE: requests.rs:56-60. -/
inductive RequestResolution where
  | approval (decision : ApprovalDecision)
  | server (response : ServerRequestResponse)
  deriving DecidableEq

/-- SOURCE: requests.rs:41-46. -/
inductive RequestStatus where
  | pending
  | responding (claim : UInt64) (harnessResolved : Bool)
  | resolved (resolution : RequestResolution)
  deriving DecidableEq

/-- SOURCE: requests.rs:48-54. -/
structure RequestRecord where
  turnId : Option TurnId
  payload : RequestPayload
  status : RequestStatus
  revision : UInt64
  deriving DecidableEq

/-- Why the ledger refused to hand out a claim. SOURCE: requests.rs:62-66. -/
inductive ClaimRejection where
  | missing
  | notPending
  deriving DecidableEq

/-- Why the ledger refused to resolve a claimed request. SOURCE: requests.rs:68-73. -/
inductive CommitRejection where
  | missing
  | staleClaim
  | kindMismatch
  deriving DecidableEq

/-! ## Wire projections -/

/-- SOURCE: giskard-proto/src/lib.rs:153-158. -/
inductive WireRequestPayload where
  | approval (request : WireApprovalRequest)
  | server (request : ServerRequest)
  deriving DecidableEq

/-- SOURCE: giskard-proto/src/lib.rs:160-165. -/
inductive WireRequestResolution where
  | approval (decision : ApprovalDecision)
  | server
  deriving DecidableEq

/-- SOURCE: giskard-proto/src/lib.rs:167-173. -/
inductive WireRequestStatus where
  | pending
  | responding
  | resolved (resolution : WireRequestResolution)
  deriving DecidableEq

/-- SOURCE: giskard-proto/src/lib.rs:175-183. -/
structure WireRequestState where
  threadId : ThreadId
  requestId : String
  revision : UInt64
  payload : WireRequestPayload
  status : WireRequestStatus
  deriving DecidableEq

/-- SOURCE: giskard-proto/src/lib.rs:185-190. -/
inductive RequestKind where
  | approval
  | server
  deriving DecidableEq

/-- SOURCE: giskard-proto/src/lib.rs:192-197. -/
structure OutstandingRequest where
  requestId : String
  kind : RequestKind
  responding : Bool
  deriving DecidableEq

/-- SOURCE: requests.rs:306-319. -/
def RequestPayload.toWire : RequestPayload → String × WireRequestPayload
  | .approval request => (request.id.text, .approval request.toWire)
  | .server request => (request.id.text, .server request)

/-- SOURCE: requests.rs:320-333. -/
def RequestStatus.toWire : RequestStatus → WireRequestStatus
  | .pending => .pending
  | .responding _ _ => .responding
  | .resolved (.approval decision) => .resolved (.approval decision)
  | .resolved (.server _) => .resolved .server

/-- SOURCE: requests.rs:305-341. -/
def wireRequestState (threadId : ThreadId) (record : RequestRecord) : WireRequestState :=
  { threadId := threadId
    requestId := record.payload.toWire.1
    revision := record.revision
    payload := record.payload.toWire.2
    status := record.status.toWire }

/-! ## The ledger -/

/-- SOURCE: requests.rs:75-78. -/
structure RequestLedger where
  records : IndexMap RuntimeRequestId RequestRecord

/-- The resolution synthesized for a server request that the harness resolved. SOURCE:
requests.rs:154-156, 281-283. -/
def harnessResolution : RequestResolution := .server (.result .null)

namespace RequestLedger

def empty : RequestLedger := ⟨IndexMap.empty⟩

/-- Records a request the provider delivered; the flag tells whether the record changed. SOURCE:
requests.rs:81-115. -/
def register (ledger : RequestLedger) (requestId : RuntimeRequestId) (turnId : Option TurnId)
    (payload : RequestPayload) : RequestLedger × Bool :=
  match ledger.records.get? requestId with
  | none => (⟨ledger.records.insert requestId ⟨turnId, payload, .pending, 1⟩⟩, true)
  | some record =>
    if record.payload = payload then (ledger, false)
    else (⟨ledger.records.insert requestId
      { record with payload := payload, revision := saturatingSucc record.revision }⟩, true)

/-- Applies a harness-side resolution of a server request. SOURCE: requests.rs:117-161. -/
def resolveFromHarness (ledger : RequestLedger) (requestId : ServerRequestId) :
    RequestLedger × Bool :=
  match ledger.records.get? (.server requestId) with
  | none => (ledger, false)
  | some record => match record.status with
    | .responding claim _ =>
      (⟨ledger.records.insert (.server requestId)
        { record with status := .responding claim true }⟩, false)
    | .resolved _ => (ledger, false)
    | .pending =>
      (⟨ledger.records.insert (.server requestId)
        { record with
          status := .resolved harnessResolution
          revision := saturatingSucc record.revision }⟩, true)

/-- SOURCE: requests.rs:163-172. -/
def state (ledger : RequestLedger) (threadId : ThreadId) (requestId : RuntimeRequestId) :
    Option WireRequestState :=
  (ledger.records.get? requestId).map (wireRequestState threadId)

/-- SOURCE: requests.rs:174-180. -/
def states (ledger : RequestLedger) (threadId : ThreadId) : List WireRequestState :=
  ledger.records.values.map (wireRequestState threadId)

/-- What a record contributes to the summary. SOURCE: requests.rs:188-204. -/
def outstandingOf (id : RuntimeRequestId) (record : RequestRecord) : Option OutstandingRequest :=
  let kind : RequestKind := match id with
    | .approval _ => .approval
    | .server _ => .server
  match record.status with
  | .pending => some ⟨id.asStr, kind, false⟩
  | .responding _ _ => some ⟨id.asStr, kind, true⟩
  | .resolved _ => none

/-- Every request still awaiting a resolution, ordered by id. SOURCE: requests.rs:182-205. -/
def outstanding (ledger : RequestLedger) : List OutstandingRequest :=
  (ledger.records.entries.filterMap fun (id, record) => outstandingOf id record).insertionSort
    fun left right => left.requestId ≤ right.requestId

/-- Drops the resolved records belonging to a settled turn. SOURCE: requests.rs:209-213. -/
def pruneResolved (ledger : RequestLedger) (turnId : Option TurnId) : RequestLedger :=
  ⟨ledger.records.retain fun _ record =>
    !((match record.status with | .resolved _ => true | _ => false) &&
      decide (record.turnId = turnId))⟩

/-- Moves a pending record to responding under a claim id. SOURCE: requests.rs:216-235. -/
def claim (ledger : RequestLedger) (threadId : ThreadId) (requestId : RuntimeRequestId)
    (claimId : UInt64) : RequestLedger × Except ClaimRejection WireRequestState :=
  match ledger.records.get? requestId with
  | none => (ledger, .error .missing)
  | some record =>
    if record.status ≠ .pending then (ledger, .error .notPending)
    else
      let record := { record with
        status := .responding claimId false
        revision := saturatingSucc record.revision }
      (⟨ledger.records.insert requestId record⟩, .ok (wireRequestState threadId record))

/-- Whether a resolution fits the payload. SOURCE: requests.rs:257-261. -/
def kindMatches : RequestPayload → RequestResolution → Bool
  | .approval _, .approval _ => true
  | .server _, .server _ => true
  | _, _ => false

/-- Whether a record is held by a claim. SOURCE: requests.rs:251-254. -/
def heldBy (record : RequestRecord) (claimId : UInt64) : Bool :=
  match record.status with
  | .responding claim _ => decide (claim = claimId)
  | _ => false

/-- Resolves a record held by a claim; the record is untouched unless both the claim and the
resolution kind match. SOURCE: requests.rs:239-264. -/
def commit (ledger : RequestLedger) (threadId : ThreadId) (requestId : RuntimeRequestId)
    (claimId : UInt64) (resolution : RequestResolution) :
    RequestLedger × Except CommitRejection WireRequestState :=
  match ledger.records.get? requestId with
  | none => (ledger, .error .missing)
  | some record =>
    if !heldBy record claimId then (ledger, .error .staleClaim)
    else if !kindMatches record.payload resolution then (ledger, .error .kindMismatch)
    else
      let record := { record with
        status := .resolved resolution
        revision := saturatingSucc record.revision }
      (⟨ledger.records.insert requestId record⟩, .ok (wireRequestState threadId record))

/-- Returns a record held by a claim to pending, or to the resolution the harness reported
while the claim was in flight. SOURCE: requests.rs:268-294. -/
def rollback (ledger : RequestLedger) (threadId : ThreadId) (requestId : RuntimeRequestId)
    (claimId : UInt64) : RequestLedger × Option WireRequestState :=
  match ledger.records.get? requestId with
  | none => (ledger, none)
  | some record => match record.status with
    | .responding claim harnessResolved =>
      if claim ≠ claimId then (ledger, none)
      else
        let record := { record with
          status := if harnessResolved then .resolved harnessResolution else .pending
          revision := saturatingSucc record.revision }
        (⟨ledger.records.insert requestId record⟩, some (wireRequestState threadId record))
    | _ => (ledger, none)

end RequestLedger

/-! ## Claims in flight -/

/-- A claim handed to a client. SOURCE: thread_runtime.rs:199-207. -/
structure RequestClaim where
  threadId : ThreadId
  requestId : RuntimeRequestId
  claimId : UInt64
  settled : Bool
  deriving DecidableEq

/-- A thread's ledger with the claims handed out so far, in order. -/
structure RequestDesk where
  threadId : ThreadId
  ledger : RequestLedger
  claims : List RequestClaim

/-- What the harness and the clients do to a ledger, one critical section each. A commit that
is refused for its claim or its kind is followed by a rollback of the same claim, and a claim
that is dropped unsettled rolls back. -/
inductive DeskOp where
  | register (requestId : RuntimeRequestId) (turnId : Option TurnId) (payload : RequestPayload)
  | resolveFromHarness (requestId : ServerRequestId)
  | pruneResolved (turnId : Option TurnId)
  | claim (requestId : RuntimeRequestId) (claimId : UInt64)
  | commit (index : ℕ) (resolution : RequestResolution)
  | rollback (index : ℕ)

namespace RequestDesk

def empty (threadId : ThreadId) : RequestDesk := ⟨threadId, RequestLedger.empty, []⟩

/-- The record of a request. -/
def record (desk : RequestDesk) (requestId : RuntimeRequestId) : Option RequestRecord :=
  desk.ledger.records.get? requestId

/-- The state to publish after an event, when it changed the record. SOURCE:
thread_runtime.rs:933-941. -/
def publish (desk : RequestDesk) (requestId : RuntimeRequestId) (result : RequestLedger × Bool) :
    RequestDesk × Option (RuntimeRequestId × WireRequestState) :=
  ({ desk with ledger := result.1 },
    if result.2 then (result.1.state desk.threadId requestId).map (requestId, ·) else none)

/-- Mark a claim as settled. -/
def settle (desk : RequestDesk) (index : ℕ) (claim : RequestClaim) : RequestDesk :=
  { desk with claims := desk.claims.set index { claim with settled := true } }

/-- One operation, with the request state it publishes. SOURCE: thread_runtime.rs:888-962,
1088-1126, 1371-1455. -/
def step (desk : RequestDesk) :
    DeskOp → RequestDesk × Option (RuntimeRequestId × WireRequestState)
  | .register requestId turnId payload =>
    desk.publish requestId (desk.ledger.register requestId turnId payload)
  | .resolveFromHarness requestId =>
    desk.publish (.server requestId) (desk.ledger.resolveFromHarness requestId)
  | .pruneResolved turnId => ({ desk with ledger := desk.ledger.pruneResolved turnId }, none)
  | .claim requestId claimId => match desk.ledger.claim desk.threadId requestId claimId with
    | (_, .error _) => (desk, none)
    | (ledger, .ok state) =>
      ({ desk with ledger := ledger, claims := desk.claims ++ [⟨desk.threadId, requestId, claimId, false⟩] },
        some (requestId, state))
  | .commit index resolution => match desk.claims[index]? with
    | none => (desk, none)
    | some claim =>
      if claim.settled then (desk, none)
      else match desk.ledger.commit desk.threadId claim.requestId claim.claimId resolution with
        | (ledger, .ok state) =>
          ({ desk with ledger := ledger }.settle index claim, some (claim.requestId, state))
        | (_, .error .missing) => (desk.settle index claim, none)
        | (_, .error _) => (desk, none)
  | .rollback index => match desk.claims[index]? with
    | none => (desk, none)
    | some claim =>
      if claim.settled then (desk, none)
      else match desk.ledger.rollback desk.threadId claim.requestId claim.claimId with
        | (ledger, some state) =>
          ({ desk with ledger := ledger }.settle index claim, some (claim.requestId, state))
        | (_, none) => (desk.settle index claim, none)

/-- The desk after a run of operations. -/
def after (desk : RequestDesk) (ops : List DeskOp) : RequestDesk :=
  ops.foldl (fun desk op => (desk.step op).1) desk

/-- The states a run publishes for one request, in order. -/
def published (requestId : RuntimeRequestId) : RequestDesk → List DeskOp → List WireRequestState
  | _, [] => []
  | desk, op :: ops =>
    (((desk.step op).2.filter fun published => published.1 = requestId).map Prod.snd).toList ++
      published requestId (desk.step op).1 ops

end RequestDesk

end Giskard
