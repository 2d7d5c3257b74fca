import Mathlib
import Giskard.Model.LiveTurn
import Giskard.Model.Requests

/-!
# The runtime of the threads

Each thread has at most one runtime entry, which the operations of its turns and requests
change, and all threads share one overview: a revisioned summary of the threads that have an
active turn or an outstanding request.

An operation locks one entry and then the overview, and is one step here. The parts of an
entry that no summary reads and no operation below decides on (running tasks, captured diffs,
item outputs) are left out. Leases and claims guard their operations by a flag of their own;
the claims in flight are kept with it, the operations of a lease are taken in any order.

SOURCE: crates/giskard-server/src/thread_runtime.rs, thread_runtime/gate.rs.
-/

set_option autoImplicit false

namespace Giskard

open Foundation

/-- ULID-backed project identifier. SOURCE: ids.rs:5-7. -/
structure ProjectId where
  ulid : Ulid
  deriving DecidableEq

/-! ## The turn gate -/

/-- SOURCE: gate.rs:26-33. -/
structure TurnReservation where
  projectId : ProjectId
  harnessThreadId : String
  mode : TurnMode
  model : TurnModel
  contextKind : String
  deriving DecidableEq

/-- The owner of a thread's turn. The instant of the reservation is only logged and is left
out. SOURCE: gate.rs:18-24. -/
structure ActiveTurnOwner where
  reservation : TurnReservation
  acknowledgedTurn : Option TurnId
  persistenceBlocked : Option (Turn × String)
  deriving DecidableEq

/-- SOURCE: gate.rs:35-39. -/
structure TurnGate where
  active : Option ActiveTurnOwner
  lifecycleRevision : UInt64
  deriving DecidableEq

/-- SOURCE: giskard-proto/src/lib.rs:199-211. -/
inductive RuntimeTurnState where
  | idle
  | active (turnId : Option TurnId)
  | persistenceBlocked (turnId : TurnId) (error : String)
  deriving DecidableEq

namespace TurnGate

def empty : TurnGate := ⟨none, 0⟩

/-- SOURCE: gate.rs:42-71. -/
def reserve (gate : TurnGate) (threadId : ThreadId) (reservation : TurnReservation) :
    Except HarnessError TurnGate :=
  match gate.active with
  | some _ => .error (.threadBusy threadId)
  | none => .ok ⟨some ⟨reservation, none, none⟩, saturatingSucc gate.lifecycleRevision⟩

/-- SOURCE: gate.rs:97-103. -/
def acknowledge (gate : TurnGate) (turnId : TurnId) : Option TurnGate :=
  gate.active.map fun owner =>
    { gate with active := some { owner with acknowledgedTurn := some turnId } }

/-- SOURCE: gate.rs:107-109. -/
def release (gate : TurnGate) : TurnGate := { gate with active := none }

/-- SOURCE: gate.rs:113-120. -/
def blockOnPersistence (gate : TurnGate) (turn : Turn) (error : String) : Option TurnGate :=
  gate.active.map fun owner =>
    { gate with active := some { owner with
        acknowledgedTurn := some turn.id
        persistenceBlocked := some (turn, error) } }

/-- SOURCE: gate.rs:130-145. -/
def turnState (gate : TurnGate) : RuntimeTurnState :=
  match gate.active with
  | none => .idle
  | some owner => match owner.persistenceBlocked with
    | some (turn, error) => .persistenceBlocked turn.id error
    | none => .active owner.acknowledgedTurn

end TurnGate

/-! ## Entries and the overview -/

/-- SOURCE: thread_runtime.rs:58-83. -/
structure ThreadRuntimeEntry where
  gate : TurnGate
  requests : RequestLedger
  eventSequence : UInt64
  live : LiveTurnState

def ThreadRuntimeEntry.empty : ThreadRuntimeEntry :=
  ⟨TurnGate.empty, RequestLedger.empty, 0, LiveTurnState.empty⟩

/-- SOURCE: giskard-proto/src/lib.rs:213-218. -/
structure ThreadRuntimeSummary where
  threadId : ThreadId
  turnState : RuntimeTurnState
  outstandingRequests : List OutstandingRequest
  deriving DecidableEq

/-- SOURCE: giskard-proto/src/lib.rs:220-224. -/
structure ThreadRuntimeOverview where
  revision : UInt64
  threads : List ThreadRuntimeSummary
  deriving DecidableEq

/-- SOURCE: thread_runtime.rs:161-171. -/
structure OverviewState where
  revision : UInt64
  summaries : IndexMap ThreadId ThreadRuntimeSummary

/-- SOURCE: thread_runtime.rs:1347-1361. -/
def runtimeSummary (threadId : ThreadId) (entry : ThreadRuntimeEntry) :
    Option ThreadRuntimeSummary :=
  let turnState := entry.gate.turnState
  let outstandingRequests := entry.requests.outstanding
  if turnState = .idle ∧ outstandingRequests = [] then none
  else some ⟨threadId, turnState, outstandingRequests⟩

namespace OverviewState

def empty : OverviewState := ⟨0, IndexMap.empty⟩

/-- The overview as it is sent to browsers, ordered by the text of the thread ids. SOURCE:
thread_runtime.rs:1177-1185, 1205-1210. -/
def current (crates : Crates) (overview : OverviewState) : ThreadRuntimeOverview :=
  { revision := overview.revision
    threads := overview.summaries.values.insertionSort fun left right =>
      crates.ulid.print left.threadId.ulid ≤ crates.ulid.print right.threadId.ulid }

/-- Replace or remove the summary of one thread; the flag tells whether it changed. SOURCE:
thread_runtime.rs:1187-1202. -/
def project (overview : OverviewState) (threadId : ThreadId)
    (summary : Option ThreadRuntimeSummary) : OverviewState × Bool :=
  match summary with
  | some summary =>
    if overview.summaries.get? threadId ≠ some summary then
      ({ overview with summaries := overview.summaries.insert threadId summary }, true)
    else (overview, false)
  | none =>
    ({ overview with summaries := overview.summaries.shiftRemove threadId },
      (overview.summaries.get? threadId).isSome)

/-- SOURCE: thread_runtime.rs:1187-1212. -/
def refresh (crates : Crates) (overview : OverviewState) (threadId : ThreadId)
    (entry : ThreadRuntimeEntry) : OverviewState × Option ThreadRuntimeOverview :=
  match overview.project threadId (runtimeSummary threadId entry) with
  | (overview, false) => (overview, none)
  | (overview, true) =>
    let overview := { overview with revision := saturatingSucc overview.revision }
    (overview, some (overview.current crates))

/-- Drop the summaries of the forgotten threads. SOURCE: thread_runtime.rs:1136-1141. -/
def forget (overview : OverviewState) (threadIds : List ThreadId) : OverviewState :=
  let summaries := overview.summaries.retain fun threadId _ => !threadIds.contains threadId
  { revision :=
      if summaries.entries.length ≠ overview.summaries.entries.length then
        saturatingSucc overview.revision
      else overview.revision
    summaries := summaries }

end OverviewState

/-! ## Operations -/

/-- Events that carry no client-visible transcript content. SOURCE: thread_runtime.rs:1226-1233. -/
def isInternalEvent : AgentEvent → Bool
  | .threadOpened _ _ | .diffUpdated _ _ _ => true
  | _ => false

/-- What an applied event returns to its caller, apart from the running tasks. SOURCE:
thread_runtime.rs:173-180. -/
structure AppliedRuntimeEvent where
  sequence : Option UInt64
  requestState : Option WireRequestState
  overviewIfChanged : Option ThreadRuntimeOverview
  overviewRefreshNeeded : Bool
  deriving DecidableEq

def AppliedRuntimeEvent.unchanged : AppliedRuntimeEvent := ⟨none, none, none, false⟩

/-- The parts of a prepared output that reach the live turn. SOURCE: outputs.rs:42-51. -/
structure PreparedItemOutput where
  commandDescriptor : Option CommandOutputDescriptor
  toolDescriptor : Option ToolOutputDescriptor
  liveEvent : Option AgentEvent

namespace ThreadRuntimeEntry

/-- The request an event is about, the ledger after it and whether its record changed. SOURCE:
thread_runtime.rs:900-924. -/
def applyRequestEvent (ledger : RequestLedger) : AgentEvent →
    Option RuntimeRequestId × RequestLedger × Bool
  | .approvalRequested _ turn request =>
    (some (.approval request.id), ledger.register (.approval request.id) (some turn)
      (.approval request))
  | .serverRequestReceived _ turn request =>
    (some (.server request.id), ledger.register (.server request.id) turn (.server request))
  | .serverRequestResolved _ _ requestId =>
    (some (.server requestId), ledger.resolveFromHarness requestId)
  | _ => (none, ledger, false)

/-- SOURCE: thread_runtime.rs:888-962. -/
def applyEventLocked (entry : ThreadRuntimeEntry) (threadId : ThreadId) (event : AgentEvent)
    (appendLive : Bool) : ThreadRuntimeEntry × AppliedRuntimeEvent :=
  let eventSequence :=
    if isInternalEvent event then entry.eventSequence else saturatingSucc entry.eventSequence
  let (requestId, requests, requestChanged) := applyRequestEvent entry.requests event
  let live :=
    if appendLive && entry.live.isActive threadId then entry.live.append threadId event
    else entry.live
  let requestState := if requestChanged then requestId.bind (requests.state threadId) else none
  ({ entry with eventSequence := eventSequence, requests := requests, live := live },
    { sequence := if isInternalEvent event then none else some eventSequence
      requestState := requestState
      overviewIfChanged := none
      overviewRefreshNeeded := requestChanged })

/-- The entry after an applied event, before the overview is refreshed. SOURCE:
thread_runtime.rs:856-881. -/
def applyPreparedEvent (entry : ThreadRuntimeEntry) (threadId : ThreadId) (event : AgentEvent)
    (appendLive : Bool) (prepared : Option PreparedItemOutput) :
    ThreadRuntimeEntry × AppliedRuntimeEvent :=
  let (entry, applied) := entry.applyEventLocked threadId event false
  let live :=
    if appendLive && entry.live.isActive threadId then
      entry.live.appendWithOutputs threadId ((prepared.bind (·.liveEvent)).getD event)
        (prepared.bind (·.commandDescriptor)) (prepared.bind (·.toolDescriptor))
    else entry.live
  ({ entry with live := live }, applied)

/-- The turn an event completes. SOURCE: thread_runtime.rs:977-980. -/
def completedTurn : AgentEvent → Option TurnId
  | .turnCompleted _ turn _ _ => some turn
  | _ => none

/-- The entry after a turn is settled, persisted or not. SOURCE: thread_runtime.rs:964-1004. -/
def settleCompletedTurn (entry : ThreadRuntimeEntry) (threadId : ThreadId) (event : AgentEvent)
    (persistedTurn : Option (Turn × String)) : ThreadRuntimeEntry × AppliedRuntimeEvent :=
  let (entry, applied) := entry.applyEventLocked threadId event true
  match persistedTurn with
  | none =>
    ({ entry with
        live := entry.live.clearTurn threadId
        requests := entry.requests.pruneResolved (completedTurn event)
        gate := entry.gate.release }, applied)
  | some (turn, error) =>
    ({ entry with gate := (entry.gate.blockOnPersistence turn error).getD entry.gate }, applied)

end ThreadRuntimeEntry

/-- The runtime entries of the threads, the overview, and the claims handed out. -/
structure ThreadRuntime where
  entries : ThreadId → Option ThreadRuntimeEntry
  overview : OverviewState
  claims : List RequestClaim

/-- SOURCE: thread_runtime.rs:187-191. -/
structure RequestTransition where
  requestState : WireRequestState
  overviewIfChanged : Option ThreadRuntimeOverview
  deriving DecidableEq

/-- SOURCE: thread_runtime.rs:193-197. -/
structure RequestCommitError where
  error : HarnessError
  rollback : Option RequestTransition
  deriving DecidableEq

namespace ThreadRuntime

def empty : ThreadRuntime := ⟨fun _ => none, OverviewState.empty, []⟩

/-- SOURCE: thread_runtime.rs:1214-1216. -/
def entryOrCreate (runtime : ThreadRuntime) (threadId : ThreadId) : ThreadRuntimeEntry :=
  (runtime.entries threadId).getD ThreadRuntimeEntry.empty

/-- Leave an entry as it was changed. -/
def store (runtime : ThreadRuntime) (threadId : ThreadId) (entry : ThreadRuntimeEntry) :
    ThreadRuntime :=
  { runtime with entries := Function.update runtime.entries threadId (some entry) }

/-- Leave an entry as it was changed and refresh the overview from it. -/
def refresh (crates : Crates) (runtime : ThreadRuntime) (threadId : ThreadId)
    (entry : ThreadRuntimeEntry) : ThreadRuntime × Option ThreadRuntimeOverview :=
  let (overview, changed) := runtime.overview.refresh crates threadId entry
  ({ runtime.store threadId entry with overview := overview }, changed)

/-- SOURCE: thread_runtime.rs:1006-1022. -/
def reserveTurn (crates : Crates) (runtime : ThreadRuntime) (threadId : ThreadId)
    (reservation : TurnReservation) : ThreadRuntime × Except HarnessError Unit :=
  let entry := runtime.entryOrCreate threadId
  match entry.gate.reserve threadId reservation with
  | .error error => (runtime.store threadId entry, .error error)
  | .ok gate => ((runtime.refresh crates threadId { entry with gate := gate }).1, .ok ())

/-- SOURCE: thread_runtime.rs:1040-1053. -/
def acknowledgeTurn (crates : Crates) (runtime : ThreadRuntime) (threadId : ThreadId)
    (turnId : TurnId) : ThreadRuntime × Option ThreadRuntimeOverview :=
  let entry := runtime.entryOrCreate threadId
  match entry.gate.acknowledge turnId with
  | none => (runtime.store threadId entry, none)
  | some gate => runtime.refresh crates threadId { entry with gate := gate }

/-- SOURCE: thread_runtime.rs:1055-1069. -/
def releaseTurn (crates : Crates) (runtime : ThreadRuntime) (threadId : ThreadId) :
    ThreadRuntime × Option ThreadRuntimeOverview :=
  match runtime.entries threadId with
  | none => (runtime, none)
  | some entry => runtime.refresh crates threadId { entry with gate := entry.gate.release }

/-- SOURCE: thread_runtime.rs:964-1004. -/
def settleCompletedTurn (crates : Crates) (runtime : ThreadRuntime) (threadId : ThreadId)
    (event : AgentEvent) (persistedTurn : Option (Turn × String)) :
    ThreadRuntime × AppliedRuntimeEvent :=
  let (entry, applied) :=
    (runtime.entryOrCreate threadId).settleCompletedTurn threadId event persistedTurn
  let (runtime, overview) := runtime.refresh crates threadId entry
  (runtime, { applied with overviewIfChanged := overview })

/-- SOURCE: thread_runtime.rs:787-826, 856-886. -/
def applyEvent (crates : Crates) (runtime : ThreadRuntime) (threadId : ThreadId)
    (event : AgentEvent) (appendLive : Bool) (prepared : Option PreparedItemOutput) :
    ThreadRuntime × AppliedRuntimeEvent :=
  if event.threadId ≠ threadId then (runtime, .unchanged)
  else
    let (entry, applied) :=
      (runtime.entryOrCreate threadId).applyPreparedEvent threadId event appendLive prepared
    if applied.overviewRefreshNeeded then
      let (runtime, overview) := runtime.refresh crates threadId entry
      (runtime, { applied with overviewIfChanged := overview })
    else (runtime.store threadId entry, applied)

/-- The text of a refused claim. SOURCE: thread_runtime.rs:1101-1110. -/
def claimError (requestId : RuntimeRequestId) : ClaimRejection → HarnessError
  | .missing => .protocol ("no pending request for id " ++ requestId.asStr)
  | .notPending => .protocol ("request " ++ requestId.asStr ++ " is not pending")

/-- SOURCE: thread_runtime.rs:1088-1126. -/
def claimRequest (crates : Crates) (runtime : ThreadRuntime) (threadId : ThreadId)
    (requestId : RuntimeRequestId) (claimId : UInt64) :
    ThreadRuntime × Except HarnessError RequestTransition :=
  let entry := runtime.entryOrCreate threadId
  match entry.requests.claim threadId requestId claimId with
  | (_, .error rejection) => (runtime.store threadId entry, .error (claimError requestId rejection))
  | (requests, .ok state) =>
    let (runtime, overview) := runtime.refresh crates threadId { entry with requests := requests }
    ({ runtime with claims := runtime.claims ++ [⟨threadId, requestId, claimId, false⟩] },
      .ok ⟨state, overview⟩)

/-- SOURCE: thread_runtime.rs:1128-1142. -/
def forgetThreads (runtime : ThreadRuntime) (threadIds : List ThreadId) : ThreadRuntime :=
  { runtime with
    entries := fun threadId =>
      if threadIds.contains threadId then none else runtime.entries threadId
    overview := runtime.overview.forget threadIds }

/-- Mark a claim as settled. -/
def settle (runtime : ThreadRuntime) (index : ℕ) (claim : RequestClaim) : ThreadRuntime :=
  { runtime with claims := runtime.claims.set index { claim with settled := true } }

/-- SOURCE: thread_runtime.rs:1434-1458. -/
def rollbackInner (crates : Crates) (runtime : ThreadRuntime) (index : ℕ) (claim : RequestClaim) :
    ThreadRuntime × Option RequestTransition :=
  if claim.settled then (runtime, none)
  else match runtime.entries claim.threadId with
    | none => (runtime.settle index claim, none)
    | some entry =>
      match entry.requests.rollback claim.threadId claim.requestId claim.claimId with
      | (_, none) => (runtime.settle index claim, none)
      | (requests, some state) =>
        let (runtime, overview) :=
          runtime.refresh crates claim.threadId { entry with requests := requests }
        (runtime.settle index claim, some ⟨state, overview⟩)

/-- The text of a refused commit. SOURCE: thread_runtime.rs:1376-1421. -/
def commitError (requestId : RuntimeRequestId) : CommitRejection → HarnessError
  | .missing => .protocol ("request " ++ requestId.asStr ++ " disappeared")
  | .staleClaim => .protocol ("stale claim for request " ++ requestId.asStr)
  | .kindMismatch => .protocol ("response kind does not match request " ++ requestId.asStr)

/-- SOURCE: thread_runtime.rs:1371-1428. -/
def commit (crates : Crates) (runtime : ThreadRuntime) (index : ℕ) (claim : RequestClaim)
    (resolution : RequestResolution) :
    ThreadRuntime × Except RequestCommitError RequestTransition :=
  match runtime.entries claim.threadId with
  | none =>
    let error := .protocol
      ("runtime state for request " ++ claim.requestId.asStr ++ " disappeared")
    (runtime.settle index claim, .error ⟨error, none⟩)
  | some entry =>
    match entry.requests.commit claim.threadId claim.requestId claim.claimId resolution with
    | (requests, .ok state) =>
      let (runtime, overview) :=
        runtime.refresh crates claim.threadId { entry with requests := requests }
      (runtime.settle index claim, .ok ⟨state, overview⟩)
    | (_, .error .missing) =>
      (runtime.settle index claim, .error ⟨commitError claim.requestId .missing, none⟩)
    | (_, .error rejection) =>
      let (runtime, rollback) := runtime.rollbackInner crates index claim
      (runtime, .error ⟨commitError claim.requestId rejection, rollback⟩)

/-- The operations on the runtime. A claim id is drawn by the ledger; claims are committed,
rolled back or dropped by their position among the claims handed out. -/
inductive Op where
  | reserveTurn (threadId : ThreadId) (reservation : TurnReservation)
  | acknowledgeTurn (threadId : ThreadId) (turnId : TurnId)
  | releaseTurn (threadId : ThreadId)
  | settleCompletedTurn (threadId : ThreadId) (event : AgentEvent)
      (persistedTurn : Option (Turn × String))
  | applyEvent (threadId : ThreadId) (event : AgentEvent) (appendLive : Bool)
      (prepared : Option PreparedItemOutput)
  | claimRequest (threadId : ThreadId) (requestId : RuntimeRequestId) (claimId : UInt64)
  | commit (index : ℕ) (resolution : RequestResolution)
  | rollback (index : ℕ)
  | forgetThreads (threadIds : List ThreadId)

/-- The runtime after one operation. -/
def step (crates : Crates) (runtime : ThreadRuntime) : Op → ThreadRuntime
  | .reserveTurn threadId reservation => (runtime.reserveTurn crates threadId reservation).1
  | .acknowledgeTurn threadId turnId => (runtime.acknowledgeTurn crates threadId turnId).1
  | .releaseTurn threadId => (runtime.releaseTurn crates threadId).1
  | .settleCompletedTurn threadId event persistedTurn =>
    (runtime.settleCompletedTurn crates threadId event persistedTurn).1
  | .applyEvent threadId event appendLive prepared =>
    (runtime.applyEvent crates threadId event appendLive prepared).1
  | .claimRequest threadId requestId claimId =>
    (runtime.claimRequest crates threadId requestId claimId).1
  | .commit index resolution => match runtime.claims[index]? with
    | none => runtime
    | some claim =>
      if claim.settled then runtime else (runtime.commit crates index claim resolution).1
  | .rollback index => match runtime.claims[index]? with
    | none => runtime
    | some claim => (runtime.rollbackInner crates index claim).1
  | .forgetThreads threadIds => runtime.forgetThreads threadIds

/-- The runtime after a run of operations. -/
def run (crates : Crates) (ops : List Op) : ThreadRuntime := ops.foldl (step crates) empty

end ThreadRuntime

end Giskard
