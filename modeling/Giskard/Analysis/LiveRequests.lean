import Mathlib
import Giskard.Foundation.Outstanding
import Giskard.Analysis.LivePaging

/-!
# What a reconnecting client must answer

The approvals and server requests a client derives from a snapshot do not depend on where
the snapshot is cut. Approvals left out are answered ones. Server requests are a stream of
notices, and the riders of a bounded snapshot trim that stream: a received event is left out
only when a later entry resolves it or the user has answered it, and before the cut every
resolved event goes with it.
-/

set_option autoImplicit false

namespace Giskard

open Foundation

/-! ## The client's derivation -/

/-- The approvals a reconnecting client would still treat as actionable, in arrival order.
SOURCE: live.rs:979-999. -/
def outstandingApprovals (snapshot : LiveTurnSnapshot) : List ApprovalId :=
  let answered := snapshot.answeredApprovals.map AnsweredApproval.requestId
  snapshot.accumulated.foldl (fun order event => match event with
    | .approvalRequested _ _ request =>
      if request.id ∉ answered ∧ request.id ∉ order then order ++ [request.id] else order
    | _ => order) []

/-- The server requests a reconnecting client would still treat as actionable, in arrival
order. SOURCE: live.rs:1001-1028. -/
def outstandingServerRequests (snapshot : LiveTurnSnapshot) : List ServerRequestId :=
  let pending := snapshot.accumulated.foldl (fun pending event => match event with
    | .serverRequestReceived _ _ request =>
      if request.id ∈ pending then pending else pending ++ [request.id]
    | .serverRequestResolved _ _ requestId => pending.filter (· ≠ requestId)
    | _ => pending) ([] : List ServerRequestId)
  pending.filter fun id => id ∉ snapshot.answeredServerRequests

/-- The approval an event asks for. -/
def WireAgentEvent.approvalId : WireAgentEvent → Option ApprovalId
  | .approvalRequested _ _ request => some request.id
  | _ => none

/-- The notice of a server request that an event gives. -/
def WireAgentEvent.requestNotice : WireAgentEvent → Option (Notice ServerRequestId)
  | .serverRequestReceived _ _ request => some (.opened request.id)
  | .serverRequestResolved _ _ requestId => some (.closed requestId)
  | _ => none

theorem outstandingApprovals_eq (snapshot : LiveTurnSnapshot) :
    outstandingApprovals snapshot =
      firstSeen ((snapshot.accumulated.filterMap WireAgentEvent.approvalId).filter
        fun id => id ∉ snapshot.answeredApprovals.map AnsweredApproval.requestId) := by
  rw [firstSeen, List.foldl_filter, List.foldl_filterMap, outstandingApprovals]
  congr 1
  funext order event
  cases event <;> simp only [WireAgentEvent.approvalId]
  next thread turn request =>
    by_cases answered : request.id ∈ snapshot.answeredApprovals.map AnsweredApproval.requestId <;>
      by_cases seen : request.id ∈ order <;> simp [addNew, answered, seen]

theorem outstandingServerRequests_eq (snapshot : LiveTurnSnapshot) :
    outstandingServerRequests snapshot =
      (outstanding (snapshot.accumulated.filterMap WireAgentEvent.requestNotice)).filter
        fun id => id ∉ snapshot.answeredServerRequests := by
  rw [outstanding, List.foldl_filterMap, outstandingServerRequests]
  congr 2
  funext pending event
  cases event <;> rfl

/-! ## The events a snapshot carries -/

section

variable {crates : Crates}

/-- A reading of wire events that disregards those of items and of the turn's start and
usage. -/
def IgnoresItems {β : Type} (read : WireAgentEvent → Option β) : Prop :=
  (∀ event, event.itemId.isSome → read event = none) ∧
    (∀ thread turn info, read (.turnStarted thread turn info) = none) ∧
    ∀ thread turn usage window, read (.turnUsageUpdated thread turn usage window) = none

theorem ignoresItems_approvalId : IgnoresItems WireAgentEvent.approvalId := by
  refine ⟨?_, fun _ _ _ => rfl, fun _ _ _ _ => rfl⟩
  intro event about
  cases event <;> first | rfl | cases about

theorem ignoresItems_requestNotice : IgnoresItems WireAgentEvent.requestNotice := by
  refine ⟨?_, fun _ _ _ => rfl, fun _ _ _ _ => rfl⟩
  intro event about
  cases event <;> first | rfl | cases about

namespace LiveTurn

/-- The entries that the snapshot which cuts at `cut` carries, from an index on. -/
def carriedFrom (turn : LiveTurn) (cut index : ℕ) (entries : List LiveEntry) : List LiveEntry :=
  ((entries.zipIdx index).filter fun (_, index) => turn.carries cut index).map Prod.fst

/-- What a reading finds in an entry. -/
def readEntry {β : Type} (crates : Crates) (read : WireAgentEvent → Option β)
    (entry : LiveEntry) : Option β :=
  (entry.asEvent.bind (WireAgentEvent.fromAgentEvent crates)).bind read

theorem carriedFrom_cons (turn : LiveTurn) (cut index : ℕ) (entry : LiveEntry)
    (entries : List LiveEntry) :
    turn.carriedFrom cut index (entry :: entries) =
      if turn.carries cut index then entry :: turn.carriedFrom cut (index + 1) entries
      else turn.carriedFrom cut (index + 1) entries := by
  simp only [carriedFrom, List.zipIdx_cons, List.filter_cons]
  split <;> rfl

theorem carriedFrom_of_le (turn : LiveTurn) {cut index : ℕ} (after : cut ≤ index)
    (entries : List LiveEntry) : turn.carriedFrom cut index entries = entries := by
  induction entries generalizing index with
  | nil => rfl
  | cons entry entries ih =>
    have carried : turn.carries cut index = true := by simp [carries, Nat.not_lt.2 after]
    rw [carriedFrom_cons, if_pos carried, ih (by omega)]

/-- A reading of a snapshot is a reading of the entries it carries. SOURCE:
live.rs:766-809. -/
theorem snapshotTurn_filterMap {turn : LiveTurn} (valid : turn.Valid) (threadId : ThreadId)
    (tailItems : ℕ) {β : Type} {read : WireAgentEvent → Option β} (ignores : IgnoresItems read) :
    (LiveTurnState.snapshotTurn crates threadId turn tailItems).accumulated.filterMap read =
      (turn.carriedFrom (turn.cut tailItems) 0 turn.entries).filterMap (readEntry crates read) := by
  obtain ⟨items, starts, usages⟩ := ignores
  have started : (turn.turnStarted.bind (WireAgentEvent.fromAgentEvent crates)).toList.filterMap
      read = [] := by
    rw [List.filterMap_eq_nil_iff]
    intro event member
    obtain ⟨core, kept, result⟩ := Option.bind_eq_some_iff.1 (Option.mem_toList.1 member)
    obtain ⟨thread, tid, rfl⟩ := valid.started core kept
    obtain rfl := Option.some.inj result
    exact starts _ _ _
  have usage : (turn.latestUsage.bind (WireAgentEvent.fromAgentEvent crates)).toList.filterMap
      read = [] := by
    rw [List.filterMap_eq_nil_iff]
    intro event member
    obtain ⟨core, kept, result⟩ := Option.bind_eq_some_iff.1 (Option.mem_toList.1 member)
    obtain ⟨thread, tid, usage, window, model, rfl⟩ := valid.usage core kept
    obtain rfl := Option.some.inj result
    exact usages _ _ _ _
  have pending : (turn.pendingStarts.values.filterMap (waitingStart crates)).filterMap
      read = [] := by
    rw [List.filterMap_eq_nil_iff]
    intro event member
    obtain ⟨⟨thread, turnId, start⟩, -, result⟩ := List.mem_filterMap.1 member
    obtain rfl := Option.some.inj result
    exact items _ rfl
  have entry (kept : LiveEntry) (member : kept ∈ turn.entries) :
      (kept.expand crates turn).filterMap read = (readEntry crates read kept).toList := by
    cases kept with
    | event core =>
      cases result : WireAgentEvent.fromAgentEvent crates core with
      | none => simp [LiveEntry.expand, readEntry, LiveEntry.asEvent, result]
      | some wire =>
        cases found : read wire <;>
          simp [LiveEntry.expand, readEntry, LiveEntry.asEvent, result, found]
    | item entry =>
      simp only [LiveEntry.expand, readEntry, LiveEntry.asEvent, Option.bind_none,
        Option.toList_none, List.filterMap_eq_nil_iff]
      intro event inside
      apply items
      rw [LiveItemEntry.expand_itemId (valid.entryValid member) inside]
      rfl
  have carried : ((turn.entries.zipIdx.filter fun (_, index) =>
        turn.carries (turn.cut tailItems) index).flatMap
          fun (kept, _) => kept.expand crates turn).filterMap read =
      (turn.carriedFrom (turn.cut tailItems) 0 turn.entries).filterMap (readEntry crates read) := by
    rw [carriedFrom, List.filterMap_flatMap, List.filterMap_map, List.filterMap_eq_flatMap_toList]
    apply List.flatMap_congr
    rintro ⟨kept, index⟩ member
    apply entry
    exact List.mem_of_getElem? (List.mem_zipIdx_iff_getElem?.1 (List.mem_filter.1 member).1)
  simp only [LiveTurnState.snapshotTurn, List.filterMap_append, started, usage, pending, carried,
    List.nil_append, List.append_nil]

theorem carriedFrom_sublist (turn : LiveTurn) (cut index : ℕ) (entries : List LiveEntry) :
    (turn.carriedFrom cut index entries).Sublist entries := by
  have := (List.filter_sublist (p := fun (_, index) => turn.carries cut index)
    (l := entries.zipIdx index)).map Prod.fst
  rwa [List.zipIdx_map_fst] at this

/-! ## Approvals -/

theorem mem_approvalIds {entries : List LiveEntry} {approvalId : ApprovalId} :
    approvalId ∈ entries.filterMap (readEntry crates WireAgentEvent.approvalId) ↔
      ∃ thread turnId request, .event (.approvalRequested thread turnId request) ∈ entries ∧
        request.id = approvalId := by
  rw [List.mem_filterMap]
  constructor
  · rintro ⟨kept, member, found⟩
    cases kept with
    | item entry => cases found
    | event core =>
      cases core <;> cases found
      exact ⟨_, _, _, member, rfl⟩
  · rintro ⟨thread, turnId, request, member, rfl⟩
    exact ⟨_, member, rfl⟩

/-- A snapshot leaves out only approvals that have been answered. SOURCE: live.rs:237-239. -/
theorem approvalIds_carriedFrom (turn : LiveTurn) (cut index : ℕ) {entries : List LiveEntry}
    (suffix : turn.entries.drop index = entries) :
    ((turn.carriedFrom cut index entries).filterMap
        (readEntry crates WireAgentEvent.approvalId)).filter
        (fun id => (turn.resolvedApprovals id).isNone) =
      (entries.filterMap (readEntry crates WireAgentEvent.approvalId)).filter
        fun id => (turn.resolvedApprovals id).isNone := by
  induction entries generalizing index with
  | nil => rfl
  | cons entry entries ih =>
    have here : turn.entries[index]? = some entry := by
      rw [← List.head?_drop, suffix, List.head?_cons]
    have rest : turn.entries.drop (index + 1) = entries := by
      rw [← List.drop_drop, suffix, List.drop_one, List.tail_cons]
    rw [carriedFrom_cons]
    by_cases carried : turn.carries cut index = true
    · rw [if_pos carried, List.filterMap_cons, List.filterMap_cons]
      split
      · exact ih (index + 1) rest
      · rw [List.filter_cons, List.filter_cons, ih (index + 1) rest]
    · rw [if_neg carried, ih (index + 1) rest, List.filterMap_cons]
      split
      · rfl
      · next id found =>
        cases entry with
        | item entry => cases found
        | event core =>
          cases core <;> cases found
          next thread turnId request =>
            rw [carries_eq here] at carried
            have answered : (turn.resolvedApprovals request.id).isNone = false := by
              rw [← Bool.not_eq_true]
              intro open_
              exact carried (by simp [rides, open_])
            rw [List.filter_cons]
            change _ = if (turn.resolvedApprovals request.id).isNone then _ else _
            rw [answered]
            rfl

/-- The client's approvals are those of the whole turn that have no decision. -/
theorem outstandingApprovals_snapshotTurn {turn : LiveTurn} (valid : turn.Valid)
    (threadId : ThreadId) (tailItems : ℕ) :
    outstandingApprovals (LiveTurnState.snapshotTurn crates threadId turn tailItems) =
      firstSeen ((turn.entries.filterMap (readEntry crates WireAgentEvent.approvalId)).filter
        fun id => (turn.resolvedApprovals id).isNone) := by
  rw [outstandingApprovals_eq, snapshotTurn_filterMap valid threadId tailItems
    ignoresItems_approvalId, ← turn.approvalIds_carriedFrom (turn.cut tailItems) 0 List.drop_zero]
  congr 1
  apply List.filter_congr
  intro id member
  have asked := ((turn.carriedFrom_sublist (turn.cut tailItems) 0 turn.entries).filterMap
    (readEntry crates WireAgentEvent.approvalId)).subset member
  obtain ⟨thread, turnId, request, inside, rfl⟩ := mem_approvalIds.1 asked
  rw [Bool.eq_iff_iff, decide_eq_true_eq, Option.isNone_iff_eq_none]
  simp only [LiveTurnState.snapshotTurn, events, List.mem_map, List.mem_filterMap]
  constructor
  · intro unanswered
    cases decided : turn.resolvedApprovals request.id with
    | none => rfl
    | some decision =>
      refine absurd ⟨⟨request.id, decision⟩, ⟨_, ⟨_, inside, rfl⟩, ?_⟩, rfl⟩ unanswered
      simp [decided]
  · rintro undecided ⟨answer, ⟨core, -, found⟩, same⟩
    split at found
    · obtain ⟨decision, decided, rfl⟩ := Option.map_eq_some_iff.1 found
      simp only at same
      rw [same, undecided] at decided
      cases decided
    · cases found

/-! ## Server requests -/

theorem mem_closed {entries : List LiveEntry} {requestId : ServerRequestId} :
    .closed requestId ∈ entries.filterMap (readEntry crates WireAgentEvent.requestNotice) ↔
      ∃ thread turnId, .event (.serverRequestResolved thread turnId requestId) ∈ entries := by
  rw [List.mem_filterMap]
  constructor
  · rintro ⟨kept, member, found⟩
    cases kept with
    | item entry => cases found
    | event core =>
      cases core <;> cases found
      exact ⟨_, _, member⟩
  · rintro ⟨thread, turnId, member⟩
    exact ⟨_, member, rfl⟩

theorem mem_opened {entries : List LiveEntry} {requestId : ServerRequestId} :
    .opened requestId ∈ entries.filterMap (readEntry crates WireAgentEvent.requestNotice) ↔
      ∃ thread turnId request, .event (.serverRequestReceived thread turnId request) ∈ entries ∧
        request.id = requestId := by
  rw [List.mem_filterMap]
  constructor
  · rintro ⟨kept, member, found⟩
    cases kept with
    | item entry => cases found
    | event core =>
      cases core <;> cases found
      exact ⟨_, _, _, member, rfl⟩
  · rintro ⟨thread, turnId, request, member, rfl⟩
    exact ⟨_, member, rfl⟩

/-- A snapshot trims the notices of the turn's server requests. SOURCE: live.rs:219-250. -/
theorem trims_carriedFrom (turn : LiveTurn) (cut index : ℕ) {entries : List LiveEntry}
    (suffix : turn.entries.drop index = entries) :
    Trims (fun id => decide (id ∉ turn.resolvedServerRequests))
      (entries.filterMap (readEntry crates WireAgentEvent.requestNotice))
      ((turn.carriedFrom cut index entries).filterMap
        (readEntry crates WireAgentEvent.requestNotice)) := by
  induction entries generalizing index with
  | nil => exact .nil
  | cons entry entries ih =>
    have here : turn.entries[index]? = some entry := by
      rw [← List.head?_drop, suffix, List.head?_cons]
    have rest : turn.entries.drop (index + 1) = entries := by
      rw [← List.drop_drop, suffix, List.drop_one, List.tail_cons]
    have trimmed := ih (index + 1) rest
    rw [carriedFrom_cons, List.filterMap_cons]
    cases found : readEntry crates WireAgentEvent.requestNotice entry with
    | none =>
      simp only
      split
      · rwa [List.filterMap_cons, found]
      · exact trimmed
    | some notice =>
      simp only
      cases notice with
      | closed requestId =>
        split
        · rw [List.filterMap_cons, found]
          exact .keepClosed trimmed
        · exact .dropClosed trimmed
      | opened requestId =>
        obtain ⟨thread, turnId, request, member, rfl⟩ : ∃ thread turnId request,
            LiveEntry.event (.serverRequestReceived thread turnId request) ∈ [entry] ∧
              request.id = requestId := by
          rw [← @mem_opened crates]
          simp [found]
        obtain rfl := (List.mem_singleton.1 member)
        have carried := @carries_eq turn cut index _ here
        rw [rest, rides] at carried
        split
        · next carries =>
          rw [List.filterMap_cons, found]
          refine .keepOpened trimmed ?_
          intro closed
          -- a carried received event that a later entry resolves stands after the cut
          by_cases before : index < cut
          · rw [carries] at carried
            simp only [before, decide_true, Bool.not_true, Bool.false_or, Bool.true_eq,
              Bool.and_eq_true, decide_eq_true_eq] at carried
            exact absurd (mem_ridersFrom.2 (mem_closed.1 closed)) carried.1
          · rwa [carriedFrom_of_le turn (by omega)]
        · next left =>
          refine .dropOpened trimmed ?_
          rw [Bool.eq_false_iff.2 left] at carried
          by_cases later : request.id ∈ (turn.ridersFrom (index + 1) entries).2
          · exact .inl (mem_closed.2 (mem_ridersFrom.1 later))
          · refine .inr ?_
            have both : index < cut ∧ request.id ∈ turn.resolvedServerRequests := by
              simpa [later] using carried
            simpa using both.2

theorem outstandingServerRequests_snapshotTurn {turn : LiveTurn} (valid : turn.Valid)
    (threadId : ThreadId) (tailItems : ℕ) :
    outstandingServerRequests (LiveTurnState.snapshotTurn crates threadId turn tailItems) =
      (outstanding (turn.entries.filterMap (readEntry crates WireAgentEvent.requestNotice))).filter
        fun id => id ∉ turn.resolvedServerRequests := by
  have trims := @trims_carriedFrom crates turn (turn.cut tailItems) 0 _ List.drop_zero
  rw [outstandingServerRequests_eq, snapshotTurn_filterMap valid threadId tailItems
    ignoresItems_requestNotice, ← trims.outstanding_filter]
  apply List.filter_congr
  intro id member
  have received := trims.subset (opened_of_mem_outstanding member)
  obtain ⟨thread, turnId, request, inside, rfl⟩ := mem_opened.1 received
  rw [decide_eq_decide, not_iff_not]
  simp only [LiveTurnState.snapshotTurn, events, List.mem_filterMap]
  constructor
  · rintro ⟨core, -, found⟩
    split at found
    · split at found
      · next answered => rwa [← Option.some.inj found]
      · cases found
    · cases found
  · intro answered
    exact ⟨_, ⟨_, inside, rfl⟩, if_pos answered⟩

end LiveTurn

end

namespace Analysis

open LiveTurnState

/-- In every run, the approvals and the server requests that a client must still answer, and
their order, are the same whatever tail the snapshot was taken with; in particular a bounded
snapshot and the unbounded one agree. SOURCE: live.rs:214-250, 736-832, 979-1028. -/
theorem outstanding_of_bounded_snapshot (crates : Crates) (ops : List Op) (threadId : ThreadId)
    (tailItems unbounded : ℕ) :
    ((run ops).snapshot crates threadId tailItems).map outstandingApprovals =
        ((run ops).snapshot crates threadId unbounded).map outstandingApprovals ∧
      ((run ops).snapshot crates threadId tailItems).map outstandingServerRequests =
        ((run ops).snapshot crates threadId unbounded).map outstandingServerRequests := by
  cases live : (run ops).turnOf threadId with
  | none => simp [snapshot, live]
  | some turn =>
    have valid := valid_of_turnOf live
    simp only [snapshot, live, Option.map_some]
    constructor
    · rw [LiveTurn.outstandingApprovals_snapshotTurn valid,
        LiveTurn.outstandingApprovals_snapshotTurn valid]
    · rw [LiveTurn.outstandingServerRequests_snapshotTurn valid,
        LiveTurn.outstandingServerRequests_snapshotTurn valid]

end Analysis

end Giskard
