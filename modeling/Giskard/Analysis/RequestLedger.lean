import Mathlib
import Giskard.Model.Requests

/-!
# Requests are answered once

`RecordStep` says once what one operation on a ledger can do to one record, and what it
publishes for it; everything else is derived from that. A record that is closed, because it
is resolved or because the harness resolved it under a claim, stays closed, so at most one
commit succeeds. Every change of what the wire shows of a record takes the next revision, so
two readings with the same revision show the same.
-/

set_option autoImplicit false

namespace Giskard

open Foundation

namespace RequestDesk

/-- What an operation publishes for one request. -/
def publishedFor (desk : RequestDesk) (requestId : RuntimeRequestId) (op : DeskOp) :
    Option WireRequestState :=
  ((desk.step op).2.filter fun published => published.1 = requestId).map Prod.snd

/-- What one operation does to one record: the record afterwards and the state published for
it. -/
inductive RecordStep (desk : RequestDesk) (requestId : RuntimeRequestId) :
    DeskOp → Option RequestRecord → Option WireRequestState → Prop
  | idle {op : DeskOp} : RecordStep desk requestId op (desk.record requestId) none
  | registered {turnId : Option TurnId} {payload : RequestPayload}
      (absent : desk.record requestId = none) :
      RecordStep desk requestId (.register requestId turnId payload)
        (some ⟨turnId, payload, .pending, 1⟩)
        (some (wireRequestState desk.threadId ⟨turnId, payload, .pending, 1⟩))
  | refreshed {turnId : Option TurnId} {payload : RequestPayload} {r next : RequestRecord}
      (found : desk.record requestId = some r)
      (next_eq : next = { r with payload := payload, revision := saturatingSucc r.revision }) :
      RecordStep desk requestId (.register requestId turnId payload) (some next)
        (some (wireRequestState desk.threadId next))
  | flagged {id : ServerRequestId} {r next : RequestRecord} {claim : UInt64} {flag : Bool}
      (same : requestId = .server id) (found : desk.record requestId = some r)
      (responding : r.status = .responding claim flag)
      (next_eq : next = { r with status := .responding claim true }) :
      RecordStep desk requestId (.resolveFromHarness id) (some next) none
  | closed {id : ServerRequestId} {r next : RequestRecord} (same : requestId = .server id)
      (found : desk.record requestId = some r) (pending : r.status = .pending)
      (next_eq : next = { r with
        status := .resolved harnessResolution, revision := saturatingSucc r.revision }) :
      RecordStep desk requestId (.resolveFromHarness id) (some next)
        (some (wireRequestState desk.threadId next))
  | claimed {claimId : UInt64} {r next : RequestRecord} (found : desk.record requestId = some r)
      (pending : r.status = .pending)
      (next_eq : next = { r with
        status := .responding claimId false, revision := saturatingSucc r.revision }) :
      RecordStep desk requestId (.claim requestId claimId) (some next)
        (some (wireRequestState desk.threadId next))
  | committed {index : ℕ} {resolution : RequestResolution} {claim : RequestClaim}
      {r next : RequestRecord} {flag : Bool} (known : desk.claims[index]? = some claim)
      (same : claim.requestId = requestId) (open_ : claim.settled = false)
      (found : desk.record requestId = some r) (held : r.status = .responding claim.claimId flag)
      (next_eq : next = { r with
        status := .resolved resolution, revision := saturatingSucc r.revision }) :
      RecordStep desk requestId (.commit index resolution) (some next)
        (some (wireRequestState desk.threadId next))
  | rolledBack {index : ℕ} {claim : RequestClaim} {r next : RequestRecord} {flag : Bool}
      (known : desk.claims[index]? = some claim) (same : claim.requestId = requestId)
      (open_ : claim.settled = false) (found : desk.record requestId = some r)
      (held : r.status = .responding claim.claimId flag)
      (next_eq : next = { r with
        status := if flag then .resolved harnessResolution else .pending
        revision := saturatingSucc r.revision }) :
      RecordStep desk requestId (.rollback index) (some next)
        (some (wireRequestState desk.threadId next))
  | pruned {turnId : Option TurnId} {r : RequestRecord} {resolution : RequestResolution}
      (found : desk.record requestId = some r) (resolved : r.status = .resolved resolution) :
      RecordStep desk requestId (.pruneResolved turnId) none none

section

variable (desk : RequestDesk) (requestId : RuntimeRequestId)

theorem record_insert (target : RuntimeRequestId) (r : RequestRecord) (claims : List RequestClaim) :
    record ⟨desk.threadId, ⟨desk.ledger.records.insert target r⟩, claims⟩ requestId =
      if requestId = target then some r else desk.record requestId := by
  unfold record
  split
  · next same =>
    subst same
    exact IndexMap.get?_insert_self _ _ _
  · next other => exact IndexMap.get?_insert_of_ne _ other _

variable {desk requestId}

theorem recordStep_write {op : DeskOp} {target : RuntimeRequestId} {next : RequestRecord}
    (claims : List RequestClaim)
    (write : requestId = target → RecordStep desk requestId op (some next)
      (some (wireRequestState desk.threadId next))) :
    RecordStep desk requestId op
      (record ⟨desk.threadId, ⟨desk.ledger.records.insert target next⟩, claims⟩ requestId)
      (((some (target, wireRequestState desk.threadId next)).filter
        fun published => published.1 = requestId).map Prod.snd) := by
  rw [record_insert]
  by_cases same : requestId = target
  · subst same
    simp only [if_true, Option.filter_some, decide_true, Option.map_some]
    exact write rfl
  · have other : ¬ target = requestId := fun eq => same eq.symm
    simp only [same, if_false, Option.filter_some, other, decide_false, Bool.false_eq_true,
      Option.map_none]
    exact .idle

theorem step_register (target : RuntimeRequestId) (turnId : Option TurnId)
    (payload : RequestPayload) :
    RecordStep desk requestId (.register target turnId payload)
      ((desk.step (.register target turnId payload)).1.record requestId)
      (desk.publishedFor requestId (.register target turnId payload)) := by
  cases found : desk.ledger.records.get? target with
  | none =>
    simp only [publishedFor, step, publish, RequestLedger.register, found, if_true,
      RequestLedger.state, IndexMap.get?_insert_self, Option.map_some]
    apply recordStep_write
    rintro rfl
    exact .registered found
  | some r =>
    by_cases unchanged : r.payload = payload
    · simp only [publishedFor, step, publish, RequestLedger.register, found, unchanged, if_true,
        Bool.false_eq_true, if_false, Option.filter_none, Option.map_none]
      exact .idle
    · simp only [publishedFor, step, publish, RequestLedger.register, found, unchanged, if_false,
        if_true, RequestLedger.state, IndexMap.get?_insert_self, Option.map_some]
      apply recordStep_write
      rintro rfl
      exact .refreshed found rfl

theorem step_resolveFromHarness (target : ServerRequestId) :
    RecordStep desk requestId (.resolveFromHarness target)
      ((desk.step (.resolveFromHarness target)).1.record requestId)
      (desk.publishedFor requestId (.resolveFromHarness target)) := by
  cases found : desk.ledger.records.get? (.server target) with
  | none =>
    simp only [publishedFor, step, publish, RequestLedger.resolveFromHarness, found,
      Bool.false_eq_true, if_false, Option.filter_none, Option.map_none]
    exact .idle
  | some r =>
    cases status : r.status with
    | pending =>
      simp only [publishedFor, step, publish, RequestLedger.resolveFromHarness, found, status,
        if_true, RequestLedger.state, IndexMap.get?_insert_self, Option.map_some]
      apply recordStep_write
      rintro rfl
      exact .closed rfl found status rfl
    | responding claim flag =>
      simp only [publishedFor, step, publish, RequestLedger.resolveFromHarness, found, status,
        Bool.false_eq_true, if_false, Option.filter_none, Option.map_none]
      rw [record_insert]
      split
      · next same =>
        subst same
        exact .flagged rfl found status rfl
      · exact .idle
    | resolved resolution =>
      simp only [publishedFor, step, publish, RequestLedger.resolveFromHarness, found, status,
        Bool.false_eq_true, if_false, Option.filter_none, Option.map_none]
      exact .idle

theorem step_pruneResolved (turnId : Option TurnId) :
    RecordStep desk requestId (.pruneResolved turnId)
      ((desk.step (.pruneResolved turnId)).1.record requestId)
      (desk.publishedFor requestId (.pruneResolved turnId)) := by
  have kept : RecordStep desk requestId (.pruneResolved turnId) (desk.record requestId) none :=
    .idle
  simp only [publishedFor, step, Option.filter_none, Option.map_none, record,
    RequestLedger.pruneResolved, IndexMap.get?_retain]
  cases found : desk.ledger.records.get? requestId with
  | none => rwa [record, found] at kept
  | some r =>
    rw [record, found] at kept
    cases status : r.status with
    | resolved resolution =>
      simp only [Option.filter_some, status, Bool.true_and]
      split
      · exact kept
      · exact .pruned found status
    | pending =>
      simp only [Option.filter_some, status, Bool.false_and, Bool.not_false, if_true]
      exact kept
    | responding claim flag =>
      simp only [Option.filter_some, status, Bool.false_and, Bool.not_false, if_true]
      exact kept

theorem step_claim (target : RuntimeRequestId) (claimId : UInt64) :
    RecordStep desk requestId (.claim target claimId)
      ((desk.step (.claim target claimId)).1.record requestId)
      (desk.publishedFor requestId (.claim target claimId)) := by
  cases found : desk.ledger.records.get? target with
  | none =>
    simp only [publishedFor, step, RequestLedger.claim, found, Option.filter_none, Option.map_none]
    exact .idle
  | some r =>
    by_cases pending : r.status = .pending
    · simp only [publishedFor, step, RequestLedger.claim, found, pending, ne_eq, not_true_eq_false,
        if_false]
      apply recordStep_write
      rintro rfl
      exact .claimed found pending rfl
    · simp only [publishedFor, step, RequestLedger.claim, found, pending, ne_eq, not_false_eq_true,
        if_true, Option.filter_none, Option.map_none]
      exact .idle

theorem heldBy_iff {r : RequestRecord} {claimId : UInt64} :
    RequestLedger.heldBy r claimId = true ↔ ∃ flag, r.status = .responding claimId flag := by
  unfold RequestLedger.heldBy
  split
  · next claim flag status => simp [status]
  · next other =>
    constructor
    · intro absurd_
      cases absurd_
    · rintro ⟨flag, status⟩
      exact absurd status (other claimId flag)

theorem step_commit (index : ℕ) (resolution : RequestResolution) :
    RecordStep desk requestId (.commit index resolution)
      ((desk.step (.commit index resolution)).1.record requestId)
      (desk.publishedFor requestId (.commit index resolution)) := by
  cases known : desk.claims[index]? with
  | none =>
    simp only [publishedFor, step, known, Option.filter_none, Option.map_none]
    exact .idle
  | some claim =>
    cases open_ : claim.settled with
    | true =>
      simp only [publishedFor, step, known, open_, if_true, Option.filter_none, Option.map_none]
      exact .idle
    | false =>
      cases found : desk.ledger.records.get? claim.requestId with
      | none =>
        simp only [publishedFor, step, known, open_, Bool.false_eq_true, if_false,
          RequestLedger.commit, found, Option.filter_none, Option.map_none]
        exact .idle
      | some r =>
        cases held : RequestLedger.heldBy r claim.claimId with
        | false =>
          simp only [publishedFor, step, known, open_, Bool.false_eq_true, if_false,
            RequestLedger.commit, found, held, Bool.not_false, if_true, Option.filter_none,
            Option.map_none]
          exact .idle
        | true =>
          cases fits : RequestLedger.kindMatches r.payload resolution with
          | false =>
            simp only [publishedFor, step, known, open_, Bool.false_eq_true, if_false,
              RequestLedger.commit, found, held, fits, Bool.not_true, Bool.not_false, if_true,
              Option.filter_none, Option.map_none]
            exact .idle
          | true =>
            obtain ⟨flag, status⟩ := heldBy_iff.1 held
            simp only [publishedFor, step, known, open_, Bool.false_eq_true, if_false,
              RequestLedger.commit, found, held, fits, Bool.not_true, settle]
            apply recordStep_write
            rintro rfl
            exact .committed known rfl open_ found status rfl

theorem step_rollback (index : ℕ) :
    RecordStep desk requestId (.rollback index) ((desk.step (.rollback index)).1.record requestId)
      (desk.publishedFor requestId (.rollback index)) := by
  cases known : desk.claims[index]? with
  | none =>
    simp only [publishedFor, step, known, Option.filter_none, Option.map_none]
    exact .idle
  | some claim =>
    cases open_ : claim.settled with
    | true =>
      simp only [publishedFor, step, known, open_, if_true, Option.filter_none, Option.map_none]
      exact .idle
    | false =>
      cases found : desk.ledger.records.get? claim.requestId with
      | none =>
        simp only [publishedFor, step, known, open_, Bool.false_eq_true, if_false,
          RequestLedger.rollback, found, Option.filter_none, Option.map_none]
        exact .idle
      | some r =>
        cases status : r.status with
        | responding holder flag =>
          by_cases held : holder = claim.claimId
          · subst held
            simp only [publishedFor, step, known, open_, Bool.false_eq_true, if_false,
              RequestLedger.rollback, found, status, ne_eq, not_true_eq_false, settle]
            apply recordStep_write
            rintro rfl
            exact .rolledBack known rfl open_ found status rfl
          · simp only [publishedFor, step, known, open_, Bool.false_eq_true, if_false,
              RequestLedger.rollback, found, status, ne_eq, held, not_false_eq_true, if_true,
              Option.filter_none, Option.map_none]
            exact .idle
        | pending =>
          simp only [publishedFor, step, known, open_, Bool.false_eq_true, if_false,
            RequestLedger.rollback, found, status, Option.filter_none, Option.map_none]
          exact .idle
        | resolved resolution =>
          simp only [publishedFor, step, known, open_, Bool.false_eq_true, if_false,
            RequestLedger.rollback, found, status, Option.filter_none, Option.map_none]
          exact .idle

theorem step_cases (op : DeskOp) :
    RecordStep desk requestId op ((desk.step op).1.record requestId)
      (desk.publishedFor requestId op) := by
  cases op with
  | register target turnId payload => exact step_register target turnId payload
  | resolveFromHarness target => exact step_resolveFromHarness target
  | pruneResolved turnId => exact step_pruneResolved turnId
  | claim target claimId => exact step_claim target claimId
  | commit index resolution => exact step_commit index resolution
  | rollback index => exact step_rollback index

end

/-! ## Lives of a record

A life of a record is a stretch of a run after whose every operation the record is there: it
starts with a registration, or later, and ends before the record is pruned. -/

/-- The record is there after every operation of the run. -/
def Lives (requestId : RuntimeRequestId) : RequestDesk → List DeskOp → Prop
  | _, [] => True
  | desk, op :: ops =>
    ((desk.step op).1.record requestId).isSome ∧ Lives requestId (desk.step op).1 ops

/-- The claim at an index is the one that holds the record. -/
def Holds (desk : RequestDesk) (requestId : RuntimeRequestId) (index : ℕ) : Prop :=
  ∃ (claim : RequestClaim) (r : RequestRecord) (flag : Bool),
    desk.claims[index]? = some claim ∧ claim.requestId = requestId ∧ claim.settled = false ∧
      desk.record requestId = some r ∧ r.status = .responding claim.claimId flag

/-- The operation is a commit that resolves the record. -/
def commits (desk : RequestDesk) (requestId : RuntimeRequestId) : DeskOp → Bool
  | .commit index resolution => (desk.publishedFor requestId (.commit index resolution)).isSome
  | _ => false

/-- How many commits of a run resolve the record. -/
def commitCount (requestId : RuntimeRequestId) : RequestDesk → List DeskOp → ℕ
  | _, [] => 0
  | desk, op :: ops =>
    (if desk.commits requestId op then 1 else 0) + commitCount requestId (desk.step op).1 ops

/-- The record, while it is there, is resolved, or the harness resolved it under a claim. -/
def Closed (status : RequestStatus) : Prop :=
  (∃ resolution, status = .resolved resolution) ∨ ∃ claim, status = .responding claim true

section

variable {desk : RequestDesk} {requestId : RuntimeRequestId} {op : DeskOp}

@[simp] theorem after_nil : desk.after [] = desk := rfl

@[simp] theorem after_cons (ops : List DeskOp) :
    desk.after (op :: ops) = (desk.step op).1.after ops := rfl

theorem after_append (first second : List DeskOp) :
    desk.after (first ++ second) = (desk.after first).after second := by
  rw [after, after, after, List.foldl_append]

theorem Lives.tail {first second : List DeskOp} (lives : Lives requestId desk (first ++ second)) :
    Lives requestId (desk.after first) second := by
  induction first generalizing desk with
  | nil => exact lives
  | cons op first ih => exact ih lives.2

theorem Lives.head {first second : List DeskOp} (lives : Lives requestId desk (first ++ second)) :
    Lives requestId desk first := by
  induction first generalizing desk with
  | nil => trivial
  | cons op first ih => exact ⟨lives.1, ih lives.2⟩

/-! ### What one operation preserves -/

/-- A resolved record keeps its resolution, and no commit resolves it again. -/
theorem step_resolved {r : RequestRecord} {resolution : RequestResolution}
    (found : desk.record requestId = some r) (resolved : r.status = .resolved resolution)
    (lives : ((desk.step op).1.record requestId).isSome) :
    desk.commits requestId op = false ∧
      ∃ r', (desk.step op).1.record requestId = some r' ∧ r'.status = .resolved resolution := by
  have cases_ := @step_cases desk requestId op
  generalize (desk.step op).1.record requestId = next at cases_ lives
  generalize published_eq : desk.publishedFor requestId op = published at cases_
  have clash {r' : RequestRecord} (found' : desk.record requestId = some r') :
      r'.status = .resolved resolution := by
    rw [found, Option.some.injEq] at found'
    rw [← found', resolved]
  cases cases_ with
  | idle =>
    refine ⟨?_, r, found, resolved⟩
    cases op <;> simp [commits, published_eq]
  | registered absent => rw [found] at absent; cases absent
  | refreshed found' next_eq =>
    refine ⟨rfl, _, rfl, ?_⟩
    rw [next_eq, ← clash found']
  | flagged _ found' responding _ => rw [clash found'] at responding; cases responding
  | closed _ found' pending _ => rw [clash found'] at pending; cases pending
  | claimed found' pending _ => rw [clash found'] at pending; cases pending
  | committed _ _ _ found' held _ => rw [clash found'] at held; cases held
  | rolledBack _ _ _ found' held _ => rw [clash found'] at held; cases held
  | pruned _ _ => cases lives

theorem step_committed (success : desk.commits requestId op = true) :
    ∃ r resolution, (desk.step op).1.record requestId = some r ∧
      r.status = .resolved resolution := by
  have cases_ := @step_cases desk requestId op
  cases op with
  | commit index resolution =>
    rw [commits] at success
    generalize (desk.step (.commit index resolution)).1.record requestId = next at cases_
    generalize desk.publishedFor requestId (.commit index resolution) = published at cases_ success
    cases cases_ with
    | idle => cases success
    | committed _ _ _ _ _ next_eq => exact ⟨_, resolution, rfl, by rw [next_eq]⟩
  | _ => cases success

/-- A closed record stays closed. -/
theorem step_closed {r : RequestRecord} (found : desk.record requestId = some r)
    (closed : Closed r.status) (lives : ((desk.step op).1.record requestId).isSome) :
    ∃ r', (desk.step op).1.record requestId = some r' ∧ Closed r'.status := by
  obtain ⟨resolution, resolved⟩ | ⟨holder, responding⟩ := closed
  · obtain ⟨-, r', found', resolved'⟩ := step_resolved found resolved lives
    exact ⟨r', found', .inl ⟨resolution, resolved'⟩⟩
  have cases_ := @step_cases desk requestId op
  generalize (desk.step op).1.record requestId = next at cases_ lives
  generalize desk.publishedFor requestId op = published at cases_
  have same {r' : RequestRecord} (found' : desk.record requestId = some r') :
      r'.status = .responding holder true := by
    rw [found, Option.some.injEq] at found'
    rw [← found', responding]
  cases cases_ with
  | idle => exact ⟨r, found, .inr ⟨holder, responding⟩⟩
  | registered absent => rw [found] at absent; cases absent
  | refreshed found' next_eq =>
    refine ⟨_, rfl, .inr ⟨holder, ?_⟩⟩
    rw [next_eq, ← same found']
  | flagged _ _ _ next_eq => exact ⟨_, rfl, .inr ⟨_, by rw [next_eq]⟩⟩
  | closed _ found' pending _ => rw [same found'] at pending; cases pending
  | claimed found' pending _ => rw [same found'] at pending; cases pending
  | committed _ _ _ _ _ next_eq => exact ⟨_, rfl, .inl ⟨_, by rw [next_eq]⟩⟩
  | rolledBack _ _ _ found' held next_eq =>
    -- The claim was in flight when the harness resolved, so the flag is set.
    rw [same found'] at held
    cases held
    exact ⟨_, rfl, .inl ⟨harnessResolution, by rw [next_eq]; rfl⟩⟩
  | pruned found' resolved => rw [same found'] at resolved; cases resolved

theorem step_harness {id : ServerRequestId}
    (lives : ((desk.step (.resolveFromHarness id)).1.record (.server id)).isSome) :
    ∃ r, (desk.step (.resolveFromHarness id)).1.record (.server id) = some r ∧
      Closed r.status := by
  cases found : desk.ledger.records.get? (.server id) with
  | none =>
    simp [step, publish, RequestLedger.resolveFromHarness, found, record] at lives
  | some r =>
    cases status : r.status with
    | pending =>
      simp only [step, publish, RequestLedger.resolveFromHarness, found, status, record,
        IndexMap.get?_insert_self]
      exact ⟨_, rfl, .inl ⟨harnessResolution, rfl⟩⟩
    | responding holder flag =>
      simp only [step, publish, RequestLedger.resolveFromHarness, found, status, record,
        IndexMap.get?_insert_self]
      exact ⟨_, rfl, .inr ⟨holder, rfl⟩⟩
    | resolved resolution =>
      simp only [step, publish, RequestLedger.resolveFromHarness, found, status, record]
      exact ⟨r, rfl, .inl ⟨resolution, status⟩⟩

theorem step_unheld {index : ℕ} (unheld : ¬ desk.Holds requestId index)
    (settles : op = .rollback index ∨ ∃ resolution, op = .commit index resolution) :
    (desk.step op).1.record requestId = desk.record requestId := by
  have cases_ := @step_cases desk requestId op
  generalize (desk.step op).1.record requestId = next at cases_
  generalize desk.publishedFor requestId op = published at cases_
  obtain rfl | ⟨resolution, rfl⟩ := settles
  · cases cases_ with
    | idle => rfl
    | rolledBack known same open_ found held _ =>
      exact absurd ⟨_, _, _, known, same, open_, found, held⟩ unheld
  · cases cases_ with
    | idle => rfl
    | committed known same open_ found held _ =>
      exact absurd ⟨_, _, _, known, same, open_, found, held⟩ unheld

/-! ### What a life preserves -/

theorem after_resolved {ops : List DeskOp} {r : RequestRecord} {resolution : RequestResolution}
    (lives : Lives requestId desk ops) (found : desk.record requestId = some r)
    (resolved : r.status = .resolved resolution) :
    commitCount requestId desk ops = 0 ∧
      ∃ r', (desk.after ops).record requestId = some r' ∧ r'.status = .resolved resolution := by
  induction ops generalizing desk r with
  | nil => exact ⟨rfl, r, found, resolved⟩
  | cons op ops ih =>
    obtain ⟨no_commit, r', found', resolved'⟩ := step_resolved found resolved lives.1
    obtain ⟨none_left, final⟩ := ih lives.2 found' resolved'
    refine ⟨?_, final⟩
    rw [commitCount, no_commit, none_left]
    rfl

theorem after_closed {ops : List DeskOp} {r : RequestRecord} (lives : Lives requestId desk ops)
    (found : desk.record requestId = some r) (closed : Closed r.status) :
    ∃ r', (desk.after ops).record requestId = some r' ∧ Closed r'.status := by
  induction ops generalizing desk r with
  | nil => exact ⟨r, found, closed⟩
  | cons op ops ih =>
    obtain ⟨r', found', closed'⟩ := step_closed found closed lives.1
    exact ih lives.2 found' closed'

theorem commitCount_le_one {ops : List DeskOp} (lives : Lives requestId desk ops) :
    commitCount requestId desk ops ≤ 1 := by
  induction ops generalizing desk with
  | nil => exact Nat.zero_le 1
  | cons op ops ih =>
    cases success : desk.commits requestId op with
    | false =>
      rw [commitCount, success]
      simpa using ih lives.2
    | true =>
      obtain ⟨r, resolution, found, resolved⟩ := step_committed success
      rw [commitCount, success, (after_resolved lives.2 found resolved).1]
      rfl

/-! ### Holders -/

/-- The ids of the claims handed out so far. -/
def claimIds (desk : RequestDesk) : List UInt64 := desk.claims.map RequestClaim.claimId

theorem claimIds_settle {index : ℕ} {claim : RequestClaim}
    (known : desk.claims[index]? = some claim) (ledger : RequestLedger) :
    ({ desk with ledger := ledger }.settle index claim).claimIds = desk.claimIds := by
  obtain ⟨inside, rfl⟩ := List.getElem?_eq_some_iff.1 known
  have kept := List.set_getElem_self
    (show index < (desk.claims.map RequestClaim.claimId).length by simpa using inside)
  rw [List.getElem_map] at kept
  rw [claimIds, settle, List.map_set]
  exact kept

/-- Claims are handed out and never taken back. -/
theorem claimIds_step : desk.claimIds <+: (desk.step op).1.claimIds := by
  have settled {index : ℕ} {claim : RequestClaim} (ledger : RequestLedger)
      (known : desk.claims[index]? = some claim) :
      desk.claimIds <+: ({ desk with ledger := ledger }.settle index claim).claimIds := by
    rw [claimIds_settle known ledger]
  cases op with
  | register | resolveFromHarness | pruneResolved => exact List.prefix_rfl
  | claim requestId claimId =>
    rw [step]
    split
    · exact List.prefix_rfl
    · rw [claimIds, claimIds, List.map_append]
      exact List.prefix_append _ _
  | commit index resolution =>
    rw [step]
    split
    · exact List.prefix_rfl
    · next claim known =>
      split
      · exact List.prefix_rfl
      · split
        · exact settled _ known
        · exact settled desk.ledger known
        · exact List.prefix_rfl
  | rollback index =>
    rw [step]
    split
    · exact List.prefix_rfl
    · next claim known =>
      split
      · exact List.prefix_rfl
      · split
        · exact settled _ known
        · exact settled desk.ledger known

theorem claimIds_after (ops : List DeskOp) : desk.claimIds <+: (desk.after ops).claimIds := by
  induction ops generalizing desk with
  | nil => exact List.prefix_rfl
  | cons op ops ih => exact claimIds_step.trans ih

theorem holder_unique {left right : ℕ} (distinct : desk.claimIds.Nodup)
    (holds : desk.Holds requestId left) (holds' : desk.Holds requestId right) : left = right := by
  obtain ⟨claim, r, flag, known, -, -, found, held⟩ := holds
  obtain ⟨claim', r', flag', known', -, -, found', held'⟩ := holds'
  have same : claim.claimId = claim'.claimId := by
    rw [found, Option.some.injEq] at found'
    rw [← found', held, RequestStatus.responding.injEq] at held'
    exact held'.1
  have at_left : desk.claimIds[left]? = some claim.claimId := by
    rw [claimIds, List.getElem?_map, known, Option.map_some]
  have at_right : desk.claimIds[right]? = some claim'.claimId := by
    rw [claimIds, List.getElem?_map, known', Option.map_some]
  obtain ⟨inside, -⟩ := List.getElem?_eq_some_iff.1 at_left
  apply (List.getElem?_inj inside distinct).1
  rw [at_left, at_right, same]

end

/-- A request is answered at most once in a life of its record. -/
structure AnsweredOnce (desk : RequestDesk) (requestId : RuntimeRequestId)
    (life : List DeskOp) : Prop where
  /-- At most one commit resolves the record. -/
  commits_le_one : commitCount requestId desk life ≤ 1
  /-- The ledger hands out a claim only while the record is pending. -/
  claim_pending : ∀ first rest claimId state, life = first ++ rest →
    ((desk.after first).ledger.claim desk.threadId requestId claimId).2 = .ok state →
    ∃ r, (desk.after first).record requestId = some r ∧ r.status = .pending
  /-- At most one claim holds the record. -/
  one_holder : ∀ first rest left right, life = first ++ rest →
    (desk.after first).Holds requestId left → (desk.after first).Holds requestId right →
    left = right
  /-- Any other claim leaves the record unchanged when it is committed or rolled back. -/
  unheld_unchanged : ∀ first op rest index, life = first ++ op :: rest →
    ¬ (desk.after first).Holds requestId index →
    (op = .rollback index ∨ ∃ resolution, op = .commit index resolution) →
    ((desk.after first).step op).1.record requestId = (desk.after first).record requestId
  /-- The resolution of a resolved record never changes. -/
  resolution_final : ∀ first second rest r resolution, life = first ++ (second ++ rest) →
    (desk.after first).record requestId = some r → r.status = .resolved resolution →
    ∃ r', (desk.after (first ++ second)).record requestId = some r' ∧
      r'.status = .resolved resolution
  /-- A record to which a harness resolution was applied is never pending again. -/
  harness_final : ∀ first second rest id r, requestId = .server id →
    life = first ++ .resolveFromHarness id :: (second ++ rest) →
    (desk.after (first ++ .resolveFromHarness id :: second)).record requestId = some r →
    r.status ≠ .pending

theorem Closed.ne_pending {status : RequestStatus} (closed : Closed status) :
    status ≠ .pending := by
  obtain ⟨resolution, rfl⟩ | ⟨holder, rfl⟩ := closed <;> exact RequestStatus.noConfusion

theorem claim_ok {ledger : RequestLedger} {threadId : ThreadId} {requestId : RuntimeRequestId}
    {claimId : UInt64} {state : WireRequestState}
    (ok : (ledger.claim threadId requestId claimId).2 = .ok state) :
    ∃ r, ledger.records.get? requestId = some r ∧ r.status = .pending := by
  unfold RequestLedger.claim at ok
  split at ok
  · cases ok
  · next r found =>
    by_cases pending : r.status = .pending
    · exact ⟨r, found, pending⟩
    · rw [if_pos pending] at ok
      cases ok

/-- Whatever the harness and the clients did before and do during a life of a record, in any
order, its request is answered at most once. -/
theorem request_answeredOnce (threadId : ThreadId) (requestId : RuntimeRequestId)
    (before life : List DeskOp)
    (distinct : ((empty threadId).after (before ++ life)).claimIds.Nodup)
    (lives : Lives requestId ((empty threadId).after before) life) :
    AnsweredOnce ((empty threadId).after before) requestId life := by
  rw [after_append] at distinct
  generalize (empty threadId).after before = desk at lives distinct
  refine ⟨commitCount_le_one lives, ?_, ?_, ?_, ?_, ?_⟩
  · intro first rest claimId state _ ok
    exact claim_ok ok
  · rintro first rest left right rfl holds holds'
    rw [after_append] at distinct
    exact holder_unique (distinct.sublist (claimIds_after rest).sublist) holds holds'
  · intro first op rest index _ unheld settles
    exact step_unheld unheld settles
  · rintro first second rest r resolution rfl found resolved
    rw [after_append]
    exact (after_resolved lives.tail.head found resolved).2
  · rintro first second rest id r rfl rfl found
    have there : Lives (.server id) ((desk.after first).step (.resolveFromHarness id)).1
        (second ++ rest) := lives.tail.2
    obtain ⟨r', found', closed⟩ := step_harness lives.tail.1
    obtain ⟨r'', found'', closed'⟩ := after_closed there.head found' closed
    rw [after_append, after_cons, found'', Option.some.injEq] at found
    exact found ▸ closed'.ne_pending

/-- A server request of the runs below. -/
def sampleRequest : ServerRequest := ⟨⟨"r1"⟩, "item/tool/requestUserInput", .null, ⟨0, 0⟩⟩

/-- The request arrives, the harness resolves it while a client holds it, and the client's late
answer is the one recorded. -/
def sampleLife : List DeskOp :=
  [.register (.server sampleRequest.id) none (.server sampleRequest),
    .claim (.server sampleRequest.id) 1,
    .resolveFromHarness sampleRequest.id,
    .commit 0 (.server (.error 1 "late")),
    .rollback 0]

theorem sampleLife_lives :
    Lives (.server sampleRequest.id) ((empty ⟨⟨1⟩⟩).after []) sampleLife :=
  ⟨rfl, rfl, rfl, rfl, rfl, trivial⟩

theorem request_answeredOnce_sample :
    commitCount (.server sampleRequest.id) (empty ⟨⟨1⟩⟩) sampleLife = 1 ∧
      AnsweredOnce ((empty ⟨⟨1⟩⟩).after []) (.server sampleRequest.id) sampleLife :=
  ⟨by decide, request_answeredOnce ⟨⟨1⟩⟩ (.server sampleRequest.id) [] sampleLife (by decide)
    sampleLife_lives⟩

/-! ## Revisions -/

/-- No record is at the largest revision when an operation reaches it. -/
def Unsaturated (requestId : RuntimeRequestId) : RequestDesk → List DeskOp → Prop
  | _, [] => True
  | desk, op :: ops =>
    (∀ r, desk.record requestId = some r → r.revision.toNat < 2 ^ 64 - 1) ∧
      Unsaturated requestId (desk.step op).1 ops

section

variable {desk : RequestDesk} {requestId : RuntimeRequestId} {op : DeskOp}

theorem Unsaturated.tail {first second : List DeskOp}
    (unsaturated : Unsaturated requestId desk (first ++ second)) :
    Unsaturated requestId (desk.after first) second := by
  induction first generalizing desk with
  | nil => exact unsaturated
  | cons op first ih => exact ih unsaturated.2

theorem Unsaturated.head {first second : List DeskOp}
    (unsaturated : Unsaturated requestId desk (first ++ second)) :
    Unsaturated requestId desk first := by
  induction first generalizing desk with
  | nil => trivial
  | cons op first ih => exact ⟨unsaturated.1, ih unsaturated.2⟩

theorem threadId_step : (desk.step op).1.threadId = desk.threadId := by
  cases op with
  | register | resolveFromHarness | pruneResolved => rfl
  | claim requestId claimId =>
    rw [step]
    split <;> rfl
  | commit index resolution =>
    rw [step]
    repeat' split
    all_goals rfl
  | rollback index =>
    rw [step]
    repeat' split
    all_goals rfl

theorem threadId_after (ops : List DeskOp) : (desk.after ops).threadId = desk.threadId := by
  induction ops generalizing desk with
  | nil => rfl
  | cons op ops ih => rw [after_cons, ih, threadId_step]

/-- An operation publishes exactly when it moves a record to its next revision; otherwise the
wire shows the record as before. -/
theorem step_revision {r r' : RequestRecord} (below : r.revision.toNat < 2 ^ 64 - 1)
    (found : desk.record requestId = some r)
    (found' : (desk.step op).1.record requestId = some r') :
    (desk.publishedFor requestId op = none ∧
        wireRequestState desk.threadId r' = wireRequestState desk.threadId r) ∨
      (desk.publishedFor requestId op = some (wireRequestState desk.threadId r') ∧
        r.revision < r'.revision) := by
  have cases_ := @step_cases desk requestId op
  rw [found'] at cases_
  generalize desk.publishedFor requestId op = published at cases_
  have same {s : RequestRecord} (found'' : desk.record requestId = some s) : s = r := by
    rw [found, Option.some.injEq] at found''
    exact found''.symm
  have bumped {s : RequestRecord} (eq : s = r)
      (next_eq : r'.revision = saturatingSucc s.revision) : r.revision < r'.revision := by
    rw [next_eq, eq]
    exact lt_saturatingSucc below
  generalize next_eq : some r' = next at cases_
  cases cases_ with
  | idle =>
    rw [found, Option.some.injEq] at next_eq
    exact .inl ⟨rfl, by rw [next_eq]⟩
  | registered absent => rw [found] at absent; cases absent
  | refreshed found'' eq | closed _ found'' _ eq | claimed found'' _ eq =>
    cases next_eq
    exact .inr ⟨rfl, bumped (same found'') (by rw [eq])⟩
  | flagged _ found'' responding eq =>
    -- The flag is not on the wire.
    cases next_eq
    refine .inl ⟨rfl, ?_⟩
    rw [eq, same found''] at *
    simp only [wireRequestState, RequestStatus.toWire, responding]
  | committed _ _ _ found'' _ eq | rolledBack _ _ _ found'' _ eq =>
    cases next_eq
    exact .inr ⟨rfl, bumped (same found'') (by rw [eq])⟩
  | pruned _ _ => cases next_eq

theorem step_fresh {r : RequestRecord} (absent : desk.record requestId = none)
    (found : (desk.step op).1.record requestId = some r) :
    desk.publishedFor requestId op = some (wireRequestState desk.threadId r) := by
  have cases_ := @step_cases desk requestId op
  rw [found] at cases_
  generalize desk.publishedFor requestId op = published at cases_ ⊢
  generalize next_eq : some r = next at cases_
  have gone {s : RequestRecord} (found' : desk.record requestId = some s) : False := by
    rw [absent] at found'
    cases found'
  cases cases_ with
  | idle => exact (gone next_eq.symm).elim
  | registered _ =>
    cases next_eq
    rfl
  | refreshed found' _ | closed _ found' _ _ | claimed found' _ _ => exact (gone found').elim
  | flagged _ found' _ _ | pruned found' _ => exact (gone found').elim
  | committed _ _ _ found' _ _ | rolledBack _ _ _ found' _ _ => exact (gone found').elim

theorem after_revision {ops : List DeskOp} {r r' : RequestRecord}
    (lives : Lives requestId desk ops) (unsaturated : Unsaturated requestId desk ops)
    (found : desk.record requestId = some r)
    (found' : (desk.after ops).record requestId = some r') :
    wireRequestState desk.threadId r' = wireRequestState desk.threadId r ∨
      r.revision < r'.revision := by
  induction ops generalizing desk r with
  | nil =>
    rw [after_nil, found, Option.some.injEq] at found'
    exact .inl (by rw [found'])
  | cons op ops ih =>
    obtain ⟨s, next⟩ := Option.isSome_iff_exists.1 lives.1
    have rest := ih lives.2 unsaturated.2 next found'
    rw [threadId_step] at rest
    obtain ⟨-, shown⟩ | ⟨-, larger⟩ := step_revision (unsaturated.1 r found) found next
    · have revision : s.revision = r.revision := congrArg WireRequestState.revision shown
      rwa [shown, revision] at rest
    · obtain shown | larger' := rest
      · have revision : r'.revision = s.revision := congrArg WireRequestState.revision shown
        exact .inr (revision ▸ larger)
      · exact .inr (UInt64.lt_trans larger larger')

theorem published_cons (ops : List DeskOp) :
    published requestId desk (op :: ops) =
      (desk.publishedFor requestId op).toList ++ published requestId (desk.step op).1 ops := rfl

theorem publishedFor_cases {r' : RequestRecord}
    (below : ∀ r, desk.record requestId = some r → r.revision.toNat < 2 ^ 64 - 1)
    (found' : (desk.step op).1.record requestId = some r') :
    (desk.publishedFor requestId op = none ∧
        ∀ r, desk.record requestId = some r → r'.revision = r.revision) ∨
      (desk.publishedFor requestId op = some (wireRequestState desk.threadId r') ∧
        ∀ r, desk.record requestId = some r → r.revision < r'.revision) := by
  cases found : desk.record requestId with
  | none =>
    refine .inr ⟨step_fresh found found', ?_⟩
    intro r absurd_
    cases absurd_
  | some r =>
    obtain ⟨quiet, shown⟩ | ⟨published, larger⟩ := step_revision (below r found) found found'
    · refine .inl ⟨quiet, ?_⟩
      rintro s ⟨⟩
      exact congrArg WireRequestState.revision shown
    · refine .inr ⟨published, ?_⟩
      rintro s ⟨⟩
      exact larger

theorem published_larger {ops : List DeskOp} (lives : Lives requestId desk ops)
    (unsaturated : Unsaturated requestId desk ops) {r : RequestRecord}
    (found : desk.record requestId = some r) :
    ∀ state ∈ published requestId desk ops, r.revision < state.revision := by
  induction ops generalizing desk r with
  | nil =>
    intro state member
    cases member
  | cons op ops ih =>
    intro state member
    obtain ⟨r', found'⟩ := Option.isSome_iff_exists.1 lives.1
    have later := ih lives.2 unsaturated.2 found' state
    rw [published_cons, List.mem_append] at member
    obtain ⟨quiet, same⟩ | ⟨shown, larger⟩ := publishedFor_cases unsaturated.1 found'
    · rw [quiet] at member
      rw [same r found] at later
      exact later (member.resolve_left List.not_mem_nil)
    · rw [shown] at member
      obtain here | there := member
      · rw [Option.toList_some, List.mem_singleton] at here
        rw [here]
        exact larger r found
      · exact UInt64.lt_trans (larger r found) (later there)

theorem published_increasing {ops : List DeskOp} (lives : Lives requestId desk ops)
    (unsaturated : Unsaturated requestId desk ops) :
    (published requestId desk ops).Pairwise fun earlier later =>
      earlier.revision < later.revision := by
  induction ops generalizing desk with
  | nil => exact List.Pairwise.nil
  | cons op ops ih =>
    obtain ⟨r', found'⟩ := Option.isSome_iff_exists.1 lives.1
    rw [published_cons]
    obtain ⟨quiet, -⟩ | ⟨shown, -⟩ := publishedFor_cases unsaturated.1 found'
    · rw [quiet]
      exact ih lives.2 unsaturated.2
    · rw [shown]
      exact List.pairwise_cons.2
        ⟨published_larger lives.2 unsaturated.2 found', ih lives.2 unsaturated.2⟩

/-- A wire state of the record that can be read at some moment of a life. -/
def Reading (desk : RequestDesk) (requestId : RuntimeRequestId) (life : List DeskOp)
    (state : WireRequestState) : Prop :=
  ∃ first rest, life = first ++ rest ∧
    (desk.after first).ledger.state desk.threadId requestId = some state

theorem published_reading {ops : List DeskOp} (lives : Lives requestId desk ops)
    (unsaturated : Unsaturated requestId desk ops) :
    ∀ state ∈ published requestId desk ops, Reading desk requestId ops state := by
  induction ops generalizing desk with
  | nil =>
    intro state member
    cases member
  | cons op ops ih =>
    intro state member
    obtain ⟨r', found'⟩ := Option.isSome_iff_exists.1 lives.1
    rw [published_cons, List.mem_append] at member
    obtain here | there := member
    · obtain ⟨quiet, -⟩ | ⟨shown, -⟩ := publishedFor_cases unsaturated.1 found'
      · rw [quiet] at here
        cases here
      · rw [shown, Option.toList_some, List.mem_singleton] at here
        refine ⟨[op], ops, rfl, ?_⟩
        rw [RequestLedger.state, here]
        exact congrArg (Option.map _) found'
    · obtain ⟨first, rest, split, read⟩ := ih lives.2 unsaturated.2 state there
      rw [threadId_step] at read
      exact ⟨op :: first, rest, by rw [split, List.cons_append], read⟩

theorem reading_identified {first second : List DeskOp} {left right : WireRequestState}
    (lives : Lives requestId desk (first ++ second))
    (unsaturated : Unsaturated requestId desk (first ++ second))
    (read : (desk.after first).ledger.state desk.threadId requestId = some left)
    (read' : (desk.after (first ++ second)).ledger.state desk.threadId requestId = some right) :
    right = left ∨ left.revision < right.revision := by
  obtain ⟨r, found, rfl⟩ := Option.map_eq_some_iff.1 read
  obtain ⟨r', found', rfl⟩ := Option.map_eq_some_iff.1 read'
  rw [after_append] at found'
  have outcome := after_revision lives.tail unsaturated.tail found found'
  rwa [threadId_after] at outcome

end

/-- In a life of a record the revision identifies what the wire shows of it. -/
structure RevisionIdentifies (desk : RequestDesk) (requestId : RuntimeRequestId)
    (life : List DeskOp) : Prop where
  /-- Each published state has a larger revision than those published before it. -/
  increasing : (published requestId desk life).Pairwise fun earlier later =>
    earlier.revision < later.revision
  /-- What is published is what a reader of the record sees. -/
  published_read : ∀ state ∈ published requestId desk life, Reading desk requestId life state
  /-- Readings with one revision agree in payload and status. -/
  identified : ∀ left right, Reading desk requestId life left → Reading desk requestId life right →
    left.revision = right.revision → left.payload = right.payload ∧ left.status = right.status

/-- In every run below saturation, every life of a record has revisions that identify its
content. -/
theorem request_revisionIdentifies (threadId : ThreadId) (requestId : RuntimeRequestId)
    (before life : List DeskOp) (lives : Lives requestId ((empty threadId).after before) life)
    (unsaturated : Unsaturated requestId ((empty threadId).after before) life) :
    RevisionIdentifies ((empty threadId).after before) requestId life := by
  generalize (empty threadId).after before = desk at lives unsaturated
  refine ⟨published_increasing lives unsaturated, published_reading lives unsaturated, ?_⟩
  have ordered {first second : List DeskOp} {left right : WireRequestState}
      (inside : first ++ second <+: life)
      (read : (desk.after first).ledger.state desk.threadId requestId = some left)
      (read' : (desk.after (first ++ second)).ledger.state desk.threadId requestId = some right)
      (same : left.revision = right.revision) : right = left := by
    obtain ⟨rest, rfl⟩ := inside
    apply (reading_identified lives.head unsaturated.head read read').resolve_right
    rw [same]
    exact UInt64.lt_irrefl _
  rintro left right ⟨first, rest, split, read⟩ ⟨first', rest', split', read'⟩ same
  have inside : first <+: life := ⟨rest, split.symm⟩
  have inside' : first' <+: life := ⟨rest', split'.symm⟩
  obtain ⟨second, rfl⟩ | ⟨second, rfl⟩ := List.prefix_or_prefix_of_prefix inside inside'
  · rw [ordered inside' read read' same]
    exact ⟨rfl, rfl⟩
  · rw [ordered inside read' read same.symm]
    exact ⟨rfl, rfl⟩

theorem request_revisionIdentifies_sample :
    (published (.server sampleRequest.id) (empty ⟨⟨1⟩⟩) sampleLife).map
        WireRequestState.revision = [1, 2, 3] ∧
      RevisionIdentifies ((empty ⟨⟨1⟩⟩).after []) (.server sampleRequest.id) sampleLife := by
  refine ⟨by decide, request_revisionIdentifies ⟨⟨1⟩⟩ (.server sampleRequest.id) [] sampleLife
    sampleLife_lives ?_⟩
  refine ⟨?_, ?_, ?_, ?_, ?_, trivial⟩ <;> rintro r ⟨⟩ <;> decide

end RequestDesk

end Giskard
