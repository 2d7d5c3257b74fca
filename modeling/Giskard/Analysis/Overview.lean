import Mathlib
import Giskard.Model.ThreadRuntime

/-!
# The overview is a projection of the entries

`Effect` says what an operation can do to the entries and the overview: leave every summary as
it is, refresh one thread, or forget threads. Each keeps the overview an exact projection of
the entries, and takes the next revision exactly when a summary changes.
-/

set_option autoImplicit false

namespace Giskard

open Foundation

/-! ## The overview on its own -/

namespace OverviewState

variable (overview : OverviewState) (threadId : ThreadId)

/-- The summaries an overview holds. -/
def summarySet : Set ThreadRuntimeSummary := {summary | summary ∈ overview.summaries.values}

theorem project_get? (summary : Option ThreadRuntimeSummary) (other : ThreadId) :
    (overview.project threadId summary).1.summaries.get? other =
      if other = threadId then summary else overview.summaries.get? other := by
  unfold project
  cases summary with
  | none => exact IndexMap.get?_shiftRemove _ _ _
  | some summary =>
    dsimp only
    split
    · split
      · next same =>
        subst same
        exact IndexMap.get?_insert_self _ _ _
      · next different => exact IndexMap.get?_insert_of_ne _ different _
    · next present =>
      rw [not_not] at present
      split
      · next same => rw [same, present]
      · rfl

theorem project_changed (summary : Option ThreadRuntimeSummary) :
    (overview.project threadId summary).2 = true ↔
      overview.summaries.get? threadId ≠ summary := by
  unfold project
  cases summary with
  | none =>
    dsimp only
    rw [Option.isSome_iff_ne_none]
  | some summary =>
    dsimp only
    split
    · next different => exact ⟨fun _ => different, fun _ => rfl⟩
    · next present => simpa using present

theorem project_revision (summary : Option ThreadRuntimeSummary) :
    (overview.project threadId summary).1.revision = overview.revision := by
  unfold project
  cases summary with
  | none => rfl
  | some summary =>
    dsimp only
    split <;> rfl

theorem refresh_get? (crates : Crates) (entry : ThreadRuntimeEntry) (other : ThreadId) :
    (overview.refresh crates threadId entry).1.summaries.get? other =
      if other = threadId then runtimeSummary threadId entry
      else overview.summaries.get? other := by
  rw [← project_get?]
  unfold refresh
  split
  · next projected => rw [projected]
  · next projected => rw [projected]

theorem forget_get? (threadIds : List ThreadId) :
    (overview.forget threadIds).summaries.get? threadId =
      if threadIds.contains threadId then none else overview.summaries.get? threadId := by
  rw [forget, IndexMap.get?_retain]
  cases overview.summaries.get? threadId with
  | none => simp
  | some summary =>
    rw [Option.filter_some]
    cases threadIds.contains threadId <;> rfl

/-- The overview takes the next revision exactly when a summary changes. -/
structure Revised (before after : OverviewState) : Prop where
  stays : (∀ threadId, after.summaries.get? threadId = before.summaries.get? threadId) →
    after.revision = before.revision
  takes : (∃ threadId, after.summaries.get? threadId ≠ before.summaries.get? threadId) →
    after.revision = saturatingSucc before.revision

theorem revised_rfl : Revised overview overview :=
  ⟨fun _ => rfl, fun ⟨_, changed⟩ => absurd rfl changed⟩

theorem refresh_revised (crates : Crates) (entry : ThreadRuntimeEntry) :
    Revised overview (overview.refresh crates threadId entry).1 := by
  have lookups := refresh_get? overview threadId crates entry
  have changed := project_changed overview threadId (runtimeSummary threadId entry)
  have revision := project_revision overview threadId (runtimeSummary threadId entry)
  generalize summary_eq : runtimeSummary threadId entry = summary at *
  generalize result_eq : overview.refresh crates threadId entry = result at *
  unfold refresh at result_eq
  rw [summary_eq] at result_eq
  split at result_eq
  · next projected =>
    rw [projected] at changed revision
    rw [← result_eq]
    refine ⟨fun _ => revision, ?_⟩
    rintro ⟨other, moved⟩
    have same : overview.summaries.get? threadId = summary := by simpa using changed
    rw [← result_eq] at lookups
    rw [lookups other] at moved
    split at moved
    · next here =>
      rw [here, same] at moved
      exact absurd rfl moved
    · exact absurd rfl moved
  · next projected =>
    rw [projected] at changed revision
    rw [← result_eq] at lookups ⊢
    dsimp only at lookups revision ⊢
    refine ⟨fun same => ?_, fun _ => by rw [revision]⟩
    have here := lookups threadId
    rw [if_pos rfl, same threadId] at here
    exact absurd here (changed.1 rfl)

theorem forget_length (threadIds : List ThreadId) :
    (overview.forget threadIds).summaries.entries.length = overview.summaries.entries.length ↔
      ∀ threadId, threadIds.contains threadId → overview.summaries.get? threadId = none := by
  rw [forget, IndexMap.retain, List.length_filter_eq_length_iff]
  constructor
  · intro all threadId forgotten
    rw [IndexMap.get?_eq_none]
    intro present
    obtain ⟨entry, member, rfl⟩ := List.mem_map.1 present
    have stays := all entry member
    rw [forgotten] at stays
    cases stays
  · rintro absent ⟨key, summary⟩ member
    cases forgotten : threadIds.contains key with
    | false => rfl
    | true =>
      have found := IndexMap.get?_eq_some.2 member
      rw [absent key forgotten] at found
      cases found

theorem forget_revised (threadIds : List ThreadId) :
    Revised overview (overview.forget threadIds) := by
  have revision : (overview.forget threadIds).revision =
      if (overview.forget threadIds).summaries.entries.length ≠
          overview.summaries.entries.length then saturatingSucc overview.revision
      else overview.revision := rfl
  have dropped := forget_length overview threadIds
  have lookups := fun threadId => forget_get? overview threadId threadIds
  constructor
  · intro same
    rw [revision, if_neg]
    rw [not_not, dropped]
    intro threadId forgotten
    rw [← same threadId, lookups threadId, if_pos forgotten]
  · rintro ⟨threadId, moved⟩
    rw [revision, if_pos]
    intro kept
    apply moved
    rw [lookups threadId]
    split
    · next forgotten => exact (dropped.1 kept threadId forgotten).symm
    · rfl

end OverviewState

/-! ## Steps of the runtime -/

namespace ThreadRuntime

/-- The summary a thread's current entry gives, if it has an entry. -/
def summaryOf (runtime : ThreadRuntime) (threadId : ThreadId) : Option ThreadRuntimeSummary :=
  (runtime.entries threadId).bind (runtimeSummary threadId)

/-- The overview holds for each thread the summary of its entry, and nothing else. -/
def Exact (runtime : ThreadRuntime) : Prop :=
  ∀ threadId, runtime.overview.summaries.get? threadId = runtime.summaryOf threadId

/-- What an operation can do to the entries and the overview. -/
inductive Effect (crates : Crates) (before after : ThreadRuntime) : Prop
  | quiet (overview : after.overview = before.overview)
      (summaries : ∀ threadId, after.summaryOf threadId = before.summaryOf threadId)
  | refreshed (threadId : ThreadId) (entry : ThreadRuntimeEntry)
      (overview : after.overview = (before.overview.refresh crates threadId entry).1)
      (entries : after.entries = Function.update before.entries threadId (some entry))
  | forgot (threadIds : List ThreadId) (overview : after.overview = before.overview.forget threadIds)
      (entries : after.entries = fun threadId =>
        if threadIds.contains threadId then none else before.entries threadId)

section

variable {crates : Crates} {runtime : ThreadRuntime}

theorem effect_rfl : Effect crates runtime runtime := .quiet rfl fun _ => rfl

theorem effect_refresh (threadId : ThreadId) (entry : ThreadRuntimeEntry) :
    Effect crates runtime (runtime.refresh crates threadId entry).1 :=
  .refreshed threadId entry rfl rfl

theorem effect_store {threadId : ThreadId} {entry : ThreadRuntimeEntry}
    (unseen : runtimeSummary threadId entry = runtime.summaryOf threadId) :
    Effect crates runtime (runtime.store threadId entry) := by
  refine .quiet rfl fun other => ?_
  rw [summaryOf, store]
  dsimp only
  by_cases here : other = threadId
  · subst here
    rw [Function.update_self, Option.bind_some, unseen]
  · rw [Function.update_of_ne here, summaryOf]

theorem runtimeSummary_empty (threadId : ThreadId) :
    runtimeSummary threadId ThreadRuntimeEntry.empty = none := rfl

theorem runtimeSummary_entryOrCreate (threadId : ThreadId) :
    runtimeSummary threadId (runtime.entryOrCreate threadId) = runtime.summaryOf threadId := by
  rw [entryOrCreate, summaryOf]
  cases runtime.entries threadId with
  | none => exact runtimeSummary_empty threadId
  | some entry => rfl

theorem runtimeSummary_congr {threadId : ThreadId} {left right : ThreadRuntimeEntry}
    (gate : left.gate = right.gate)
    (requests : left.requests.outstanding = right.requests.outstanding) :
    runtimeSummary threadId left = runtimeSummary threadId right := by
  rw [runtimeSummary, runtimeSummary, gate, requests]

theorem effect_settle {after : ThreadRuntime} (index : ℕ) (claim : RequestClaim)
    (effect : Effect crates runtime after) : Effect crates runtime (after.settle index claim) := by
  cases effect with
  | quiet overview summaries => exact .quiet overview summaries
  | refreshed threadId entry overview entries => exact .refreshed threadId entry overview entries
  | forgot threadIds overview entries => exact .forgot threadIds overview entries

/-- An event that asks for no refresh leaves the outstanding requests as they are; a harness
resolution under a claim only sets a flag of the record. -/
theorem applyRequestEvent_outstanding {ledger : RequestLedger} {event : AgentEvent}
    (quiet : (ThreadRuntimeEntry.applyRequestEvent ledger event).2.2 = false) :
    (ThreadRuntimeEntry.applyRequestEvent ledger event).2.1.outstanding = ledger.outstanding := by
  have registered {requestId : RuntimeRequestId} {turnId : Option TurnId} {payload : RequestPayload}
      (quiet : (ledger.register requestId turnId payload).2 = false) :
      (ledger.register requestId turnId payload).1 = ledger := by
    unfold RequestLedger.register at quiet ⊢
    split at quiet
    · cases quiet
    · next r found =>
      split at quiet
      · next same => rw [if_pos same]
      · cases quiet
  have resolved {requestId : ServerRequestId}
      (quiet : (ledger.resolveFromHarness requestId).2 = false) :
      (ledger.resolveFromHarness requestId).1.outstanding = ledger.outstanding := by
    unfold RequestLedger.resolveFromHarness at quiet ⊢
    cases found : ledger.records.get? (.server requestId) with
    | none => rfl
    | some r =>
      cases status : r.status with
      | pending =>
        simp only [found, status] at quiet
        cases quiet
      | resolved resolution => simp only [status]
      | responding claim flag =>
        simp only [status]
        rw [RequestLedger.outstanding, RequestLedger.outstanding]
        congr 1
        apply IndexMap.filterMap_insert _ found
        simp only [RequestLedger.outstandingOf, status]
  cases event with
  | approvalRequested _ turn request => exact congrArg _ (registered quiet)
  | serverRequestReceived _ turn request => exact congrArg _ (registered quiet)
  | serverRequestResolved _ _ requestId => exact resolved quiet
  | _ => rfl

theorem applyPreparedEvent_summary {threadId : ThreadId} {entry : ThreadRuntimeEntry}
    {event : AgentEvent} {appendLive : Bool} {prepared : Option PreparedItemOutput}
    (quiet : (entry.applyPreparedEvent threadId event appendLive prepared).2.overviewRefreshNeeded =
      false) :
    runtimeSummary threadId (entry.applyPreparedEvent threadId event appendLive prepared).1 =
      runtimeSummary threadId entry :=
  runtimeSummary_congr rfl (applyRequestEvent_outstanding quiet)

theorem effect_applyEvent (threadId : ThreadId) (event : AgentEvent) (appendLive : Bool)
    (prepared : Option PreparedItemOutput) :
    Effect crates runtime (runtime.applyEvent crates threadId event appendLive prepared).1 := by
  unfold applyEvent
  split
  · exact effect_rfl
  · dsimp only
    split
    · exact effect_refresh _ _
    · next quiet =>
      apply effect_store
      rw [applyPreparedEvent_summary (by simpa using quiet), runtimeSummary_entryOrCreate]

theorem effect_claimRequest (threadId : ThreadId) (requestId : RuntimeRequestId)
    (claimId : UInt64) :
    Effect crates runtime (runtime.claimRequest crates threadId requestId claimId).1 := by
  unfold claimRequest
  dsimp only
  split
  · exact effect_store (runtimeSummary_entryOrCreate threadId)
  · exact .refreshed threadId _ rfl rfl

theorem effect_rollbackInner (index : ℕ) (claim : RequestClaim) :
    Effect crates runtime (runtime.rollbackInner crates index claim).1 := by
  unfold rollbackInner
  split
  · exact effect_rfl
  split
  · exact effect_settle index claim effect_rfl
  split
  · exact effect_settle index claim effect_rfl
  · exact effect_settle index claim (effect_refresh _ _)

theorem effect_commit (index : ℕ) (claim : RequestClaim) (resolution : RequestResolution) :
    Effect crates runtime (runtime.commit crates index claim resolution).1 := by
  unfold commit
  split
  · exact effect_settle index claim effect_rfl
  split
  · exact effect_settle index claim (effect_refresh _ _)
  · exact effect_settle index claim effect_rfl
  · exact effect_rollbackInner index claim

/-- Every operation has one of the effects. -/
theorem step_effect (op : Op) : Effect crates runtime (runtime.step crates op) := by
  cases op with
  | reserveTurn threadId reservation =>
    rw [step, reserveTurn]
    split
    · exact effect_store (runtimeSummary_entryOrCreate threadId)
    · exact effect_refresh _ _
  | acknowledgeTurn threadId turnId =>
    rw [step, acknowledgeTurn]
    split
    · exact effect_store (runtimeSummary_entryOrCreate threadId)
    · exact effect_refresh _ _
  | releaseTurn threadId =>
    rw [step, releaseTurn]
    split
    · exact effect_rfl
    · exact effect_refresh _ _
  | settleCompletedTurn threadId event persistedTurn => exact effect_refresh _ _
  | applyEvent threadId event appendLive prepared =>
    exact effect_applyEvent threadId event appendLive prepared
  | claimRequest threadId requestId claimId => exact effect_claimRequest threadId requestId claimId
  | commit index resolution =>
    rw [step]
    split
    · exact effect_rfl
    split
    · exact effect_rfl
    · exact effect_commit _ _ _
  | rollback index =>
    rw [step]
    split
    · exact effect_rfl
    · exact effect_rollbackInner _ _
  | forgetThreads threadIds => exact .forgot threadIds rfl rfl

/-! ## What an effect preserves -/

theorem Effect.exact {after : ThreadRuntime} (effect : Effect crates runtime after)
    (exact_ : runtime.Exact) : after.Exact := by
  intro other
  cases effect with
  | quiet overview summaries => rw [overview, exact_ other, summaries other]
  | refreshed threadId entry overview entries =>
    rw [overview, OverviewState.refresh_get?, summaryOf, entries]
    split
    · next here => rw [here, Function.update_self, Option.bind_some]
    · next there => rw [Function.update_of_ne there, exact_ other, summaryOf]
  | forgot threadIds overview entries =>
    rw [overview, OverviewState.forget_get?, summaryOf, entries]
    dsimp only
    split
    · rfl
    · exact exact_ other

theorem Effect.revised {after : ThreadRuntime} (effect : Effect crates runtime after) :
    runtime.overview.Revised after.overview := by
  cases effect with
  | quiet overview summaries =>
    rw [overview]
    exact OverviewState.revised_rfl _
  | refreshed threadId entry overview entries =>
    rw [overview]
    exact OverviewState.refresh_revised _ _ _ _
  | forgot threadIds overview entries =>
    rw [overview]
    exact OverviewState.forget_revised _ _

theorem run_concat (ops : List Op) (op : Op) :
    run crates (ops ++ [op]) = (run crates ops).step crates op := by
  rw [run, run, List.foldl_append]
  rfl

theorem run_exact (ops : List Op) : (run crates ops).Exact := by
  induction ops using List.reverseRecOn with
  | nil =>
    intro threadId
    rfl
  | append_singleton ops op ih =>
    rw [run_concat]
    exact (step_effect op).exact ih

theorem runtimeSummary_threadId {threadId : ThreadId} {entry : ThreadRuntimeEntry}
    {summary : ThreadRuntimeSummary} (built : runtimeSummary threadId entry = some summary) :
    summary.threadId = threadId := by
  unfold runtimeSummary at built
  dsimp only at built
  split at built
  · cases built
  · rw [Option.some.injEq] at built
    rw [← built]

theorem Exact.threadId_eq (exact_ : runtime.Exact) {threadId : ThreadId}
    {summary : ThreadRuntimeSummary}
    (found : runtime.overview.summaries.get? threadId = some summary) :
    summary.threadId = threadId := by
  rw [exact_ threadId, summaryOf, Option.bind_eq_some_iff] at found
  obtain ⟨entry, -, built⟩ := found
  exact runtimeSummary_threadId built

theorem Exact.mem_summarySet (exact_ : runtime.Exact) (summary : ThreadRuntimeSummary) :
    summary ∈ runtime.overview.summarySet ↔
      runtime.overview.summaries.get? summary.threadId = some summary := by
  constructor
  · intro member
    obtain ⟨⟨threadId, found⟩, inside, rfl⟩ := List.mem_map.1 member
    have here := IndexMap.get?_eq_some.2 inside
    rw [exact_.threadId_eq here]
    exact here
  · intro found
    exact List.mem_map.2 ⟨_, IndexMap.get?_eq_some.1 found, rfl⟩

theorem Exact.summarySet_eq_iff {other : ThreadRuntime} (exact_ : runtime.Exact)
    (exact' : other.Exact) :
    other.overview.summarySet = runtime.overview.summarySet ↔
      ∀ threadId, other.overview.summaries.get? threadId =
        runtime.overview.summaries.get? threadId := by
  have half {left right : ThreadRuntime} (exact_ : left.Exact) (exact' : right.Exact)
      (same : left.overview.summarySet = right.overview.summarySet) {threadId : ThreadId}
      {summary : ThreadRuntimeSummary}
      (found : left.overview.summaries.get? threadId = some summary) :
      right.overview.summaries.get? threadId = some summary := by
    have own := exact_.threadId_eq found
    have member : summary ∈ right.overview.summarySet := by
      rw [← same, exact_.mem_summarySet, own]
      exact found
    rwa [exact'.mem_summarySet, own] at member
  constructor
  · intro same threadId
    apply Option.ext
    intro summary
    exact ⟨half exact' exact_ same, half exact_ exact' same.symm⟩
  · intro lookups
    ext summary
    rw [exact'.mem_summarySet, exact_.mem_summarySet, lookups]

end

/-- What holds of the overview across one operation. -/
structure Projected (before after : ThreadRuntime) : Prop where
  /-- For each thread the overview holds the summary of its entry, if any. -/
  exact_after : after.Exact
  /-- A step that changes the summaries takes a larger revision, below the largest one. -/
  increases : after.overview.summarySet ≠ before.overview.summarySet →
    before.overview.revision.toNat < 2 ^ 64 - 1 →
    before.overview.revision < after.overview.revision
  /-- The largest revision is kept. -/
  saturates : before.overview.revision.toNat = 2 ^ 64 - 1 →
    after.overview.revision = before.overview.revision
  /-- Any other step keeps the revision. -/
  stays : after.overview.summarySet = before.overview.summarySet →
    after.overview.revision = before.overview.revision

/-- After every step of every run the overview is an exact projection of the entries, under a
revision that grows with every change until it saturates. -/
theorem overview_projected (crates : Crates) (ops : List Op) (op : Op) :
    Projected (run crates ops) (run crates (ops ++ [op])) := by
  have before := @run_exact crates ops
  have after := @run_exact crates (ops ++ [op])
  have revised : (run crates ops).overview.Revised (run crates (ops ++ [op])).overview := by
    rw [run_concat]
    exact (step_effect op).revised
  have sets := before.summarySet_eq_iff after
  refine ⟨after, ?_, ?_, fun same => revised.stays (sets.1 same)⟩
  · intro different below
    rw [Ne, sets, not_forall] at different
    rw [revised.takes different]
    exact lt_saturatingSucc below
  · intro largest
    by_cases same : (run crates (ops ++ [op])).overview.summarySet =
        (run crates ops).overview.summarySet
    · exact revised.stays (sets.1 same)
    · rw [sets, not_forall] at same
      rw [revised.takes same, saturatingSucc, if_neg (by omega)]

/-! ## Saturation -/

/-- A thread is reserved and released in turn. -/
def alternation (threadId : ThreadId) (reservation : TurnReservation) : ℕ → List Op
  | 0 => []
  | n + 1 => alternation threadId reservation n ++
      [if n % 2 = 0 then .reserveTurn threadId reservation else .releaseTurn threadId]

section

variable {crates : Crates} {threadId : ThreadId} {reservation : TurnReservation}

theorem entryOrCreate_refresh (runtime : ThreadRuntime) (entry : ThreadRuntimeEntry) :
    (runtime.refresh crates threadId entry).1.entryOrCreate threadId = entry := by
  rw [refresh, entryOrCreate, store]
  dsimp only
  rw [Function.update_self, Option.getD_some]

/-- The entry of an idle thread, and of one that a reservation owns. -/
def alternatingEntry (reservation : TurnReservation) (n : ℕ) (revision : UInt64) :
    ThreadRuntimeEntry :=
  let owner : Option ActiveTurnOwner :=
    if n % 2 = 0 then none else some ⟨reservation, none, none⟩
  { ThreadRuntimeEntry.empty with gate := ⟨owner, revision⟩ }

theorem alternation_entry (n : ℕ) :
    ∃ revision, (run crates (alternation threadId reservation n)).entryOrCreate threadId =
      alternatingEntry reservation n revision := by
  induction n with
  | zero => exact ⟨0, rfl⟩
  | succ n ih =>
    obtain ⟨revision, entry⟩ := ih
    rw [alternation, run_concat]
    generalize run crates (alternation threadId reservation n) = runtime at entry ⊢
    obtain even | odd := Nat.mod_two_eq_zero_or_one n
    · have next : (n + 1) % 2 = 1 := by omega
      refine ⟨saturatingSucc revision, ?_⟩
      rw [if_pos even, step, reserveTurn, entry]
      simp only [alternatingEntry, even, next, TurnGate.reserve, if_true, one_ne_zero, if_false]
      exact entryOrCreate_refresh _ _
    · have next : (n + 1) % 2 = 0 := by omega
      refine ⟨revision, ?_⟩
      rw [if_neg (by omega), step, releaseTurn]
      cases present : runtime.entries threadId with
      | none =>
        -- An owned thread has an entry.
        rw [entryOrCreate, present] at entry
        have gate := congrArg (fun entry : ThreadRuntimeEntry => entry.gate.active) entry
        simp [alternatingEntry, odd, ThreadRuntimeEntry.empty, TurnGate.empty] at gate
      | some found =>
        rw [entryOrCreate, present, Option.getD_some] at entry
        simp only [entryOrCreate_refresh, entry, alternatingEntry, TurnGate.release, next, if_true]

theorem alternation_summary (n : ℕ) :
    (run crates (alternation threadId reservation n)).overview.summaries.get? threadId =
      if n % 2 = 0 then none else some ⟨threadId, .active none, []⟩ := by
  obtain ⟨revision, entry⟩ := @alternation_entry crates threadId reservation n
  rw [run_exact, ← runtimeSummary_entryOrCreate, entry, alternatingEntry]
  split <;> rfl

theorem alternation_changes (n : ℕ) :
    (run crates (alternation threadId reservation (n + 1))).overview.summaries.get? threadId ≠
      (run crates (alternation threadId reservation n)).overview.summaries.get? threadId := by
  rw [alternation_summary, alternation_summary]
  obtain even | odd := Nat.mod_two_eq_zero_or_one n
  · rw [if_neg (by omega), if_pos even]
    exact Option.some_ne_none _
  · rw [if_pos (by omega), if_neg (by omega)]
    exact (Option.some_ne_none _).symm

theorem alternation_revision (n : ℕ) :
    (run crates (alternation threadId reservation n)).overview.revision.toNat =
      min n (2 ^ 64 - 1) := by
  induction n with
  | zero => rfl
  | succ n ih =>
    have changes := @alternation_changes crates threadId reservation n
    rw [alternation, run_concat] at changes ⊢
    rw [(step_effect _).revised.takes ⟨_, changes⟩, toNat_saturatingSucc, ih]
    omega

end

theorem alternation_releases (crates : Crates) (threadId : ThreadId)
    (reservation : TurnReservation) {n : ℕ} (odd : n % 2 = 1) (full : 2 ^ 64 - 1 ≤ n) :
    (run crates (alternation threadId reservation n ++ [.releaseTurn threadId])).overview.summarySet ≠
        (run crates (alternation threadId reservation n)).overview.summarySet ∧
      ¬ (run crates (alternation threadId reservation n)).overview.revision <
        (run crates (alternation threadId reservation n ++
          [.releaseTurn threadId])).overview.revision := by
  have before := @alternation_revision crates threadId reservation n
  have after := @alternation_revision crates threadId reservation (n + 1)
  have changes := @alternation_changes crates threadId reservation n
  rw [alternation, if_neg (by omega)] at after changes
  constructor
  · rw [Ne, (run_exact _).summarySet_eq_iff (run_exact _)]
    exact fun same => changes (same threadId)
  · rw [UInt64.lt_iff_toNat_lt, before, after]
    omega

/-- The reservation of the run below. -/
def sampleReservation : TurnReservation := ⟨⟨⟨2⟩⟩, "native", .unknown, .unknown, "user"⟩

/-- After 2⁶⁴ - 1 changes the next one, a release of the reserved thread, keeps the revision. -/
theorem overview_revision_saturates :
    ¬ ∀ (ops : List Op) (op : Op),
      (run Crates.reference (ops ++ [op])).overview.summarySet ≠
          (run Crates.reference ops).overview.summarySet →
        (run Crates.reference ops).overview.revision <
          (run Crates.reference (ops ++ [op])).overview.revision := by
  intro increases
  have release := alternation_releases Crates.reference ⟨⟨1⟩⟩ sampleReservation
    (show (2 ^ 64 - 1) % 2 = 1 by norm_num) le_rfl
  exact release.2 (increases _ _ release.1)

end ThreadRuntime

end Giskard
