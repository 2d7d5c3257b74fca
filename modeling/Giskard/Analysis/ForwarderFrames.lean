import Mathlib
import Giskard.Foundation.KeyedList
import Giskard.Analysis.CommitPaging
import Giskard.Model.EventForwarder
import Giskard.Model.TurnPayload

/-!
# What the steps of a forwarder leave alone

Most of what a forwarder does leaves the turn it assembles as it is: intents and answers, the
gate, the reconnect buffer, usage, links and the late path. Here is said which parts of a
forwarder decide what a turn is assembled from, and each operation that leaves them alone has a
lemma. The classification of an event has its cases, and the assembled items and diffs are keyed
lists.
-/

set_option autoImplicit false

namespace Giskard

open Foundation

/-! ## The assembled items and diffs -/

namespace CurrentTurnItems

/-- With a valid index an upsert replaces the item with this id or appends it. -/
theorem upsert_items {buffer : CurrentTurnItems} (valid : buffer.Valid) (item : Item) :
    (buffer.upsert item).1.items = KeyedList.upsert Item.id buffer.items item := by
  unfold upsert KeyedList.upsert
  cases indexed : buffer.indexes item.id with
  | none =>
    have absent : buffer.items.findIdx? (fun existing => existing.id = item.id) = none := by
      rw [List.findIdx?_eq_none_iff]
      intro existing member
      obtain ⟨idx, here⟩ := List.mem_iff_getElem?.1 member
      rw [decide_eq_false_iff_not]
      intro same
      rw [(valid item.id idx).2 ⟨existing, here, same⟩] at indexed
      cases indexed
    rw [absent]
    rfl
  | some idx =>
    obtain ⟨existing, here, same⟩ := (valid item.id idx).1 indexed
    obtain ⟨inside, at_idx⟩ := List.getElem?_eq_some_iff.1 here
    have first : buffer.items.findIdx? (fun existing => existing.id = item.id) = some idx := by
      rw [List.findIdx?_eq_some_iff_getElem]
      refine ⟨inside, by simp [at_idx, same], ?_⟩
      intro j less
      have early : buffer.items[j]? = some buffer.items[j] := List.getElem?_eq_getElem (by omega)
      intro match_
      have also := (valid item.id j).2 ⟨_, early, by simpa using match_⟩
      rw [indexed, Option.some.injEq] at also
      omega
    rw [first]
    simp [here, same]

/-- The index that is built from the items, an item at a time. -/
theorem foldl_index (items : List Item) (start : ℕ) (indexes : ItemId → Option ℕ)
    (nodup : (items.map Item.id).Nodup) (id : ItemId) (idx : ℕ) :
    ((items.zipIdx start).foldl
        (fun (indexes : ItemId → Option ℕ) (entry : Item × ℕ) =>
          Function.update indexes entry.1.id (some entry.2)) indexes) id = some idx ↔
      (∃ item, start ≤ idx ∧ items[idx - start]? = some item ∧ item.id = id) ∨
        (id ∉ items.map Item.id ∧ indexes id = some idx) := by
  induction items generalizing start indexes with
  | nil => simp
  | cons item items ih =>
    rw [List.map_cons, List.nodup_cons] at nodup
    obtain ⟨fresh, nodup⟩ := nodup
    rw [List.zipIdx_cons, List.foldl_cons, ih (start + 1) _ nodup]
    by_cases same : id = item.id
    · subst same
      simp only [Function.update_self, Option.some.injEq, List.map_cons, List.mem_cons, true_or,
        not_true_eq_false, false_and, or_false]
      constructor
      · rintro (⟨other, later, here, clash⟩ | ⟨_, rfl⟩)
        · exact absurd (clash ▸ List.mem_map_of_mem (List.mem_of_getElem? here)) fresh
        · exact ⟨item, le_refl _, by simp, rfl⟩
      · rintro ⟨other, later, here, clash⟩
        rcases Nat.eq_or_lt_of_le later with rfl | after
        · exact Or.inr ⟨fresh, rfl⟩
        · rw [show idx - start = (idx - (start + 1)) + 1 by omega, List.getElem?_cons_succ] at here
          exact absurd (clash ▸ List.mem_map_of_mem (List.mem_of_getElem? here)) fresh
    · rw [Function.update_of_ne same, List.map_cons, List.mem_cons, not_or]
      constructor
      · rintro (⟨other, later, here, found⟩ | ⟨absent, old⟩)
        · refine Or.inl ⟨other, by omega, ?_, found⟩
          rwa [show idx - start = (idx - (start + 1)) + 1 by omega, List.getElem?_cons_succ]
        · exact Or.inr ⟨⟨same, absent⟩, old⟩
      · rintro (⟨other, later, here, found⟩ | ⟨⟨_, absent⟩, old⟩)
        · rcases Nat.eq_or_lt_of_le later with rfl | after
          · rw [Nat.sub_self, List.getElem?_cons_zero, Option.some.injEq] at here
            exact absurd (here ▸ found).symm same
          · refine Or.inl ⟨other, by omega, ?_, found⟩
            rwa [show idx - start = (idx - (start + 1)) + 1 by omega,
              List.getElem?_cons_succ] at here
        · exact Or.inr ⟨absent, old⟩

theorem valid_rebuildIndexes {buffer : CurrentTurnItems} (valid : buffer.Valid) :
    buffer.rebuildIndexes.Valid := by
  intro id idx
  refine (foldl_index buffer.items 0 (fun _ => none) valid.nodup id idx).trans ?_
  simp [rebuildIndexes]

end CurrentTurnItems

theorem ForwardedTurnState.upsertDiff_eq (diffs : List FileDiff) (diff : FileDiff) :
    upsertDiff diffs diff = KeyedList.upsert FileDiff.pathKey diffs diff := rfl

/-! ## What leaves the assembled turn alone -/

/-- A note that is about no event and about no stored turn. -/
def ForwarderNote.Quiet : ForwarderNote → Prop
  | .handled _ _ | .appended _ _ _ => False
  | _ => True

/-- The part of a forwarder that decides what a turn is assembled from. -/
structure Assembly where
  binding : LoadedThreadBinding
  maxCommandOutputBytes : ℕ
  seen : Finset TurnId
  owned : Option TurnId
  observed : Option TurnId
  items : CurrentTurnItems
  diffs : List FileDiff
  identities : HarnessItemKey → Option ItemId

namespace ThreadEventForwarder

def assembly (forwarder : ThreadEventForwarder) : Assembly where
  binding := forwarder.binding
  maxCommandOutputBytes := forwarder.maxCommandOutputBytes
  seen := forwarder.seenTurnIds
  owned := forwarder.turn.ownedTurn
  observed := forwarder.turn.observedTurn
  items := forwarder.turn.items
  diffs := forwarder.turn.diffs
  identities := forwarder.turn.itemIdsByHarness

/-- The assembled turn is left alone, and nothing about events or stored turns is noted. -/
structure Kept (before after : ThreadEventForwarder) : Prop where
  assembly : after.assembly = before.assembly
  journal : ∃ notes, after.journal = before.journal ++ notes ∧ ∀ note ∈ notes, note.Quiet

variable {before middle after forwarder : ThreadEventForwarder}

theorem Kept.still (assembly : after.assembly = before.assembly)
    (journal : after.journal = before.journal) : Kept before after :=
  ⟨assembly, [], by rw [journal, List.append_nil], by simp⟩

theorem Kept.refl (forwarder : ThreadEventForwarder) : Kept forwarder forwarder := .still rfl rfl

theorem Kept.trans (first : Kept before middle) (second : Kept middle after) :
    Kept before after := by
  obtain ⟨early, begun, quiet⟩ := first.journal
  obtain ⟨late, ended, still⟩ := second.journal
  refine ⟨second.assembly.trans first.assembly, early ++ late, ?_, ?_⟩
  · rw [ended, begun, List.append_assoc]
  · intro note member
    exact (List.mem_append.1 member).elim (quiet note) (still note)

theorem Kept.logged {note : ForwarderNote} (assembly : middle.assembly = before.assembly)
    (journal : middle.journal = before.journal) (quiet : note.Quiet) :
    Kept before (middle.log note) := by
  refine ⟨assembly, [note], congrArg (· ++ [note]) journal, ?_⟩
  intro other member
  rwa [List.mem_singleton.1 member]

theorem log_kept (forwarder : ThreadEventForwarder) {note : ForwarderNote} (quiet : note.Quiet) :
    Kept forwarder (forwarder.log note) := .logged rfl rfl quiet

theorem setGate_kept (forwarder : ThreadEventForwarder) (gate : TurnGate) :
    Kept forwarder (forwarder.setGate gate) := .still rfl rfl

theorem releaseLease_kept (forwarder : ThreadEventForwarder) (lease : Option ThreadTurnLease) :
    Kept forwarder (forwarder.releaseLease lease) := by
  unfold releaseLease
  split
  · exact .refl forwarder
  · split
    · exact .refl forwarder
    · exact setGate_kept forwarder _

theorem acknowledge_kept (forwarder : ThreadEventForwarder) (lease : ThreadTurnLease)
    (turn : TurnId) : Kept forwarder (forwarder.acknowledge lease turn) := by
  unfold acknowledge
  split
  · exact .refl forwarder
  · split
    · exact .refl forwarder
    · exact setGate_kept forwarder _

theorem captureEventDiffs_kept (crates : Crates) (forwarder : ThreadEventForwarder)
    (event : AgentEvent) : Kept forwarder (forwarder.captureEventDiffs crates event).1 :=
  .still rfl rfl

theorem adoptExternalTurnModel_kept (forwarder : ThreadEventForwarder) (turn : TurnId)
    (model : ModelRef) : Kept forwarder (forwarder.adoptExternalTurnModel turn model) := by
  unfold adoptExternalTurnModel
  dsimp only
  split
  · exact .refl forwarder
  · split
    · exact .refl forwarder
    · exact Kept.logged rfl rfl trivial

theorem recordContextWindow_kept (forwarder : ThreadEventForwarder) (turn : TurnId)
    (model : ModelRef) (window : UInt32) :
    Kept forwarder (forwarder.recordContextWindow turn model window) := by
  unfold recordContextWindow
  dsimp only
  split
  · exact .refl forwarder
  · split
    · exact Kept.logged rfl rfl trivial
    · exact .still rfl rfl

theorem recordTurnUsage_kept (forwarder : ThreadEventForwarder) (event : AgentEvent) :
    Kept forwarder (forwarder.recordTurnUsage event) := by
  unfold recordTurnUsage
  split
  · rename_i turn usage contextWindow model
    have used : Kept forwarder { forwarder with turn := { forwarder.turn with
      liveUsage := some usage
      liveContextWindow := contextWindow.or forwarder.turn.liveContextWindow } } := .still rfl rfl
    cases model with
    | none => exact used
    | some model =>
      have adopted := used.trans (adoptExternalTurnModel_kept _ turn model)
      cases contextWindow with
      | none => exact adopted
      | some window => exact adopted.trans (recordContextWindow_kept _ turn model window)
  · exact .refl forwarder

theorem sendSubagentLink_kept (forwarder : ThreadEventForwarder) (turn : TurnId) (itemId : ItemId)
    (origin : String) (info : Option SubagentActivityInfo) :
    Kept forwarder (forwarder.sendSubagentLink turn itemId origin info) := by
  cases info with
  | none => exact .refl forwarder
  | some info => exact log_kept forwarder trivial

theorem admitToLiveBuffer_kept (forwarder : ThreadEventForwarder) (eventTurn : Option TurnId)
    (event : AgentEvent) : Kept forwarder (forwarder.admitToLiveBuffer eventTurn event).1 := by
  unfold admitToLiveBuffer
  split
  · exact .refl forwarder
  · dsimp only
    split
    · exact .still rfl rfl
    · split <;> exact .still rfl rfl

theorem applyToRuntime_kept {env : ForwarderEnv} {permit appendLive : Bool} {event : AgentEvent}
    {output : Option PreparedItemOutput}
    (applied : forwarder.applyToRuntime env permit event appendLive output = some after) :
    Kept forwarder after := by
  unfold applyToRuntime at applied
  split at applied
  · cases applied
  · split at applied
    · split at applied
      · cases applied
      · cases applied
        exact .refl _
    · cases applied
      exact .still rfl rfl

theorem applyTurnless_kept (crates : Crates) (forwarder : ThreadEventForwarder)
    (event : AgentEvent) : Kept forwarder (forwarder.applyTurnless crates event) := .still rfl rfl

theorem applyLateSubagentOutcome_kept (forwarder : ThreadEventForwarder) (event : AgentEvent) :
    Kept forwarder (forwarder.applyLateSubagentOutcome event) := by
  unfold applyLateSubagentOutcome
  split
  · split
    · refine Kept.trans ?_ (sendSubagentLink_kept _ _ _ _ _)
      exact log_kept forwarder trivial
    · exact .refl forwarder
  · exact .refl forwarder

theorem amendLateTool_kept (forwarder : ThreadEventForwarder) (event : AgentEvent) :
    Kept forwarder (forwarder.amendLateTool event) := by
  unfold amendLateTool
  split
  · split
    · exact log_kept _ trivial
    · exact .refl forwarder
  · exact .refl forwarder

theorem amendLateCommand_kept (forwarder : ThreadEventForwarder) (event : AgentEvent) :
    Kept forwarder (forwarder.amendLateCommand event) := by
  unfold amendLateCommand
  split
  · exact log_kept _ trivial
  · exact .refl forwarder

theorem applyLate_kept (crates : Crates) (env : ForwarderEnv) (forwarder : ThreadEventForwarder)
    (event : AgentEvent) : Kept forwarder (forwarder.applyLate crates env event).1 := by
  unfold applyLate
  split
  · split
    · exact applyLateSubagentOutcome_kept forwarder event
    · exact .refl forwarder
  · split
    · exact .refl forwarder
    · split
      · split
        · exact .refl forwarder
        · rename_i applied there
          exact (applyToRuntime_kept there).trans (amendLateCommand_kept applied _)
      · exact amendLateTool_kept forwarder _

theorem send_kept (forwarder : ThreadEventForwarder) (intent : ℕ → TurnIntent) :
    Kept forwarder (forwarder.send intent) := by
  unfold send
  split
  · exact .refl forwarder
  · exact .still rfl rfl

theorem admitIntent_kept (crates : Crates) (env : ForwarderEnv) (forwarder : ThreadEventForwarder)
    (intent : TurnIntent) : Kept forwarder (forwarder.admitIntent crates env intent) := by
  unfold admitIntent
  split
  · exact log_kept forwarder trivial
  · split
    · exact log_kept forwarder trivial
    · split
      · exact log_kept forwarder trivial
      · split
        · exact log_kept forwarder trivial
        · rename_i gate _
          dsimp only
          split
          · exact Kept.logged rfl rfl trivial
          · exact ((setGate_kept forwarder gate).trans (releaseLease_kept _ _)).trans
              (log_kept _ trivial)

theorem releaseAdmitted_kept (forwarder : ThreadEventForwarder) :
    Kept forwarder forwarder.releaseAdmitted := by
  refine Kept.trans ?_ (releaseLease_kept _ _)
  exact .still rfl rfl

theorem acknowledgeAdmitted_kept (forwarder : ThreadEventForwarder) (turnId : Option TurnId) :
    Kept forwarder (forwarder.acknowledgeAdmitted turnId) := by
  unfold acknowledgeAdmitted
  split
  · exact acknowledge_kept forwarder _ _
  · exact .refl forwarder

theorem handleAnswer_kept (forwarder : ThreadEventForwarder)
    (outcome : Except HarnessError (Option TurnId)) :
    Kept forwarder (forwarder.handleAnswer outcome) := by
  unfold handleAnswer
  split
  · exact .refl forwarder
  · have taken : Kept forwarder { forwarder with inflight := none } := .still rfl rfl
    dsimp only
    split
    · exact (taken.trans (acknowledgeAdmitted_kept _ _)).trans (.logged rfl rfl trivial)
    · exact (taken.trans (releaseAdmitted_kept _)).trans (.logged rfl rfl trivial)

theorem drainIntents_kept (crates : Crates) (forwarder : ThreadEventForwarder) :
    Kept forwarder (forwarder.drainIntents crates) := by
  refine ⟨rfl, _, rfl, ?_⟩
  intro note member
  obtain ⟨intent, _, rfl⟩ := List.mem_map.1 member
  trivial

theorem abandonRequest_kept (forwarder : ThreadEventForwarder) :
    Kept forwarder forwarder.abandonRequest := by
  unfold abandonRequest
  split
  · exact .refl forwarder
  · exact .logged rfl rfl trivial

theorem releaseTurn_kept (forwarder : ThreadEventForwarder) :
    Kept forwarder forwarder.releaseTurn :=
  (releaseLease_kept forwarder forwarder.turn.lease).trans (.still rfl rfl)

theorem finish_kept (crates : Crates) (forwarder : ThreadEventForwarder)
    (reason : ForwarderExitReason) : Kept forwarder (forwarder.finish crates reason) :=
  ((((drainIntents_kept crates forwarder).trans (releaseAdmitted_kept _)).trans
    (abandonRequest_kept _)).trans (releaseTurn_kept _)).trans (.still rfl rfl)

theorem own_kept (forwarder : ThreadEventForwarder) (context : TurnContext)
    (lease : ThreadTurnLease) (turn : TurnId) :
    Kept { forwarder with turn := { forwarder.turn with ownedTurn := some turn } }
      (forwarder.own context lease turn) := by
  have before := (acknowledge_kept forwarder lease turn).trans
    (releaseLease_kept (forwarder.acknowledge lease turn)
      (forwarder.acknowledge lease turn).turn.lease)
  refine ⟨?_, before.journal⟩
  have same := before.assembly
  simp only [assembly, Assembly.mk.injEq] at same
  simp only [own, assembly, same]

theorem attachToTurn_kept {env : ForwarderEnv} {turn : TurnId}
    (attached : forwarder.attachToTurn env turn = (after, none)) :
    Kept { forwarder with turn := { forwarder.turn with ownedTurn := some turn } } after := by
  unfold attachToTurn at attached
  split at attached
  · cases attached
    refine Kept.trans ?_ (own_kept _ _ _ turn)
    exact .still rfl rfl
  · dsimp only at attached
    split at attached
    · cases attached
    · cases attached
      refine Kept.trans ?_ (own_kept _ _ _ turn)
      exact .still rfl rfl

theorem attachToTurn_refused {env : ForwarderEnv} {turn : TurnId} {reason : ForwarderExitReason}
    (attached : forwarder.attachToTurn env turn = (after, some reason)) :
    Kept forwarder after := by
  unfold attachToTurn at attached
  split at attached
  · cases attached
  · dsimp only at attached
    split at attached
    · cases attached
      exact .refl _
    · cases attached

end ThreadEventForwarder

/-! ## Classified events -/

section

variable {thread : ThreadId} {turn : ForwardedTurnState} {seen : Finset TurnId}
  {event : AgentEvent} {owner : TurnId}

/-- An owned event is of this thread, conflicts with no identity, and names the owned turn or, if
there is none, the turn it attaches to, which is not stored. -/
theorem classify_owned {attaches : Option TurnId}
    {completes : Option (TurnId × TokenUsage × TurnStatus)}
    (owned : classify thread turn seen event = .owned attaches completes) :
    event.threadId = thread ∧ itemIdentityConflict turn.itemIdsByHarness event = none ∧
      completes = completionOf event ∧
      ((∃ owner, turn.ownedTurn = some owner ∧ attaches = none ∧
          ∀ named, event.turn = some named → named = owner) ∨
        (∃ named, turn.ownedTurn = none ∧ attaches = some named ∧ event.turn = some named)) ∧
      ∀ named, event.turn = some named → named ∉ seen := by
  unfold classify at owned
  split at owned
  · cases owned
  · rename_i here
    rw [ne_eq, not_not] at here
    split at owned
    · cases owned
    · split at owned
      · cases owned
      · rename_i clear
        refine ⟨here, clear, ?_⟩
        unfold classifyTurn crossTurnDrop at owned
        cases owner : turn.ownedTurn with
        | none =>
          cases named : event.turn with
          | none => simp [owner, named] at owned
          | some named' =>
            simp only [owner, named, Option.filter_some, Option.isNone_none, Option.isNone_some,
              Bool.and_false, Bool.false_eq_true, ↓reduceIte, decide_eq_true_eq] at owned
            by_cases stored : named' ∈ seen
            · simp only [stored, ↓reduceIte] at owned
              split at owned <;> cases owned
            · simp only [stored, ↓reduceIte, EventDisposition.owned.injEq] at owned
              obtain ⟨rfl, rfl⟩ := owned
              refine ⟨rfl, Or.inr ⟨named', rfl, rfl, rfl⟩, ?_⟩
              rintro other ⟨⟩
              exact stored
        | some owner' =>
          cases named : event.turn with
          | none =>
            simp only [owner, named, Option.filter_none, Option.isNone_some, Bool.false_and,
              Bool.false_eq_true, ↓reduceIte, EventDisposition.owned.injEq] at owned
            obtain ⟨rfl, rfl⟩ := owned
            refine ⟨rfl, Or.inl ⟨owner', rfl, rfl, ?_⟩, ?_⟩ <;> rintro other ⟨⟩
          | some named' =>
            simp only [owner, named, Option.filter_some, Option.isNone_some, Bool.false_and,
              Bool.false_eq_true, ↓reduceIte, decide_eq_true_eq] at owned
            by_cases stored : named' ∈ seen
            · simp only [stored, not_true_eq_false, and_false, ↓reduceIte] at owned
              split at owned <;> cases owned
            · by_cases same : named' = owner'
              · subst same
                simp only [ne_eq, not_true_eq_false, false_and, ↓reduceIte, stored,
                  EventDisposition.owned.injEq] at owned
                obtain ⟨rfl, rfl⟩ := owned
                refine ⟨rfl, Or.inl ⟨named', rfl, rfl, ?_⟩, ?_⟩ <;> rintro other ⟨⟩
                · rfl
                · exact stored
              · simp [same, stored] at owned

theorem classify_of_owned_turn (here : event.threadId = thread) (named : event.turn = some owner)
    (owned : turn.ownedTurn = some owner) (fresh : owner ∉ seen)
    (plain : isDuplicateNotice turn.seenNotices event = false) :
    (∃ conflict, itemIdentityConflict turn.itemIdsByHarness event = some conflict ∧
        classify thread turn seen event = .drop (.itemIdentityConflict conflict)) ∨
      classify thread turn seen event = .owned none (completionOf event) := by
  unfold classify
  rw [if_neg (by simp [here]), if_neg (by simp [plain])]
  cases conflict : itemIdentityConflict turn.itemIdsByHarness event with
  | some found => exact Or.inl ⟨found, rfl, rfl⟩
  | none =>
    refine Or.inr ?_
    simp [classifyTurn, crossTurnDrop, owned, named, fresh, Option.filter_some]

theorem trackItemIdentity_keeps {itemIdsByHarness : HarnessItemKey → Option ItemId}
    {key : HarnessItemKey} {item : ItemId} (there : itemIdsByHarness key = some item)
    (event : AgentEvent) : trackItemIdentity itemIdsByHarness event key = some item := by
  unfold trackItemIdentity
  cases clear : itemIdentityConflict itemIdsByHarness event with
  | some conflict => exact there
  | none => match identity : eventItemIdentity event with
    | none => exact there
    | some (named, native, itemId) =>
      dsimp only
      by_cases same : key = (named, native)
      · subst same
        rw [Function.update_self]
        simp only [itemIdentityConflict, identity, there] at clear
        by_cases equal : item = itemId
        · rw [equal]
        · simp [equal] at clear
      · rw [Function.update_of_ne same, there]

theorem trackItemIdentity_self {itemIdsByHarness : HarnessItemKey → Option ItemId}
    {named : TurnId} {native : String} {item : ItemId}
    (clear : itemIdentityConflict itemIdsByHarness event = none)
    (identity : eventItemIdentity event = some (named, native, item)) :
    trackItemIdentity itemIdsByHarness event (named, native) = some item := by
  unfold trackItemIdentity
  rw [clear, identity]
  exact Function.update_self _ _ _

theorem eventItemIdentity_turn {named : TurnId} {native : String} {item : ItemId}
    (identity : eventItemIdentity event = some (named, native, item)) :
    event.turn = some named := by
  unfold eventItemIdentity at identity
  split at identity
  · split at identity <;> cases identity
    rfl
  · split at identity <;> cases identity
    rfl
  · cases identity

end

end Giskard
