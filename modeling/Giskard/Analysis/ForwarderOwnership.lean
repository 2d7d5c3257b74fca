import Mathlib
import Giskard.Analysis.ForwardedTurns

/-!
# What a forwarder owns

The gate, the leases, the request in flight, the queue of intents and what was replied and
stored make up what a forwarder owns. Each operation that changes it has an equation here; an
event of the thread changes it by attaching the forwarder to a turn, by noting a start, or by
completing the turn, and by nothing else.
-/

set_option autoImplicit false

namespace Giskard

open Foundation

/-! ## The view -/

/-- A note of no reply, no request and no stored turn. -/
def ForwarderNote.Aside : ForwarderNote → Prop
  | .replied _ _ | .requested _ | .appended _ _ _ => False
  | _ => True

def ForwarderNote.reply? : ForwarderNote → Option (ℕ × Except HarnessError (Option TurnId))
  | .replied intent result => some (intent, result)
  | _ => none

def ForwarderNote.request? : ForwarderNote → Option TurnIntent
  | .requested intent => some intent
  | _ => none

def ForwarderNote.written? : ForwarderNote → Option (Turn × TurnContext)
  | .appended turn context _ => some (turn, context)
  | _ => none

/-- A context without its model, which is adopted from the harness's reports. -/
def TurnContext.origin (context : TurnContext) : TurnContext := { context with model := .unknown }

/-- What a forwarder owns, and what it replied, requested and stored. -/
structure Ownership where
  thread : ThreadId
  gate : TurnGate
  admitted : Option AdmittedIntent
  inflight : Option InflightRequest
  lease : Option ThreadTurnLease
  owned : Option TurnId
  observed : Option TurnId
  origin : TurnContext
  idle : TurnContext
  intents : List TurnIntent
  intentsClosed : Bool
  sent : ℕ
  cancel : Bool
  exited : Option ForwarderExitReason
  seen : Finset TurnId
  replies : List (ℕ × Except HarnessError (Option TurnId))
  requests : List TurnIntent
  written : List (Turn × TurnContext)

namespace ThreadEventForwarder

def ownership (forwarder : ThreadEventForwarder) : Ownership where
  thread := forwarder.binding.handle.thread
  gate := forwarder.entry.gate
  admitted := forwarder.admitted
  inflight := forwarder.inflight
  lease := forwarder.turn.lease
  owned := forwarder.turn.ownedTurn
  observed := forwarder.turn.observedTurn
  origin := forwarder.turn.context.origin
  idle := forwarder.idleContext
  intents := forwarder.intents
  intentsClosed := forwarder.intentsClosed
  sent := forwarder.sent
  cancel := forwarder.cancel
  exited := forwarder.exited
  seen := forwarder.seenTurnIds
  replies := forwarder.journal.filterMap ForwarderNote.reply?
  requests := forwarder.journal.filterMap ForwarderNote.request?
  written := forwarder.journal.filterMap ForwarderNote.written?

end ThreadEventForwarder

/-! ## The gate -/

namespace TurnGate

/-- The gate once a lease was released or dropped. -/
def releasedBy (gate : TurnGate) (lease : Option ThreadTurnLease) : TurnGate :=
  if lease = some ⟨false⟩ then gate.release else gate

/-- The gate once a turn was acknowledged through a lease. -/
def acknowledgedBy (gate : TurnGate) (lease : ThreadTurnLease) (turn : TurnId) : TurnGate :=
  if lease.detached then gate else (gate.acknowledge turn).getD gate

end TurnGate

namespace ThreadEventForwarder

variable (forwarder : ThreadEventForwarder)

theorem log_ownership {note : ForwarderNote} (aside : note.Aside) :
    (forwarder.log note).ownership = forwarder.ownership := by
  cases note <;> first
    | exact absurd aside id
    | simp [ownership, log, List.filterMap_append, ForwarderNote.reply?, ForwarderNote.request?,
        ForwarderNote.written?]

theorem sendReply_ownership (intent : ℕ) (result : Except HarnessError (Option TurnId)) :
    (forwarder.sendReply intent result).ownership =
      { forwarder.ownership with replies := forwarder.ownership.replies ++ [(intent, result)] } := by
  simp [ownership, sendReply, log, List.filterMap_append, ForwarderNote.reply?,
    ForwarderNote.request?, ForwarderNote.written?]

theorem releaseLease_ownership (lease : Option ThreadTurnLease) :
    (forwarder.releaseLease lease).ownership =
      { forwarder.ownership with gate := forwarder.ownership.gate.releasedBy lease } := by
  unfold releaseLease TurnGate.releasedBy
  cases lease with
  | none => rfl
  | some lease =>
    obtain ⟨detached⟩ := lease
    cases detached <;> rfl

theorem acknowledge_ownership (lease : ThreadTurnLease) (turn : TurnId) :
    (forwarder.acknowledge lease turn).ownership =
      { forwarder.ownership with gate := forwarder.ownership.gate.acknowledgedBy lease turn } := by
  unfold acknowledge TurnGate.acknowledgedBy
  cases lease.detached with
  | true => rfl
  | false =>
    rw [if_neg Bool.false_ne_true, if_neg Bool.false_ne_true]
    cases acknowledged : forwarder.entry.gate.acknowledge turn with
    | none => simp [ownership, acknowledged]
    | some gate => simp [ownership, acknowledged, setGate]

end ThreadEventForwarder

/-- Own a turn. -/
def Ownership.own (ownership : Ownership) (context : TurnContext) (lease : ThreadTurnLease)
    (turn : TurnId) : Ownership :=
  { ownership with
    gate := (ownership.gate.acknowledgedBy lease turn).releasedBy ownership.lease
    origin := context.origin
    lease := some lease
    owned := some turn }

/-- Settle the turn, which is stored or retained. -/
def Ownership.settle (ownership : Ownership) (retained : Option (Turn × String)) : Ownership :=
  { ownership with
    gate := match retained with
      | none => ownership.gate.release
      | some (turn, error) =>
        (ownership.gate.blockOnPersistence turn error).getD ownership.gate
    lease := ownership.lease.map fun _ => ⟨true⟩ }

/-- Begin an empty turn. -/
def Ownership.reset (ownership : Ownership) : Ownership :=
  { ownership with
    gate := ownership.gate.releasedBy ownership.lease
    lease := none
    owned := none
    observed := none
    origin := ownership.idle.origin }

namespace ThreadEventForwarder

variable (forwarder : ThreadEventForwarder)

theorem own_ownership (context : TurnContext) (lease : ThreadTurnLease) (turn : TurnId) :
    (forwarder.own context lease turn).ownership = forwarder.ownership.own context lease turn := by
  have acknowledged := forwarder.acknowledge_ownership lease turn
  have dropped := (forwarder.acknowledge lease turn).releaseLease_ownership
    (forwarder.acknowledge lease turn).turn.lease
  rw [show (forwarder.acknowledge lease turn).turn.lease = forwarder.turn.lease from
    congrArg Ownership.lease acknowledged, acknowledged] at dropped
  unfold own
  dsimp only
  rw [show (forwarder.acknowledge lease turn).turn.lease = forwarder.turn.lease from
    congrArg Ownership.lease acknowledged]
  generalize (forwarder.acknowledge lease turn).releaseLease forwarder.turn.lease = after
    at dropped ⊢
  simp only [ownership, Ownership.mk.injEq] at dropped
  simp [ownership, Ownership.own, dropped]

theorem settle_ownership (event : AgentEvent) (retained : Option (Turn × String)) :
    (forwarder.settle event retained).ownership = forwarder.ownership.settle retained := by
  cases retained with
  | none => rfl
  | some retained => rfl

theorem resetTurn_ownership (env : ForwarderEnv) :
    (forwarder.resetTurn env).ownership = forwarder.ownership.reset := by
  have released := forwarder.releaseLease_ownership forwarder.turn.lease
  unfold resetTurn
  generalize forwarder.releaseLease forwarder.turn.lease = after at released ⊢
  simp only [ownership, Ownership.mk.injEq] at released
  simp [ownership, Ownership.reset, released, ForwardedTurnState.new]

/-! ## What is left alone -/

theorem captureEventDiffs_ownership (crates : Crates) (event : AgentEvent) :
    (forwarder.captureEventDiffs crates event).1.ownership = forwarder.ownership := rfl

theorem adoptExternalTurnModel_ownership (turn : TurnId) (model : ModelRef) :
    (forwarder.adoptExternalTurnModel turn model).ownership = forwarder.ownership := by
  unfold adoptExternalTurnModel
  dsimp only
  split
  · rfl
  · split
    · rfl
    · rw [log_ownership _ (show (ForwarderNote.modelAdopted turn model).Aside from trivial)]
      rfl

theorem recordContextWindow_ownership (turn : TurnId) (model : ModelRef) (window : UInt32) :
    (forwarder.recordContextWindow turn model window).ownership = forwarder.ownership := by
  unfold recordContextWindow
  dsimp only
  split
  · rfl
  · -- The context differs in its model at most.
    have origin : (if forwarder.turn.context.model.asKnown.isNone then
        { forwarder.turn.context with model := TurnModel.known model }
        else forwarder.turn.context).origin = forwarder.turn.context.origin := by
      split <;> rfl
    split
    · rw [log_ownership _
        (show (ForwarderNote.contextWindowPersisted turn model window).Aside from trivial)]
      simp only [ownership, origin]
    · simp only [ownership, origin]

theorem recordTurnUsage_ownership (event : AgentEvent) :
    (forwarder.recordTurnUsage event).ownership = forwarder.ownership := by
  unfold recordTurnUsage
  split
  · rename_i turn usage contextWindow model
    cases model with
    | none => rfl
    | some model =>
      cases contextWindow with
      | none => exact adoptExternalTurnModel_ownership _ turn model
      | some window =>
        exact (recordContextWindow_ownership _ turn model window).trans
          (adoptExternalTurnModel_ownership _ turn model)
  · rfl

theorem sendSubagentLink_ownership (turn : TurnId) (itemId : ItemId) (origin : String)
    (info : Option SubagentActivityInfo) :
    (forwarder.sendSubagentLink turn itemId origin info).ownership = forwarder.ownership := by
  cases info with
  | none => rfl
  | some info => exact log_ownership _ trivial

theorem noteOwnedEvent_ownership (env : ForwarderEnv) (event : AgentEvent) :
    (forwarder.noteOwnedEvent env event).ownership =
      { forwarder.ownership with
        observed := noteObserved forwarder.ownership.observed event } := by
  cases event with
  | itemStarted here turn item => exact sendSubagentLink_ownership _ _ _ _ _
  | itemCompleted here turn item =>
    have linked := forwarder.sendSubagentLink_ownership turn item.id "item_completed"
      (subagentActivityInfo item)
    simp only [ownership, Ownership.mk.injEq] at linked
    simp [noteOwnedEvent, ownership, linked, noteObserved]
  | _ => rfl

theorem admitToLiveBuffer_ownership (eventTurn : Option TurnId) (event : AgentEvent) :
    (forwarder.admitToLiveBuffer eventTurn event).1.ownership = forwarder.ownership := by
  unfold admitToLiveBuffer
  split
  · rfl
  · dsimp only
    split
    · rfl
    · split <;> rfl

variable {forwarder} {after : ThreadEventForwarder}

theorem applyToRuntime_ownership {env : ForwarderEnv} {permit appendLive : Bool}
    {event : AgentEvent} {output : Option PreparedItemOutput}
    (applied : forwarder.applyToRuntime env permit event appendLive output = some after) :
    after.ownership = forwarder.ownership := by
  unfold applyToRuntime at applied
  split at applied
  · cases applied
  · split at applied
    · split at applied
      · cases applied
      · cases applied
        rfl
    · cases applied
      rfl

variable (forwarder)

theorem applyTurnless_ownership (crates : Crates) (event : AgentEvent) :
    (forwarder.applyTurnless crates event).ownership = forwarder.ownership := rfl

theorem applyLateSubagentOutcome_ownership (event : AgentEvent) :
    (forwarder.applyLateSubagentOutcome event).ownership = forwarder.ownership := by
  unfold applyLateSubagentOutcome
  split
  · split
    · exact (sendSubagentLink_ownership _ _ _ _ _).trans (log_ownership _ trivial)
    · rfl
  · rfl

theorem amendLateTool_ownership (event : AgentEvent) :
    (forwarder.amendLateTool event).ownership = forwarder.ownership := by
  unfold amendLateTool
  split
  · split
    · exact log_ownership _ trivial
    · rfl
  · rfl

theorem amendLateCommand_ownership (event : AgentEvent) :
    (forwarder.amendLateCommand event).ownership = forwarder.ownership := by
  unfold amendLateCommand
  split
  · exact log_ownership _ trivial
  · rfl

theorem applyLate_ownership (crates : Crates) (env : ForwarderEnv) (event : AgentEvent) :
    (forwarder.applyLate crates env event).1.ownership = forwarder.ownership := by
  unfold applyLate
  split
  · split
    · exact applyLateSubagentOutcome_ownership forwarder event
    · rfl
  · split
    · rfl
    · split
      · split
        · rfl
        · rename_i applied there
          exact (amendLateCommand_ownership applied _).trans (applyToRuntime_ownership there)
      · exact amendLateTool_ownership forwarder _

theorem remembered_ownership (event : AgentEvent) (disposition : EventDisposition) :
    (forwarder.remembered event disposition).ownership = forwarder.ownership := by
  have logged := forwarder.log_ownership
    (show (ForwarderNote.handled event disposition).Aside from trivial)
  unfold remembered
  dsimp only
  split
  · exact logged
  · simp only [ownership, Ownership.mk.injEq] at logged
    simp only [ownership, ForwardedTurnState.remember, logged]

/-! ## Events -/

end ThreadEventForwarder

theorem noteObserved_rendered {crates : Crates} {maxBytes : ℕ} {event rendered : AgentEvent}
    (becomes : Rendered crates maxBytes event rendered) (observed : Option TurnId) :
    noteObserved observed rendered = noteObserved observed event := by
  cases event with
  | itemCompleted here turn raw =>
    obtain ⟨item, _, rfl⟩ := becomes
    rfl
  | _ =>
    cases becomes
    rfl

namespace Ownership

/-- A turn that nobody asked for is attached to through the gate. -/
def External (before : Ownership) (context : TurnContext) (gate : TurnGate) : Prop :=
  context.intent = none ∧ ∃ thread reservation, before.gate.reserve thread reservation = .ok gate

/-- How an event finds the forwarder, or makes it, the owner of a turn. -/
inductive Entering (before : Ownership) : Ownership → Prop
  | held {owner : TurnId} (owned : before.owned = some owner) : Entering before before
  | admitted {admitted : AdmittedIntent} (idle : before.owned = none)
      (there : before.admitted = some admitted) (turn : TurnId) :
      Entering before ({ before with admitted := none }.own admitted.context admitted.lease turn)
  | external {context : TurnContext} {gate : TurnGate} (idle : before.owned = none)
      (empty : before.admitted = none) (external : before.External context gate) (turn : TurnId) :
      Entering before ({ before with gate := gate }.own context ⟨false⟩ turn)

/-- An event that is classified so enters the turn that is owned then. -/
structure Enters (before : Ownership) (event : AgentEvent) (disposition : EventDisposition)
    (after : Ownership) : Prop where
  entering : before.Entering after
  attaches : before.owned = none → ∃ turn completes, event.turn = some turn ∧
    disposition = .owned (some turn) completes
  names : ∀ turn, event.turn = some turn → after.owned = some turn
  unstored : ∀ turn, event.turn = some turn → turn ∉ before.seen

/-- A turn that is stored under the turn it was observed to be. -/
structure Assembles (before : Ownership) (completed : TurnId) (turn : Turn)
    (context : TurnContext) : Prop where
  id : turn.id = before.observed.getD completed
  userInput : turn.userInput = context.userInput
  mode : turn.mode = context.mode
  origin : context.origin = before.origin

/-- Store a turn. -/
def store (before : Ownership) (turn : Turn) (context : TurnContext) : Ownership :=
  { before with
    seen := insert turn.id before.seen
    written := before.written ++ [(turn, context)] }

/-- The completion of the turn with this id: it is stored, or it is retained. -/
inductive Completing (before : Ownership) (completed : TurnId) : Ownership → Bool → Prop
  | stored {turn : Turn} {context : TurnContext}
      (assembles : before.Assembles completed turn context) :
      Completing before completed ((before.store turn context).settle none) true
  | retained (turn : Turn) (error : String) :
      Completing before completed (before.settle (some (turn, error))) false

def note (before : Ownership) (event : AgentEvent) : Ownership :=
  { before with observed := noteObserved before.observed event }

/-- What an event does to what a forwarder owns, and with which reason it leaves the loop. -/
inductive EventEffect (before : Ownership) (event : AgentEvent) (disposition : EventDisposition) :
    Ownership → Option ForwarderExitReason → Prop
  | aside (reason : Option ForwarderExitReason) : EventEffect before event disposition before reason
  | entered {after : Ownership} (enters : before.Enters event disposition after)
      (reason : Option ForwarderExitReason) : EventEffect before event disposition after reason
  | noted {after : Ownership} (enters : before.Enters event disposition after)
      (reason : Option ForwarderExitReason) :
      EventEffect before event disposition (after.note event) reason
  | stored {entered after : Ownership} {turn : TurnId}
      (enters : before.Enters event disposition entered) (completes : event.turn = some turn)
      (completing : entered.Completing turn after true) :
      EventEffect before event disposition after.reset none
  | retained {entered after : Ownership} {turn : TurnId}
      (enters : before.Enters event disposition entered) (completes : event.turn = some turn)
      (completing : entered.Completing turn after false) :
      EventEffect before event disposition after (some .persistenceBlocked)

end Ownership

namespace ThreadEventForwarder

section

variable {forwarder : ThreadEventForwarder} {env : ForwarderEnv} {turn : TurnId}

theorem attachToTurn_ownership (idle : forwarder.turn.ownedTurn = none) :
    (∃ reason, forwarder.attachToTurn env turn = (forwarder, some reason)) ∨
      ∃ after, forwarder.attachToTurn env turn = (after, none) ∧
        forwarder.ownership.Entering after.ownership ∧ after.ownership.owned = some turn := by
  unfold attachToTurn
  cases there : forwarder.admitted with
  | some admitted =>
    refine Or.inr ⟨_, rfl, ?_⟩
    rw [own_ownership]
    exact ⟨.admitted idle there turn, rfl⟩
  | none =>
    dsimp only
    split
    · exact Or.inl ⟨_, rfl⟩
    · rename_i gate reserved
      refine Or.inr ⟨_, rfl, ?_⟩
      rw [own_ownership]
      exact ⟨.external idle there ⟨rfl, _, _, reserved⟩ turn, rfl⟩

theorem completeForwardedTurn_ownership (completed : TurnId) (usage : TokenUsage)
    (status : TurnStatus) :
    forwarder.ownership.Completing completed
      (forwarder.completeForwardedTurn env completed usage status).1.ownership
      (forwarder.completeForwardedTurn env completed usage status).2.isSome := by
  unfold completeForwardedTurn
  dsimp only
  cases env.appendFault with
  | some error =>
    dsimp only
    rw [settle_ownership, log_ownership _ (by trivial)]
    exact .retained _ error
  | none =>
    dsimp only
    rw [settle_ownership]
    convert @Ownership.Completing.stored forwarder.ownership completed
      (forwarder.assembledTurn env completed usage status) forwarder.turn.context
      ⟨rfl, rfl, rfl, rfl⟩ using 2
    · simp [ownership, Ownership.store, log, List.filterMap_append, ForwarderNote.reply?,
        ForwarderNote.request?, ForwarderNote.written?]
    · rfl

theorem finishOwnedTurn_ownership {completion : TurnId × TokenUsage × TurnStatus}
    {outcome : ThreadEventForwarder × Option ForwarderExitReason}
    (finished : forwarder.finishOwnedTurn env completion = outcome) :
    (∃ after, forwarder.ownership.Completing completion.1 after true ∧
        outcome.1.ownership = after.reset ∧ outcome.2 = none) ∨
      (forwarder.ownership.Completing completion.1 outcome.1.ownership false ∧
        outcome.2 = some .persistenceBlocked) := by
  have completing := @completeForwardedTurn_ownership forwarder env completion.1 completion.2.1
    completion.2.2
  unfold finishOwnedTurn at finished
  generalize forwarder.completeForwardedTurn env completion.1 completion.2.1 completion.2.2 =
    completed at completing finished
  obtain ⟨completed, stored⟩ := completed
  cases stored with
  | none =>
    cases finished
    exact Or.inr ⟨completing, rfl⟩
  | some stored =>
    cases finished
    exact Or.inl ⟨_, completing, resetTurn_ownership completed env, rfl⟩

/-- The forwarder once an event is in the turn it owns, before the event is applied. -/
def readied (crates : Crates) (env : ForwarderEnv) (forwarder : ThreadEventForwarder)
    (eventTurn : Option TurnId) (rendered : AgentEvent) : ThreadEventForwarder × Bool :=
  ((forwarder.recordTurnUsage rendered).noteOwnedEvent env rendered).admitToLiveBuffer eventTurn
    rendered

theorem readied_ownership (crates : Crates) (eventTurn : Option TurnId) {event rendered : AgentEvent}
    (same : ∀ observed, noteObserved observed rendered = noteObserved observed event) :
    (readied crates env forwarder eventTurn rendered).1.ownership =
      forwarder.ownership.note event := by
  unfold readied
  rw [admitToLiveBuffer_ownership, noteOwnedEvent_ownership, recordTurnUsage_ownership, same]
  rfl

/-- An event that enters the turn the forwarder owns is applied, or completes the turn. -/
theorem applyPrepared_ownership {crates : Crates} {event : AgentEvent} {prepared : PreparedEvent}
    (same : ∀ observed, noteObserved observed (forwarder.captured.capture crates prepared.event).2 =
      noteObserved observed event)
    (eventTurn : Option TurnId) (completes : Option (TurnId × TokenUsage × TurnStatus))
    {outcome : ThreadEventForwarder × Option ForwarderExitReason}
    (applied : forwarder.applyPrepared crates env eventTurn prepared completes = outcome) :
    outcome.1.ownership = forwarder.ownership.note event ∨
      ∃ completion, completes = some completion ∧
        ((∃ after, (forwarder.ownership.note event).Completing completion.1 after true ∧
            outcome.1.ownership = after.reset ∧ outcome.2 = none) ∨
          ((forwarder.ownership.note event).Completing completion.1 outcome.1.ownership false ∧
            outcome.2 = some .persistenceBlocked)) := by
  have ready := @readied_ownership (forwarder.captureEventDiffs crates prepared.event).1 env crates
    eventTurn event _ same
  rw [captureEventDiffs_ownership] at ready
  unfold applyPrepared at applied
  rw [show forwarder.captureEventDiffs crates prepared.event =
    ((forwarder.captureEventDiffs crates prepared.event).1,
      (forwarder.captured.capture crates prepared.event).2) from rfl] at applied
  unfold readied at ready
  dsimp only at applied
  generalize admitToLiveBuffer _ eventTurn _ = readied at ready applied
  obtain ⟨buffered, append⟩ := readied
  cases completes with
  | some completion =>
    refine Or.inr ⟨completion, rfl, ?_⟩
    rw [← ready]
    exact finishOwnedTurn_ownership applied
  | none =>
    refine Or.inl ?_
    dsimp only at applied
    split at applied
    · cases applied
      exact ready
    · rename_i after there
      cases applied
      exact (applyToRuntime_ownership there).trans ready

/-- An event of a turn that is held once it has entered. -/
theorem enterTurn_effect {crates : Crates} {event : AgentEvent} {before : Ownership}
    {disposition : EventDisposition} {attached : ThreadEventForwarder}
    (enters : before.Enters event disposition attached.ownership)
    {outcome : ThreadEventForwarder × Option ForwarderExitReason}
    (entered : (match prepareOutput crates env attached.maxCommandOutputBytes event with
      | .error reason => (attached, some reason)
      | .ok prepared =>
        attached.applyPrepared crates env event.turn prepared (completionOf event)) = outcome) :
    before.EventEffect event disposition outcome.1.ownership outcome.2 := by
  cases ready : prepareOutput crates env attached.maxCommandOutputBytes event with
  | error reason =>
    rw [ready] at entered
    cases entered
    exact .entered enters _
  | ok prepared =>
    rw [ready] at entered
    have becomes := prepareOutput_rendered ready attached.captured
    rcases applyPrepared_ownership (noteObserved_rendered becomes) event.turn _ entered with
      noted | ⟨⟨completed, usage, status⟩, completes, done⟩
    · rw [noted]
      exact .noted enters _
    · cases event <;> simp only [completionOf, Option.some.injEq, Prod.mk.injEq,
        reduceCtorEq] at completes
      obtain ⟨rfl, _⟩ := completes
      rcases done with ⟨after, stored, same, none_⟩ | ⟨retained, blocked⟩
      · rw [same, none_]
        exact .stored enters rfl stored
      · rw [blocked]
        exact .retained enters rfl retained

/-- How a forwarder classifies an event. -/
def classifies (forwarder : ThreadEventForwarder) (event : AgentEvent) : EventDisposition :=
  classify forwarder.threadId forwarder.turn forwarder.seenTurnIds event

theorem applyOwned_effect {crates : Crates} {event : AgentEvent} {attaches : Option TurnId}
    {completes : Option (TurnId × TokenUsage × TurnStatus)}
    (classified : classify forwarder.threadId forwarder.turn forwarder.seenTurnIds event =
      .owned attaches completes) :
    forwarder.ownership.EventEffect event (.owned attaches completes)
      ((forwarder.remembered event (.owned attaches completes)).applyOwned crates env event
        attaches completes).1.ownership
      ((forwarder.remembered event (.owned attaches completes)).applyOwned crates env event
        attaches completes).2 := by
  obtain ⟨_, _, rfl, cases_, unstored⟩ := classify_owned classified
  have same := forwarder.remembered_ownership event (.owned attaches (completionOf event))
  generalize forwarder.remembered event (.owned attaches (completionOf event)) = before at same ⊢
  rw [← same]
  rw [show forwarder.turn.ownedTurn = before.turn.ownedTurn from
    (congrArg Ownership.owned same).symm] at cases_
  rw [show forwarder.seenTurnIds = before.seenTurnIds from
    (congrArg Ownership.seen same).symm] at unstored
  unfold applyOwned
  rcases cases_ with ⟨owner, owned, rfl, names⟩ | ⟨named, idle, rfl, names⟩
  · refine enterTurn_effect ⟨.held owned, ?_, ?_, unstored⟩ rfl
    · intro idle
      cases owned.symm.trans idle
    · rintro turn here
      rw [names turn here]
      exact owned
  · dsimp only
    rcases @attachToTurn_ownership before env named idle with
      ⟨reason, refused⟩ | ⟨after, attached, entering, owns⟩
    · rw [refused]
      exact .aside _
    · rw [attached]
      refine enterTurn_effect ⟨entering, fun _ => ⟨named, _, names, rfl⟩, ?_, unstored⟩ rfl
      intro turn here
      rw [owns, ← names, here]

theorem handleEvent_effect (crates : Crates) (event : AgentEvent) :
    forwarder.ownership.EventEffect event (forwarder.classifies event)
      (forwarder.handleEvent crates env event).1.ownership
      (forwarder.handleEvent crates env event).2 := by
  unfold handleEvent classifies
  dsimp only
  generalize classified : classify forwarder.threadId forwarder.turn forwarder.seenTurnIds event =
    disposition
  have same := forwarder.remembered_ownership event disposition
  cases disposition with
  | drop reason =>
    rw [show ((forwarder.remembered event (.drop reason)).apply crates env event
      (.drop reason)).1.ownership = forwarder.ownership from same]
    exact .aside _
  | lateForPersistedTurn turn =>
    rw [show ((forwarder.remembered event (.lateForPersistedTurn turn)).apply crates env event
      (.lateForPersistedTurn turn)).1.ownership = forwarder.ownership from
      (applyLate_ownership _ crates env event).trans same]
    exact .aside _
  | turnless =>
    rw [show ((forwarder.remembered event .turnless).apply crates env event
      .turnless).1.ownership = forwarder.ownership from
      (applyTurnless_ownership _ crates event).trans same]
    exact .aside _
  | owned attaches completes => exact applyOwned_effect classified

end

end ThreadEventForwarder

/-! ## The stream, intents and answers -/

namespace Ownership

variable (before : Ownership)

/-- What a break of the stream does to what a forwarder owns. -/
inductive StreamEffect : Ownership → Option ForwarderExitReason → Prop
  | aside (idle : before.observed.or before.owned = none) (reason : Option ForwarderExitReason) :
      StreamEffect before reason
  | stored {turn : TurnId} {after : Ownership}
      (incomplete : before.observed.or before.owned = some turn)
      (completing : before.Completing turn after true) : StreamEffect after.reset none
  | recovered {turn : TurnId} {after : Ownership}
      (incomplete : before.observed.or before.owned = some turn)
      (completing : before.Completing turn after true) :
      StreamEffect after (some .streamEndedRecovered)
  | retained {turn : TurnId} {after : Ownership}
      (incomplete : before.observed.or before.owned = some turn)
      (completing : before.Completing turn after false) :
      StreamEffect after (some .persistenceBlocked)

/-- Reply to an intent. -/
def reply (intent : ℕ) (result : Except HarnessError (Option TurnId)) : Ownership :=
  { before with replies := before.replies ++ [(intent, result)] }

/-- Hand over an intent, numbered, if the queue takes it. -/
def send (intent : ℕ → TurnIntent) : Ownership :=
  if before.intentsClosed || turnIntentCapacity ≤ before.intents.length then before
  else { before with
    sent := before.sent + 1
    intents := before.intents ++ [intent before.sent] }

def ownerGone (crates : Crates) : HarnessError :=
  .protocol s!"thread {crates.ulid.print before.thread.ulid} has no live event owner"

/-- Whether the forwarder works on an intent or on a turn. -/
def occupied : Bool :=
  before.inflight.isSome || before.admitted.isSome || before.owned.isSome ||
    before.gate.active.isSome

/-- Why an intent is refused. -/
def refusal (crates : Crates) (env : ForwarderEnv) : Option HarnessError :=
  if before.cancel then some (before.ownerGone crates)
  else if env.classification ≠ .primary then some (.threadReadOnly before.thread)
  else if before.occupied then some (.threadBusy before.thread)
  else if env.harnessThere then none
  else some (.protocol "project harness is gone")

/-- Admit an intent. -/
def start (intent : TurnIntent) (owner : ActiveTurnOwner) : Ownership :=
  { before with
    gate := ⟨some owner, saturatingSucc before.gate.lifecycleRevision⟩
    admitted := some ⟨intent.context, ⟨false⟩⟩
    inflight := some
      { reply := match intent with
          | .startTurn _ _ _ reply => .turn reply
          | .compact _ reply => .unit reply
        context := intent.context }
    requests := before.requests ++ [intent] }

/-- What taking an intent does to what a forwarder owns. -/
inductive Admitting (crates : Crates) (env : ForwarderEnv) (intent : TurnIntent) :
    Ownership → Prop
  | refused {error : HarnessError} (refusal : before.refusal crates env = some error)
      {gate : TurnGate} (still : gate.active = before.gate.active) :
      Admitting crates env intent
        ({ before with gate := gate }.reply intent.reply (.error error))
  | started (admissible : before.refusal crates env = none) {owner : ActiveTurnOwner}
      (free : owner.persistenceBlocked = none) :
      Admitting crates env intent (before.start intent owner)

/-- Give up the admitted intent. -/
def giveUp : Ownership :=
  { before with
    gate := before.gate.releasedBy (before.admitted.map AdmittedIntent.lease)
    admitted := none }

/-- Take the harness's answer. -/
def answer (outcome : Except HarnessError (Option TurnId)) : Ownership :=
  match before.inflight with
  | none => before
  | some request =>
    let taken := { before with inflight := none }
    match outcome with
    | .ok turnId => { taken with gate := match before.admitted, turnId with
        | some admitted, some turn => before.gate.acknowledgedBy admitted.lease turn
        | _, _ => before.gate }.reply request.reply.number
          (ThreadEventForwarder.acceptedResult request.reply turnId)
    | .error error => taken.giveUp.reply request.reply.number (.error error)

/-- Refuse what is queued and what is in flight, and give up every lease. -/
def finish (crates : Crates) (reason : ForwarderExitReason) : Ownership :=
  { before with
    gate := (before.gate.releasedBy (before.admitted.map AdmittedIntent.lease)).releasedBy
      before.lease
    admitted := none
    inflight := none
    lease := before.lease.map fun _ => ⟨true⟩
    intents := []
    intentsClosed := true
    exited := some reason
    replies := before.replies ++
      before.intents.map (fun intent => (intent.reply, .error (before.ownerGone crates))) ++
      before.inflight.toList.map fun request => (request.reply.number,
        .error (.protocol "event owner exited before the harness answered")) }

/-- Leave the loop or go on. -/
def leave (crates : Crates) : Option ForwarderExitReason → Ownership
  | none => before
  | some reason => before.finish crates reason

/-- One step of a forwarder that has not exited. -/
inductive Step (crates : Crates) (env : ForwarderEnv) (classifies : AgentEvent → EventDisposition) :
    ThreadEventForwarder.Action → Ownership → Prop
  | sendStart (input : UserInput) (overrides : TurnOverrides) (effectiveModel : ModelRef) :
      Step crates env classifies (.sendStart input overrides effectiveModel)
        (before.send fun number => .startTurn input overrides
          (ThreadEventForwarder.startContext input overrides effectiveModel number) number)
  | sendCompact (effectiveModel : ModelRef) (mode : Mode) :
      Step crates env classifies (.sendCompact effectiveModel mode)
        (before.send fun number =>
          .compact (ThreadEventForwarder.compactContext effectiveModel mode number) number)
  | setCancel : Step crates env classifies .setCancel { before with cancel := true }
  | spurious (senderGone : Bool) : Step crates env classifies (.cancelled senderGone) before
  | cancelled (senderGone : Bool) :
      Step crates env classifies (.cancelled senderGone) (before.finish crates .streamEndedWithoutTurn)
  | event (event : AgentEvent) {after : Ownership} {reason : Option ForwarderExitReason}
      (effect : before.EventEffect event (classifies event) after reason) :
      Step crates env classifies (.event event) (after.leave crates reason)
  | streamError (error : EventStreamError) {after : Ownership}
      {reason : Option ForwarderExitReason} (effect : before.StreamEffect after reason) :
      Step crates env classifies (.streamError error) (after.leave crates reason)
  | answered (outcome : Except HarnessError (Option TurnId)) :
      Step crates env classifies (.answered outcome) (before.answer outcome)
  | noIntent (empty : before.intents = []) : Step crates env classifies .intent before
  | intent {intent : TurnIntent} {intents : List TurnIntent} {after : Ownership}
      (queued : before.intents = intent :: intents)
      (admitting : { before with intents := intents }.Admitting crates env intent after) :
      Step crates env classifies .intent after

end Ownership

namespace ThreadEventForwarder

section

variable {forwarder : ThreadEventForwarder} {env : ForwarderEnv} {crates : Crates}

theorem handleStreamError_effect (error : EventStreamError) :
    forwarder.ownership.StreamEffect (forwarder.handleStreamError env error).1.ownership
      (forwarder.handleStreamError env error).2 := by
  unfold handleStreamError
  dsimp only
  cases incomplete : forwarder.turn.observedTurn.or forwarder.turn.ownedTurn with
  | none =>
    cases error.isGap <;> exact .aside incomplete _
  | some turn =>
    have completing := @completeForwardedTurn_ownership forwarder env turn
      (forwarder.turn.liveUsage.getD ⟨0, 0, 0⟩) (interruptedStatus error.isGap)
    dsimp only
    generalize forwarder.completeForwardedTurn env turn (forwarder.turn.liveUsage.getD ⟨0, 0, 0⟩)
      (interruptedStatus error.isGap) = completed at completing ⊢
    obtain ⟨completed, stored⟩ := completed
    cases stored with
    | none => exact .retained incomplete completing
    | some stored =>
      dsimp only
      cases error.isGap with
      | true =>
        show forwarder.ownership.StreamEffect (completed.resetTurn env).ownership none
        rw [resetTurn_ownership]
        exact .stored incomplete completing
      | false => exact .recovered incomplete completing

theorem send_ownership (intent : ℕ → TurnIntent) :
    (forwarder.send intent).ownership = forwarder.ownership.send intent := by
  unfold send Ownership.send
  show ownership (if (forwarder.intentsClosed || turnIntentCapacity ≤ forwarder.intents.length) =
    true then _ else _) = if (forwarder.intentsClosed ||
      turnIntentCapacity ≤ forwarder.intents.length) = true then _ else _
  split <;> rfl

theorem acknowledgeAdmitted_ownership (turnId : Option TurnId) :
    (forwarder.acknowledgeAdmitted turnId).ownership = { forwarder.ownership with
      gate := match forwarder.ownership.admitted, turnId with
        | some admitted, some turn => forwarder.ownership.gate.acknowledgedBy admitted.lease turn
        | _, _ => forwarder.ownership.gate } := by
  unfold acknowledgeAdmitted
  show _ = { forwarder.ownership with gate := match forwarder.admitted, turnId with
    | some admitted, some turn => forwarder.ownership.gate.acknowledgedBy admitted.lease turn
    | _, _ => forwarder.ownership.gate }
  cases forwarder.admitted with
  | none => rfl
  | some admitted =>
    cases turnId with
    | none => rfl
    | some turn => exact acknowledge_ownership forwarder admitted.lease turn

theorem releaseAdmitted_ownership :
    forwarder.releaseAdmitted.ownership = forwarder.ownership.giveUp :=
  releaseLease_ownership _ _

theorem handleAnswer_ownership (outcome : Except HarnessError (Option TurnId)) :
    (forwarder.handleAnswer outcome).ownership = forwarder.ownership.answer outcome := by
  unfold handleAnswer Ownership.answer
  show _ = match forwarder.inflight with
    | none => _
    | some request => _
  cases forwarder.inflight with
  | none => rfl
  | some request =>
    dsimp only
    cases outcome with
    | ok turnId =>
      dsimp only
      rw [sendReply_ownership, acknowledgeAdmitted_ownership]
      rfl
    | error error =>
      dsimp only
      rw [sendReply_ownership, releaseAdmitted_ownership]
      rfl

theorem drainIntents_ownership :
    (forwarder.drainIntents crates).ownership =
      { forwarder.ownership with
        intents := []
        intentsClosed := true
        replies := forwarder.ownership.replies ++ forwarder.ownership.intents.map fun intent =>
          (intent.reply, .error (forwarder.ownerGone crates)) } := by
  have replies : ∀ intents : List TurnIntent, (intents.map fun intent =>
      ForwarderNote.replied intent.reply (.error (forwarder.ownerGone crates))).filterMap
        ForwarderNote.reply? = intents.map fun intent =>
          (intent.reply, .error (forwarder.ownerGone crates)) := by
    intro intents
    simp [List.filterMap_map, Function.comp_def, ForwarderNote.reply?]
  simp [ownership, drainIntents, List.filterMap_append, replies, List.filterMap_map,
    Function.comp_def, ForwarderNote.request?, ForwarderNote.written?]

theorem abandonRequest_ownership :
    forwarder.abandonRequest.ownership =
      { forwarder.ownership with
        inflight := none
        replies := forwarder.ownership.replies ++ forwarder.ownership.inflight.toList.map
          fun request => (request.reply.number,
            .error (.protocol "event owner exited before the harness answered")) } := by
  unfold abandonRequest
  rw [show forwarder.ownership.inflight = forwarder.inflight from rfl]
  cases there : forwarder.inflight with
  | none => simp [ownership, there]
  | some request =>
    dsimp only
    rw [sendReply_ownership]
    rfl

theorem releaseTurn_ownership :
    forwarder.releaseTurn.ownership =
      { forwarder.ownership with
        gate := forwarder.ownership.gate.releasedBy forwarder.ownership.lease
        lease := forwarder.ownership.lease.map fun _ => ⟨true⟩ } := by
  have released := forwarder.releaseLease_ownership forwarder.turn.lease
  unfold releaseTurn
  dsimp only
  generalize forwarder.releaseLease forwarder.turn.lease = after at released ⊢
  simp only [ownership, Ownership.mk.injEq] at released
  simp [ownership, released]

theorem finish_ownership (reason : ForwarderExitReason) :
    (forwarder.finish crates reason).ownership =
      forwarder.ownership.finish crates reason := by
  have released : (forwarder.drainIntents crates).releaseAdmitted.abandonRequest.releaseTurn.ownership
      = _ := releaseTurn_ownership
  rw [abandonRequest_ownership, releaseAdmitted_ownership, drainIntents_ownership] at released
  unfold finish
  generalize (forwarder.drainIntents crates).releaseAdmitted.abandonRequest.releaseTurn = after
    at released ⊢
  simp only [Ownership.giveUp] at released
  show { after.ownership with exited := some reason } = _
  rw [released]
  rfl

theorem startRequest_ownership (owner : ActiveTurnOwner) (intent : TurnIntent) :
    ((forwarder.setGate ⟨some owner, saturatingSucc
      forwarder.entry.gate.lifecycleRevision⟩).startRequest intent ⟨false⟩).ownership =
      forwarder.ownership.start intent owner := by
  simp [ownership, startRequest, setGate, log, Ownership.start, List.filterMap_append,
    ForwarderNote.reply?, ForwarderNote.request?, ForwarderNote.written?] <;>
  cases intent <;> rfl

/-- An intent is refused or admitted. -/
theorem admitIntent_admitting (intent : TurnIntent) :
    forwarder.ownership.Admitting crates env intent
      (forwarder.admitIntent crates env intent).ownership := by
  have refused : ∀ error, forwarder.ownership.refusal crates env = some error →
      forwarder.ownership.Admitting crates env intent
        (forwarder.sendReply intent.reply (.error error)).ownership := by
    intro error refusal
    rw [sendReply_ownership]
    exact .refused refusal rfl
  unfold admitIntent
  by_cases cancel : forwarder.cancel = true
  · rw [if_pos cancel]
    exact refused _ (if_pos cancel)
  · rw [if_neg cancel]
    by_cases primary : env.classification ≠ .primary
    · rw [if_pos primary]
      exact refused _ ((if_neg cancel).trans (if_pos primary))
    · rw [if_neg primary]
      have admissible : forwarder.ownership.refusal crates env =
          if forwarder.ownership.occupied then some (.threadBusy forwarder.threadId)
          else if env.harnessThere then none
          else some (.protocol "project harness is gone") :=
        (if_neg cancel).trans (if_neg primary)
      by_cases busy : (forwarder.inflight.isSome || forwarder.admitted.isSome ||
          forwarder.turn.ownedTurn.isSome) = true
      · rw [if_pos busy]
        refine refused _ (admissible.trans (if_pos ?_))
        simp only [Bool.or_eq_true] at busy
        simp only [Ownership.occupied, ownership, Bool.or_eq_true]
        exact Or.inl busy
      · rw [if_neg busy]
        have occupied : forwarder.ownership.occupied = forwarder.entry.gate.active.isSome := by
          rw [Bool.not_eq_true] at busy
          simp only [Ownership.occupied, ownership, busy, Bool.false_or]
        rw [occupied] at admissible
        cases active : forwarder.entry.gate.active with
        | some owner =>
          rw [active] at admissible
          have reserved : forwarder.entry.gate.reserve forwarder.threadId (turnReservation
              forwarder.binding.projectId forwarder.binding.handle intent.context) =
              .error (.threadBusy forwarder.threadId) := by
            simp [TurnGate.reserve, active]
          rw [reserved]
          exact refused _ admissible
        | none =>
          rw [active] at admissible
          have reserved : forwarder.entry.gate.reserve forwarder.threadId (turnReservation
              forwarder.binding.projectId forwarder.binding.handle intent.context) =
              .ok ⟨some ⟨turnReservation forwarder.binding.projectId forwarder.binding.handle
                intent.context, none, none⟩,
                saturatingSucc forwarder.entry.gate.lifecycleRevision⟩ := by
            simp [TurnGate.reserve, active]
          rw [reserved]
          dsimp only
          by_cases there : env.harnessThere = true
          · rw [if_pos there, startRequest_ownership]
            exact .started (admissible.trans (if_pos there)) rfl
          · rw [if_neg there, sendReply_ownership, releaseLease_ownership]
            exact .refused (admissible.trans (if_neg there)) active.symm

theorem control_ownership (outcome : ThreadEventForwarder × Option ForwarderExitReason) :
    (control crates outcome).ownership = outcome.1.ownership.leave crates outcome.2 := by
  obtain ⟨after, reason⟩ := outcome
  cases reason with
  | none => rfl
  | some reason => exact finish_ownership reason

/-- What a forwarder owns changes by the steps of its ownership. -/
theorem advance_step (action : Action) :
    forwarder.ownership.Step crates env forwarder.classifies action
      (forwarder.advance crates env action).ownership := by
  cases action with
  | sendStart input overrides effectiveModel =>
    rw [show forwarder.advance crates env (.sendStart input overrides effectiveModel) =
      forwarder.send _ from rfl, send_ownership]
    exact .sendStart input overrides effectiveModel
  | sendCompact effectiveModel mode =>
    rw [show forwarder.advance crates env (.sendCompact effectiveModel mode) =
      forwarder.send _ from rfl, send_ownership]
    exact .sendCompact effectiveModel mode
  | setCancel => exact .setCancel
  | cancelled senderGone =>
    unfold advance
    dsimp only
    split
    · rw [finish_ownership]
      exact .cancelled senderGone
    · exact .spurious senderGone
  | event event =>
    rw [show forwarder.advance crates env (.event event) =
      control crates (forwarder.handleEvent crates env event) from rfl, control_ownership]
    exact .event event (handleEvent_effect crates event)
  | streamError error =>
    rw [show forwarder.advance crates env (.streamError error) =
      control crates (forwarder.handleStreamError env error) from rfl, control_ownership]
    exact .streamError error (handleStreamError_effect error)
  | answered outcome =>
    rw [show forwarder.advance crates env (.answered outcome) = forwarder.handleAnswer outcome
      from rfl, handleAnswer_ownership]
    exact .answered outcome
  | intent =>
    unfold advance
    dsimp only
    cases queued : forwarder.intents with
    | nil => exact .noIntent queued
    | cons intent intents =>
      exact .intent queued
        (@admitIntent_admitting { forwarder with intents := intents } env crates intent)

end

end ThreadEventForwarder

end Giskard
