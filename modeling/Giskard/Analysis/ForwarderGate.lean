import Mathlib
import Giskard.Foundation.Schedule
import Giskard.Analysis.ForwarderOwnership

/-!
# The turn gate and its forwarder

A forwarder holds the gate of its thread by a lease: of the intent it admitted or of the turn it
owns. While it runs, the gate is active exactly when it holds such a lease or when a completed
turn could not be stored; once it has exited, only the second is left. Every intent that was
handed over is queued, in flight or answered, and it is answered once.
-/

set_option autoImplicit false

namespace Giskard

open Foundation

/-! ## The gate -/

namespace TurnGate

variable {gate after : TurnGate}

/-- A completed turn could not be stored and is retained. -/
def Blocked (gate : TurnGate) : Prop :=
  ∃ owner, gate.active = some owner ∧ owner.persistenceBlocked.isSome

/-- A turn has been let in and is not completed. -/
def Held (gate : TurnGate) : Prop :=
  ∃ owner, gate.active = some owner ∧ owner.persistenceBlocked = none

/-- Nobody holds the gate. -/
def AtRest (gate : TurnGate) : Prop := gate.active.isSome → gate.Blocked

theorem Held.active (held : gate.Held) : gate.active.isSome := by
  obtain ⟨owner, active, _⟩ := held
  rw [active]
  rfl

theorem Blocked.active (blocked : gate.Blocked) : gate.active.isSome := by
  obtain ⟨owner, active, _⟩ := blocked
  rw [active]
  rfl

theorem Held.acknowledgedBy (held : gate.Held) (lease : ThreadTurnLease) (turn : TurnId) :
    (gate.acknowledgedBy lease turn).Held := by
  obtain ⟨owner, active, free⟩ := held
  unfold TurnGate.acknowledgedBy
  split
  · exact ⟨owner, active, free⟩
  · refine ⟨{ owner with acknowledgedTurn := some turn }, ?_, free⟩
    simp [acknowledge, active]

theorem Held.retain (held : gate.Held) (turn : Turn) (error : String) :
    ((gate.blockOnPersistence turn error).getD gate).Blocked := by
  obtain ⟨owner, active, _⟩ := held
  refine ⟨_, by simp only [blockOnPersistence, active, Option.map_some, Option.getD_some]; rfl, rfl⟩

theorem Blocked.atRest (blocked : gate.Blocked) : gate.AtRest := fun _ => blocked

theorem release_atRest (gate : TurnGate) : gate.release.AtRest := by
  rintro ⟨⟩

theorem atRest_congr (same : after.active = gate.active) (rest : gate.AtRest) : after.AtRest := by
  intro active
  rw [same] at active
  obtain ⟨owner, there, blocked⟩ := rest active
  exact ⟨owner, same.trans there, blocked⟩

theorem reserve_held {thread : ThreadId} {reservation : TurnReservation}
    (reserved : gate.reserve thread reservation = .ok after) : after.Held := by
  unfold reserve at reserved
  split at reserved
  · cases reserved
  · cases reserved
    exact ⟨_, rfl, rfl⟩

theorem releasedBy_none (gate : TurnGate) : gate.releasedBy none = gate := if_neg (by simp)

theorem AtRest.releasedBy (rest : gate.AtRest) (lease : Option ThreadTurnLease) :
    (gate.releasedBy lease).AtRest := by
  unfold TurnGate.releasedBy
  split
  · exact release_atRest gate
  · exact rest

end TurnGate

/-! ## Order -/

namespace Ownership

/-- The intents that are answered, queued or in flight are the ones that were handed over. -/
def Accounted (ownership : Ownership) : Prop :=
  (ownership.replies.map Prod.fst ++ ownership.intents.map TurnIntent.reply ++
    ownership.inflight.toList.map fun request => request.reply.number).Perm
      (List.range ownership.sent)

/-- No intent is admitted while a turn is owned, and the turn that was observed is the owned one. -/
structure Ordered (ownership : Ownership) : Prop where
  apart : ∀ admitted, ownership.admitted = some admitted → ownership.owned = none
  observed : ∀ turn, ownership.observed = some turn → ownership.owned = some turn
  accounted : ownership.Accounted

variable {before after : Ownership}

theorem Ordered.enter (ordered : before.Ordered) (entering : before.Entering after) :
    after.Ordered ∧ after.owned.isSome := by
  have unobserved : before.owned = none → ∀ {turn : TurnId}, before.observed = some turn → False := by
    intro idle turn observed
    cases idle.symm.trans (ordered.observed turn observed)
  cases entering with
  | held owned => exact ⟨ordered, by rw [owned]; rfl⟩
  | admitted idle there turn =>
    refine ⟨⟨by rintro _ ⟨⟩, ?_, ordered.accounted⟩, rfl⟩
    intro other observed
    exact (unobserved idle observed).elim
  | external idle empty external turn =>
    refine ⟨⟨?_, ?_, ordered.accounted⟩, rfl⟩
    · intro admitted there
      cases empty.symm.trans there
    · intro other observed
      exact (unobserved idle observed).elim

theorem Ordered.note (ordered : before.Ordered) {event : AgentEvent}
    (names : ∀ turn, event.turn = some turn → before.owned = some turn) :
    (before.note event).Ordered := by
  refine ⟨ordered.apart, ?_, ordered.accounted⟩
  intro turn observed
  cases event with
  | turnStarted thread started =>
    cases observed
    exact names _ rfl
  | _ => exact ordered.observed turn observed

theorem Ordered.completing (ordered : before.Ordered) {turn : TurnId} {written : Bool}
    (completing : before.Completing turn after written) : after.Ordered := by
  cases completing <;> exact ⟨ordered.apart, ordered.observed, ordered.accounted⟩

theorem Ordered.reset (ordered : before.Ordered) : before.reset.Ordered :=
  ⟨fun _ _ => rfl, by rintro _ ⟨⟩, ordered.accounted⟩

theorem Ordered.event (ordered : before.Ordered) {event : AgentEvent}
    {disposition : EventDisposition} {reason : Option ForwarderExitReason}
    (effect : before.EventEffect event disposition after reason) : after.Ordered := by
  cases effect with
  | aside => exact ordered
  | entered enters => exact (ordered.enter enters.entering).1
  | noted enters => exact (ordered.enter enters.entering).1.note enters.names
  | stored enters _ completing => exact ((ordered.enter enters.entering).1.completing completing).reset
  | retained enters _ completing => exact (ordered.enter enters.entering).1.completing completing

theorem Ordered.streamError (ordered : before.Ordered) {reason : Option ForwarderExitReason}
    (effect : before.StreamEffect after reason) : after.Ordered := by
  cases effect with
  | aside => exact ordered
  | stored _ completing => exact (ordered.completing completing).reset
  | recovered _ completing => exact ordered.completing completing
  | retained _ completing => exact ordered.completing completing

theorem Ordered.finish (ordered : before.Ordered) (crates : Crates)
    (reason : ForwarderExitReason) : (before.finish crates reason).Ordered := by
  refine ⟨by rintro _ ⟨⟩, ordered.observed, ?_⟩
  have accounted := ordered.accounted
  unfold Accounted at accounted ⊢
  simpa [Ownership.finish, List.map_append, Function.comp_def] using accounted

theorem Ordered.leave (ordered : before.Ordered) (crates : Crates)
    (reason : Option ForwarderExitReason) : (before.leave crates reason).Ordered := by
  cases reason with
  | none => exact ordered
  | some reason => exact ordered.finish crates reason

theorem Ordered.send (ordered : before.Ordered) {intent : ℕ → TurnIntent}
    (numbered : ∀ number, (intent number).reply = number) : (before.send intent).Ordered := by
  unfold Ownership.send
  split
  · exact ordered
  · refine ⟨ordered.apart, ordered.observed, ?_⟩
    have accounted := ordered.accounted
    unfold Accounted at accounted ⊢
    rw [List.range_succ, List.map_append, List.map_singleton, numbered]
    -- The new number moves behind the number in flight.
    refine List.Perm.trans ?_ (accounted.append_right [before.sent])
    rw [← List.append_assoc, List.append_assoc _ [before.sent], List.append_assoc _ _ [before.sent]]
    exact List.perm_append_comm.append_left _

theorem Accounted.answered {request : InflightRequest} (accounted : before.Accounted)
    (inflight : before.inflight = some request)
    (result : Except HarnessError (Option TurnId)) (gate : TurnGate)
    (admitted : Option AdmittedIntent) :
    ({ before with inflight := none, gate := gate, admitted := admitted }.reply
      request.reply.number result).Accounted := by
  unfold Accounted at accounted ⊢
  rw [inflight] at accounted
  refine List.Perm.trans ?_ accounted
  simp only [reply, List.map_append, List.map_cons, List.map_nil, Option.toList_none,
    List.append_nil, Option.toList_some, List.append_assoc]
  exact List.perm_append_comm.append_left _

theorem Ordered.answer (ordered : before.Ordered)
    (outcome : Except HarnessError (Option TurnId)) : (before.answer outcome).Ordered := by
  unfold Ownership.answer
  cases inflight : before.inflight with
  | none => exact ordered
  | some request =>
    have accounted := ordered.accounted.answered inflight
    cases outcome with
    | ok turnId => exact ⟨ordered.apart, ordered.observed, accounted _ _ _⟩
    | error error => exact ⟨by rintro _ ⟨⟩, ordered.observed, accounted _ _ _⟩

theorem refusal_eq_none {crates : Crates} {env : ForwarderEnv}
    (admissible : before.refusal crates env = none) :
    before.inflight = none ∧ before.admitted = none ∧ before.owned = none := by
  unfold refusal at admissible
  split at admissible
  · cases admissible
  · split at admissible
    · cases admissible
    · split at admissible
      · cases admissible
      · rename_i vacant
        simp only [occupied, Bool.or_eq_true, not_or, Option.not_isSome_iff_eq_none] at vacant
        exact ⟨vacant.1.1.1, vacant.1.1.2, vacant.1.2⟩

theorem start_inflight (intent : TurnIntent) (owner : ActiveTurnOwner) :
    ((before.start intent owner).inflight.toList.map fun request => request.reply.number) =
      [intent.reply] := by
  cases intent <;> rfl

theorem Ordered.admitIntent (ordered : before.Ordered) {crates : Crates} {env : ForwarderEnv}
    {intent : TurnIntent} {intents : List TurnIntent} (queued : before.intents = intent :: intents)
    (admitting : { before with intents := intents }.Admitting crates env intent after) :
    after.Ordered := by
  have accounted := ordered.accounted
  unfold Accounted at accounted
  rw [queued] at accounted
  cases admitting with
  | refused refusal still =>
    refine ⟨ordered.apart, ordered.observed, ?_⟩
    unfold Accounted
    simpa [reply, List.append_assoc] using accounted
  | started admissible free =>
    obtain ⟨idle, empty, unowned⟩ := refusal_eq_none admissible
    have none_ : before.inflight = none := idle
    refine ⟨fun _ _ => unowned, ordered.observed, ?_⟩
    rw [none_] at accounted
    unfold Accounted
    rw [start_inflight]
    refine List.Perm.trans ?_ accounted
    simp only [start, Option.toList_none, List.map_cons, List.map_nil, List.append_nil,
      List.append_assoc]
    exact (List.perm_append_singleton _ _).append_left _

theorem Ordered.step (ordered : before.Ordered) {crates : Crates} {env : ForwarderEnv}
    {classifies : AgentEvent → EventDisposition} {action : ThreadEventForwarder.Action}
    (step : before.Step crates env classifies action after) : after.Ordered := by
  cases step with
  | sendStart => exact ordered.send fun _ => rfl
  | sendCompact => exact ordered.send fun _ => rfl
  | setCancel => exact ⟨ordered.apart, ordered.observed, ordered.accounted⟩
  | spurious => exact ordered
  | cancelled => exact ordered.finish crates _
  | event event effect => exact (ordered.event effect).leave crates _
  | streamError error effect => exact (ordered.streamError effect).leave crates _
  | answered outcome => exact ordered.answer outcome
  | noIntent => exact ordered
  | intent queued admitting => exact ordered.admitIntent queued admitting

end Ownership

/-! ## The invariant -/

namespace Ownership

/-- The gate and the leases of a forwarder that has not exited. -/
structure Guarded (ownership : Ownership) : Prop where
  admitted : ∀ admitted, ownership.admitted = some admitted → admitted.lease = ⟨false⟩
  lease : ownership.lease = ownership.owned.map fun _ => ⟨false⟩
  held : ownership.admitted.isSome ∨ ownership.owned.isSome → ownership.gate.Held
  free : ownership.admitted = none → ownership.owned = none → ownership.gate.AtRest

/-- What a forwarder that leaves its loop still has to give up. -/
def Leaving (ownership : Ownership) : Prop :=
  ((ownership.gate.releasedBy (ownership.admitted.map AdmittedIntent.lease)).releasedBy
    ownership.lease).AtRest

/-- The gate and the leases of a forwarder that has exited. -/
structure Retired (ownership : Ownership) : Prop where
  admitted : ownership.admitted = none
  inflight : ownership.inflight = none
  intents : ownership.intents = []
  lease : ∀ lease, ownership.lease = some lease → lease.detached = true
  rest : ownership.gate.AtRest

variable {before after : Ownership}

theorem Guarded.leaving (guarded : before.Guarded) : before.Leaving := by
  unfold Leaving
  rw [guarded.lease]
  cases owned : before.owned with
  | some owner => exact TurnGate.release_atRest _
  | none =>
    rw [Option.map_none, TurnGate.releasedBy_none]
    cases there : before.admitted with
    | none => exact guarded.free there owned
    | some admitted =>
      rw [Option.map_some, guarded.admitted admitted there]
      exact TurnGate.release_atRest _

theorem Leaving.finish (leaving : before.Leaving) (crates : Crates)
    (reason : ForwarderExitReason) : (before.finish crates reason).Retired := by
  refine ⟨rfl, rfl, rfl, ?_, leaving⟩
  intro lease there
  obtain ⟨_, _, rfl⟩ := Option.map_eq_some_iff.1 there
  rfl

theorem Guarded.enter (guarded : before.Guarded) (entering : before.Entering after) :
    after.Guarded := by
  cases entering with
  | held => exact guarded
  | admitted idle there turn =>
    have gate := guarded.held (Or.inl (by rw [there]; rfl))
    have none_ : before.lease = none := by rw [guarded.lease, idle]; rfl
    refine ⟨by rintro _ ⟨⟩, congrArg some (guarded.admitted _ there), ?_, by rintro _ ⟨⟩⟩
    intro _
    show ((before.gate.acknowledgedBy _ turn).releasedBy before.lease).Held
    rw [none_, TurnGate.releasedBy_none]
    exact gate.acknowledgedBy _ turn
  | @external context gate idle empty external turn =>
    obtain ⟨_, thread, reservation, reserved⟩ := external
    have none_ : before.lease = none := by rw [guarded.lease, idle]; rfl
    refine ⟨?_, rfl, ?_, by rintro _ ⟨⟩⟩
    · intro admitted there
      cases empty.symm.trans there
    · intro _
      show ((gate.acknowledgedBy _ turn).releasedBy before.lease).Held
      rw [none_, TurnGate.releasedBy_none]
      exact (TurnGate.reserve_held reserved).acknowledgedBy _ turn

theorem Guarded.note (guarded : before.Guarded) (event : AgentEvent) :
    (before.note event).Guarded := { guarded with }

theorem Guarded.stored (guarded : before.Guarded) (ordered : before.Ordered)
    (owned : before.owned.isSome) {turn : TurnId}
    (completing : before.Completing turn after true) : after.reset.Guarded ∧ after.Leaving := by
  cases completing with
  | stored assembles =>
    have rest := TurnGate.release_atRest before.gate
    have empty : before.admitted = none := by
      cases there : before.admitted with
      | none => rfl
      | some admitted =>
        rw [ordered.apart admitted there] at owned
        cases owned
    refine ⟨⟨?_, rfl, ?_, fun _ _ => rest.releasedBy _⟩, (rest.releasedBy _).releasedBy _⟩
    · intro admitted there
      cases empty.symm.trans there
    · rintro (there | owns)
      · have admitted : before.admitted.isSome = true := there
        rw [empty] at admitted
        cases admitted
      · have none_ : (none : Option TurnId).isSome = true := owns
        cases none_

theorem Guarded.retained (guarded : before.Guarded) (owned : before.owned.isSome) {turn : TurnId}
    (completing : before.Completing turn after false) : after.Leaving := by
  cases completing with
  | retained turn error =>
    have rest := ((guarded.held (Or.inr owned)).retain turn error).atRest
    exact (rest.releasedBy _).releasedBy _

/-- What must hold before the loop goes on or is left. -/
def Settled (after : Ownership) (reason : Option ForwarderExitReason) : Prop :=
  after.Leaving ∧ (reason = none → after.Guarded)

theorem Guarded.settled (guarded : before.Guarded) (reason : Option ForwarderExitReason) :
    before.Settled reason := ⟨guarded.leaving, fun _ => guarded⟩

theorem Guarded.event (guarded : before.Guarded) (ordered : before.Ordered) {event : AgentEvent}
    {disposition : EventDisposition} {reason : Option ForwarderExitReason}
    (effect : before.EventEffect event disposition after reason) : after.Settled reason := by
  cases effect with
  | aside => exact guarded.settled _
  | entered enters => exact (guarded.enter enters.entering).settled _
  | noted enters => exact ((guarded.enter enters.entering).note event).settled _
  | stored enters completes completing =>
    obtain ⟨entered, owned⟩ := ordered.enter enters.entering
    exact ((guarded.enter enters.entering).stored entered owned completing).1.settled _
  | retained enters completes completing =>
    have owned := (ordered.enter enters.entering).2
    exact ⟨(guarded.enter enters.entering).retained owned completing, by rintro ⟨⟩⟩

theorem Ordered.owns (ordered : before.Ordered) {turn : TurnId}
    (incomplete : before.observed.or before.owned = some turn) : before.owned = some turn := by
  cases observed : before.observed with
  | some other =>
    rw [observed] at incomplete
    cases incomplete
    exact ordered.observed turn observed
  | none =>
    rw [observed, Option.none_or] at incomplete
    exact incomplete

theorem Guarded.streamError (guarded : before.Guarded) (ordered : before.Ordered)
    {reason : Option ForwarderExitReason} (effect : before.StreamEffect after reason) :
    after.Settled reason := by
  have owned : ∀ {turn : TurnId}, before.observed.or before.owned = some turn →
      before.owned.isSome := by
    intro turn incomplete
    rw [ordered.owns incomplete]
    rfl
  cases effect with
  | aside => exact guarded.settled _
  | stored incomplete completing =>
    exact (guarded.stored ordered (owned incomplete) completing).1.settled _
  | recovered incomplete completing =>
    exact ⟨(guarded.stored ordered (owned incomplete) completing).2, by rintro ⟨⟩⟩
  | retained incomplete completing =>
    exact ⟨guarded.retained (owned incomplete) completing, by rintro ⟨⟩⟩

theorem Guarded.giveUp (guarded : before.Guarded) (ordered : before.Ordered) :
    (before.owned.isSome → before.giveUp.gate.Held) ∧
      (before.owned = none → before.giveUp.gate.AtRest) := by
  unfold Ownership.giveUp
  dsimp only
  cases there : before.admitted with
  | none =>
    rw [Option.map_none, TurnGate.releasedBy_none]
    exact ⟨fun owned => guarded.held (Or.inr owned), guarded.free there⟩
  | some admitted =>
    rw [Option.map_some, guarded.admitted admitted there, ordered.apart admitted there]
    exact ⟨by rintro ⟨⟩, fun _ => TurnGate.release_atRest _⟩

theorem Guarded.answer (guarded : before.Guarded) (ordered : before.Ordered)
    (outcome : Except HarnessError (Option TurnId)) : (before.answer outcome).Guarded := by
  unfold Ownership.answer
  cases inflight : before.inflight with
  | none => exact guarded
  | some request =>
    cases outcome with
    | ok turnId =>
      refine { guarded with held := ?_, free := ?_ }
      · intro owns
        have held := guarded.held owns
        dsimp only
        split
        · exact held.acknowledgedBy _ _
        · exact held
      · intro empty idle
        have none_ : before.admitted = none := empty
        have rest := guarded.free empty idle
        dsimp only [reply]
        rw [none_]
        exact rest
    | error error =>
      refine
        { admitted := by rintro _ ⟨⟩
          lease := guarded.lease
          held := ?_
          free := fun _ idle => (guarded.giveUp ordered).2 idle }
      rintro (none_ | owned)
      · have absent : (none : Option AdmittedIntent).isSome = true := none_
        cases absent
      · exact (guarded.giveUp ordered).1 owned

theorem Guarded.admitIntent (guarded : before.Guarded) {crates : Crates} {env : ForwarderEnv}
    {intent : TurnIntent} {intents : List TurnIntent}
    (admitting : { before with intents := intents }.Admitting crates env intent after) :
    after.Guarded := by
  cases admitting with
  | @refused error refusal gate still =>
    have same : ∀ held : before.gate.Held, gate.Held := by
      rintro ⟨owner, active, free⟩
      exact ⟨owner, still.trans active, free⟩
    exact
      { guarded with
        held := fun owns => same (guarded.held owns)
        free := fun empty idle => TurnGate.atRest_congr still (guarded.free empty idle) }
  | @started admissible owner free =>
    refine ⟨?_, guarded.lease, fun _ => ⟨owner, rfl, free⟩, by rintro ⟨⟩⟩
    intro admitted there
    cases there
    rfl

/-- The invariant of a forwarder's gate: while it runs, and once it has exited. -/
def Agreed (ownership : Ownership) : Prop :=
  (ownership.exited = none → ownership.Guarded) ∧ (ownership.exited.isSome → ownership.Retired)

theorem Guarded.agreed (guarded : before.Guarded) (running : before.exited = none) :
    before.Agreed := by
  refine ⟨fun _ => guarded, ?_⟩
  rw [running]
  rintro ⟨⟩

theorem Leaving.agreed (leaving : before.Leaving) (crates : Crates)
    (reason : ForwarderExitReason) : (before.finish crates reason).Agreed :=
  ⟨by rintro ⟨⟩, fun _ => leaving.finish crates reason⟩

theorem Settled.agreed {reason : Option ForwarderExitReason} (settled : before.Settled reason)
    (running : before.exited = none) (crates : Crates) : (before.leave crates reason).Agreed := by
  cases reason with
  | none => exact (settled.2 rfl).agreed running
  | some reason => exact settled.1.agreed crates reason

theorem Entering.exited (entering : before.Entering after) : after.exited = before.exited := by
  cases entering <;> rfl

theorem Completing.exited {turn : TurnId} {written : Bool}
    (completing : before.Completing turn after written) : after.exited = before.exited := by
  cases completing <;> rfl

theorem EventEffect.exited {event : AgentEvent} {disposition : EventDisposition}
    {reason : Option ForwarderExitReason}
    (effect : before.EventEffect event disposition after reason) : after.exited = before.exited := by
  cases effect with
  | aside => rfl
  | entered enters => exact enters.entering.exited
  | noted enters => exact enters.entering.exited
  | stored enters _ completing => exact completing.exited.trans enters.entering.exited
  | retained enters _ completing => exact completing.exited.trans enters.entering.exited

theorem StreamEffect.exited {reason : Option ForwarderExitReason}
    (effect : before.StreamEffect after reason) : after.exited = before.exited := by
  cases effect with
  | aside => rfl
  | stored _ completing => exact completing.exited
  | recovered _ completing => exact completing.exited
  | retained _ completing => exact completing.exited

theorem Guarded.step (guarded : before.Guarded) (ordered : before.Ordered)
    (running : before.exited = none)
    {crates : Crates} {env : ForwarderEnv} {classifies : AgentEvent → EventDisposition}
    {action : ThreadEventForwarder.Action} (step : before.Step crates env classifies action after) :
    after.Agreed := by
  cases step with
  | sendStart | sendCompact =>
    unfold Ownership.send
    split
    · exact guarded.agreed running
    · exact Guarded.agreed { guarded with } running
  | setCancel => exact Guarded.agreed { guarded with } running
  | spurious => exact guarded.agreed running
  | cancelled => exact guarded.leaving.agreed crates _
  | event event effect =>
    exact (guarded.event ordered effect).agreed (effect.exited.trans running) crates
  | streamError error effect =>
    exact (guarded.streamError ordered effect).agreed (effect.exited.trans running) crates
  | answered outcome =>
    refine (guarded.answer ordered outcome).agreed ?_
    unfold Ownership.answer
    cases before.inflight with
    | none => exact running
    | some request => cases outcome <;> exact running
  | noIntent => exact guarded.agreed running
  | intent queued admitting =>
    refine (guarded.admitIntent admitting).agreed ?_
    cases admitting <;> exact running

/-- An intent is answered with an error, or it starts one request. -/
def Takes (before : Ownership) (intent : TurnIntent) (after : Ownership) :
    Option HarnessError → Prop
  | some error =>
    after.replies = before.replies ++ [(intent.reply, .error error)] ∧
      after.requests = before.requests
  | none => after.replies = before.replies ∧ after.requests = before.requests ++ [intent]

theorem Step.takes {crates : Crates} {env : ForwarderEnv}
    {classifies : AgentEvent → EventDisposition}
    (step : before.Step crates env classifies .intent after) {intent : TurnIntent} {intents : List TurnIntent}
    (queued : before.intents = intent :: intents) :
    before.Takes intent after (before.refusal crates env) := by
  cases step with
  | noIntent empty => cases queued.symm.trans empty
  | intent there admitting =>
    cases queued.symm.trans there
    cases admitting with
    | refused refusal still =>
      rw [show before.refusal crates env = some _ from refusal]
      exact ⟨rfl, rfl⟩
    | started admissible free =>
      rw [show before.refusal crates env = none from admissible]
      exact ⟨rfl, rfl⟩

theorem Guarded.occupied (guarded : before.Guarded) :
    before.occupied = (before.inflight.isSome || before.gate.active.isSome) := by
  unfold Ownership.occupied
  cases before.inflight.isSome with
  | true => rfl
  | false =>
    cases active : before.gate.active.isSome with
    | true => simp
    | false =>
      have vacant : ¬(before.admitted.isSome = true ∨ before.owned.isSome = true) := by
        intro owns
        rw [(guarded.held owns).active] at active
        cases active
      rw [not_or, Bool.not_eq_true, Bool.not_eq_true] at vacant
      rw [vacant.1, vacant.2]
      rfl

end Ownership

/-! ## The agreement -/

namespace ThreadEventForwarder

section

variable (crates : Crates) (env : ForwarderEnv) (forwarder : ThreadEventForwarder)

/-- The leases that are held: of the admitted intent and of the turn. -/
def heldLeases : List ThreadTurnLease :=
  ((forwarder.admitted.map AdmittedIntent.lease).toList ++ forwarder.turn.lease.toList).filter
    fun lease => !lease.detached

/-- What was replied, in order, with the numbers of the intents. -/
def replies : List (ℕ × Except HarnessError (Option TurnId)) :=
  forwarder.journal.filterMap ForwarderNote.reply?

/-- What the harness was asked for, in order. -/
def requests : List TurnIntent := forwarder.journal.filterMap ForwarderNote.request?

/-- Why the next intent is refused. -/
def intentRefusal : Option HarnessError :=
  if forwarder.cancel then some (forwarder.ownerGone crates)
  else if env.classification ≠ .primary then some (.threadReadOnly forwarder.threadId)
  else if forwarder.inflight.isSome || forwarder.entry.gate.active.isSome then
    some (.threadBusy forwarder.threadId)
  else if env.harnessThere then none
  else some (.protocol "project harness is gone")

/-- The gate of a thread agrees with its forwarder, and so do the replies. -/
structure GateAgreement : Prop where
  once : forwarder.heldLeases.length ≤ 1
  active : forwarder.entry.gate.active.isSome ↔
    forwarder.heldLeases.length = 1 ∨ forwarder.entry.gate.Blocked
  taken : ∀ env intent intents, forwarder.exited = none → forwarder.intents = intent :: intents →
    forwarder.ownership.Takes intent (forwarder.step crates (env, .intent)).ownership
      (forwarder.intentRefusal crates env)
  answered : (forwarder.replies.map Prod.fst).Nodup ∧
    ∀ intent ∈ forwarder.replies.map Prod.fst, intent < forwarder.sent
  exited : forwarder.exited.isSome →
    (forwarder.replies.map Prod.fst).Perm (List.range forwarder.sent) ∧
      (forwarder.entry.gate.active.isSome → forwarder.entry.gate.Blocked)

end

section

variable {crates : Crates} {forwarder : ThreadEventForwarder}

theorem guarded_heldLeases (guarded : forwarder.ownership.Guarded)
    (ordered : forwarder.ownership.Ordered) :
    forwarder.heldLeases.length ≤ 1 ∧ (forwarder.entry.gate.active.isSome ↔
      forwarder.heldLeases.length = 1 ∨ forwarder.entry.gate.Blocked) := by
  have lease : forwarder.turn.lease = forwarder.turn.ownedTurn.map fun _ => ⟨false⟩ := guarded.lease
  unfold heldLeases
  rw [lease]
  cases there : forwarder.admitted with
  | some admitted =>
    have held := guarded.admitted admitted there
    have active := (guarded.held (Or.inl (Option.isSome_iff_exists.2 ⟨_, there⟩))).active
    have unowned : forwarder.turn.ownedTurn = none := ordered.apart admitted there
    rw [unowned, Option.map_some, held]
    exact ⟨le_refl 1, fun _ => Or.inl rfl, fun _ => active⟩
  | none =>
    cases owned : forwarder.turn.ownedTurn with
    | some owner =>
      have active := (guarded.held (Or.inr (Option.isSome_iff_exists.2 ⟨_, owned⟩))).active
      exact ⟨le_refl 1, fun _ => Or.inl rfl, fun _ => active⟩
    | none =>
      refine ⟨Nat.zero_le 1, fun active => Or.inr (guarded.free there owned active), ?_⟩
      rintro (held | blocked)
      · exact absurd held Nat.zero_ne_one
      · exact blocked.active

theorem retired_heldLeases (retired : forwarder.ownership.Retired) :
    forwarder.heldLeases = [] := by
  have none_ : forwarder.admitted = none := retired.admitted
  unfold heldLeases
  rw [none_]
  cases there : forwarder.turn.lease with
  | none => rfl
  | some lease =>
    have detached := retired.lease lease there
    simp [detached]

theorem step_takes (guarded : forwarder.ownership.Guarded) (running : forwarder.exited = none)
    (env : ForwarderEnv) {intent : TurnIntent} {intents : List TurnIntent}
    (queued : forwarder.intents = intent :: intents) :
    forwarder.ownership.Takes intent (forwarder.step crates (env, .intent)).ownership
      (forwarder.intentRefusal crates env) := by
  have refusal : forwarder.intentRefusal crates env = forwarder.ownership.refusal crates env := by
    unfold intentRefusal Ownership.refusal
    rw [guarded.occupied]
    rfl
  have stepped : forwarder.step crates (env, .intent) = forwarder.advance crates env .intent := by
    unfold step
    rw [running]
  rw [refusal, stepped]
  exact (advance_step .intent).takes queued

theorem agreed_agreement (agreed : forwarder.ownership.Agreed)
    (ordered : forwarder.ownership.Ordered) : forwarder.GateAgreement crates := by
  have accounted := ordered.accounted
  cases running : forwarder.exited with
  | none =>
    have guarded := agreed.1 running
    have held := guarded_heldLeases guarded ordered
    refine ⟨held.1, held.2, ?_, ?_, ?_⟩
    · intro env intent intents _ queued
      exact step_takes guarded running env queued
    · have answered : ((forwarder.replies.map Prod.fst) ++
          (forwarder.intents.map TurnIntent.reply ++
            forwarder.inflight.toList.map fun request => request.reply.number)).Perm
          (List.range forwarder.sent) := by
        rw [← List.append_assoc]
        exact accounted
      refine ⟨(answered.nodup_iff.2 List.nodup_range).of_append_left, ?_⟩
      intro intent member
      exact List.mem_range.1 (answered.subset (List.mem_append_left _ member))
    · rw [running]
      rintro ⟨⟩
  | some reason =>
    have retired := agreed.2 (by rw [show forwarder.ownership.exited = _ from running]; rfl)
    have empty := retired_heldLeases retired
    have answered : (forwarder.replies.map Prod.fst).Perm (List.range forwarder.sent) := by
      unfold Ownership.Accounted at accounted
      rw [retired.intents, retired.inflight, List.map_nil, Option.toList_none, List.map_nil,
        List.append_nil, List.append_nil] at accounted
      exact accounted
    refine ⟨?_, ?_, ?_, ?_, ?_⟩
    · rw [empty]
      exact Nat.zero_le 1
    · rw [empty]
      refine ⟨fun active => Or.inr (retired.rest active), ?_⟩
      rintro (held | blocked)
      · exact absurd held Nat.zero_ne_one
      · exact blocked.active
    · intro env intent intents stopped
      rw [running] at stopped
      cases stopped
    · refine ⟨answered.nodup_iff.2 List.nodup_range, ?_⟩
      intro intent member
      exact List.mem_range.1 (answered.subset member)
    · exact fun _ => ⟨answered, retired.rest⟩

theorem step_ordered (ordered : forwarder.ownership.Ordered)
    (action : ForwarderEnv × Action) : (forwarder.step crates action).ownership.Ordered := by
  unfold step
  cases forwarder.exited with
  | some reason => exact ordered
  | none => exact ordered.step (advance_step action.2)

theorem step_agreed (agreed : forwarder.ownership.Agreed) (ordered : forwarder.ownership.Ordered)
    (action : ForwarderEnv × Action) : (forwarder.step crates action).ownership.Agreed := by
  unfold step
  cases running : forwarder.exited with
  | some reason => exact agreed
  | none => exact (agreed.1 running).step ordered running (advance_step action.2)

end

end ThreadEventForwarder

theorem new_ordered (binding : LoadedThreadBinding) (maxCommandOutputBytes : ℕ)
    (entry : ThreadRuntimeEntry) (captured : CapturedDiffState) (threadFile : Option ThreadFile)
    (persisted : Finset TurnId) (now : DateTime) :
    (ThreadEventForwarder.new binding maxCommandOutputBytes entry captured threadFile persisted
      now).ownership.Ordered :=
  ⟨by rintro _ ⟨⟩, by rintro _ ⟨⟩, List.Perm.nil⟩

theorem new_guarded (binding : LoadedThreadBinding) (maxCommandOutputBytes : ℕ)
    {entry : ThreadRuntimeEntry} (rest : entry.gate.AtRest) (captured : CapturedDiffState)
    (threadFile : Option ThreadFile) (persisted : Finset TurnId) (now : DateTime) :
    (ThreadEventForwarder.new binding maxCommandOutputBytes entry captured threadFile persisted
      now).ownership.Guarded where
  admitted := by rintro _ ⟨⟩
  lease := rfl
  held := by rintro (none_ | none_) <;> cases none_
  free := fun _ _ => rest

/-- In every run of a forwarder, whatever happens in whatever order, the gate of the thread is
active exactly when the forwarder holds one lease or a completed turn could not be stored. An
intent is refused as busy when the gate is active or when the last request is not answered yet,
and one that is not refused starts one request. When the forwarder has exited, every intent has
one reply and the gate is inactive, unless it retains a turn. -/
theorem gate_agrees_with_forwarder (crates : Crates) (binding : LoadedThreadBinding)
    (maxCommandOutputBytes : ℕ) (entry : ThreadRuntimeEntry) (rest : entry.gate.AtRest)
    (captured : CapturedDiffState) (threadFile : Option ThreadFile) (persisted : Finset TurnId)
    (now : DateTime) (actions : List (ForwarderEnv × ThreadEventForwarder.Action)) :
    ((ThreadEventForwarder.new binding maxCommandOutputBytes entry captured threadFile persisted
      now).run crates actions).GateAgreement crates := by
  have ordered := new_ordered binding maxCommandOutputBytes entry captured threadFile persisted now
  have guarded := new_guarded binding maxCommandOutputBytes rest captured threadFile persisted now
  have kept := @Schedule.run_preserves _ _ (ThreadEventForwarder.step crates)
    (fun forwarder => forwarder.ownership.Agreed ∧ forwarder.ownership.Ordered) _
    ⟨guarded.agreed rfl, ordered⟩
    (fun forwarder action invariant =>
      ⟨ThreadEventForwarder.step_agreed invariant.1 invariant.2 action,
        ThreadEventForwarder.step_ordered invariant.2 action⟩) actions
  exact ThreadEventForwarder.agreed_agreement kept.1 kept.2

def sampleModel : ModelRef := ⟨"provider", "model", none⟩

/-- A turn that cannot be stored, and an intent that waits meanwhile. -/
def refusedAppend : List (ForwarderEnv × ThreadEventForwarder.Action) :=
  [(sampleForwarderEnv, .event (.turnStarted forwardedThread forwardedTurn)),
    (sampleForwarderEnv, .sendCompact sampleModel .build),
    ({ sampleForwarderEnv with appendFault := some "disk full" }, .event forwardedCompletion)]

theorem gate_agrees_once_retained :
    (sampleForwarder.run Crates.reference refusedAppend).GateAgreement Crates.reference ∧
      (sampleForwarder.run Crates.reference refusedAppend).exited = some .persistenceBlocked ∧
      (sampleForwarder.run Crates.reference refusedAppend).entry.gate.active.isSome = true ∧
      (sampleForwarder.run Crates.reference refusedAppend).replies.map Prod.fst = [0] :=
  ⟨gate_agrees_with_forwarder Crates.reference forwardedBinding 1000 ThreadRuntimeEntry.empty
    (by rintro ⟨⟩) CapturedDiffState.empty none ∅ ⟨0, 0⟩ refusedAppend, rfl, rfl, rfl⟩

/-! ## A turn whose answer is late -/

def promptOverrides : TurnOverrides where
  contextWindow := none
  model := none
  mode := .build
  permissionPreset := .askFirst

/-- Two intents, of which the first is admitted and its turn is completed before the harness has
answered. -/
def lateAnswer : List (ForwarderEnv × ThreadEventForwarder.Action) :=
  [(sampleForwarderEnv, .sendStart (.ofText "first") promptOverrides sampleModel),
    (sampleForwarderEnv, .intent),
    (sampleForwarderEnv, .event (.turnStarted forwardedThread forwardedTurn)),
    (sampleForwarderEnv, .event forwardedCompletion),
    (sampleForwarderEnv, .sendStart (.ofText "second") promptOverrides sampleModel)]

/-- While the first intent is not answered the second is refused as busy, though the gate is
inactive and no lease is held. -/
theorem busy_while_gate_inactive :
    (sampleForwarder.run Crates.reference lateAnswer).exited = none ∧
      (sampleForwarder.run Crates.reference lateAnswer).heldLeases = [] ∧
      (sampleForwarder.run Crates.reference lateAnswer).entry.gate.active = none ∧
      ((sampleForwarder.run Crates.reference lateAnswer).step Crates.reference
        (sampleForwarderEnv, .intent)).replies =
        [(1, .error (.threadBusy forwardedThread))] := ⟨rfl, rfl, rfl, rfl⟩

end Giskard
