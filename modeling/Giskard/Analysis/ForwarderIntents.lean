import Mathlib
import Giskard.Foundation.Schedule
import Giskard.Analysis.ForwarderGate

/-!
# The turn a prompt is stored with

The forwarder attaches the first new turn it sees to the intent it has admitted. The harness runs
turns too: each was started for one intent, after the forwarder asked for it, or for nobody, and
an answer names the turn that was started for its request. As long as no other turn is attached
to an intent, the turn the answer names is the one that is stored with the intent's context.
-/

set_option autoImplicit false

namespace Giskard

open Foundation

/-! ## The harness -/

/-- The turns of a harness, each started for one intent or for nobody. -/
structure HarnessTurns where
  requestedBy : TurnId → Option ℕ
  unique : ∀ first second intent, requestedBy first = some intent →
    requestedBy second = some intent → first = second

namespace HarnessTurns

variable (harness : HarnessTurns)

/-- What the harness does at a step: an answer names the turn that was started for its request,
and the events of a turn come after its request. -/
def Runs (ownership : Ownership) : ThreadEventForwarder.Action → Prop
  | .answered (.ok (some turn)) => ∀ request, ownership.inflight = some request →
    harness.requestedBy turn = some request.reply.number
  | .event event => ∀ turn intent, event.turn = some turn →
    harness.requestedBy turn = some intent → ∃ request ∈ ownership.requests, request.reply = intent
  | _ => True

/-- No other turn is attached to an intent than the one that was started for it. -/
def Undisturbed (intent : ℕ) (ownership : Ownership) (classifies : AgentEvent → EventDisposition) :
    ThreadEventForwarder.Action → Prop
  | .event event => ∀ admitted turn completes, ownership.admitted = some admitted →
    admitted.context.intent = some intent → classifies event = .owned (some turn) completes →
    harness.requestedBy turn = some intent
  | _ => True

end HarnessTurns

/-! ## The invariant -/

namespace Ownership

variable (harness : HarnessTurns) (intent : ℕ) (ownership : Ownership)

/-- The intent was answered with an error. -/
def Refused : Prop := ∃ error, (intent, .error error) ∈ ownership.replies

/-- The harness was asked for the intent with this context. -/
def Asked (origin : TurnContext) : Prop :=
  ∃ request ∈ ownership.requests, request.reply = intent ∧ request.context.origin = origin

/-- A turn carries the context of the intent exactly if it was started for it, unless the intent
was refused. -/
def Carries (turn : TurnId) (context : TurnContext) : Prop :=
  (context.intent = some intent →
      harness.requestedBy turn = some intent ∧ ownership.Asked intent context.origin) ∧
    (harness.requestedBy turn = some intent →
      context.intent = some intent ∨ ownership.Refused intent)

/-- A turn that is owned or stored. -/
def Taken (turn : TurnId) : Prop := ownership.owned = some turn ∨ turn ∈ ownership.seen

/-- Where the context of the intent is while the forwarder runs. -/
structure Tracked : Prop where
  queued : ∀ queued ∈ ownership.intents, queued.context.intent = some queued.reply
  matched : ∀ admitted request, ownership.admitted = some admitted →
    ownership.inflight = some request → admitted.context.intent = some request.reply.number
  admitted : ∀ admitted, ownership.admitted = some admitted →
    admitted.context.intent = some intent → ownership.Asked intent admitted.context.origin
  asked : (∃ request ∈ ownership.requests, request.reply = intent) →
    (∃ admitted, ownership.admitted = some admitted ∧ admitted.context.intent = some intent) ∨
      (∃ turn, harness.requestedBy turn = some intent ∧ ownership.Taken turn) ∨
      ownership.Refused intent
  carries : ∀ turn, ownership.owned = some turn →
    ownership.Carries harness intent turn ownership.origin

/-- What was stored with the context of the intent. -/
structure Recorded : Prop where
  accepted : ∀ turn, (intent, .ok (some turn)) ∈ ownership.replies →
    harness.requestedBy turn = some intent
  written : ∀ turn context, (turn, context) ∈ ownership.written →
    ownership.Carries harness intent turn.id context ∧
      turn.userInput = context.userInput ∧ turn.mode = context.mode

variable {harness intent} {before after : Ownership}

theorem Refused.mono (refused : before.Refused intent) (grown : before.replies ⊆ after.replies) :
    after.Refused intent := by
  obtain ⟨error, member⟩ := refused
  exact ⟨error, grown member⟩

theorem Asked.mono {origin : TurnContext} (asked : before.Asked intent origin)
    (grown : before.requests ⊆ after.requests) : after.Asked intent origin := by
  obtain ⟨request, member, rest⟩ := asked
  exact ⟨request, grown member, rest⟩

theorem Carries.mono {turn : TurnId} {context : TurnContext}
    (carries : before.Carries harness intent turn context)
    (replies : before.replies ⊆ after.replies) (requests : before.requests ⊆ after.requests) :
    after.Carries harness intent turn context := by
  refine ⟨fun named => ?_, fun started => ?_⟩
  · exact ⟨(carries.1 named).1, (carries.1 named).2.mono requests⟩
  · exact (carries.2 started).imp id fun refused => refused.mono replies

theorem Recorded.mono (recorded : before.Recorded harness intent)
    (replies : before.replies ⊆ after.replies) (requests : before.requests ⊆ after.requests)
    (written : after.written = before.written)
    (accepted : ∀ turn, (intent, .ok (some turn)) ∈ after.replies →
      harness.requestedBy turn = some intent) : after.Recorded harness intent := by
  refine ⟨accepted, ?_⟩
  intro turn context member
  rw [written] at member
  exact ⟨(recorded.written turn context member).1.mono replies requests,
    (recorded.written turn context member).2⟩

theorem Recorded.still (recorded : before.Recorded harness intent)
    (replies : after.replies = before.replies) (requests : after.requests = before.requests)
    (written : after.written = before.written) : after.Recorded harness intent :=
  recorded.mono (by rw [replies]; exact List.Subset.refl _)
    (by rw [requests]; exact List.Subset.refl _) written (by rw [replies]; exact recorded.accepted)

/-! ## Events -/

theorem Enters.attached {event : AgentEvent} {disposition : EventDisposition}
    (enters : before.Enters event disposition after) (idle : before.owned = none) :
    ∃ turn completes, event.turn = some turn ∧ disposition = .owned (some turn) completes ∧
      after.owned = some turn ∧ turn ∉ before.seen := by
  obtain ⟨turn, completes, named, classified⟩ := enters.attaches idle
  exact ⟨turn, completes, named, classified, enters.names turn named, enters.unstored turn named⟩

theorem Tracked.enter (tracked : before.Tracked harness intent)
    {classifies : AgentEvent → EventDisposition} {event : AgentEvent}
    (runs : harness.Runs before (.event event))
    (undisturbed : harness.Undisturbed intent before classifies (.event event))
    (enters : before.Enters event (classifies event) after) : after.Tracked harness intent := by
  -- A turn that was started for the intent and is attached only now has nothing taken for it.
  have late : before.owned = none → ∀ turn, event.turn = some turn → turn ∉ before.seen →
      harness.requestedBy turn = some intent →
      (∃ admitted, before.admitted = some admitted ∧ admitted.context.intent = some intent) ∨
        before.Refused intent := by
    intro idle turn named unstored started
    rcases tracked.asked (runs turn intent named started) with admitted | ⟨other, same, taken⟩ | refused
    · exact Or.inl admitted
    · cases harness.unique turn other intent started same
      rcases taken with owned | stored
      · cases idle.symm.trans owned
      · exact absurd stored unstored
    · exact Or.inr refused
  have entering := enters.entering
  cases entering with
  | held owned => exact tracked
  | @admitted admitted idle there turn =>
    obtain ⟨named, completes, event_, classified, owns, unstored⟩ := enters.attached idle
    cases owns
    refine
      { queued := tracked.queued
        matched := by rintro _ _ ⟨⟩
        admitted := by rintro _ ⟨⟩
        asked := ?_
        carries := ?_ }
    · intro asked
      rcases tracked.asked asked with ⟨other, same, mine⟩ | ⟨other, started, taken⟩ | refused
      · cases there.symm.trans same
        exact Or.inr (Or.inl ⟨turn, undisturbed admitted turn completes there mine classified,
          Or.inl rfl⟩)
      · refine Or.inr (Or.inl ⟨other, started, Or.inr ?_⟩)
        exact taken.resolve_left (by rw [idle]; rintro ⟨⟩)
      · exact Or.inr (Or.inr refused)
    · rintro owner ⟨⟩
      refine ⟨fun mine => ?_, fun started => ?_⟩
      · exact ⟨undisturbed admitted turn completes there mine classified,
          tracked.admitted admitted there mine⟩
      · refine (late idle turn event_ unstored started).imp ?_ id
        rintro ⟨other, same, mine⟩
        cases there.symm.trans same
        exact mine
  | @external context gate idle empty external turn =>
    obtain ⟨named, completes, event_, classified, owns, unstored⟩ := enters.attached idle
    cases owns
    refine
      { queued := tracked.queued
        matched := ?_
        admitted := ?_
        asked := ?_
        carries := ?_ }
    · intro admitted request there
      cases empty.symm.trans there
    · intro admitted there
      cases empty.symm.trans there
    · intro asked
      refine (tracked.asked asked).imp id (Or.imp ?_ id)
      rintro ⟨other, started, taken⟩
      exact ⟨other, started, Or.inr (taken.resolve_left (by rw [idle]; rintro ⟨⟩))⟩
    · rintro owner ⟨⟩
      refine ⟨fun mine => ?_, fun started => ?_⟩
      · cases external.1.symm.trans mine
      · refine Or.inr ((late idle turn event_ unstored started).resolve_left ?_)
        rintro ⟨other, same, _⟩
        cases empty.symm.trans same

theorem Entering.recorded (recorded : before.Recorded harness intent)
    (entering : before.Entering after) : after.Recorded harness intent := by
  cases entering <;> exact recorded.still rfl rfl rfl

theorem Recorded.completing (recorded : before.Recorded harness intent)
    (tracked : before.Tracked harness intent) (ordered : before.Ordered) {turn : TurnId}
    {written : Bool} (owned : before.owned = some turn)
    (completing : before.Completing turn after written) : after.Recorded harness intent := by
  cases completing with
  | retained => exact recorded.still rfl rfl rfl
  | @stored stored context assembles =>
    have id : stored.id = turn := by
      rw [assembles.id]
      cases observed : before.observed with
      | none => rfl
      | some other => exact Option.some.inj ((ordered.observed other observed).symm.trans owned)
    refine ⟨recorded.accepted, ?_⟩
    intro other otherContext member
    rcases List.mem_append.1 member with old | new
    · exact recorded.written other otherContext old
    · cases List.mem_singleton.1 new
      refine ⟨?_, assembles.userInput, assembles.mode⟩
      have carries := tracked.carries turn owned
      rw [← assembles.origin, ← id] at carries
      exact carries

theorem Tracked.reset (tracked : before.Tracked harness intent) (ordered : before.Ordered)
    {turn : TurnId} (owned : before.owned = some turn)
    (completing : before.Completing turn after true) : after.reset.Tracked harness intent := by
  cases completing with
  | @stored stored context assembles =>
    have id : stored.id = turn := by
      rw [assembles.id]
      cases observed : before.observed with
      | none => rfl
      | some other => exact Option.some.inj ((ordered.observed other observed).symm.trans owned)
    refine
      { queued := tracked.queued
        matched := tracked.matched
        admitted := tracked.admitted
        asked := ?_
        carries := by rintro _ ⟨⟩ }
    intro asked
    refine (tracked.asked asked).imp (fun there => there) (Or.imp ?_ (fun refused => refused))
    rintro ⟨other, started, taken⟩
    refine ⟨other, started, Or.inr (Finset.mem_insert.2 ?_)⟩
    rcases taken with owns | stored
    · exact Or.inl ((Option.some.inj (owns.symm.trans owned)).trans id.symm)
    · exact Or.inr stored

/-- What must hold before the loop goes on or is left. -/
def Followed (harness : HarnessTurns) (intent : ℕ) (after : Ownership)
    (reason : Option ForwarderExitReason) : Prop :=
  after.Recorded harness intent ∧ (reason = none → after.Tracked harness intent)

theorem Tracked.event (tracked : before.Tracked harness intent)
    (recorded : before.Recorded harness intent) (ordered : before.Ordered)
    {classifies : AgentEvent → EventDisposition} {event : AgentEvent}
    (runs : harness.Runs before (.event event))
    (undisturbed : harness.Undisturbed intent before classifies (.event event))
    {reason : Option ForwarderExitReason}
    (effect : before.EventEffect event (classifies event) after reason) :
    after.Followed harness intent reason := by
  cases effect with
  | aside => exact ⟨recorded, fun _ => tracked⟩
  | entered enters =>
    exact ⟨enters.entering.recorded recorded, fun _ => tracked.enter runs undisturbed enters⟩
  | noted enters =>
    have entered := tracked.enter runs undisturbed enters
    exact ⟨(enters.entering.recorded recorded).still rfl rfl rfl, fun _ => { entered with }⟩
  | stored enters completes completing =>
    have entered := tracked.enter runs undisturbed enters
    have enteredOrdered := (ordered.enter enters.entering).1
    have owned := enters.names _ completes
    have stored := (enters.entering.recorded recorded).completing entered enteredOrdered owned
      completing
    exact ⟨stored.still rfl rfl rfl, fun _ => entered.reset enteredOrdered owned completing⟩
  | retained enters completes completing =>
    have entered := tracked.enter runs undisturbed enters
    have owned := enters.names _ completes
    exact ⟨(enters.entering.recorded recorded).completing entered
      (ordered.enter enters.entering).1 owned completing, by rintro ⟨⟩⟩

theorem Tracked.streamError (tracked : before.Tracked harness intent)
    (recorded : before.Recorded harness intent) (ordered : before.Ordered)
    {reason : Option ForwarderExitReason} (effect : before.StreamEffect after reason) :
    after.Followed harness intent reason := by
  cases effect with
  | aside => exact ⟨recorded, fun _ => tracked⟩
  | stored incomplete completing =>
    have owned := ordered.owns incomplete
    have stored := recorded.completing tracked ordered owned completing
    exact ⟨stored.still rfl rfl rfl, fun _ => tracked.reset ordered owned completing⟩
  | recovered incomplete completing =>
    exact ⟨recorded.completing tracked ordered (ordered.owns incomplete) completing,
      by rintro ⟨⟩⟩
  | retained incomplete completing =>
    exact ⟨recorded.completing tracked ordered (ordered.owns incomplete) completing,
      by rintro ⟨⟩⟩

/-! ## Intents, answers and the exit -/

theorem Recorded.finish (recorded : before.Recorded harness intent) (crates : Crates)
    (reason : ForwarderExitReason) : (before.finish crates reason).Recorded harness intent := by
  refine recorded.mono ?_ (List.Subset.refl _) rfl ?_
  · intro reply member
    exact List.mem_append_left _ (List.mem_append_left _ member)
  · intro turn member
    -- Whoever is still waiting is refused.
    rcases List.mem_append.1 member with earlier | abandoned
    · rcases List.mem_append.1 earlier with old | refused
      · exact recorded.accepted turn old
      · obtain ⟨_, _, same⟩ := List.mem_map.1 refused
        cases same
    · obtain ⟨_, _, same⟩ := List.mem_map.1 abandoned
      cases same

theorem Followed.leave {reason : Option ForwarderExitReason}
    (followed : before.Followed harness intent reason) (crates : Crates) :
    (before.leave crates reason).Recorded harness intent ∧
      ((before.leave crates reason).exited = none →
        (before.leave crates reason).Tracked harness intent) := by
  cases reason with
  | none => exact ⟨followed.1, fun _ => followed.2 rfl⟩
  | some reason => exact ⟨followed.1.finish crates reason, by rintro ⟨⟩⟩

theorem Tracked.send (tracked : before.Tracked harness intent) {sent : ℕ → TurnIntent}
    (numbered : ∀ number, (sent number).context.intent = some (sent number).reply) :
    (before.send sent).Tracked harness intent := by
  unfold Ownership.send
  split
  · exact tracked
  · refine { tracked with queued := ?_ }
    intro queued member
    rcases List.mem_append.1 member with old | new
    · exact tracked.queued queued old
    · rw [List.mem_singleton.1 new]
      exact numbered before.sent

theorem Recorded.reply (recorded : before.Recorded harness intent) {number : ℕ}
    {result : Except HarnessError (Option TurnId)}
    (accepted : ∀ turn, number = intent → result = .ok (some turn) →
      harness.requestedBy turn = some intent)
    (replies : after.replies = before.replies ++ [(number, result)])
    (requests : after.requests = before.requests) (written : after.written = before.written) :
    after.Recorded harness intent := by
  refine recorded.mono ?_ (by rw [requests]; exact List.Subset.refl _) written ?_
  · rw [replies]
    exact List.subset_append_left _ _
  · intro turn member
    rw [replies] at member
    rcases List.mem_append.1 member with old | new
    · exact recorded.accepted turn old
    · obtain ⟨rfl, rfl⟩ := Prod.mk.inj (List.mem_singleton.1 new)
      exact accepted turn rfl rfl

theorem Recorded.answer (recorded : before.Recorded harness intent)
    {outcome : Except HarnessError (Option TurnId)} (runs : harness.Runs before (.answered outcome)) :
    (before.answer outcome).Recorded harness intent := by
  unfold Ownership.answer
  cases inflight : before.inflight with
  | none => exact recorded
  | some request =>
    cases outcome with
    | error error => exact recorded.reply (by rintro _ _ ⟨⟩) rfl rfl rfl
    | ok turnId =>
      refine recorded.reply ?_ rfl rfl rfl
      intro turn same result
      unfold ThreadEventForwarder.acceptedResult at result
      split at result
      · rename_i named there
        cases result
        rw [← same]
        exact runs request inflight
      · cases result
      · cases result

theorem Tracked.answer (tracked : before.Tracked harness intent)
    (outcome : Except HarnessError (Option TurnId)) :
    (before.answer outcome).Tracked harness intent := by
  unfold Ownership.answer
  cases inflight : before.inflight with
  | none => exact tracked
  | some request =>
    cases outcome with
    | ok turnId =>
      refine
        { queued := tracked.queued
          matched := by rintro _ _ _ ⟨⟩
          admitted := tracked.admitted
          asked := fun asked => (tracked.asked asked).imp id (Or.imp id ?_)
          carries := fun turn owned => (tracked.carries turn owned).mono
            (List.subset_append_left _ _) (List.Subset.refl _) }
      exact fun refused => refused.mono (List.subset_append_left _ _)
    | error error =>
      refine
        { queued := tracked.queued
          matched := by rintro _ _ ⟨⟩
          admitted := by rintro _ ⟨⟩
          asked := ?_
          carries := fun turn owned => (tracked.carries turn owned).mono
            (List.subset_append_left _ _) (List.Subset.refl _) }
      intro asked
      refine Or.inr ?_
      rcases tracked.asked asked with ⟨admitted, there, mine⟩ | taken | refused
      · -- The intent that is given up is the one that is answered.
        have same := tracked.matched admitted request there inflight
        refine Or.inr ⟨error, List.mem_append_right _ (List.mem_singleton.2 ?_)⟩
        rw [show request.reply.number = intent from Option.some.inj (same.symm.trans mine)]
      · exact Or.inl taken
      · exact Or.inr (refused.mono (List.subset_append_left _ _))

theorem Recorded.admitIntent (recorded : before.Recorded harness intent) {crates : Crates}
    {env : ForwarderEnv} {taken : TurnIntent} {intents : List TurnIntent}
    (admitting : { before with intents := intents }.Admitting crates env taken after) :
    after.Recorded harness intent := by
  cases admitting with
  | refused => exact recorded.reply (by rintro _ _ ⟨⟩) rfl rfl rfl
  | started =>
    exact recorded.mono (List.Subset.refl _) (List.subset_append_left _ _) rfl recorded.accepted

/-- Where the answer to an admitted intent goes. -/
def answerTo : TurnIntent → IntentReply
  | .startTurn _ _ _ reply => .turn reply
  | .compact _ reply => .unit reply

theorem Tracked.admitIntent (tracked : before.Tracked harness intent) {crates : Crates}
    {env : ForwarderEnv} {taken : TurnIntent} {intents : List TurnIntent}
    (queued : before.intents = taken :: intents)
    (admitting : { before with intents := intents }.Admitting crates env taken after) :
    after.Tracked harness intent := by
  have rest : ∀ waiting ∈ intents, waiting.context.intent = some waiting.reply := by
    intro waiting member
    exact tracked.queued waiting (by rw [queued]; exact List.mem_cons_of_mem _ member)
  cases admitting with
  | refused =>
    refine
      { queued := rest
        matched := tracked.matched
        admitted := tracked.admitted
        asked := fun asked => (tracked.asked asked).imp id (Or.imp id ?_)
        carries := fun turn owned => (tracked.carries turn owned).mono
          (List.subset_append_left _ _) (List.Subset.refl _) }
    exact fun refused => refused.mono (List.subset_append_left _ _)
  | started admissible free =>
    obtain ⟨_, empty, _⟩ := refusal_eq_none admissible
    have named := tracked.queued taken (by rw [queued]; exact List.mem_cons_self)
    have number : (answerTo taken).number = taken.reply := by
      cases taken <;> rfl
    refine
      { queued := rest
        matched := ?_
        admitted := ?_
        asked := ?_
        carries := fun turn owned => (tracked.carries turn owned).mono (List.Subset.refl _)
          (List.subset_append_left _ _) }
    · rintro admitted request ⟨⟩ ⟨⟩
      exact named.trans (congrArg some number.symm)
    · rintro admitted ⟨⟩ mine
      refine ⟨taken, List.mem_append_right _ (List.mem_singleton_self _), ?_, rfl⟩
      exact Option.some.inj (named.symm.trans mine)
    · rintro ⟨request, member, same⟩
      rcases List.mem_append.1 member with old | new
      · refine Or.inr ((tracked.asked ⟨request, old, same⟩).resolve_left ?_)
        rintro ⟨other, there, _⟩
        cases empty.symm.trans there
      · rw [List.mem_singleton.1 new] at same
        exact Or.inl ⟨_, rfl, named.trans (congrArg some same)⟩

/-! ## Steps and runs -/

/-- The invariant of a forwarder: of what it stored, and while it runs of where the context is. -/
def Kept (harness : HarnessTurns) (intent : ℕ) (ownership : Ownership) : Prop :=
  ownership.Recorded harness intent ∧
    (ownership.exited = none → ownership.Tracked harness intent)

theorem Tracked.step (tracked : before.Tracked harness intent)
    (recorded : before.Recorded harness intent) (ordered : before.Ordered) {crates : Crates}
    {env : ForwarderEnv} {classifies : AgentEvent → EventDisposition}
    {action : ThreadEventForwarder.Action} (runs : harness.Runs before action)
    (undisturbed : harness.Undisturbed intent before classifies action)
    (step : before.Step crates env classifies action after) : after.Kept harness intent := by
  cases step with
  | sendStart | sendCompact =>
    refine ⟨?_, fun _ => tracked.send fun _ => rfl⟩
    unfold Ownership.send
    split
    · exact recorded
    · exact recorded.still rfl rfl rfl
  | setCancel => exact ⟨recorded.still rfl rfl rfl, fun _ => { tracked with }⟩
  | spurious => exact ⟨recorded, fun _ => tracked⟩
  | cancelled => exact ⟨recorded.finish crates _, by rintro ⟨⟩⟩
  | event event effect =>
    exact (tracked.event recorded ordered runs undisturbed effect).leave crates
  | streamError error effect => exact (tracked.streamError recorded ordered effect).leave crates
  | answered outcome => exact ⟨recorded.answer runs, fun _ => tracked.answer outcome⟩
  | noIntent => exact ⟨recorded, fun _ => tracked⟩
  | intent queued admitting =>
    exact ⟨recorded.admitIntent admitting, fun _ => tracked.admitIntent queued admitting⟩

end Ownership

namespace ThreadEventForwarder

/-- The turns that were stored, in order, with their contexts. -/
def written (forwarder : ThreadEventForwarder) : List (Turn × TurnContext) :=
  forwarder.journal.filterMap ForwarderNote.written?

/-- A turn that was stored with the context of an intent: its user input, its mode and its kind. -/
def StoredFor (forwarder : ThreadEventForwarder) (intent : ℕ) (stored : Turn)
    (context : TurnContext) : Prop :=
  context.intent = some intent ∧ ∃ request ∈ forwarder.requests, request.reply = intent ∧
    stored.userInput = request.context.userInput ∧ stored.mode = request.context.mode ∧
    context.kind = request.context.kind

theorem step_kept {harness : HarnessTurns} {intent : ℕ} {crates : Crates}
    {forwarder : ThreadEventForwarder} {action : ForwarderEnv × Action}
    (kept : forwarder.ownership.Kept harness intent) (ordered : forwarder.ownership.Ordered)
    (runs : harness.Runs forwarder.ownership action.2)
    (undisturbed : harness.Undisturbed intent forwarder.ownership forwarder.classifies action.2) :
    (forwarder.step crates action).ownership.Kept harness intent := by
  unfold step
  cases running : forwarder.exited with
  | some reason => exact kept
  | none =>
    exact (kept.2 running).step kept.1 ordered runs undisturbed (advance_step action.2)

theorem storedTurns_eq (forwarder : ThreadEventForwarder) :
    storedTurns forwarder.journal = forwarder.written.map Prod.fst := by
  unfold storedTurns written
  rw [List.map_filterMap]
  congr 1
  funext note
  cases note <;> rfl

end ThreadEventForwarder

theorem new_kept (harness : HarnessTurns) (intent : ℕ) (binding : LoadedThreadBinding)
    (maxCommandOutputBytes : ℕ) (entry : ThreadRuntimeEntry) (captured : CapturedDiffState)
    (threadFile : Option ThreadFile) (persisted : Finset TurnId) (now : DateTime) :
    (ThreadEventForwarder.new binding maxCommandOutputBytes entry captured threadFile persisted
      now).ownership.Kept harness intent := by
  refine ⟨⟨?_, ?_⟩, fun _ => ⟨?_, ?_, ?_, ?_, ?_⟩⟩
  · rintro turn member
    exact absurd member List.not_mem_nil
  · rintro turn context member
    exact absurd member List.not_mem_nil
  · rintro queued member
    exact absurd member List.not_mem_nil
  · rintro _ _ ⟨⟩
  · rintro _ ⟨⟩
  · rintro ⟨request, member, _⟩
    exact absurd member List.not_mem_nil
  · rintro _ ⟨⟩

/-- When no other turn is attached to an intent than the one the harness started for it, and the
harness answers the intent with a turn that is stored, in whatever order that happens, this turn
is stored with the intent's context and no other turn is. -/
theorem prompt_stored_with_its_turn (crates : Crates) (binding : LoadedThreadBinding)
    (maxCommandOutputBytes : ℕ) (entry : ThreadRuntimeEntry) (captured : CapturedDiffState)
    (threadFile : Option ThreadFile) (persisted : Finset TurnId) (now : DateTime)
    (harness : HarnessTurns) (intent : ℕ)
    (actions : List (ForwarderEnv × ThreadEventForwarder.Action))
    (runs : Schedule.Meets (ThreadEventForwarder.step crates)
      (fun forwarder action => harness.Runs forwarder.ownership action.2)
      (.new binding maxCommandOutputBytes entry captured threadFile persisted now) actions)
    (undisturbed : Schedule.Meets (ThreadEventForwarder.step crates)
      (fun forwarder action => harness.Undisturbed intent forwarder.ownership
        forwarder.classifies action.2)
      (.new binding maxCommandOutputBytes entry captured threadFile persisted now) actions)
    {after : ThreadEventForwarder}
    (ends : (ThreadEventForwarder.new binding maxCommandOutputBytes entry captured threadFile
      persisted now).run crates actions = after)
    {stored : Turn} {context : TurnContext}
    (answered : (intent, .ok (some stored.id)) ∈ after.replies)
    (written : (stored, context) ∈ after.written) :
    after.StoredFor intent stored context ∧
      ∀ other otherContext, (other, otherContext) ∈ after.written →
        otherContext.intent = some intent → other = stored := by
  have start := @new_live crates persisted binding maxCommandOutputBytes entry captured threadFile
    now
  have invariant := @Schedule.run_invariant _ _ (ThreadEventForwarder.step crates) _
    (fun forwarder => forwarder.ownership.Kept harness intent ∧ forwarder.ownership.Ordered ∧
      Sound crates maxCommandOutputBytes binding.handle.thread persisted forwarder) _ _
    ⟨new_kept harness intent binding maxCommandOutputBytes entry captured threadFile persisted now,
      new_ordered binding maxCommandOutputBytes entry captured threadFile persisted now,
      start.sound⟩
    (runs.and undisturbed)
    (fun forwarder action holds meets =>
      ⟨ThreadEventForwarder.step_kept holds.1 holds.2.1 meets.1 meets.2,
        ThreadEventForwarder.step_ordered holds.2.1 action, step_sound holds.2.2 action⟩)
  rw [show Schedule.run (ThreadEventForwarder.step crates) _ actions = after from ends] at invariant
  obtain ⟨⟨recorded, _⟩, ordered, past, _⟩ := invariant
  have started := recorded.accepted stored.id answered
  obtain ⟨carries, userInput, mode⟩ := recorded.written stored context written
  -- An intent that was answered with a turn was not refused too.
  have unique : (after.replies.map Prod.fst).Nodup := by
    have accounted := (ordered.accounted.nodup_iff.2 List.nodup_range).of_append_left
    exact accounted.of_append_left
  have accepted : ¬after.ownership.Refused intent := by
    rintro ⟨error, member⟩
    have same := List.inj_on_of_nodup_map unique member answered rfl
    cases same
  have mine := (carries.2 started).resolve_right accepted
  obtain ⟨_, request, member, number, origin⟩ := carries.1 mine
  refine ⟨⟨mine, request, member, number, ?_, ?_, ?_⟩, ?_⟩
  · rw [userInput]
    exact (congrArg TurnContext.userInput origin).symm
  · rw [mode]
    exact (congrArg TurnContext.mode origin).symm
  · exact (congrArg TurnContext.kind origin).symm
  · intro other otherContext there same
    have others := (recorded.written other otherContext there).1.1 same
    have ids := past.ids
    rw [ThreadEventForwarder.storedTurns_eq] at ids
    exact List.inj_on_of_nodup_map ids (List.mem_map_of_mem there) (List.mem_map_of_mem written)
      (harness.unique other.id stored.id intent others.1 started)

/-! ## A prompt and two turns -/

/-- A harness that starts one turn for the first intent. -/
def sampleHarness : HarnessTurns where
  requestedBy := fun turn => if turn = forwardedTurn then some 0 else none
  unique := by
    intro first second intent one two
    rw [Option.ite_none_right_eq_some] at one two
    exact one.1.trans two.1.symm

def prompt : ForwarderEnv × ThreadEventForwarder.Action :=
  (sampleForwarderEnv, .sendStart (.ofText "mine") promptOverrides sampleModel)

/-- The turn that was started for the prompt, which the harness answers while it runs. -/
def promptedRun : List (ForwarderEnv × ThreadEventForwarder.Action) :=
  [prompt, (sampleForwarderEnv, .intent),
    (sampleForwarderEnv, .event (.turnStarted forwardedThread forwardedTurn)),
    (sampleForwarderEnv, .answered (.ok (some forwardedTurn))),
    (sampleForwarderEnv, .event forwardedCompletion)]

theorem sampleHarness_event {event : AgentEvent} {before : Ownership}
    (asked : before.requests.map TurnIntent.reply = [0]) : sampleHarness.Runs before (.event event) := by
  intro turn intent _ started
  cases (Option.ite_none_right_eq_some.1 started).2
  exact List.mem_map.1 (asked ▸ List.mem_singleton_self 0)

theorem sampleHarness_answer {before : Ownership}
    (waiting : before.inflight.map (fun request => request.reply.number) = some 0) :
    sampleHarness.Runs before (.answered (.ok (some forwardedTurn))) := by
  intro request inflight
  rw [inflight] at waiting
  exact waiting.symm

theorem prompted_run_stores_prompt :
    ∃ stored context, (stored, context) ∈
        (sampleForwarder.run Crates.reference promptedRun).written ∧
      (sampleForwarder.run Crates.reference promptedRun).StoredFor 0 stored context ∧
      stored.userInput = .ofText "mine" := by
  have attached : ∀ admitted turn completes, (ThreadEventForwarder.run Crates.reference
      sampleForwarder (promptedRun.take 2)).ownership.admitted = some admitted →
      admitted.context.intent = some 0 →
      (ThreadEventForwarder.run Crates.reference sampleForwarder (promptedRun.take 2)).classifies
        (.turnStarted forwardedThread forwardedTurn) = .owned (some turn) completes →
      sampleHarness.requestedBy turn = some 0 := by
    intro admitted turn completes _ _ classified
    have named : EventDisposition.owned (some forwardedTurn) none = .owned (some turn) completes :=
      classified
    cases named
    rfl
  have result := prompt_stored_with_its_turn Crates.reference forwardedBinding 1000
    ThreadRuntimeEntry.empty CapturedDiffState.empty none ∅ ⟨0, 0⟩ sampleHarness 0 promptedRun
    ⟨trivial, trivial, sampleHarness_event rfl, sampleHarness_answer rfl, sampleHarness_event rfl,
      trivial⟩
    ⟨trivial, trivial, attached, trivial, by rintro _ _ _ ⟨⟩, trivial⟩ rfl
    (List.mem_singleton_self _) (List.mem_singleton_self _)
  exact ⟨_, _, List.mem_singleton_self _, result.1, rfl⟩

/-- The harness runs a turn of its own before the turn it was asked for. -/
def strayTurn : TurnId := ⟨⟨6⟩⟩

def strayRun : List (ForwarderEnv × ThreadEventForwarder.Action) :=
  [prompt, (sampleForwarderEnv, .intent),
    (sampleForwarderEnv, .event (.turnStarted forwardedThread strayTurn)),
    (sampleForwarderEnv,
      .event (.turnCompleted forwardedThread strayTurn ⟨0, 0, 0⟩ ⟨.completed, none⟩)),
    (sampleForwarderEnv, .answered (.ok (some forwardedTurn))),
    (sampleForwarderEnv, .event (.turnStarted forwardedThread forwardedTurn)),
    (sampleForwarderEnv, .event forwardedCompletion)]

/-- The prompt is stored with the stray turn, and the turn the answer names without it. -/
theorem stray_turn_takes_prompt :
    Schedule.Meets (ThreadEventForwarder.step Crates.reference)
        (fun forwarder action => sampleHarness.Runs forwarder.ownership action.2) sampleForwarder
        strayRun ∧
      (sampleForwarder.run Crates.reference strayRun).replies = [(0, .ok (some forwardedTurn))] ∧
      (sampleForwarder.run Crates.reference strayRun).written.map
          (fun entry => (entry.1.id, entry.1.userInput, entry.2.intent)) =
        [(strayTurn, .ofText "mine", some 0), (forwardedTurn, .ofText "", none)] := by
  refine ⟨⟨trivial, trivial, ?_, ?_, ?_, ?_, ?_, trivial⟩, rfl, rfl⟩
  · exact sampleHarness_event rfl
  · exact sampleHarness_event rfl
  · exact sampleHarness_answer rfl
  · exact sampleHarness_event rfl
  · exact sampleHarness_event rfl

end Giskard
