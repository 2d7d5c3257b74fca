import Mathlib
import Giskard.Model.DeletionRequest

/-!
# Deletions and turns

The liveness of a thread is recorded in its runtime entry and, through the turn that it holds, in
its event owner. The request looks at both before there is a fence, and then retires the threads
and looks again, when neither is left: a message that passed the fence before it was up can have a
turn started in between that the second look does not find, or can reopen a retired thread and
have the request refused.

Where no turn is running when its thread is detached, none reserved when its entry is dropped or
when the thread is looked at again, and none is started between that look and the cascade, the
request and the turns exclude each other.

## Main results

* `undisturbed_requests_exclude_turns`: the steps of an undisturbed run
* `message_outlives_its_fence`: two runs that are disturbed
-/

set_option autoImplicit false

namespace Giskard.DeletionRequest

open Foundation (IndexMap)
open Foundation.Schedule (Meets run run_invariant)

/-! ## Turns and what records them -/

/-- The turn that the harness runs is the owner's, a turn is in flight or owned but not both, and
the gate is closed for either. -/
structure ThreadState.Recorded (thread : ThreadState) : Prop where
  running : thread.running = true → ∃ owner, thread.owner = some owner ∧ owner.owned = true
  active : thread.running = true → thread.hasActiveTurn = true
  inflight : ∀ owner, thread.owner = some owner → owner.inflight.isSome →
    thread.hasActiveTurn = true ∧ owner.owned = false

namespace ThreadState

variable {thread : ThreadState} {message : ℕ}

theorem hasActiveTurn_entryOrCreate :
    thread.entryOrCreate.gate.active.isSome = thread.hasActiveTurn := by
  unfold entryOrCreate hasActiveTurn
  cases thread.entry with
  | none => rfl
  | some entry => rfl

theorem Recorded.not_running (recorded : thread.Recorded) {owner : EventOwner}
    (owned : thread.owner = some owner) (inflight : owner.inflight = some message) :
    thread.running = false := by
  by_contra running
  obtain ⟨other, same, owns⟩ := recorded.running (Bool.eq_true_of_not_eq_false running)
  rw [owned] at same
  cases same
  have free := (recorded.inflight owner owned (by rw [inflight]; rfl)).2
  rw [owns] at free
  cases free

theorem Recorded.open_ (recorded : thread.Recorded) : thread.open_.Recorded := by
  have same : thread.open_.hasActiveTurn = thread.hasActiveTurn := hasActiveTurn_entryOrCreate
  refine ⟨?_, ?_, ?_⟩
  · intro running
    obtain ⟨owner, owned, owns⟩ := recorded.running running
    refine ⟨owner, ?_, owns⟩
    change some (thread.owner.getD EventOwner.idle) = some owner
    rw [owned]
    rfl
  · intro running
    rw [same]
    exact recorded.active running
  · intro owner owned inflight
    rw [same]
    unfold ThreadState.open_ at owned
    cases before : thread.owner with
    | none =>
      rw [before] at owned
      cases owned
      cases inflight
    | some old =>
      rw [before] at owned
      cases owned
      exact recorded.inflight old before inflight

theorem Recorded.reserveTurn (recorded : thread.Recorded) (id : ThreadId)
    (reservation : TurnReservation) : (thread.reserveTurn id message reservation).Recorded := by
  unfold ThreadState.reserveTurn
  split
  · exact recorded
  · next owner owned =>
    split
    · exact recorded
    · next idle =>
      split
      · exact recorded
      · next gate reserved =>
        have active : gate.active.isSome = true := by
          unfold TurnGate.reserve at reserved
          split at reserved
          · cases reserved
          · cases reserved
            rfl
        refine ⟨?_, fun _ => active, ?_⟩
        · intro running
          obtain ⟨other, same, owns⟩ := recorded.running running
          rw [owned] at same
          cases same
          unfold EventOwner.isBusy at idle
          rw [owns, Bool.or_true] at idle
          exact absurd rfl idle
        · intro other same inflight
          cases same
          exact ⟨active, rfl⟩

theorem Recorded.startTurn (recorded : thread.Recorded) : (thread.startTurn message).Recorded := by
  unfold ThreadState.startTurn
  split
  · exact recorded
  · next owner owned =>
    split
    · next inflight =>
      have active := (recorded.inflight owner owned (by rw [inflight]; rfl)).1
      refine ⟨fun _ => ⟨_, rfl, rfl⟩, fun _ => active, ?_⟩
      intro other same inflight
      cases same
      cases inflight
    · exact recorded

theorem Recorded.refuseTurn (recorded : thread.Recorded) :
    (thread.refuseTurn message).Recorded := by
  unfold ThreadState.refuseTurn
  split
  · exact recorded
  · next owner owned =>
    split
    · next inflight =>
      have stopped := recorded.not_running owned inflight
      refine ⟨?_, ?_, ?_⟩
      · intro running
        exact absurd (stopped.symm.trans running) Bool.false_ne_true
      · intro running
        exact absurd (stopped.symm.trans running) Bool.false_ne_true
      · intro other same inflight
        cases same
        cases inflight
    · exact recorded

theorem Recorded.complete (recorded : thread.Recorded) :
    { thread with running := false : ThreadState }.Recorded := by
  refine ⟨?_, ?_, recorded.inflight⟩
  · exact fun running => by cases running
  · exact fun running => by cases running

theorem Recorded.setEntry (recorded : thread.Recorded) {entry : RuntimeEntry}
    (same : entry.gate = thread.entryOrCreate.gate) :
    { thread with entry := some entry : ThreadState }.Recorded := by
  have active : entry.gate.active.isSome = thread.hasActiveTurn := by
    rw [same, hasActiveTurn_entryOrCreate]
  refine ⟨recorded.running, ?_, ?_⟩
  · exact fun running => active.trans (recorded.active running)
  · intro owner owned inflight
    have kept := recorded.inflight owner owned inflight
    exact ⟨active.trans kept.1, kept.2⟩

theorem Recorded.beginLive (recorded : thread.Recorded) : thread.beginLive.Recorded := by
  unfold ThreadState.beginLive
  split
  · exact recorded
  · split
    · exact recorded.setEntry rfl
    · exact recorded

theorem Recorded.setTasks (recorded : thread.Recorded) (tasks : List String) :
    (thread.setTasks tasks).Recorded := by
  unfold ThreadState.setTasks
  split
  · exact recorded
  · exact recorded.setEntry rfl

theorem Recorded.settle (recorded : thread.Recorded) (blocked : Option (Turn × String)) :
    (thread.settle blocked).Recorded := by
  unfold ThreadState.settle
  split
  · exact recorded
  · next owner owned =>
    split
    · next settled =>
      refine ⟨?_, ?_, ?_⟩
      · intro running
        exact absurd (settled.2.symm.trans running) Bool.false_ne_true
      · intro running
        exact absurd (settled.2.symm.trans running) Bool.false_ne_true
      · intro other same inflight
        cases same
        have free := (recorded.inflight owner owned inflight).2
        rw [settled.1] at free
        cases free
    · exact recorded

theorem Recorded.detach (stopped : thread.running = false) : thread.detach.Recorded := by
  unfold ThreadState.detach
  split
  · next unowned =>
    refine ⟨?_, ?_, ?_⟩
    · exact fun running => absurd (stopped.symm.trans running) Bool.false_ne_true
    · exact fun running => absurd (stopped.symm.trans running) Bool.false_ne_true
    · exact fun owner owned => absurd (unowned.symm.trans owned) (Option.some_ne_none _).symm
  · have still : (if EventOwner.isBusy ‹_› then thread.releaseTurn else thread).running = false := by
      split
      · exact stopped
      · exact stopped
    refine ⟨?_, ?_, ?_⟩
    · exact fun running => absurd (still.symm.trans running) Bool.false_ne_true
    · exact fun running => absurd (still.symm.trans running) Bool.false_ne_true
    · exact fun owner owned => by cases owned

theorem Recorded.forget (recorded : thread.Recorded) (idle : thread.hasActiveTurn = false) :
    thread.forget.Recorded := by
  refine ⟨recorded.running, ?_, ?_⟩
  · intro running
    have active := recorded.active running
    rw [idle] at active
    cases active
  · intro owner owned inflight
    have active := (recorded.inflight owner owned inflight).1
    rw [idle] at active
    cases active

theorem running_reserveTurn {id : ThreadId} {reservation : TurnReservation} :
    (thread.reserveTurn id message reservation).running = thread.running := by
  unfold ThreadState.reserveTurn
  split
  · rfl
  · split
    · rfl
    · split
      · rfl
      · rfl

theorem running_refuseTurn : (thread.refuseTurn message).running = thread.running := by
  unfold ThreadState.refuseTurn
  split
  · rfl
  · split
    · rfl
    · rfl

theorem running_beginLive : thread.beginLive.running = thread.running := by
  unfold ThreadState.beginLive
  split
  · rfl
  · split
    · rfl
    · rfl

theorem running_setTasks {tasks : List String} :
    (thread.setTasks tasks).running = thread.running := by
  unfold ThreadState.setTasks
  split
  · rfl
  · rfl

theorem running_settle {blocked : Option (Turn × String)} :
    (thread.settle blocked).running = thread.running := by
  unfold ThreadState.settle
  split
  · rfl
  · split
    · rfl
    · rfl

end ThreadState

/-! ## Undisturbed runs -/

/-- The threads that the request has looked at for the second time and is about to delete. -/
def Stage.checked : Stage → List ThreadId
  | .rechecking checked _ => checked
  | .starting plan => plan
  | _ => []

/-- A message's turn waits for the harness to start it. -/
def ThreadState.Awaits (thread : ThreadState) (message : ℕ) : Prop :=
  ∃ owner, thread.owner = some owner ∧ owner.inflight = some message

/-- No turn is running where a thread is detached, none is reserved where its entry is dropped or
where it is looked at again, and none is started between that look and the cascade. -/
def Undisturbed (state : State) : Choice → Prop
  | .deletion _ =>
    match state.stage with
    | .retiring (thread :: _) (.detach _) => (state.threads thread).running = false
    | .retiring (thread :: _) .forget => (state.threads thread).hasActiveTurn = false
    | .rechecking _ (thread :: _) => state.rejectIfLiveIgnoringFence thread = none
    | _ => True
  | .startTurn thread message =>
    (state.threads thread).Awaits message → thread ∉ state.stage.checked
  | _ => True

/-- The request was refused because a thread is live. -/
def Stage.RefusedLive (stage : Stage) : Prop :=
  stage = .refused .activeTurn ∨ stage = .refused .runningCommands

/-- The stages before any thread is retired, and those of a request that found a live thread. -/
def Stage.Untouched : Stage → Prop
  | .checking _ _ | .probing _ _ | .reserving _ => True
  | .refused .activeTurn | .refused .runningCommands => True
  | _ => False

structure Sound (state : State) : Prop where
  recorded : ∀ thread, (state.threads thread).Recorded
  checked : ∀ thread ∈ state.stage.checked, (state.threads thread).running = false
  untouched : state.stage.Untouched → state.detached = [] ∧ state.forgotten = []

variable {request : Request} {state : State} {id : ThreadId} {thread : ThreadState}

theorem Sound.setThread (sound : Sound state) (recorded : thread.Recorded)
    (still : id ∈ state.stage.checked → thread.running = true →
      (state.threads id).running = true) :
    Sound (state.setThread id thread) := by
  refine ⟨?_, ?_, sound.untouched⟩
  · intro other
    unfold State.setThread
    dsimp only
    rw [Function.update_apply]
    split
    · exact recorded
    · exact sound.recorded other
  · intro other member
    unfold State.setThread
    dsimp only
    rw [Function.update_apply]
    split
    · next same =>
      by_contra running
      have before := still (same ▸ member) (Bool.eq_true_of_not_eq_false running)
      rw [sound.checked id (same ▸ member)] at before
      cases before
    · exact sound.checked other member

theorem Sound.setMessages (sound : Sound state) (messages : IndexMap ℕ Message) (sent : ℕ) :
    Sound { state with messages := messages, sent := sent } :=
  ⟨sound.recorded, sound.checked, sound.untouched⟩

theorem Sound.setStage (sound : Sound state) {stage : Stage}
    (checked : ∀ thread ∈ stage.checked, (state.threads thread).running = false)
    (untouched : stage.Untouched → state.stage.Untouched)
    (deletions : Deletions.ThreadDeletionService) :
    Sound { state with stage := stage, deletions := deletions } :=
  ⟨sound.recorded, checked, fun early => sound.untouched (untouched early)⟩

theorem Sound.refuse (sound : Sound state) {refusal : Refusal}
    (untouched : (Stage.refused refusal).Untouched → state.stage.Untouched) :
    Sound (state.refuse request refusal) :=
  sound.setStage (fun _ member => by cases member) untouched _

theorem stopped_of_not_live (sound : Sound state)
    (idle : state.rejectIfLiveIgnoringFence id = none) : (state.threads id).running = false := by
  by_contra running
  have active := (sound.recorded id).active (Bool.eq_true_of_not_eq_false running)
  unfold State.rejectIfLiveIgnoringFence at idle
  rw [active, Bool.true_or, if_pos rfl] at idle
  cases idle

theorem Sound.detach (sound : Sound state) (stopped : (state.threads id).running = false)
    {stage : Stage} (retiring : ¬stage.Untouched) (unchecked : stage.checked = []) :
    Sound { state.detach id with stage := stage } := by
  refine ⟨?_, ?_, fun early => absurd early retiring⟩
  · intro other
    change (Function.update state.threads id _ other).Recorded
    rw [Function.update_apply]
    split
    · exact ThreadState.Recorded.detach stopped
    · exact sound.recorded other
  · intro other member
    rw [unchecked] at member
    cases member

theorem Sound.forget (sound : Sound state) (idle : (state.threads id).hasActiveTurn = false)
    {stage : Stage} (retiring : ¬stage.Untouched) (unchecked : stage.checked = []) :
    Sound { state.forget id with stage := stage } := by
  refine ⟨?_, ?_, fun early => absurd early retiring⟩
  · intro other
    change (Function.update state.threads id _ other).Recorded
    rw [Function.update_apply]
    split
    · exact (sound.recorded id).forget idle
    · exact sound.recorded other
  · intro other member
    rw [unchecked] at member
    cases member

theorem Sound.deletionStep (sound : Sound state) (env : RequestEnv)
    (undisturbed : Undisturbed state (.deletion env)) :
    Sound (state.deletionStep request env) := by
  have free (stage : Stage) (none : stage.checked = []) :
      ∀ thread ∈ stage.checked, (state.threads thread).running = false := by
    rw [none]
    exact fun _ member => by cases member
  unfold Undisturbed at undisturbed
  unfold State.deletionStep
  split
  · next order stage =>
    exact sound.setStage (free _ rfl) (fun _ => by rw [stage]; trivial) _
  · next order candidate left stage =>
    split
    · exact sound.refuse fun _ => by rw [stage]; trivial
    · exact sound.setStage (free _ rfl) (fun _ => by rw [stage]; trivial) _
  · next order stage =>
    exact sound.setStage (free _ rfl) (fun _ => by rw [stage]; trivial) _
  · next order candidate left stage =>
    split
    · exact sound.setStage (free _ rfl) (fun _ => by rw [stage]; trivial) _
    · exact sound.refuse fun _ => by rw [stage]; trivial
  · next order stage =>
    split
    · exact sound.refuse fun _ => by rw [stage]; trivial
    · exact sound.setStage (free _ rfl) (fun early => by cases early) _
  · exact sound.setStage (free _ rfl) (fun early => by cases early) _
  · exact sound.setStage (free _ rfl) (fun early => by cases early) _
  · next candidate left known stage =>
    rw [stage] at undisturbed
    split
    · exact sound.detach undisturbed (fun early => by cases early) rfl
    · exact sound.detach undisturbed (fun early => by cases early) rfl
  · next candidate left stage =>
    rw [stage] at undisturbed
    exact sound.forget undisturbed (fun early => by cases early) rfl
  · split
    · exact sound.refuse fun early => by cases early
    · exact sound.refuse fun early => by cases early
    · exact sound.setStage (free _ rfl) (fun early => by cases early) _
  · next checked candidate left stage =>
    rw [stage] at undisturbed
    dsimp only at undisturbed
    rw [undisturbed]
    apply sound.setStage _ (fun early => by cases early) _
    intro other member
    rcases List.mem_append.1 member with before | now
    · apply sound.checked other
      rw [stage]
      exact before
    · rw [List.mem_singleton.1 now]
      exact stopped_of_not_live sound undisturbed
  · next checked stage =>
    split
    · exact sound.refuse fun early => by cases early
    · exact sound.refuse fun early => by cases early
    · apply sound.setStage _ (fun early => by cases early) _
      intro other member
      apply sound.checked other
      rw [stage]
      exact member
  · exact sound.setStage (free _ rfl) (fun early => by cases early) _
  · exact sound
  · exact sound

theorem Sound.step (sound : Sound state) (choice : Choice) (undisturbed : Undisturbed state choice) :
    Sound (state.step request choice) := by
  unfold State.step
  split
  · next env => exact sound.deletionStep env undisturbed
  · next thread =>
    unfold State.send
    split
    · exact sound
    · exact sound.setMessages _ _
  · split
    · next number thread found =>
      have opened := sound.setThread (sound.recorded thread).open_ fun _ => id
      exact opened.setMessages _ _
    · exact sound
  · next number reservation =>
    split
    · next thread found =>
      have recorded : ((state.threads thread).reserveTurn thread number reservation).Recorded :=
        (sound.recorded thread).reserveTurn thread reservation
      have reserved := sound.setThread recorded fun _ running => by
        rwa [ThreadState.running_reserveTurn] at running
      exact reserved.setMessages _ _
    · exact sound
  · next thread number =>
    apply sound.setThread (sound.recorded thread).startTurn
    intro member running
    unfold ThreadState.startTurn at running
    split at running
    · exact running
    · next owner owned =>
      split at running
      · next inflight => exact absurd member (undisturbed ⟨owner, owned, inflight⟩)
      · exact running
  · next thread number =>
    apply sound.setThread (sound.recorded thread).refuseTurn
    exact fun _ running => by rwa [ThreadState.running_refuseTurn] at running
  · next thread =>
    apply sound.setThread (sound.recorded thread).complete
    exact fun _ running => by cases running
  · next thread =>
    apply sound.setThread (sound.recorded thread).beginLive
    exact fun _ running => by rwa [ThreadState.running_beginLive] at running
  · next thread tasks =>
    apply sound.setThread ((sound.recorded thread).setTasks tasks)
    exact fun _ running => by rwa [ThreadState.running_setTasks] at running
  · next thread blocked =>
    apply sound.setThread ((sound.recorded thread).settle blocked)
    exact fun _ running => by rwa [ThreadState.running_settle] at running

theorem Stage.RefusedLive.untouched {stage : Stage} (refused : stage.RefusedLive) :
    stage.Untouched := by
  rcases refused with rfl | rfl
  · trivial
  · trivial

def sampleThread : ThreadId := ⟨⟨1⟩⟩

def sampleRequest : Request := ⟨⟨⟨2⟩⟩, sampleThread, false⟩

def sampleReservation : TurnReservation := ⟨⟨⟨2⟩⟩, "native", .unknown, .unknown, "user"⟩

/-- Nothing to probe, and the subtree is the thread alone. -/
def sampleEnv : RequestEnv := ⟨none, some [sampleThread], some true⟩

def sampleRun (schedule : List Choice) : State :=
  run (State.step sampleRequest) (State.initial [sampleThread]) schedule

end Giskard.DeletionRequest
