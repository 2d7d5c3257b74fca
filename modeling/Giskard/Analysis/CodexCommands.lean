import Mathlib
import Giskard.Model.CodexWorker

/-!
# What opening a thread does

Opening a thread, claiming one and configuring its context are made of a few acts on the routes,
and of events that are told. What every act keeps, these commands keep.
-/

set_option autoImplicit false

namespace Giskard.Codex

open Relation (ReflTransGen)

/-- A command that replaces the route of a native thread. -/
def WorkerInput.Replaces (native : NativeThreadId) : WorkerInput → Prop
  | .openThread _ (some expected) (.error _) (.ok _) _ => NativeThreadId.trimmed expected = native
  | _ => False

/-- The event of a turn that is over. -/
def isTurnCompleted : AgentEvent → Bool
  | .turnCompleted _ _ _ _ => true
  | _ => false

/-- One act on the routes, or an event that ends no turn. Only some routes are replaced. -/
inductive OpeningAct (crates : Crates) (replaced : NativeThreadId → Prop) :
    CodexInstance → CodexInstance → Prop
  | claimed (worker : CodexInstance) (text : String) (thread : ThreadId) :
      OpeningAct crates replaced worker (worker.claimThreadRoute crates text thread).1
  | adopted (worker : CodexInstance) (text : String) (thread : ThreadId) :
      OpeningAct crates replaced worker (worker.claimOrAdoptThreadRoute crates text thread).1
  | replaced (worker : CodexInstance) {expected : String} (text : String) (thread : ThreadId)
      (may : replaced (.trimmed expected)) :
      OpeningAct crates replaced worker (worker.replaceThreadRoute crates expected text thread).1
  | configured (worker : CodexInstance) (text : String) (thread : ThreadId)
      (value : Option UInt32) :
      OpeningAct crates replaced worker (worker.setContextWindow text thread value).1
  | told (worker : CodexInstance) (thread : ThreadId) {event : AgentEvent}
      (running : isTurnCompleted event = false) :
      OpeningAct crates replaced worker (worker.broadcastEvent thread event)

/-- Some acts in a row. -/
abbrev OpeningActs (crates : Crates) (replaced : NativeThreadId → Prop) :
    CodexInstance → CodexInstance → Prop :=
  ReflTransGen (OpeningAct crates replaced)

section Commands

variable {crates : Crates} {replaced : NativeThreadId → Prop} {thread : ThreadId} {text : String}

theorem OpeningActs.keep {R : CodexInstance → CodexInstance → Prop} {before after : CodexInstance}
    (refl : ∀ worker, R worker worker)
    (trans : ∀ {one two three}, R one two → R two three → R one three)
    (acts : OpeningActs crates replaced before after)
    (each : ∀ {one two}, OpeningAct crates replaced one two → R one two) : R before after := by
  induction acts with
  | refl => exact refl before
  | tail _ act ih => exact trans ih (each act)

theorem bindOpened_acts (worker : CodexInstance) {taken : Option String}
    (may : ∀ expected ∈ taken, replaced (.trimmed expected)) :
    OpeningActs crates replaced worker (worker.bindOpened crates text taken thread).1 := by
  cases taken with
  | none => exact .single (.claimed worker text thread)
  | some expected => exact .single (.replaced worker text thread (may expected rfl))

theorem configureOpened_acts (worker : CodexInstance) (window : Option UInt32) :
    OpeningActs crates replaced worker (worker.configureOpened text thread window).1 := by
  cases window with
  | none => exact .refl
  | some window => exact .single (.configured worker text thread _)

theorem announceOpened_acts (worker : CodexInstance) (taken : Option String) :
    OpeningActs crates replaced worker (worker.announceOpened text taken thread) := by
  unfold CodexInstance.announceOpened
  cases taken with
  | none => exact .single (.told worker thread rfl)
  | some expected =>
    exact .trans (.single (.told worker thread rfl)) (.single (.told _ thread rfl))

theorem replaces_of_opened {resume : Option String} {resumed started : Except HarnessError String}
    {window : Option UInt32} {expected : String}
    (opened : CodexInstance.openedThread resume resumed started = .ok (text, some expected)) :
    (WorkerInput.openThread thread resume resumed started window).Replaces (.trimmed expected) := by
  cases resume with
  | none => cases started <;> cases opened
  | some asked =>
    cases resumed with
    | ok known => cases opened
    | error error =>
      cases started with
      | error failed => cases opened
      | ok fresh =>
        cases opened
        rfl

theorem openThread_acts (worker : CodexInstance) (resume : Option String)
    (resumed started : Except HarnessError String) (window : Option UInt32) :
    OpeningActs crates
      (fun native => (WorkerInput.openThread thread resume resumed started window).Replaces native)
      worker (worker.openThread crates thread resume resumed started window).1 := by
  unfold CodexInstance.openThread
  split
  · exact .refl
  · next text taken opened =>
    have bound := @bindOpened_acts crates (fun native =>
      (WorkerInput.openThread thread resume resumed started window).Replaces native) thread text
      worker taken fun expected there => by
        rw [Option.mem_def.1 there] at opened
        exact replaces_of_opened opened
    split
    · next after error same =>
      rw [same] at bound
      exact bound
    · next after claimed same =>
      rw [same] at bound
      have configured := @configureOpened_acts crates (fun native =>
        (WorkerInput.openThread thread resume resumed started window).Replaces native) thread text
        after window
      split
      · next last error same =>
        rw [same] at configured
        exact bound.trans configured
      · next last same =>
        rw [same] at configured
        exact bound.trans (configured.trans (announceOpened_acts last taken))

/-- Configuring a context sets its window at most twice. -/
theorem ensureContext_acts (worker : CodexInstance) (owner : ThreadHandle)
    (model : Option ModelRef) (window : Option UInt32) (replies : ContextReplies) :
    OpeningActs crates replaced worker (worker.ensureContext owner model window replies).1 := by
  unfold CodexInstance.ensureContext
  split
  · exact .refl
  · split
    · exact .refl
    · split
      · exact .refl
      · split
        · exact .refl
        · split
          · exact .refl
          · split
            · exact .refl
            · exact .refl
            · have cleared : OpeningActs crates replaced worker _ :=
                .single (.configured worker owner.harnessThreadId owner.thread none)
              split
              · next after error same =>
                rw [same] at cleared
                exact cleared
              · next after same =>
                rw [same] at cleared
                split
                · exact cleared
                · exact cleared.tail (.configured _ _ _ _)

end Commands

end Giskard.Codex
