import Mathlib
import Giskard.Foundation.Schedule

/-!
# Runs that pay for what they do

The events of a run, and a potential that pays for some of them: if every step lowers the
potential by as much as its events cost, less what they earn, then a run costs no more than it
earns and the potential it starts with.
-/

set_option autoImplicit false

namespace Foundation.Schedule

variable {σ ι ε : Type} {step : σ → ι → σ} {observe : σ → ι → List ε}

/-- The events of a schedule, in order. -/
def trace (step : σ → ι → σ) (observe : σ → ι → List ε) : σ → List ι → List ε
  | _, [] => []
  | state, choice :: rest => observe state choice ++ trace step observe (step state choice) rest

theorem trace_forall {condition : σ → ι → Prop} {invariant : σ → Prop} {good : ε → Prop}
    {state : σ} {schedule : List ι} (init : invariant state)
    (meets : Meets step condition state schedule)
    (kept : ∀ state choice, invariant state → condition state choice →
      invariant (step state choice))
    (holds : ∀ state choice, invariant state → condition state choice →
      ∀ event ∈ observe state choice, good event) :
    ∀ event ∈ trace step observe state schedule, good event := by
  induction schedule generalizing state with
  | nil => exact fun _ member => by cases member
  | cons choice rest ih =>
    intro event member
    rcases List.mem_append.1 member with now | later
    · exact holds state choice init meets.1 event now
    · exact ih (kept state choice init meets.1) meets.2 event later

theorem trace_amortized {condition : σ → ι → Prop} {invariant : σ → Prop} {potential : σ → ℕ}
    {cost earning : ε → Bool} {excluded : ε → Prop} {state : σ} {schedule : List ι}
    (init : invariant state) (meets : Meets step condition state schedule)
    (kept : ∀ state choice, invariant state → condition state choice →
      invariant (step state choice))
    (pays : ∀ state choice, invariant state → condition state choice →
      (∀ event ∈ observe state choice, ¬excluded event) →
      potential (step state choice) + (observe state choice).countP cost ≤
        potential state + (observe state choice).countP earning)
    (spared : ∀ event ∈ trace step observe state schedule, ¬excluded event) :
    potential (run step state schedule) + (trace step observe state schedule).countP cost ≤
      potential state + (trace step observe state schedule).countP earning := by
  induction schedule generalizing state with
  | nil => exact le_rfl
  | cons choice rest ih =>
    rw [trace] at spared ⊢
    have now := pays state choice init meets.1
      fun event member => spared event (List.mem_append_left _ member)
    have later := ih (kept state choice init meets.1) meets.2
      fun event member => spared event (List.mem_append_right _ member)
    rw [run_cons, List.countP_append, List.countP_append]
    omega

end Foundation.Schedule
