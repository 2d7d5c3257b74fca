import Mathlib

/-!
# Runs under a schedule

A step function over a state, driven by a list of choices. The choices say which of several
operations takes its next step, so that a list is an interleaving. A condition on the steps is
checked at the state each step is taken from.
-/

set_option autoImplicit false

namespace Foundation

namespace Schedule

variable {σ ι : Type} (step : σ → ι → σ)

/-- The state after a schedule. -/
def run (state : σ) (schedule : List ι) : σ := schedule.foldl step state

/-- Every step of a schedule is taken from a state that meets a condition. -/
def Meets (condition : σ → ι → Prop) : σ → List ι → Prop
  | _, [] => True
  | state, choice :: rest => condition state choice ∧ Meets condition (step state choice) rest

variable {step}

@[simp] theorem run_nil (state : σ) : run step state [] = state := rfl

@[simp] theorem run_cons (state : σ) (choice : ι) (rest : List ι) :
    run step state (choice :: rest) = run step (step state choice) rest := rfl

theorem run_append (state : σ) (first second : List ι) :
    run step state (first ++ second) = run step (run step state first) second :=
  List.foldl_append

theorem meets_append {condition : σ → ι → Prop} {state : σ} {first second : List ι} :
    Meets step condition state (first ++ second) ↔
      Meets step condition state first ∧ Meets step condition (run step state first) second := by
  induction first generalizing state with
  | nil =>
    constructor
    · exact fun meets => ⟨trivial, meets⟩
    · exact And.right
  | cons choice rest ih =>
    rw [List.cons_append, Meets, Meets, ih, and_assoc, run_cons]

theorem Meets.and {first second : σ → ι → Prop} {state : σ} {schedule : List ι}
    (one : Meets step first state schedule) (two : Meets step second state schedule) :
    Meets step (fun state choice => first state choice ∧ second state choice) state schedule := by
  induction schedule generalizing state with
  | nil => trivial
  | cons choice rest ih => exact ⟨⟨one.1, two.1⟩, ih one.2 two.2⟩

theorem run_invariant {condition : σ → ι → Prop} {invariant : σ → Prop} {state : σ}
    {schedule : List ι} (init : invariant state) (meets : Meets step condition state schedule)
    (kept : ∀ state choice, invariant state → condition state choice →
      invariant (step state choice)) :
    invariant (run step state schedule) := by
  induction schedule generalizing state with
  | nil => exact init
  | cons choice rest ih => exact ih (kept state choice init meets.1) meets.2

theorem run_preserves {invariant : σ → Prop} {state : σ} (init : invariant state)
    (kept : ∀ state choice, invariant state → invariant (step state choice)) (schedule : List ι) :
    invariant (run step state schedule) := by
  induction schedule generalizing state with
  | nil => exact init
  | cons choice rest ih => exact ih (kept state choice init)

/-! ## Views -/

section Views

variable {τ κ : Type} {step' : τ → κ → τ} (view : σ → τ) {label : ι → κ}

theorem view_run (follows : ∀ state choice, view (step state choice) =
    step' (view state) (label choice)) (state : σ) (schedule : List ι) :
    view (run step state schedule) = run step' (view state) (schedule.map label) := by
  induction schedule generalizing state with
  | nil => rfl
  | cons choice rest ih => rw [run_cons, ih, follows, List.map_cons, run_cons]

theorem meets_view {condition : τ → κ → Prop} (follows : ∀ state choice, view (step state choice) =
    step' (view state) (label choice)) {state : σ} {schedule : List ι} :
    Meets step (fun state choice => condition (view state) (label choice)) state schedule ↔
      Meets step' condition (view state) (schedule.map label) := by
  induction schedule generalizing state with
  | nil => exact Iff.rfl
  | cons choice rest ih => rw [List.map_cons, Meets, Meets, ih, follows]

end Views

theorem meets_congr {first second : σ → ι → Prop} {state : σ} {schedule : List ι}
    (same : ∀ state, ∀ choice ∈ schedule, first state choice ↔ second state choice) :
    Meets step first state schedule ↔ Meets step second state schedule := by
  induction schedule generalizing state with
  | nil => exact Iff.rfl
  | cons choice rest ih =>
    rw [Meets, Meets, same state choice List.mem_cons_self,
      ih fun state other member => same state other (List.mem_cons_of_mem _ member)]

theorem meets_of_forall {condition : σ → ι → Prop} (always : ∀ state choice, condition state choice)
    (state : σ) (schedule : List ι) : Meets step condition state schedule := by
  induction schedule generalizing state with
  | nil => trivial
  | cons choice rest ih => exact ⟨always state choice, ih (step state choice)⟩

theorem meets_forall {κ : Type} {condition : κ → σ → ι → Prop} {state : σ} {schedule : List ι} :
    Meets step (fun state choice => ∀ key, condition key state choice) state schedule ↔
      ∀ key, Meets step (condition key) state schedule := by
  induction schedule generalizing state with
  | nil => exact ⟨fun _ _ => trivial, fun _ => trivial⟩
  | cons choice rest ih =>
    rw [Meets, ih]
    exact ⟨fun both key => ⟨both.1 key, both.2 key⟩,
      fun each => ⟨fun key => (each key).1, fun key => (each key).2⟩⟩

end Schedule

end Foundation
