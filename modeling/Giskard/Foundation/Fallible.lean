import Mathlib

/-!
# Operations that fail and keep their state

An operation on a state that may stop with an error leaves the state as it is when it stops, not
as it was at the start. Three notions speak of such operations: what they change of the state
(`Frames`), from where they cannot fail (`Returns`), and that they fail before they change anything
(`Gated`).
-/

set_option autoImplicit false

namespace Foundation

/-- An operation: its result or its error, and the state after it. -/
def Fallible (σ ε α : Type) := σ → Except ε α × σ

namespace Fallible

variable {σ ε α β : Type}

instance : Monad (Fallible σ ε) where
  pure a := fun state => (.ok a, state)
  bind first rest := fun state =>
    match first state with
    | (.ok a, next) => rest a next
    | (.error error, next) => (.error error, next)

/-- A value of the state. -/
def get (f : σ → α) : Fallible σ ε α := fun state => (.ok (f state), state)

/-- A change of the state. -/
def modify (f : σ → σ) : Fallible σ ε Unit := fun state => (.ok (), f state)

/-- A look at the state, which may fail. -/
def check (f : σ → Except ε α) : Fallible σ ε α := fun state => (f state, state)

variable {m : Fallible σ ε α} {f : α → Fallible σ ε β} {state : σ}

theorem pure_apply (a : α) (state : σ) : (pure a : Fallible σ ε α) state = (.ok a, state) := rfl

theorem bind_apply (m : Fallible σ ε α) (f : α → Fallible σ ε β) (state : σ) :
    (m >>= f) state = match m state with
      | (.ok a, next) => f a next
      | (.error error, next) => (.error error, next) := rfl

theorem bind_ok {a : α} {next : σ} (ok : m state = (.ok a, next)) :
    (m >>= f) state = f a next := by
  rw [bind_apply, ok]

theorem bind_error {error : ε} {next : σ} (fails : m state = (.error error, next)) :
    (m >>= f) state = (.error error, next) := by
  rw [bind_apply, fails]

/-! ## What an operation changes -/

/-- The state after an operation is related to the one before it, also when it fails. -/
def Frames (R : σ → σ → Prop) (m : Fallible σ ε α) : Prop := ∀ state, R state (m state).2

namespace Frames

variable {R : σ → σ → Prop} [Std.Refl R]

theorem pure (a : α) : Frames R (Pure.pure a : Fallible σ ε α) := fun state => refl_of R state

theorem get (f : σ → α) : Frames R (Fallible.get f : Fallible σ ε α) := fun state => refl_of R state

theorem check (f : σ → Except ε α) : Frames R (Fallible.check f) := fun state => refl_of R state

omit [Std.Refl R] in
theorem modify {f : σ → σ} (changes : ∀ state, R state (f state)) :
    Frames R (Fallible.modify f : Fallible σ ε Unit) := changes

omit [Std.Refl R] in
theorem bind [IsTrans σ R] (first : Frames R m) (rest : ∀ a, Frames R (f a)) :
    Frames R (m >>= f) := by
  intro state
  have before := first state
  rw [bind_apply]
  cases result : m state with
  | mk outcome next =>
    rw [result] at before
    cases outcome with
    | ok a => exact trans_of R before (rest a next)
    | error error => exact before

end Frames

/-! ## From where an operation cannot fail -/

/-- From a state with `P` the operation succeeds, with a result and a state that satisfy `Q`. -/
def Returns (P : σ → Prop) (Q : α → σ → Prop) (m : Fallible σ ε α) : Prop :=
  ∀ state, P state → ∃ a next, m state = (.ok a, next) ∧ Q a next

namespace Returns

variable {P P' : σ → Prop} {Q Q' : α → σ → Prop} {R : β → σ → Prop}

theorem pure {a : α} (here : ∀ state, P state → Q a state) :
    Returns P Q (Pure.pure a : Fallible σ ε α) :=
  fun state holds => ⟨a, state, rfl, here state holds⟩

theorem modify {f : σ → σ} {Q : Unit → σ → Prop} (here : ∀ state, P state → Q () (f state)) :
    Returns P Q (Fallible.modify f : Fallible σ ε Unit) :=
  fun state holds => ⟨(), f state, rfl, here state holds⟩

theorem bind (first : Returns P Q m) (rest : ∀ a, Returns (Q a) R (f a)) :
    Returns P R (m >>= f) := by
  intro state holds
  obtain ⟨a, next, ok, post⟩ := first state holds
  rw [bind_ok ok]
  exact rest a next post

theorem result (returns : Returns P Q m) (holds : P state) {outcome : Except ε α} {next : σ}
    (ran : m state = (outcome, next)) : ∃ a, outcome = .ok a ∧ Q a next := by
  obtain ⟨a, other, ok, post⟩ := returns state holds
  rw [ran] at ok
  cases ok
  exact ⟨a, rfl, post⟩

end Returns

/-! ## Failing first -/

/-- Without `P` the operation fails with one error and leaves the state as it was; with `P` it
returns. -/
structure Gated (P : σ → Prop) (error : ε) (Q : α → σ → Prop) (m : Fallible σ ε α) : Prop where
  returns : Returns P Q m
  fails : ∀ state, ¬ P state → m state = (.error error, state)

namespace Gated

variable {P : σ → Prop} {error : ε} {Q : α → σ → Prop} {R : β → σ → Prop}

theorem of_returns (always : ∀ state, P state) (returns : Returns P Q m) : Gated P error Q m :=
  ⟨returns, fun state never => absurd (always state) never⟩

theorem bind (first : Gated P error Q m) (rest : ∀ a, Returns (Q a) R (f a)) :
    Gated P error R (m >>= f) :=
  ⟨first.returns.bind rest, fun state never => bind_error (first.fails state never)⟩

theorem clean (gated : Gated P error Q m) {other : ε} {next : σ}
    (failed : m state = (.error other, next)) : next = state ∧ other = error ∧ ¬ P state := by
  by_cases holds : P state
  · obtain ⟨a, ok, _⟩ := gated.returns.result holds failed
    cases ok
  · rw [gated.fails state holds] at failed
    cases failed
    exact ⟨rfl, rfl, holds⟩

end Gated

end Fallible

end Foundation
