import Mathlib

/-!
# Coalescing offers

A shelf holds at most one value for each key. An offered value is put on the shelf in the place
of the one with its key, or is refused in favour of it, and a value can be taken off the shelf
at any time. Values have a rank.

If a refusal is never in favour of a lower rank, and a replacement never of a higher one, then
nothing is lost but what a higher rank made superfluous: the highest rank that was taken or
still stands on the shelf is the highest that was offered (`Balanced`). If the offers for a key
are never refused, the last of them is the last taken or still stands (`Latest`).
-/

set_option autoImplicit false

namespace Foundation.Coalescing

variable {κ μ ρ : Type} [DecidableEq κ] [LinearOrder ρ]

section

variable (key : μ → κ)

/-- The values with one key, in order. -/
def ofKey (k : κ) (values : List μ) : List μ := values.filter fun value => key value = k

/-- The last value with a key. -/
def last (k : κ) (values : List μ) : Option μ := (ofKey key k values).getLast?

/-- The highest rank among the values with a key. -/
def top (rank : μ → ρ) (k : κ) (values : List μ) : WithBot ρ :=
  ((ofKey key k values).map rank).maximum

/-- The shelf without the value of one key. -/
def without (shelf : κ → Option μ) (k : κ) : κ → Option μ := Function.update shelf k none

/-- The shelf with a value for its key. -/
def withValue (shelf : κ → Option μ) (value : μ) : κ → Option μ :=
  Function.update shelf (key value) (some value)

/-- Every value stands under its own key. -/
def Keyed (shelf : κ → Option μ) : Prop := ∀ k value, shelf k = some value → key value = k

end

variable {key : μ → κ} {rank : μ → ρ} {k : κ} {value current : μ} {values : List μ}
  {shelf : κ → Option μ} {offered taken : List μ}

theorem ofKey_append (k : κ) (left right : List μ) :
    ofKey key k (left ++ right) = ofKey key k left ++ ofKey key k right :=
  List.filter_append left right

theorem ofKey_same (same : key value = k) : ofKey key k [value] = [value] := by
  simp [ofKey, same]

theorem ofKey_other (other : key value ≠ k) : ofKey key k [value] = [] := by
  simp [ofKey, other]

theorem maximum_append (left right : List ρ) :
    (left ++ right).maximum = max left.maximum right.maximum := by
  induction left with
  | nil => simp
  | cons a left ih => rw [List.cons_append, List.maximum_cons, List.maximum_cons, ih, max_assoc]

theorem top_append (k : κ) (left right : List μ) :
    top key rank k (left ++ right) = max (top key rank k left) (top key rank k right) := by
  rw [top, ofKey_append, List.map_append, maximum_append]
  rfl

theorem top_same (same : key value = k) : top key rank k [value] = rank value := by
  simp [top, ofKey_same same]

theorem top_other (other : key value ≠ k) : top key rank k [value] = ⊥ := by
  simp [top, ofKey_other other]

theorem last_append_same (same : key value = k) (values : List μ) :
    last key k (values ++ [value]) = some value := by
  rw [last, ofKey_append, ofKey_same same, List.getLast?_concat]

theorem last_append_other (other : key value ≠ k) (values : List μ) :
    last key k (values ++ [value]) = last key k values := by
  rw [last, ofKey_append, ofKey_other other, List.append_nil]
  rfl

/-! ## Shelves -/

omit [DecidableEq κ] in
theorem Keyed.empty : Keyed key (fun _ => none) := fun _ _ found => by cases found

theorem Keyed.withValue (keyed : Keyed key shelf) (value : μ) :
    Keyed key (withValue key shelf value) := by
  intro k other found
  by_cases same : k = key value
  · subst same
    rw [Coalescing.withValue, Function.update_self, Option.some.injEq] at found
    rw [found]
  · rw [Coalescing.withValue, Function.update_of_ne same] at found
    exact keyed k other found

theorem Keyed.without (keyed : Keyed key shelf) (k : κ) : Keyed key (without shelf k) := by
  intro other value found
  by_cases same : other = k
  · subst same
    rw [Coalescing.without, Function.update_self] at found
    cases found
  · rw [Coalescing.without, Function.update_of_ne same] at found
    exact keyed other value found

/-! ## Nothing but the superseded is lost -/

/-- What was taken and what stands on the shelf reach as high as what was offered. -/
structure Balanced (key : μ → κ) (rank : μ → ρ) (shelf : κ → Option μ)
    (offered taken : List μ) : Prop where
  keyed : Keyed key shelf
  shelved : ∀ k value, shelf k = some value → value ∈ offered
  known : ∀ value ∈ taken, value ∈ offered
  reach : ∀ k, top key rank k (taken ++ (shelf k).toList) = top key rank k offered

theorem Balanced.start : Balanced key rank (fun _ => none) [] [] where
  keyed := .empty
  shelved _ _ found := by cases found
  known _ member := by cases member
  reach _ := rfl

theorem Balanced.refuse (balanced : Balanced key rank shelf offered taken)
    (held : shelf (key value) = some current) (higher : rank value ≤ rank current) :
    Balanced key rank shelf (offered ++ [value]) taken where
  keyed := balanced.keyed
  shelved k other found := List.mem_append_left _ (balanced.shelved k other found)
  known other member := List.mem_append_left _ (balanced.known other member)
  reach k := by
    rw [top_append k offered, ← balanced.reach k]
    by_cases same : key value = k
    · subst same
      rw [top_same rfl, top_append, held, Option.toList_some,
        top_same (balanced.keyed _ _ held), max_assoc, max_eq_left (WithBot.coe_le_coe.2 higher)]
    · rw [top_other same, max_bot_right]

/-- An offer takes the place of a value that is not higher, or a free place. -/
theorem Balanced.put (balanced : Balanced key rank shelf offered taken)
    (lower : ∀ current, shelf (key value) = some current → rank current ≤ rank value) :
    Balanced key rank (withValue key shelf value) (offered ++ [value]) taken where
  keyed := balanced.keyed.withValue value
  shelved k other found := by
    by_cases same : k = key value
    · subst same
      rw [withValue, Function.update_self, Option.some.injEq] at found
      subst found
      exact List.mem_append_right _ (List.mem_singleton_self _)
    · rw [withValue, Function.update_of_ne same] at found
      exact List.mem_append_left _ (balanced.shelved k other found)
  known other member := List.mem_append_left _ (balanced.known other member)
  reach k := by
    rw [top_append k offered, ← balanced.reach k]
    by_cases same : key value = k
    · subst same
      rw [withValue, Function.update_self, Option.toList_some, top_append, top_append,
        top_same rfl]
      cases held : shelf (key value) with
      | none =>
        rw [Option.toList_none]
        exact congrArg (max · _) (max_bot_right _).symm
      | some current =>
        rw [Option.toList_some, top_same (balanced.keyed _ _ held), max_assoc,
          max_eq_right (WithBot.coe_le_coe.2 (lower current held))]
    · rw [top_other same, max_bot_right, withValue, Function.update_of_ne (Ne.symm same)]

/-- A value is taken off the shelf. -/
theorem Balanced.take (balanced : Balanced key rank shelf offered taken)
    (held : shelf k = some value) :
    Balanced key rank (without shelf k) offered (taken ++ [value]) where
  keyed := balanced.keyed.without k
  shelved other shelved found := by
    by_cases same : other = k
    · subst same
      rw [without, Function.update_self] at found
      cases found
    · rw [without, Function.update_of_ne same] at found
      exact balanced.shelved other shelved found
  known other member := by
    rcases List.mem_append.1 member with before | here
    · exact balanced.known other before
    · rw [List.mem_singleton] at here
      subst here
      exact balanced.shelved k other held
  reach other := by
    rw [← balanced.reach other]
    by_cases same : other = k
    · subst same
      rw [without, Function.update_self, held, Option.toList_none, Option.toList_some,
        List.append_nil]
    · have apart : key value ≠ other := fun eq => same (eq.symm.trans (balanced.keyed k value held))
      rw [without, Function.update_of_ne same, top_append, top_append, top_append,
        top_other apart, max_bot_right]

theorem Balanced.drained (balanced : Balanced key rank shelf offered taken)
    (empty : shelf k = none) : top key rank k taken = top key rank k offered := by
  rw [← balanced.reach k, empty, Option.toList_none, List.append_nil]

/-! ## The last offer is not lost -/

/-- The last offer for a key is the last taken, or stands on the shelf. -/
def Latest (key : μ → κ) (k : κ) (shelf : κ → Option μ) (offered taken : List μ) : Prop :=
  last key k (taken ++ (shelf k).toList) = last key k offered

theorem Latest.refuse (latest : Latest key k shelf offered taken) (other : key value ≠ k) :
    Latest key k shelf (offered ++ [value]) taken := by
  unfold Latest
  rw [last_append_other other]
  exact latest

theorem Latest.put (latest : Latest key k shelf offered taken) (value : μ) :
    Latest key k (withValue key shelf value) (offered ++ [value]) taken := by
  unfold Latest
  by_cases same : key value = k
  · subst same
    rw [withValue, Function.update_self, Option.toList_some, last_append_same rfl,
      last_append_same rfl]
  · rw [withValue, Function.update_of_ne (Ne.symm same), last_append_other same]
    exact latest

theorem Latest.take (latest : Latest key k shelf offered taken) (keyed : Keyed key shelf)
    {other : κ} (held : shelf other = some value) :
    Latest key k (without shelf other) offered (taken ++ [value]) := by
  unfold Latest at latest ⊢
  rw [← latest]
  by_cases same : k = other
  · subst same
    rw [without, Function.update_self, held, Option.toList_none, Option.toList_some,
      List.append_nil]
  · have apart : key value ≠ k := fun eq => same (eq.symm.trans (keyed other value held))
    rw [without, Function.update_of_ne same]
    simp only [last, ofKey_append, ofKey_other apart, List.append_nil]

theorem Latest.drained (latest : Latest key k shelf offered taken) (empty : shelf k = none) :
    last key k taken = last key k offered := by
  rw [Latest, empty, Option.toList_none, List.append_nil] at latest
  exact latest

end Foundation.Coalescing
