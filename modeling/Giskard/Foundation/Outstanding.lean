import Mathlib

/-!
# Outstanding requests

A stream of notices opens and closes requests. A reader that folds the stream in order is
left with the requests still open, each at the place of the first opening after its last
close. Notices that cannot change what is left may be removed from the stream
(`Trims.outstanding_filter`): openings that a later close undoes, openings the reader
disregards, and the closes that go with them.
-/

set_option autoImplicit false

namespace Foundation

/-- A request opens, or it closes. -/
inductive Notice (α : Type) where
  | opened (request : α)
  | closed (request : α)
  deriving DecidableEq

section

variable {α : Type} [DecidableEq α]

/-! ## First occurrences -/

/-- Add an element at the end, unless it is there. -/
def addNew (seen : List α) (a : α) : List α := if a ∈ seen then seen else seen ++ [a]

theorem mem_addNew {seen : List α} {a b : α} : b ∈ addNew seen a ↔ b ∈ seen ∨ b = a := by
  unfold addNew
  split
  · next member =>
    constructor
    · exact Or.inl
    · rintro (inside | rfl)
      · exact inside
      · exact member
  · simp

theorem addNew_filter (seen : List α) (a : α) (p : α → Bool) :
    (addNew seen a).filter p = if p a then addNew (seen.filter p) a else seen.filter p := by
  unfold addNew
  by_cases keeps : p a = true <;> by_cases member : a ∈ seen <;> simp [keeps, member]

/-- The distinct elements in the order of their first occurrences. -/
def firstSeen (list : List α) : List α := list.foldl addNew []

theorem firstSeen_concat (list : List α) (a : α) :
    firstSeen (list ++ [a]) = addNew (firstSeen list) a := by
  rw [firstSeen, List.foldl_append]
  rfl

theorem mem_firstSeen {list : List α} {a : α} : a ∈ firstSeen list ↔ a ∈ list := by
  induction list using List.reverseRecOn with
  | nil => rfl
  | append_singleton list b ih => rw [firstSeen_concat, mem_addNew, ih, List.mem_append,
      List.mem_singleton]

theorem firstSeen_filter (list : List α) (p : α → Bool) :
    (firstSeen list).filter p = firstSeen (list.filter p) := by
  induction list using List.reverseRecOn with
  | nil => rfl
  | append_singleton list a ih =>
    rw [firstSeen_concat, addNew_filter, ih, List.filter_append]
    by_cases keeps : p a = true
    · rw [if_pos keeps, List.filter_singleton, keeps, cond_true, firstSeen_concat]
    · rw [if_neg keeps, List.filter_singleton, Bool.eq_false_iff.2 keeps, cond_false,
        List.append_nil]

/-! ## The fold -/

/-- One notice: an opening appends a request that is not pending, a close removes it. -/
def Notice.apply (pending : List α) : Notice α → List α
  | .opened a => addNew pending a
  | .closed a => pending.filter (· ≠ a)

/-- The requests a reader of the whole stream is left with. -/
def outstanding (notices : List (Notice α)) : List α := notices.foldl Notice.apply []

/-- The openings that no later notice closes. -/
def unclosed : List (Notice α) → List α
  | [] => []
  | .opened a :: rest => if .closed a ∈ rest then unclosed rest else a :: unclosed rest
  | .closed _ :: rest => unclosed rest

theorem unclosed_opened (notices : List (Notice α)) (a : α) :
    unclosed (notices ++ [.opened a]) = unclosed notices ++ [a] := by
  induction notices with
  | nil => simp [unclosed]
  | cons notice notices ih =>
    cases notice with
    | opened b =>
      simp only [List.cons_append, unclosed, ih, List.mem_append, List.mem_singleton, reduceCtorEq,
        or_false]
      split <;> rfl
    | closed b => simpa only [List.cons_append, unclosed] using ih

theorem unclosed_closed (notices : List (Notice α)) (a : α) :
    unclosed (notices ++ [.closed a]) = (unclosed notices).filter (· ≠ a) := by
  induction notices with
  | nil => simp [unclosed]
  | cons notice notices ih =>
    cases notice with
    | opened b =>
      simp only [List.cons_append, unclosed, ih, List.mem_append, List.mem_singleton,
        Notice.closed.injEq]
      by_cases later : .closed b ∈ notices
      · simp [later]
      · by_cases same : b = a
        · subst same
          simp [later]
        · simp [later, same]
    | closed b => simpa only [List.cons_append, unclosed] using ih

theorem outstanding_eq (notices : List (Notice α)) :
    outstanding notices = firstSeen (unclosed notices) := by
  induction notices using List.reverseRecOn with
  | nil => rfl
  | append_singleton notices notice ih =>
    rw [outstanding, List.foldl_append, List.foldl_cons, List.foldl_nil, ← outstanding, ih]
    cases notice with
    | opened a => rw [unclosed_opened, firstSeen_concat, Notice.apply]
    | closed a => rw [unclosed_closed, ← firstSeen_filter, Notice.apply]

theorem opened_of_mem_unclosed {notices : List (Notice α)} {a : α}
    (member : a ∈ unclosed notices) : .opened a ∈ notices := by
  induction notices with
  | nil => cases member
  | cons notice notices ih =>
    cases notice with
    | opened b =>
      simp only [unclosed] at member
      split at member
      · exact List.mem_cons_of_mem _ (ih member)
      · rcases List.mem_cons.1 member with rfl | later
        · exact List.mem_cons_self
        · exact List.mem_cons_of_mem _ (ih later)
    | closed b => exact List.mem_cons_of_mem _ (ih member)

theorem opened_of_mem_outstanding {notices : List (Notice α)} {a : α}
    (member : a ∈ outstanding notices) : .opened a ∈ notices := by
  rw [outstanding_eq, mem_firstSeen] at member
  exact opened_of_mem_unclosed member

/-! ## Streams with notices left out -/

/-- The second stream is the first with notices left out that do not matter to a reader who
disregards the requests outside `p`. -/
inductive Trims (p : α → Bool) : List (Notice α) → List (Notice α) → Prop
  | nil : Trims p [] []
  | keepOpened {a : α} {full trimmed : List (Notice α)} (rest : Trims p full trimmed)
      (same : .closed a ∈ full → .closed a ∈ trimmed) :
      Trims p (.opened a :: full) (.opened a :: trimmed)
  | dropOpened {a : α} {full trimmed : List (Notice α)} (rest : Trims p full trimmed)
      (idle : .closed a ∈ full ∨ p a = false) : Trims p (.opened a :: full) trimmed
  | keepClosed {a : α} {full trimmed : List (Notice α)} (rest : Trims p full trimmed) :
      Trims p (.closed a :: full) (.closed a :: trimmed)
  | dropClosed {a : α} {full trimmed : List (Notice α)} (rest : Trims p full trimmed) :
      Trims p (.closed a :: full) trimmed

namespace Trims

variable {p : α → Bool} {full trimmed : List (Notice α)}

omit [DecidableEq α] in
theorem subset (trims : Trims p full trimmed) : trimmed ⊆ full := by
  induction trims with
  | nil => exact List.Subset.refl _
  | keepOpened _ _ ih => exact List.cons_subset_cons _ ih
  | dropOpened _ _ ih => exact List.subset_cons_of_subset _ ih
  | keepClosed _ ih => exact List.cons_subset_cons _ ih
  | dropClosed _ ih => exact List.subset_cons_of_subset _ ih

theorem unclosed_filter (trims : Trims p full trimmed) :
    (unclosed trimmed).filter p = (unclosed full).filter p := by
  induction trims with
  | nil => rfl
  | @keepOpened a full trimmed rest same ih =>
    have iff : .closed a ∈ trimmed ↔ .closed a ∈ full := ⟨fun later => rest.subset later, same⟩
    simp only [unclosed, iff]
    split
    · exact ih
    · rw [List.filter_cons, List.filter_cons, ih]
  | @dropOpened a full trimmed rest idle ih =>
    simp only [unclosed]
    split
    · exact ih
    · next open_ =>
      rcases idle with later | disregarded
      · exact absurd later open_
      · rw [List.filter_cons, disregarded, ih]
        rfl
  | keepClosed _ ih => exact ih
  | dropClosed _ ih => exact ih

theorem outstanding_filter (trims : Trims p full trimmed) :
    (outstanding trimmed).filter p = (outstanding full).filter p := by
  rw [outstanding_eq, outstanding_eq, firstSeen_filter, firstSeen_filter, trims.unclosed_filter]

end Trims

end

end Foundation
