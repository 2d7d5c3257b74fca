import Mathlib

/-!
# Parent chains

Nodes that hang under a parent, that are roots, or that have no place in the forest at all. The
chain of a node leads to a root in a number of steps, its depth. A chain stays what it is when
nodes that had no place are given one.
-/

set_option autoImplicit false

namespace Foundation

variable {α : Type}

/-- The chain of a node leads to a root in this many steps. `up` has nothing for a node without a
place, and no parent for a root. -/
inductive AtDepth (up : α → Option (Option α)) : α → ℕ → Prop
  | root {node : α} (top : up node = some none) : AtDepth up node 0
  | child {node parent : α} {depth : ℕ} (hangs : up node = some (some parent))
      (above : AtDepth up parent depth) : AtDepth up node (depth + 1)

/-- The chain of a node leads to a root. -/
def Rooted (up : α → Option (Option α)) (node : α) : Prop := ∃ depth, AtDepth up node depth

variable {up later : α → Option (Option α)} {node parent : α}

namespace AtDepth

theorem unique {first second : ℕ} (left : AtDepth up node first) (right : AtDepth up node second) :
    first = second := by
  induction left generalizing second with
  | root top =>
    cases right with
    | root => rfl
    | child hangs => simp [top] at hangs
  | child hangs above ih =>
    cases right with
    | root top => simp [top] at hangs
    | child hangs' above' =>
      rw [hangs, Option.some_inj, Option.some_inj] at hangs'
      subst hangs'
      rw [ih above']

theorem mono {depth : ℕ} (placed : AtDepth up node depth)
    (grows : ∀ node, up node ≠ none → later node = up node) : AtDepth later node depth := by
  induction placed with
  | root top => exact .root (by rw [grows _ (by simp [top]), top])
  | child hangs above ih => exact .child (by rw [grows _ (by simp [hangs]), hangs]) ih

end AtDepth

namespace Rooted

theorem root (top : up node = some none) : Rooted up node := ⟨0, .root top⟩

theorem child (hangs : up node = some (some parent)) (above : Rooted up parent) :
    Rooted up node := by
  obtain ⟨depth, above⟩ := above
  exact ⟨depth + 1, .child hangs above⟩

theorem placed (rooted : Rooted up node) : up node ≠ none := by
  obtain ⟨depth, rooted⟩ := rooted
  cases rooted with
  | root top => simp [top]
  | child hangs => simp [hangs]

theorem mono (rooted : Rooted up node) (grows : ∀ node, up node ≠ none → later node = up node) :
    Rooted later node := by
  obtain ⟨depth, rooted⟩ := rooted
  exact ⟨depth, rooted.mono grows⟩

end Rooted

/-! ## New edges -/

/-- One node up. -/
def Under (up : α → Option (Option α)) (node parent : α) : Prop := up node = some (some parent)

/-- A node, or one that its chain leads through. -/
abbrev Above (up : α → Option (Option α)) : α → α → Prop := Relation.ReflTransGen (Under up)

theorem AtDepth.above {depth : ℕ} {ancestor : α} (placed : AtDepth up node depth)
    (above : Above up node ancestor) : ∃ less ≤ depth, AtDepth up ancestor less := by
  induction above with
  | refl => exact ⟨depth, le_rfl, placed⟩
  | tail _ hangs ih =>
    obtain ⟨less, le, placed⟩ := ih
    cases placed with
    | root top =>
      unfold Under at hangs
      rw [top] at hangs
      cases hangs
    | child other above =>
      unfold Under at hangs
      rw [hangs] at other
      cases other
      exact ⟨_, (Nat.le_succ _).trans le, above⟩

section Graft

variable [DecidableEq α] {child : α}

/-- A root is hung under a node. -/
def graft (up : α → Option (Option α)) (child parent : α) : α → Option (Option α) :=
  Function.update up child (some (some parent))

theorem graft_of_ne (other : node ≠ child) : graft up child parent node = up node :=
  Function.update_of_ne other _ _

theorem graft_self : graft up child parent child = some (some parent) := Function.update_self _ _ _

theorem AtDepth.graft {depth : ℕ} (placed : AtDepth up node depth)
    (clear : ¬ Above up node child) : AtDepth (graft up child parent) node depth := by
  induction placed with
  | root top =>
    have other : _ ≠ child := fun same => clear (same ▸ .refl)
    exact .root ((graft_of_ne other).trans top)
  | child hangs _ ih =>
    have other : _ ≠ child := fun same => clear (same ▸ .refl)
    exact .child ((graft_of_ne other).trans hangs)
      (ih fun above => clear (Relation.ReflTransGen.head hangs above))

theorem Rooted.graft (rooted : Rooted up node) (above : Rooted up parent)
    (clear : ¬ Above up parent child) : Rooted (graft up child parent) node := by
  obtain ⟨height, above⟩ := above
  have under : Rooted (Foundation.graft up child parent) child :=
    .child graft_self ⟨height, above.graft clear⟩
  obtain ⟨depth, rooted⟩ := rooted
  induction rooted with
  | @root node top =>
    by_cases same : node = child
    · exact same ▸ under
    · exact .root ((graft_of_ne same).trans top)
  | @child node parent depth hangs _ ih =>
    by_cases same : node = child
    · exact same ▸ under
    · exact .child ((graft_of_ne same).trans hangs) ih

theorem not_rooted_graft (top : up child = some none) (above : Above up parent child) :
    ¬ Rooted (graft up child parent) child := by
  have still : Above (graft up child parent) parent child := by
    refine Relation.ReflTransGen.mono ?_ _ _ above
    intro node next hangs
    have other : node ≠ child := by
      rintro rfl
      unfold Under at hangs
      rw [top] at hangs
      cases hangs
    exact (graft_of_ne other).trans hangs
  rintro ⟨depth, placed⟩
  have placed' := placed
  cases placed with
  | root top =>
    rw [graft_self] at top
    cases top
  | child hangs higher =>
    rw [graft_self] at hangs
    cases hangs
    obtain ⟨less, le, again⟩ := higher.above still
    have same := placed'.unique again
    omega

end Graft

end Foundation
