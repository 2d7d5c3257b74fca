import Mathlib
import Giskard.Model.WorktreeSeeding

/-!
# What a copied link means

The depth counter says whether the target climbs above the root at any point of its way. If it does
not, the names alone lead to the same place below any root, so the target can stay; if it does, the
rewriting loop walks the same way from the link's directory in the checkout.
-/

set_option autoImplicit false

namespace Foundation

variable {ν : Type}

/-- Where pieces lead from a path: two dots lead to what it is in, and the root is in itself. -/
def PathBuf.follow (dir : PathBuf ν) (pieces : List (PathPiece ν)) : PathBuf ν :=
  match pieces with
  | [] => dir
  | .stay :: rest => dir.follow rest
  | .parent :: rest => (dir.parent.getD dir).follow rest
  | .name name :: rest => (dir.push name).follow rest

theorem resolve_moving (dir : List ν) (pieces : List (PathPiece ν)) :
    resolve dir (pieces.filter fun piece => !piece.isStay) = resolve dir pieces := by
  induction pieces generalizing dir with
  | nil => rfl
  | cons piece pieces ih =>
    cases piece with
    | stay => exact ih dir
    | parent => exact ih _
    | name name => exact ih _

theorem resolve_components (dir : List ν) (path : PathBuf ν) :
    resolve dir path.components = resolve dir path.pieces := by
  unfold PathBuf.components
  split
  · next rest _ same =>
    rw [same]
    exact resolve_moving dir rest
  · exact resolve_moving dir _

theorem staysWithin_moving {depth : ℕ} {pieces : List (PathPiece ν)} :
    StaysWithin depth (pieces.filter fun piece => !piece.isStay) ↔ StaysWithin depth pieces := by
  induction pieces generalizing depth with
  | nil => exact Iff.rfl
  | cons piece pieces ih =>
    cases piece with
    | stay => exact ih.trans staysWithin_cons_stay.symm
    | name name => exact (staysWithin_cons_name.trans ih).trans staysWithin_cons_name.symm
    | parent =>
      cases depth with
      | zero => exact iff_of_false not_staysWithin_parent not_staysWithin_parent
      | succ depth =>
        exact (staysWithin_cons_parent.trans ih).trans staysWithin_cons_parent.symm

theorem staysWithin_components {depth : ℕ} {path : PathBuf ν} :
    StaysWithin depth path.components ↔ StaysWithin depth path.pieces := by
  unfold PathBuf.components
  split
  · next rest _ same =>
    rw [same, staysWithin_cons_stay, staysWithin_cons_stay]
    exact staysWithin_moving
  · exact staysWithin_moving

namespace PathBuf

theorem names_of_forall {pieces : List (PathPiece ν)} (named : ∀ piece ∈ pieces, piece.isName = true) :
    ∃ names : List ν, names.map PathPiece.name = pieces := by
  have inside : pieces ∈ Set.range (List.map (@PathPiece.name ν)) := by
    rw [Set.range_list_map]
    intro piece member
    cases piece with
    | name name => exact ⟨name, rfl⟩
    | stay => cases named _ member
    | parent => cases named _ member
  exact inside

theorem filter_names (names : List ν) :
    (names.map PathPiece.name).filter (fun piece => !piece.isStay) = names.map PathPiece.name :=
  List.filter_eq_self.2 fun piece member => by
    obtain ⟨name, -, rfl⟩ := List.mem_map.1 member
    rfl

/-- An absolute path that is these names and no more. -/
def Names (path : PathBuf ν) (names : List ν) : Prop :=
  path.isAbsolute = true ∧ path.components = names.map PathPiece.name

variable {path : PathBuf ν} {names : List ν}

theorem components_absolute (absolute : path.isAbsolute = true) :
    path.components = path.pieces.filter fun piece => !piece.isStay := by
  unfold components
  rw [absolute]

theorem lexical_join {base : PathBuf ν} (below : path.isAbsolute = false) :
    (base.join path).lexical = resolve base.lexical path.pieces := by
  unfold join lexical
  rw [below]
  exact resolve_concat [] base.pieces path.pieces

theorem Names.lexical (same : path.Names names) : path.lexical = names := by
  rw [PathBuf.lexical, ← resolve_components, same.2, resolve_names, List.nil_append]

theorem Names.join (same : path.Names names) (more : List ν) :
    (path.join ⟨false, more.map PathPiece.name⟩).Names (names ++ more) := by
  obtain ⟨absolute, whole⟩ := same
  refine ⟨absolute, ?_⟩
  rw [components_absolute absolute] at whole
  rw [components_absolute (by exact absolute), List.map_append, ← whole]
  exact (List.filter_append _ _).trans (congrArg _ (filter_names more))

theorem Names.push (same : path.Names names) (name : ν) :
    (path.push name).Names (names ++ [name]) := same.join [name]

theorem Names.pop (same : path.Names names) : path.pop.Names names.dropLast := by
  unfold PathBuf.pop parent
  obtain ⟨absolute, whole⟩ := same
  rw [whole]
  split
  · next none =>
    rw [List.map_eq_nil_iff.1 none] at whole ⊢
    exact ⟨absolute, whole⟩
  · refine ⟨absolute, ?_⟩
    rw [Option.getD_some, components_absolute (by exact absolute), ← List.map_dropLast]
    exact filter_names _

theorem Names.follow (same : path.Names names) (pieces : List (PathPiece ν)) :
    (path.follow pieces).Names (resolve names pieces) := by
  induction pieces generalizing path names with
  | nil => exact same
  | cons piece pieces ih =>
    cases piece with
    | stay => exact ih same
    | parent => exact ih same.pop
    | name name => exact ih (same.push name)

theorem follow_absolute (absolute : path.isAbsolute = true) (pieces : List (PathPiece ν)) :
    (path.follow pieces).isAbsolute = true := by
  induction pieces generalizing path with
  | nil => exact absolute
  | cons piece pieces ih =>
    cases piece with
    | stay => exact ih absolute
    | name name => exact ih (by exact absolute)
    | parent =>
      refine ih ?_
      unfold parent
      split <;> exact absolute

theorem follow_moving (path : PathBuf ν) (pieces : List (PathPiece ν)) :
    path.follow (pieces.filter fun piece => !piece.isStay) = path.follow pieces := by
  induction pieces generalizing path with
  | nil => rfl
  | cons piece pieces ih =>
    cases piece with
    | stay => exact ih path
    | parent => exact ih _
    | name name => exact ih _

theorem follow_components (dir path : PathBuf ν) :
    dir.follow path.components = dir.follow path.pieces := by
  unfold components
  split
  · next rest _ same =>
    rw [same]
    exact follow_moving dir rest
  · exact follow_moving dir _

end PathBuf

end Foundation

namespace Giskard.Worktree

open Foundation

variable {ν : Type}

theorem escapes_eq_false {depth : ℕ} {components : List (PathPiece ν)} :
    escapes depth components = false ↔ StaysWithin depth components := by
  induction components generalizing depth with
  | nil => exact iff_of_true rfl (staysWithin_nil depth)
  | cons component components ih =>
    cases component with
    | stay => exact Iff.trans (by cases depth <;> exact ih) staysWithin_cons_stay.symm
    | name name => exact Iff.trans (by cases depth <;> exact ih) staysWithin_cons_name.symm
    | parent =>
      cases depth with
      | zero => exact iff_of_false Bool.false_ne_true.symm not_staysWithin_parent
      | succ depth => exact ih.trans staysWithin_cons_parent.symm

theorem foldl_rewriteStep (dir : PathBuf ν) (components : List (PathPiece ν)) :
    components.foldl rewriteStep dir = dir.follow components := by
  induction components generalizing dir with
  | nil => rfl
  | cons component components ih =>
    cases component with
    | stay => exact ih dir
    | parent => exact ih _
    | name name => exact ih _

/-- The directory of a link. -/
def linkDir (relative : PathBuf ν) : PathBuf ν := relative.parent.getD .empty

theorem linkDir_names {relative : PathBuf ν} (plain : isPlainRelative relative = true) :
    ∃ names : List ν, linkDir relative = ⟨false, names.map PathPiece.name⟩ ∧
      (linkDir relative).components.length = names.length := by
  have whole (names : List ν) (same : linkDir relative = ⟨false, names.map PathPiece.name⟩) :
      (linkDir relative).components.length = names.length := by
    rw [same]
    cases names with
    | nil => rfl
    | cons name names =>
      exact (congrArg List.length (PathBuf.filter_names (name :: names))).trans
        (List.length_map _)
  unfold isPlainRelative at plain
  rw [Bool.and_eq_true, Bool.not_eq_true', List.all_eq_true] at plain
  obtain ⟨names, same⟩ := PathBuf.names_of_forall fun component member =>
    plain.2 component (List.mem_of_mem_dropLast member)
  have dir : ∃ names : List ν, linkDir relative = ⟨false, names.map PathPiece.name⟩ := by
    unfold linkDir PathBuf.parent
    split
    · exact ⟨[], rfl⟩
    · exact ⟨names, by rw [Option.getD_some, plain.1, same]⟩
  exact dir.imp fun names same => ⟨same, whole names same⟩

/-- No part of a relative target climbs above the root of the repository. -/
def StaysInside (relative target : PathBuf ν) : Prop :=
  StaysWithin (linkDir relative).components.length target.pieces

instance (relative target : PathBuf ν) : Decidable (StaysInside relative target) :=
  decidable_of_iff (escapes (linkDir relative).components.length target.components = false)
    (escapes_eq_false.trans staysWithin_components)

theorem escapes_eq_true {relative target : PathBuf ν} :
    escapes (linkDir relative).components.length target.components = true ↔
      ¬StaysInside relative target := by
  rw [← Bool.not_eq_false, escapes_eq_false, staysWithin_components, StaysInside]

section Target

variable {root relative target : PathBuf ν}

theorem worktreeLinkTarget_inside (below : target.isAbsolute = false)
    (inside : StaysInside relative target) : worktreeLinkTarget root relative target = target := by
  have stays : escapes (linkDir relative).components.length target.components = false := by
    rw [escapes_eq_false, staysWithin_components]
    exact inside
  unfold worktreeLinkTarget
  rw [if_neg (by rw [below]; exact Bool.false_ne_true)]
  change (if !escapes (linkDir relative).components.length target.components then _ else _) = _
  rw [stays]
  rfl

theorem worktreeLinkTarget_outside (below : target.isAbsolute = false)
    (outside : ¬StaysInside relative target) :
    worktreeLinkTarget root relative target =
      (root.join (linkDir relative)).follow target.pieces := by
  unfold worktreeLinkTarget
  rw [if_neg (by rw [below]; exact Bool.false_ne_true)]
  change (if !escapes (linkDir relative).components.length target.components then _
    else target.components.foldl rewriteStep (root.join (linkDir relative))) = _
  rw [escapes_eq_true.2 outside, foldl_rewriteStep, PathBuf.follow_components]
  rfl

theorem lexical_inside (checkout : PathBuf ν) (plain : isPlainRelative relative = true)
    (below : target.isAbsolute = false) (inside : StaysInside relative target) :
    ((checkout.join (linkDir relative)).join target).lexical =
      checkout.lexical ++ resolve [] ((linkDir relative).pieces ++ target.pieces) := by
  obtain ⟨names, dir, depth⟩ := linkDir_names plain
  have stays : StaysWithin names.length target.pieces := by rwa [StaysInside, depth] at inside
  rw [PathBuf.lexical_join below, dir, PathBuf.lexical_join rfl, resolve_concat, resolve_names,
    resolve_names, resolve_append stays, List.nil_append]

theorem components_outside (absolute : root.isAbsolute = true)
    (names : ∀ component ∈ root.components, component.isName = true)
    (plain : isPlainRelative relative = true) (below : target.isAbsolute = false) :
    ((root.join (linkDir relative)).follow target.pieces).components =
      ((root.join (linkDir relative)).join target).lexical.map PathPiece.name := by
  obtain ⟨rootNames, same⟩ := PathBuf.names_of_forall names
  obtain ⟨dirNames, dir, -⟩ := linkDir_names plain
  have joined : (root.join (linkDir relative)).Names (rootNames ++ dirNames) := by
    rw [dir]
    exact PathBuf.Names.join ⟨absolute, same.symm⟩ dirNames
  rw [(joined.follow target.pieces).2, PathBuf.lexical_join below, joined.lexical]

end Target

/-- A link means the same in the worktree: an absolute target stays; a relative one stays exactly if
no part of it climbs above the root, and then leads to the same place below any root; and otherwise
it becomes the path that it leads to from the link's directory in the checkout.
SOURCE: worktree.rs:804-843. -/
theorem link_target_means_same (root relative target : PathBuf ν)
    (absolute : root.isAbsolute = true) (plain : isPlainRelative relative = true) :
    (target.isAbsolute = true → worktreeLinkTarget root relative target = target) ∧
      (target.isAbsolute = false →
        (worktreeLinkTarget root relative target = target ↔ StaysInside relative target) ∧
        (StaysInside relative target → ∀ checkout : PathBuf ν,
          ((checkout.join (linkDir relative)).join target).lexical =
            checkout.lexical ++ resolve [] ((linkDir relative).pieces ++ target.pieces)) ∧
        (¬StaysInside relative target →
          worktreeLinkTarget root relative target =
              (root.join (linkDir relative)).follow target.pieces ∧
            (worktreeLinkTarget root relative target).isAbsolute = true ∧
            ((∀ component ∈ root.components, component.isName = true) →
              (worktreeLinkTarget root relative target).components =
                ((root.join (linkDir relative)).join target).lexical.map PathPiece.name))) := by
  have reached (outside : ¬StaysInside relative target) :
      ((root.join (linkDir relative)).follow target.pieces).isAbsolute = true := by
    obtain ⟨names, dir, -⟩ := linkDir_names plain
    refine PathBuf.follow_absolute ?_ target.pieces
    rw [dir]
    exact absolute
  refine ⟨fun rooted => if_pos rooted, fun below => ⟨⟨fun same => ?_,
    worktreeLinkTarget_inside below⟩, fun inside checkout => lexical_inside checkout plain below inside,
    fun outside => ?_⟩⟩
  · by_contra outside
    have rooted := reached outside
    rw [← worktreeLinkTarget_outside below outside, same, below] at rooted
    exact Bool.false_ne_true rooted
  · rw [worktreeLinkTarget_outside below outside]
    exact ⟨rfl, reached outside, fun names => components_outside absolute names plain below⟩

/-- In the checkout at `/1/2`, the link `3/4` to `../../5` leads to `/1/5`. -/
theorem link_target_means_same_sample :
    (worktreeLinkTarget ⟨true, [.name 1, .name 2]⟩ ⟨false, [.name 3, .name 4]⟩
      ⟨false, [.parent, .parent, .name 5]⟩).components = [.name 1, .name 5] :=
  ((link_target_means_same ⟨true, [.name 1, .name 2]⟩ ⟨false, [.name 3, .name 4]⟩
    ⟨false, [.parent, .parent, .name 5]⟩ rfl rfl).2 rfl).2.2 (by decide) |>.2.2 (by decide)

end Giskard.Worktree
