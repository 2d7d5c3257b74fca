import Mathlib

/-!
# Paths

A path is read from left to right, one piece at a time: nothing or a dot stays where one is, two dots
lead to the parent, and a name leads one level down. `resolve` reads pieces by their names alone, as
if there were no links; at the root, two dots stay there. Pieces that never climb out of the
directory they start in resolve the same wherever that directory is (`resolve_append`).
-/

set_option autoImplicit false

namespace Foundation

variable {ν : Type}

/-- What stands between two slashes. -/
inductive PathPiece (ν : Type) where
  | stay
  | parent
  | name (name : ν)
  deriving DecidableEq

namespace PathPiece

def isStay : PathPiece ν → Bool
  | .stay => true
  | _ => false

def isParent : PathPiece ν → Bool
  | .parent => true
  | _ => false

def isName : PathPiece ν → Bool
  | .name _ => true
  | _ => false

/-- Where a piece leads from a directory, the names of which go from the root down. -/
def step (dir : List ν) : PathPiece ν → List ν
  | .stay => dir
  | .parent => dir.dropLast
  | .name n => dir ++ [n]

end PathPiece

/-- Where pieces lead from a directory, by their names alone. -/
def resolve (dir : List ν) (pieces : List (PathPiece ν)) : List ν := pieces.foldl PathPiece.step dir

/-- No part of the way climbs out of the directory that is `depth` levels up. -/
def StaysWithin (depth : ℕ) (pieces : List (PathPiece ν)) : Prop :=
  ∀ front, front <+: pieces → front.countP PathPiece.isParent ≤ depth + front.countP PathPiece.isName

theorem staysWithin_nil (depth : ℕ) : StaysWithin depth ([] : List (PathPiece ν)) := by
  intro front before
  rw [List.prefix_nil.1 before]
  exact Nat.zero_le _

theorem staysWithin_cons {depth : ℕ} {piece : PathPiece ν} {pieces : List (PathPiece ν)} :
    StaysWithin depth (piece :: pieces) ↔ ∀ front, front <+: pieces →
      (piece :: front).countP PathPiece.isParent ≤ depth + (piece :: front).countP PathPiece.isName := by
  constructor
  · exact fun stays front before => stays _ (List.prefix_cons_iff.2 (.inr ⟨front, rfl, before⟩))
  · intro stays front before
    rcases List.prefix_cons_iff.1 before with rfl | ⟨rest, rfl, later⟩
    · exact Nat.zero_le _
    · exact stays rest later

theorem staysWithin_cons_stay {depth : ℕ} {pieces : List (PathPiece ν)} :
    StaysWithin depth (.stay :: pieces) ↔ StaysWithin depth pieces := by
  rw [staysWithin_cons]
  refine forall₂_congr fun front _ => ?_
  rw [List.countP_cons_of_neg Bool.false_ne_true, List.countP_cons_of_neg Bool.false_ne_true]

theorem staysWithin_cons_name {depth : ℕ} {name : ν} {pieces : List (PathPiece ν)} :
    StaysWithin depth (.name name :: pieces) ↔ StaysWithin (depth + 1) pieces := by
  rw [staysWithin_cons]
  refine forall₂_congr fun front _ => ?_
  rw [List.countP_cons_of_neg Bool.false_ne_true,
    List.countP_cons_of_pos (by rfl)]
  omega

theorem not_staysWithin_parent {pieces : List (PathPiece ν)} :
    ¬StaysWithin 0 (.parent :: pieces) := by
  intro stays
  exact absurd (staysWithin_cons.1 stays [] List.nil_prefix) (Nat.not_succ_le_zero 0)

theorem staysWithin_cons_parent {depth : ℕ} {pieces : List (PathPiece ν)} :
    StaysWithin (depth + 1) (.parent :: pieces) ↔ StaysWithin depth pieces := by
  rw [staysWithin_cons]
  refine forall₂_congr fun front _ => ?_
  rw [List.countP_cons_of_pos (by rfl), List.countP_cons_of_neg Bool.false_ne_true]
  omega

@[simp] theorem resolve_nil (dir : List ν) : resolve dir [] = dir := rfl

@[simp] theorem resolve_cons (dir : List ν) (piece : PathPiece ν) (pieces : List (PathPiece ν)) :
    resolve dir (piece :: pieces) = resolve (piece.step dir) pieces := rfl

theorem resolve_concat (dir : List ν) (front back : List (PathPiece ν)) :
    resolve dir (front ++ back) = resolve (resolve dir front) back := List.foldl_append

theorem resolve_names (dir names : List ν) : resolve dir (names.map PathPiece.name) = dir ++ names := by
  induction names generalizing dir with
  | nil => exact (List.append_nil dir).symm
  | cons name names ih =>
    rw [List.map_cons, resolve_cons, ih, PathPiece.step, List.append_assoc, List.singleton_append]

/-- Pieces that stay within a directory lead to the same place below any directory. -/
theorem resolve_append {pieces : List (PathPiece ν)} {dir : List ν}
    (stays : StaysWithin dir.length pieces) (base : List ν) :
    resolve (base ++ dir) pieces = base ++ resolve dir pieces := by
  induction pieces generalizing dir with
  | nil => rfl
  | cons piece pieces ih =>
    rw [resolve_cons, resolve_cons]
    cases piece with
    | stay => exact ih (staysWithin_cons_stay.1 stays)
    | name name =>
      have deeper : StaysWithin (dir ++ [name]).length pieces := by
        rw [List.length_append, List.length_singleton]
        exact staysWithin_cons_name.1 stays
      have step : PathPiece.step (base ++ dir) (.name name) = base ++ (dir ++ [name]) :=
        List.append_assoc _ _ _
      rw [step, ih deeper]
      rfl
    | parent =>
      induction dir using List.reverseRecOn with
      | nil => exact absurd stays not_staysWithin_parent
      | append_singleton dir name =>
        rw [List.length_append, List.length_singleton] at stays
        have step : PathPiece.step (base ++ (dir ++ [name])) .parent = base ++ dir := by
          rw [PathPiece.step, ← List.append_assoc, List.dropLast_concat]
        have inner : PathPiece.step (dir ++ [name]) .parent = dir := List.dropLast_concat
        rw [step, inner, ih (staysWithin_cons_parent.1 stays)]

/-! ## Paths as the program holds them -/

/-- A path: whether it starts at the root, and its pieces. The empty path has none. -/
structure PathBuf (ν : Type) where
  isAbsolute : Bool
  pieces : List (PathPiece ν)
  deriving DecidableEq

namespace PathBuf

def empty : PathBuf ν := ⟨false, []⟩

/-- The pieces without those that stay, the first one of a relative path excepted. -/
def components (path : PathBuf ν) : List (PathPiece ν) :=
  match path.isAbsolute, path.pieces with
  | false, .stay :: rest => .stay :: rest.filter fun piece => !piece.isStay
  | _, pieces => pieces.filter fun piece => !piece.isStay

/-- A path made only of names, below no root. -/
def Plain (path : PathBuf ν) : Prop :=
  path.isAbsolute = false ∧ ∀ component ∈ path.components, component.isName = true

instance (path : PathBuf ν) : Decidable path.Plain :=
  inferInstanceAs (Decidable (_ ∧ ∀ _ ∈ _, _))

/-- The path without its last component. -/
def parent (path : PathBuf ν) : Option (PathBuf ν) :=
  if path.components = [] then none else some ⟨path.isAbsolute, path.components.dropLast⟩

/-- An absolute path replaces the one it is joined to. -/
def join (base path : PathBuf ν) : PathBuf ν :=
  if path.isAbsolute then path else ⟨base.isAbsolute, base.pieces ++ path.pieces⟩

def pop (path : PathBuf ν) : PathBuf ν := path.parent.getD path

def push (path : PathBuf ν) (name : ν) : PathBuf ν :=
  ⟨path.isAbsolute, path.pieces ++ [.name name]⟩

/-- Where an absolute path leads, by its names alone. -/
def lexical (path : PathBuf ν) : List ν := resolve [] path.pieces

end PathBuf

end Foundation
