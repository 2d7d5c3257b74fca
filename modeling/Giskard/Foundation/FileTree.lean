import Mathlib
import Giskard.Foundation.Paths

/-!
# File trees with links

A tree has directories, files and links. A path is walked piece by piece, and a link on the way is
replaced by its target; after too many links the walk gives up. A walk ends at an entry, at a name
that is free in a directory, or in an error. What creates an entry does so where a walk ended free,
so that a tree only grows, and a walk that has ended at an entry still does (`Walks.extends`).
-/

set_option autoImplicit false

namespace Foundation

/-- What stands at a place of a tree. -/
inductive TreeEntry (ν α : Type) where
  | dir
  | file (content : α)
  | link (target : PathBuf ν)

namespace TreeEntry

variable {ν α : Type}

def isDir : TreeEntry ν α → Bool
  | .dir => true
  | _ => false

theorem isDir_iff {entry : TreeEntry ν α} : entry.isDir = true ↔ entry = .dir := by
  cases entry <;> simp [isDir]

end TreeEntry

/-- What stands at each place, the names of which go from the root down. Whatever stands somewhere
stands in a directory. -/
structure FileTree (ν α : Type) where
  entry : List ν → Option (TreeEntry ν α)
  root : entry [] = some .dir
  inDir : ∀ place name found, entry (place ++ [name]) = some found → entry place = some .dir

/-- Why an operation on a path fails. -/
inductive PathError where
  | notFound
  | notADirectory
  | tooManyLinks
  | alreadyExists
  | isADirectory
  | notALink
  | invalidInput
  deriving DecidableEq

/-- Where a walk ends: at an entry, with the links that it could still follow; at a free name of a
directory; or in an error. -/
inductive Spot (ν α : Type) where
  | found (links : ℕ) (place : List ν) (entry : TreeEntry ν α)
  | free (dir : List ν) (name : ν)
  | error (error : PathError)

/-- Why nothing is found beyond a spot, unless a directory is there. -/
def Spot.beyond {ν α : Type} : Spot ν α → Option PathError
  | .found _ _ .dir => none
  | .found _ _ _ => some .notADirectory
  | .free _ _ => some .notFound
  | .error e => some e

/-- The path of names below a path. -/
def PathBuf.below {ν : Type} (base : PathBuf ν) (names : List ν) : PathBuf ν :=
  ⟨base.isAbsolute, base.pieces ++ names.map .name⟩

namespace FileTree

variable {ν α : Type}

/-- A tree of nothing but its root. -/
def bare [DecidableEq ν] : FileTree ν α where
  entry place := if place = [] then some .dir else none
  root := if_pos rfl
  inDir place name found stands := by
    rw [if_neg (List.append_ne_nil_of_right_ne_nil _ (List.cons_ne_nil _ _))] at stands
    cases stands

theorem entry_append {tree : FileTree ν α} {place more : List ν} {found : TreeEntry ν α}
    (stands : tree.entry (place ++ more) = some found) (some_ : more ≠ []) :
    tree.entry place = some .dir := by
  induction more using List.reverseRecOn generalizing found with
  | nil => exact absurd rfl some_
  | append_singleton more name ih =>
    rw [← List.append_assoc] at stands
    have above := tree.inDir _ _ _ stands
    by_cases nothing : more = []
    · rwa [nothing, List.append_nil] at above
    · exact ih above nothing

theorem entry_prefix {tree : FileTree ν α} {place above names : List ν} {found : TreeEntry ν α}
    (stands : tree.entry (place ++ names) = some found) (part : above <+: names)
    (less : above ≠ names) : tree.entry (place ++ above) = some .dir := by
  obtain ⟨more, rfl⟩ := part
  rw [← List.append_assoc] at stands
  refine entry_append stands ?_
  rintro rfl
  exact less (List.append_nil _).symm

section Walking

variable (tree : FileTree ν α) (follow : Bool)

/-- A walk up to the first link that it follows. A link in the last place is followed on demand. -/
def pass (links : ℕ) (onLink : List ν → List (PathPiece ν) → Spot ν α) :
    List ν → List (PathPiece ν) → Spot ν α
  | dir, [] => .found links dir .dir
  | dir, .stay :: rest => pass links onLink dir rest
  | dir, .parent :: rest => pass links onLink dir.dropLast rest
  | dir, .name n :: rest =>
    match tree.entry (dir ++ [n]) with
    | none => if rest.isEmpty then .free dir n else .error .notFound
    | some .dir => pass links onLink (dir ++ [n]) rest
    | some (.file content) =>
      if rest.isEmpty then .found links (dir ++ [n]) (.file content) else .error .notADirectory
    | some (.link target) =>
      if rest.isEmpty && !follow then .found links (dir ++ [n]) (.link target)
      else onLink (if target.isAbsolute then [] else dir) (target.pieces ++ rest)

/-- A walk that follows so many links at most. -/
def walk : ℕ → List ν → List (PathPiece ν) → Spot ν α
  | 0 => tree.pass follow 0 fun _ _ => .error .tooManyLinks
  | links + 1 => tree.pass follow (links + 1) (walk links)

variable {tree follow}

@[simp] theorem walk_nil (links : ℕ) (dir : List ν) :
    tree.walk follow links dir [] = .found links dir .dir := by
  cases links <;> rfl

@[simp] theorem walk_stay (links : ℕ) (dir : List ν) (rest : List (PathPiece ν)) :
    tree.walk follow links dir (.stay :: rest) = tree.walk follow links dir rest := by
  cases links <;> rfl

@[simp] theorem walk_parent (links : ℕ) (dir : List ν) (rest : List (PathPiece ν)) :
    tree.walk follow links dir (.parent :: rest) = tree.walk follow links dir.dropLast rest := by
  cases links <;> rfl

/-- After a link. -/
def walkOn (tree : FileTree ν α) (follow : Bool) (links : ℕ) (dir : List ν)
    (pieces : List (PathPiece ν)) : Spot ν α :=
  match links with
  | 0 => .error .tooManyLinks
  | links + 1 => tree.walk follow links dir pieces

theorem walk_name (links : ℕ) (dir : List ν) (n : ν) (rest : List (PathPiece ν)) :
    tree.walk follow links dir (.name n :: rest) =
      match tree.entry (dir ++ [n]) with
      | none => if rest.isEmpty then .free dir n else .error .notFound
      | some .dir => tree.walk follow links (dir ++ [n]) rest
      | some (.file content) =>
        if rest.isEmpty then .found links (dir ++ [n]) (.file content) else .error .notADirectory
      | some (.link target) =>
        if rest.isEmpty && !follow then .found links (dir ++ [n]) (.link target)
        else tree.walkOn follow links (if target.isAbsolute then [] else dir)
          (target.pieces ++ rest) := by
  cases links <;> rfl

/-- The ways that a walk can go. -/
inductive Walks (tree : FileTree ν α) (follow : Bool) :
    ℕ → List ν → List (PathPiece ν) → Spot ν α → Prop
  | done (links : ℕ) (dir : List ν) : Walks tree follow links dir [] (.found links dir .dir)
  | stay {links : ℕ} {dir : List ν} {rest : List (PathPiece ν)} {spot : Spot ν α}
      (on : Walks tree follow links dir rest spot) :
      Walks tree follow links dir (.stay :: rest) spot
  | parent {links : ℕ} {dir : List ν} {rest : List (PathPiece ν)} {spot : Spot ν α}
      (on : Walks tree follow links dir.dropLast rest spot) :
      Walks tree follow links dir (.parent :: rest) spot
  | down {links : ℕ} {dir : List ν} {n : ν} {rest : List (PathPiece ν)} {spot : Spot ν α}
      (here : tree.entry (dir ++ [n]) = some .dir)
      (on : Walks tree follow links (dir ++ [n]) rest spot) :
      Walks tree follow links dir (.name n :: rest) spot
  | free (links : ℕ) {dir : List ν} {n : ν} (here : tree.entry (dir ++ [n]) = none) :
      Walks tree follow links dir [.name n] (.free dir n)
  | missing (links : ℕ) {dir : List ν} {n : ν} {rest : List (PathPiece ν)}
      (here : tree.entry (dir ++ [n]) = none) (more : rest ≠ []) :
      Walks tree follow links dir (.name n :: rest) (.error .notFound)
  | file (links : ℕ) {dir : List ν} {n : ν} {content : α}
      (here : tree.entry (dir ++ [n]) = some (.file content)) :
      Walks tree follow links dir [.name n] (.found links (dir ++ [n]) (.file content))
  | through (links : ℕ) {dir : List ν} {n : ν} {rest : List (PathPiece ν)} {content : α}
      (here : tree.entry (dir ++ [n]) = some (.file content)) (more : rest ≠ []) :
      Walks tree follow links dir (.name n :: rest) (.error .notADirectory)
  | link (links : ℕ) {dir : List ν} {n : ν} {target : PathBuf ν}
      (here : tree.entry (dir ++ [n]) = some (.link target)) (stays : follow = false) :
      Walks tree follow links dir [.name n] (.found links (dir ++ [n]) (.link target))
  | followed {links : ℕ} {dir : List ν} {n : ν} {rest : List (PathPiece ν)} {target : PathBuf ν}
      {spot : Spot ν α} (here : tree.entry (dir ++ [n]) = some (.link target))
      (goes : rest ≠ [] ∨ follow = true)
      (on : Walks tree follow links (if target.isAbsolute then [] else dir)
        (target.pieces ++ rest) spot) :
      Walks tree follow (links + 1) dir (.name n :: rest) spot
  | exhausted {dir : List ν} {n : ν} {rest : List (PathPiece ν)} {target : PathBuf ν}
      (here : tree.entry (dir ++ [n]) = some (.link target))
      (goes : rest ≠ [] ∨ follow = true) :
      Walks tree follow 0 dir (.name n :: rest) (.error .tooManyLinks)

theorem Walks.eq {links : ℕ} {dir : List ν} {pieces : List (PathPiece ν)} {spot : Spot ν α}
    (walks : Walks tree follow links dir pieces spot) :
    tree.walk follow links dir pieces = spot := by
  have ahead {rest : List (PathPiece ν)} (goes : rest ≠ [] ∨ follow = true) :
      ¬(rest.isEmpty && !follow) = true := by
    rcases goes with more | follows <;> simp [*]
  induction walks with
  | done => exact walk_nil _ _
  | stay on ih => rw [walk_stay, ih]
  | parent on ih => rw [walk_parent, ih]
  | down here on ih => rw [walk_name, here]; exact ih
  | free links here => rw [walk_name, here]; rfl
  | missing links here more => rw [walk_name, here]; exact if_neg (by simpa using more)
  | file links here => rw [walk_name, here]; rfl
  | through links here more => rw [walk_name, here]; exact if_neg (by simpa using more)
  | link links here stays => rw [walk_name, here, stays]; rfl
  | followed here goes on ih => rw [walk_name, here]; exact (if_neg (ahead goes)).trans ih
  | exhausted here goes => rw [walk_name, here]; exact if_neg (ahead goes)

theorem walks_walk (links : ℕ) (dir : List ν) (pieces : List (PathPiece ν)) :
    Walks tree follow links dir pieces (tree.walk follow links dir pieces) := by
  induction links using Nat.strong_induction_on generalizing dir pieces with
  | _ links fewer =>
    induction pieces generalizing dir with
    | nil => rw [walk_nil]; exact .done links dir
    | cons piece rest ih =>
      cases piece with
      | stay => rw [walk_stay]; exact .stay (ih dir)
      | parent => rw [walk_parent]; exact .parent (ih _)
      | name n =>
        rw [walk_name]
        cases here : tree.entry (dir ++ [n]) with
        | none =>
          cases rest with
          | nil => exact .free links here
          | cons next rest => exact .missing links here (List.cons_ne_nil _ _)
        | some found =>
          cases found with
          | dir => exact .down here (ih _)
          | file content =>
            cases rest with
            | nil => exact .file links here
            | cons next rest => exact .through links here (List.cons_ne_nil _ _)
          | link target =>
            dsimp only
            split
            · next last =>
              rw [Bool.and_eq_true, List.isEmpty_iff, Bool.not_eq_true'] at last
              rw [last.1]
              exact .link links here last.2
            · next goes =>
              have goes : rest ≠ [] ∨ follow = true := by
                rw [Bool.and_eq_true, List.isEmpty_iff, Bool.not_eq_true', not_and_or,
                  Bool.not_eq_false] at goes
                exact goes
              cases links with
              | zero => exact .exhausted here goes
              | succ links => exact .followed here goes (fewer links (Nat.lt_succ_self _) _ _)

theorem walk_eq_iff {links : ℕ} {dir : List ν} {pieces : List (PathPiece ν)} {spot : Spot ν α} :
    tree.walk follow links dir pieces = spot ↔ Walks tree follow links dir pieces spot :=
  ⟨fun same => same ▸ walks_walk links dir pieces, Walks.eq⟩

theorem dropLast_dir {dir : List ν} (isDir : tree.entry dir = some .dir) :
    tree.entry dir.dropLast = some .dir := by
  induction dir using List.reverseRecOn with
  | nil => exact isDir
  | append_singleton dir n => rw [List.dropLast_concat]; exact tree.inDir dir n _ isDir

theorem start_dir {dir : List ν} (isDir : tree.entry dir = some .dir) (target : PathBuf ν) :
    tree.entry (if target.isAbsolute then [] else dir) = some .dir := by
  split
  · exact tree.root
  · exact isDir

/-- What a spot says stands there. -/
def Stands (tree : FileTree ν α) : Spot ν α → Prop
  | .found _ place found => tree.entry place = some found
  | .free dir n => tree.entry dir = some .dir ∧ tree.entry (dir ++ [n]) = none
  | .error _ => True

theorem Walks.stands {links : ℕ} {dir : List ν} {pieces : List (PathPiece ν)} {spot : Spot ν α}
    (walks : Walks tree follow links dir pieces spot) (isDir : tree.entry dir = some .dir) :
    tree.Stands spot := by
  induction walks with
  | done => exact isDir
  | stay on ih => exact ih isDir
  | parent on ih => exact ih (dropLast_dir isDir)
  | down here on ih => exact ih here
  | free links here => exact ⟨isDir, here⟩
  | missing links here more => trivial
  | file links here => exact here
  | through links here more => trivial
  | link links here stays => exact here
  | followed here goes on ih => exact ih (start_dir isDir _)
  | exhausted here goes => trivial

end Walking

/-! ## Larger trees -/

/-- What stands in one tree stands in the other. -/
def Extends (before after : FileTree ν α) : Prop :=
  ∀ place found, before.entry place = some found → after.entry place = some found

theorem Extends.refl (tree : FileTree ν α) : Extends tree tree := fun _ _ found => found

theorem Extends.trans {first second third : FileTree ν α} (one : Extends first second)
    (two : Extends second third) : Extends first third :=
  fun place found stands => two place found (one place found stands)

theorem Walks.extends {before after : FileTree ν α} (larger : Extends before after) {follow : Bool}
    {links : ℕ} {dir : List ν} {pieces : List (PathPiece ν)} {spot : Spot ν α}
    (walks : Walks before follow links dir pieces spot) {left : ℕ} {place : List ν}
    {found : TreeEntry ν α} (ends : spot = .found left place found) :
    Walks after follow links dir pieces spot := by
  induction walks with
  | done links dir => exact .done links dir
  | stay on ih => exact .stay (ih ends)
  | parent on ih => exact .parent (ih ends)
  | down here on ih => exact .down (larger _ _ here) (ih ends)
  | free links here => cases ends
  | missing links here more => cases ends
  | file links here => exact .file links (larger _ _ here)
  | through links here more => cases ends
  | link links here stays => exact .link links (larger _ _ here) stays
  | followed here goes on ih => exact .followed (larger _ _ here) goes (ih ends)
  | exhausted here goes => cases ends

theorem Walks.append {tree : FileTree ν α} {follow : Bool} {links left : ℕ} {dir place : List ν}
    {front back : List (PathPiece ν)} {spot spot' : Spot ν α}
    (walks : Walks tree true links dir front spot) (ends : spot = .found left place .dir)
    (further : back ≠ [] ∨ follow = true) (on : Walks tree follow left place back spot') :
    Walks tree follow links dir (front ++ back) spot' := by
  have goes {rest : List (PathPiece ν)} : rest ++ back ≠ [] ∨ follow = true :=
    further.imp_left fun more => List.append_ne_nil_of_right_ne_nil rest more
  induction walks with
  | done links dir =>
    cases ends
    exact on
  | stay _ ih => exact .stay (ih ends)
  | parent _ ih => exact .parent (ih ends)
  | down here _ ih => exact .down here (ih ends)
  | free links here => cases ends
  | missing links here more => cases ends
  | file links here => cases ends
  | through links here more => cases ends
  | link links here stays => cases ends
  | @followed links dir n rest target spot here _ _ ih =>
    refine .followed here goes ?_
    have on := ih ends
    rwa [List.append_assoc] at on
  | exhausted here goes => cases ends

/-- Beyond a spot that is no directory, a walk fails. -/
theorem Walks.beyond {tree : FileTree ν α} {follow : Bool} {links : ℕ} {dir : List ν}
    {front back : List (PathPiece ν)} {spot : Spot ν α} {error : PathError}
    (walks : Walks tree true links dir front spot) (ends : spot.beyond = some error)
    (more : back ≠ []) : Walks tree follow links dir (front ++ back) (.error error) := by
  have goes {rest : List (PathPiece ν)} : rest ++ back ≠ [] :=
    List.append_ne_nil_of_right_ne_nil rest more
  induction walks with
  | done links dir => cases ends
  | stay _ ih => exact .stay (ih ends)
  | parent _ ih => exact .parent (ih ends)
  | down here _ ih => exact .down here (ih ends)
  | free links here =>
    cases ends
    exact .missing links here more
  | missing links here _ =>
    cases ends
    exact .missing links here goes
  | file links here =>
    cases ends
    exact .through links here more
  | through links here _ =>
    cases ends
    exact .through links here goes
  | link links here stays => cases stays
  | @followed links dir n rest target spot here _ _ ih =>
    refine .followed here (.inl goes) ?_
    have on := ih ends
    rwa [List.append_assoc] at on
  | exhausted here _ =>
    cases ends
    exact .exhausted here (.inl goes)

/-- A walk to a directory does not depend on the pieces that stay. -/
theorem Walks.moving {tree : FileTree ν α} {links left : ℕ} {dir place : List ν}
    {pieces pieces' : List (PathPiece ν)} {spot : Spot ν α}
    (walks : Walks tree true links dir pieces spot) (ends : spot = .found left place .dir)
    (same : pieces'.filter (fun piece => !piece.isStay) = pieces.filter fun piece => !piece.isStay) :
    Walks tree true links dir pieces' spot := by
  have stays {front rest : List (PathPiece ν)} {links : ℕ} {dir : List ν} {spot : Spot ν α}
      (still : ∀ piece ∈ front, ¬(!piece.isStay) = true) (on : Walks tree true links dir rest spot) :
      Walks tree true links dir (front ++ rest) spot := by
    induction front with
    | nil => exact on
    | cons piece front ih =>
      cases piece with
      | stay => exact .stay (ih fun piece member => still piece (List.mem_cons_of_mem _ member))
      | parent => exact absurd rfl (still _ List.mem_cons_self)
      | name n => exact absurd rfl (still _ List.mem_cons_self)
  induction walks generalizing pieces' with
  | done links dir =>
    have walk := @stays pieces' [] links dir _ (List.filter_eq_nil_iff.1 same) (.done links dir)
    rwa [List.append_nil] at walk
  | stay _ ih => exact ih ends same
  | parent _ ih =>
    obtain ⟨front, rest, rfl, still, -, rest'⟩ := List.filter_eq_cons_iff.1 same
    exact stays still (.parent (ih ends rest'))
  | down here _ ih =>
    obtain ⟨front, rest, rfl, still, -, rest'⟩ := List.filter_eq_cons_iff.1 same
    exact stays still (.down here (ih ends rest'))
  | free links here => cases ends
  | missing links here more => cases ends
  | file links here => cases ends
  | through links here more => cases ends
  | link links here stays => cases ends
  | followed here _ _ ih =>
    obtain ⟨front, rest, rfl, still, -, rest'⟩ := List.filter_eq_cons_iff.1 same
    refine stays still (.followed here (.inr rfl) (ih ends ?_))
    rw [List.filter_append, List.filter_append, rest']
  | exhausted here goes => cases ends

/-- A walk that may follow its last link ends somewhere only if the one that may not does. -/
theorem Walks.unfollowed {tree : FileTree ν α} {links left : ℕ} {dir place : List ν}
    {pieces : List (PathPiece ν)} {found : TreeEntry ν α} {spot : Spot ν α}
    (walks : Walks tree true links dir pieces spot) (ends : spot = .found left place found) :
    ∃ left' place' found', Walks tree false links dir pieces (.found left' place' found') := by
  induction walks with
  | done links dir => exact ⟨_, _, _, .done links dir⟩
  | stay _ ih =>
    obtain ⟨_, _, _, on⟩ := ih ends
    exact ⟨_, _, _, .stay on⟩
  | parent _ ih =>
    obtain ⟨_, _, _, on⟩ := ih ends
    exact ⟨_, _, _, .parent on⟩
  | down here _ ih =>
    obtain ⟨_, _, _, on⟩ := ih ends
    exact ⟨_, _, _, .down here on⟩
  | free links here => cases ends
  | missing links here more => cases ends
  | file links here => exact ⟨_, _, _, .file links here⟩
  | through links here more => cases ends
  | link links here stays => cases stays
  | @followed links dir n rest target spot here _ _ ih =>
    by_cases last : rest = []
    · rw [last]
      exact ⟨_, _, _, .link (links + 1) here rfl⟩
    · obtain ⟨_, _, _, on⟩ := ih ends
      exact ⟨_, _, _, .followed here (.inl last) on⟩
  | exhausted here goes => cases ends

theorem Walks.file_followed {tree : FileTree ν α} {links left : ℕ} {dir place : List ν}
    {pieces : List (PathPiece ν)} {content : α} {spot : Spot ν α}
    (walks : Walks tree false links dir pieces spot) (ends : spot = .found left place (.file content)) :
    Walks tree true links dir pieces spot := by
  induction walks with
  | done links dir => cases ends
  | stay _ ih => exact .stay (ih ends)
  | parent _ ih => exact .parent (ih ends)
  | down here _ ih => exact .down here (ih ends)
  | free links here => cases ends
  | missing links here more => cases ends
  | file links here => exact .file links here
  | through links here more => cases ends
  | link links here stays => cases ends
  | followed here _ _ ih => exact .followed here (.inr rfl) (ih ends)
  | exhausted here goes => cases ends

/-- A walk that ends at a file or at a link was led there by a name. -/
theorem Walks.last_name {tree : FileTree ν α} {follow : Bool} {links left : ℕ}
    {dir place : List ν} {pieces : List (PathPiece ν)} {found : TreeEntry ν α} {spot : Spot ν α}
    (walks : Walks tree follow links dir pieces spot) (ends : spot = .found left place found)
    (noDir : found ≠ .dir) (some_ : pieces ≠ []) : ∃ front n, pieces = front ++ [.name n] := by
  have grow {piece : PathPiece ν} {rest : List (PathPiece ν)}
      (ih : rest ≠ [] → ∃ front n, rest = front ++ [.name n]) (more : rest ≠ []) :
      ∃ front n, piece :: rest = front ++ [.name n] := by
    obtain ⟨front, n, same⟩ := ih more
    exact ⟨piece :: front, n, by rw [same]; rfl⟩
  have nonempty {rest : List (PathPiece ν)} {links left : ℕ} {dir place : List ν}
      (on : Walks tree follow links dir rest (.found left place found)) : rest ≠ [] := by
    rintro rfl
    cases on
    exact noDir rfl
  induction walks with
  | done links dir => exact absurd rfl some_
  | stay on ih => exact grow (ih ends) (nonempty (ends ▸ on))
  | parent on ih => exact grow (ih ends) (nonempty (ends ▸ on))
  | down here on ih => exact grow (ih ends) (nonempty (ends ▸ on))
  | free links here => cases ends
  | missing links here more => cases ends
  | file links here => exact ⟨[], _, rfl⟩
  | through links here more => cases ends
  | link links here stays => exact ⟨[], _, rfl⟩
  | @followed links dir n rest target spot here _ on ih =>
    by_cases last : rest = []
    · exact ⟨[], n, by rw [last]; rfl⟩
    · refine grow (fun more => ?_) last
      obtain ⟨front, last, same⟩ := ih ends (List.append_ne_nil_of_right_ne_nil _ more)
      have lastPiece := congrArg List.getLast? same
      rw [List.getLast?_append_of_ne_nil _ more, List.getLast?_concat] at lastPiece
      obtain ⟨front, same⟩ := List.getLast?_eq_some_iff.1 lastPiece
      exact ⟨front, last, same⟩
  | exhausted here goes => cases ends

/-! ## Below a directory, where there are no links

A way is given by its pieces, which are names but for those that stay. -/

section Below

variable {tree : FileTree ν α} {follow : Bool} {dir names : List ν} {links : ℕ}

/-- The pieces are these names and no more. -/
def Way (pieces : List (PathPiece ν)) (names : List ν) : Prop :=
  pieces.filter (fun piece => !piece.isStay) = names.map .name

theorem way_names (names : List ν) : Way (names.map PathPiece.name) names :=
  List.filter_eq_self.2 fun piece member => by
    obtain ⟨name, -, rfl⟩ := List.mem_map.1 member
    rfl

theorem way_name {pieces : List (PathPiece ν)} {n : ν} (way : Way (.name n :: pieces) names) :
    ∃ rest, names = n :: rest ∧ Way pieces rest := by
  cases names with
  | nil => cases way
  | cons name rest =>
    obtain ⟨first, others⟩ := List.cons.inj way
    cases first
    exact ⟨rest, rfl, others⟩

theorem not_way_parent {pieces : List (PathPiece ν)} : ¬Way (.parent :: pieces) names := by
  intro way
  cases names with
  | nil => cases way
  | cons name rest => cases (List.cons.inj way).1

theorem way_concat {pieces : List (PathPiece ν)} {n : ν} (way : Way (pieces ++ [.name n]) names) :
    ∃ front, names = front ++ [n] ∧ Way pieces front := by
  have split : names.map PathPiece.name =
      pieces.filter (fun piece => !piece.isStay) ++ [PathPiece.name n] :=
    way.symm.trans (List.filter_append _ _)
  obtain ⟨front, last, rfl, before, after⟩ := List.map_eq_append_iff.1 split
  obtain ⟨m, rfl, same⟩ := List.map_eq_singleton_iff.1 after
  cases same
  exact ⟨front, rfl, before.symm⟩

theorem Walks.way {pieces rest : List (PathPiece ν)} {spot : Spot ν α} (way : Way pieces names)
    (stands : tree.entry (dir ++ names) = some .dir)
    (on : Walks tree follow links (dir ++ names) rest spot) :
    Walks tree follow links dir (pieces ++ rest) spot := by
  induction pieces generalizing dir names with
  | nil =>
    rw [List.map_eq_nil_iff.1 (way.symm : names.map PathPiece.name = []), List.append_nil] at on
    exact on
  | cons piece pieces ih =>
    cases piece with
    | stay => exact .stay (ih way stands on)
    | parent => exact absurd way not_way_parent
    | name n =>
      obtain ⟨names, rfl, onward⟩ := way_name way
      rw [List.append_cons] at stands on
      refine .down ?_ (ih onward stands on)
      by_cases none : names = []
      · rwa [none, List.append_nil] at stands
      · exact entry_append stands none

/-- Where nothing stands, and only directories on the way, a walk finds nothing. -/
theorem Walks.missing_way {pieces : List (PathPiece ν)} (way : Way pieces names)
    (isDir : tree.entry dir = some .dir) (missing : tree.entry (dir ++ names) = none)
    (onWay : ∀ above, above <+: names → above ≠ names →
      tree.entry (dir ++ above) = none ∨ tree.entry (dir ++ above) = some .dir) :
    Walks tree follow links dir pieces (.error .notFound) ∨
      ∃ place n, Walks tree follow links dir pieces (.free place n) := by
  induction pieces generalizing dir names with
  | nil =>
    rw [List.map_eq_nil_iff.1 (way.symm : names.map PathPiece.name = []), List.append_nil,
      isDir] at missing
    cases missing
  | cons piece pieces ih =>
    cases piece with
    | stay =>
      exact (ih way isDir missing onWay).imp .stay fun ⟨place, n, on⟩ => ⟨place, n, .stay on⟩
    | parent => exact absurd way not_way_parent
    | name n =>
      obtain ⟨names, rfl, onward⟩ := way_name way
      cases here : tree.entry (dir ++ [n]) with
      | none =>
        by_cases last : pieces = []
        · rw [last]
          exact .inr ⟨dir, n, .free links here⟩
        · exact .inl (.missing links here last)
      | some found =>
        have below : found = .dir := by
          by_cases last : names = []
          · rw [last, here] at missing
            cases missing
          · have passed := onWay [n] (List.cons_prefix_cons.2 ⟨rfl, List.nil_prefix⟩)
              (fun same => last (List.cons.inj same).2.symm)
            rw [here] at passed
            exact Option.some.inj (passed.resolve_left (nofun))
        rw [below] at here
        rw [List.append_cons] at missing
        refine (ih onward here missing fun above part less => ?_).imp (.down here)
          fun ⟨place, m, on⟩ => ⟨place, m, .down here on⟩
        rw [← List.append_cons]
        exact onWay (n :: above) (List.cons_prefix_cons.2 ⟨rfl, part⟩)
          (fun same => less (List.cons.inj same).2)

theorem Walks.found_way {pieces : List (PathPiece ν)} {n : ν} {found : TreeEntry ν α}
    (way : Way pieces names) (stands : tree.entry (dir ++ names ++ [n]) = some found) :
    ∃ left place, Walks tree false links dir (pieces ++ [.name n]) (.found left place found) := by
  have above := tree.inDir _ _ _ stands
  cases found with
  | dir => exact ⟨_, _, .way way above (.down stands (.done _ _))⟩
  | file content => exact ⟨_, _, .way way above (.file _ stands)⟩
  | link target => exact ⟨_, _, .way way above (.link _ stands rfl)⟩

theorem Walks.free_way {pieces : List (PathPiece ν)} {n : ν} (way : Way pieces names)
    (above : tree.entry (dir ++ names) = some .dir)
    (missing : tree.entry (dir ++ names ++ [n]) = none) :
    Walks tree follow links dir (pieces ++ [.name n]) (.free (dir ++ names) n) :=
  .way way above (.free _ missing)

end Below

/-! ## Lookups -/

section Lookups

/-- A walk follows so many links. -/
def maxLinks : ℕ := 40

variable (tree : FileTree ν α)

/-- The entry that a path names, a link itself where the path ends in one. -/
def lstat (path : PathBuf ν) : Except PathError (TreeEntry ν α) :=
  match tree.walk false maxLinks [] path.pieces with
  | .found _ _ entry => .ok entry
  | .free _ _ => .error .notFound
  | .error error => .error error

/-- Where an entry would be created. -/
def newPlace (path : PathBuf ν) : Option (List ν) :=
  match tree.walk false maxLinks [] path.pieces with
  | .free dir n => some (dir ++ [n])
  | _ => none

/-- Where a file would be created or written over. -/
def filePlace (path : PathBuf ν) : Option (List ν) :=
  match tree.walk true maxLinks [] path.pieces with
  | .found _ place (.file _) => some place
  | .free dir n => some (dir ++ [n])
  | _ => none

/-- Whether a path leads to a directory, links followed. -/
def isDir (path : PathBuf ν) : Bool :=
  match tree.walk true maxLinks [] path.pieces with
  | .found _ _ .dir => true
  | _ => false

def readLink (path : PathBuf ν) : Except PathError (PathBuf ν) :=
  match tree.lstat path with
  | .ok (.link target) => .ok target
  | .ok _ => .error .notALink
  | .error error => .error error

variable {tree}

/-- A path leads to a directory, links followed. -/
def LeadsTo (tree : FileTree ν α) (path : PathBuf ν) (place : List ν) : Prop :=
  ∃ left, Walks tree true maxLinks [] path.pieces (.found left place .dir)

section Joined

variable {root path : PathBuf ν} {dir names : List ν} {pieces : List (PathPiece ν)} {n : ν}

theorem LeadsTo.isDir (leads : tree.LeadsTo root dir) : tree.entry dir = some .dir := by
  obtain ⟨left, walks⟩ := leads
  exact walks.stands tree.root

theorem LeadsTo.extends {after : FileTree ν α} (leads : tree.LeadsTo root dir)
    (larger : Extends tree after) : after.LeadsTo root dir := by
  obtain ⟨left, walks⟩ := leads
  exact ⟨left, walks.extends larger rfl⟩

theorem lstat_eq_ok {found : TreeEntry ν α} : tree.lstat path = .ok found ↔
    ∃ left place, Walks tree false maxLinks [] path.pieces (.found left place found) := by
  unfold lstat
  constructor
  · intro finds
    cases ends : tree.walk false maxLinks [] path.pieces with
    | found left place entry =>
      rw [ends] at finds
      cases finds
      exact ⟨left, place, walk_eq_iff.1 ends⟩
    | free dir name =>
      rw [ends] at finds
      cases finds
    | error error =>
      rw [ends] at finds
      cases finds
  · rintro ⟨left, place, walks⟩
    rw [walks.eq]

theorem lstat_extends {after : FileTree ν α} {found : TreeEntry ν α}
    (finds : tree.lstat path = .ok found) (larger : Extends tree after) :
    after.lstat path = .ok found := by
  obtain ⟨left, place, walks⟩ := lstat_eq_ok.1 finds
  exact lstat_eq_ok.2 ⟨left, place, walks.extends larger rfl⟩

theorem LeadsTo.join (leads : tree.LeadsTo root dir) (below : path.isAbsolute = false)
    {follow : Bool} (further : path.pieces ≠ [] ∨ follow = true) :
    ∃ left, ∀ spot, Walks tree follow left dir path.pieces spot →
      tree.walk follow maxLinks [] (root.join path).pieces = spot := by
  obtain ⟨left, walks⟩ := leads
  have pieces : (root.join path).pieces = root.pieces ++ path.pieces := by
    unfold PathBuf.join
    rw [below]
    rfl
  refine ⟨left, fun spot on => ?_⟩
  rw [pieces]
  exact (walks.append rfl further on).eq

theorem LeadsTo.lstat_nil (leads : tree.LeadsTo root dir) : ∃ found, tree.lstat root = .ok found := by
  obtain ⟨left, walks⟩ := leads
  obtain ⟨_, _, found, on⟩ := walks.unfollowed rfl
  exact ⟨found, lstat_eq_ok.2 ⟨_, _, on⟩⟩

theorem LeadsTo.lstat_missing (leads : tree.LeadsTo root dir) (below : path.isAbsolute = false)
    (way : Way path.pieces names) (missing : tree.entry (dir ++ names) = none)
    (onWay : ∀ above, above <+: names → above ≠ names →
      tree.entry (dir ++ above) = none ∨ tree.entry (dir ++ above) = some .dir) :
    tree.lstat (root.join path) = .error .notFound := by
  have some_ : path.pieces ≠ [] := by
    intro nothing
    rw [nothing] at way
    rw [List.map_eq_nil_iff.1 (way.symm : names.map PathPiece.name = []), List.append_nil,
      leads.isDir] at missing
    cases missing
  obtain ⟨left, walk⟩ := leads.join below (.inl some_)
  unfold lstat
  rcases Walks.missing_way way leads.isDir missing onWay with on | ⟨place, n, on⟩
  · rw [walk _ on]
  · rw [walk _ on]

theorem LeadsTo.lstat_found (leads : tree.LeadsTo root dir) (below : path.isAbsolute = false)
    (same : path.pieces = pieces ++ [.name n]) (way : Way pieces names) {found : TreeEntry ν α}
    (stands : tree.entry (dir ++ names ++ [n]) = some found) :
    tree.lstat (root.join path) = .ok found := by
  have some_ : path.pieces ≠ [] := by
    rw [same]
    exact List.append_ne_nil_of_right_ne_nil _ (List.cons_ne_nil _ _)
  obtain ⟨left, walk⟩ := leads.join below (.inl some_)
  obtain ⟨left', place, on⟩ := Walks.found_way way stands
  unfold lstat
  rw [walk _ (by rw [same]; exact on)]

theorem LeadsTo.walk_free (leads : tree.LeadsTo root dir) (below : path.isAbsolute = false)
    (same : path.pieces = pieces ++ [.name n]) (way : Way pieces names)
    (above : tree.entry (dir ++ names) = some .dir)
    (missing : tree.entry (dir ++ names ++ [n]) = none) (follow : Bool) :
    tree.walk follow maxLinks [] (root.join path).pieces = .free (dir ++ names) n := by
  have some_ : path.pieces ≠ [] := by
    rw [same]
    exact List.append_ne_nil_of_right_ne_nil _ (List.cons_ne_nil _ _)
  obtain ⟨left, walk⟩ := leads.join below (.inl some_)
  refine walk _ ?_
  rw [same]
  exact .free_way way above missing

end Joined

section Missing

variable {root path : PathBuf ν} {dir names : List ν} {n : ν}

theorem LeadsTo.unique {dir' : List ν} (leads : tree.LeadsTo path dir)
    (leads' : tree.LeadsTo path dir') : dir = dir' := by
  obtain ⟨left, walks⟩ := leads
  obtain ⟨left', walks'⟩ := leads'
  have same := walks.eq.symm.trans walks'.eq
  injection same

theorem leadsTo_iff :
    (∃ dir, tree.LeadsTo path dir) ↔ (tree.walk true maxLinks [] path.pieces).beyond = none := by
  constructor
  · rintro ⟨dir, left, walks⟩
    rw [walks.eq]
    rfl
  · intro ends
    cases spot : tree.walk true maxLinks [] path.pieces with
    | free dir n =>
      rw [spot] at ends
      cases ends
    | error error =>
      rw [spot] at ends
      cases ends
    | found left place found =>
      rw [spot] at ends
      cases found with
      | dir => exact ⟨place, left, walk_eq_iff.1 spot⟩
      | file content => cases ends
      | link target => cases ends

theorem isDir_iff : tree.isDir path = true ↔ ∃ dir, tree.LeadsTo path dir := by
  rw [leadsTo_iff]
  unfold isDir
  cases tree.walk true maxLinks [] path.pieces with
  | free dir n => exact iff_of_false Bool.false_ne_true nofun
  | error error => exact iff_of_false Bool.false_ne_true nofun
  | found left place found =>
    cases found with
    | dir => exact iff_of_true rfl rfl
    | file content => exact iff_of_false Bool.false_ne_true nofun
    | link target => exact iff_of_false Bool.false_ne_true nofun

theorem LeadsTo.moving {path' : PathBuf ν} (leads : tree.LeadsTo path dir)
    (same : path'.pieces.filter (fun piece => !piece.isStay) =
      path.pieces.filter fun piece => !piece.isStay) : tree.LeadsTo path' dir := by
  obtain ⟨left, walks⟩ := leads
  exact ⟨left, walks.moving rfl same⟩

theorem below_concat_pieces (root : PathBuf ν) (names more : List ν) :
    (root.below (names ++ more)).pieces = (root.below names).pieces ++ more.map .name := by
  unfold PathBuf.below
  rw [List.map_append, List.append_assoc]

theorem LeadsTo.walk_below (leads : tree.LeadsTo (root.below names) dir) (n : ν) :
    ∃ left, ∀ follow spot, Walks tree follow left dir [.name n] spot →
      tree.walk follow maxLinks [] (root.below (names ++ [n])).pieces = spot := by
  obtain ⟨left, walks⟩ := leads
  refine ⟨left, fun follow spot on => ?_⟩
  rw [below_concat_pieces]
  exact (walks.append rfl (.inl (List.cons_ne_nil _ _)) on).eq

theorem LeadsTo.below_dir (leads : tree.LeadsTo (root.below names) dir)
    (stands : tree.entry (dir ++ [n]) = some .dir) :
    tree.LeadsTo (root.below (names ++ [n])) (dir ++ [n]) := by
  obtain ⟨left, walk⟩ := leads.walk_below n
  exact ⟨left, walk_eq_iff.1 (walk true _ (.down stands (.done _ _)))⟩

/-- The first place on the way of names below a path where nothing stands. -/
def FirstMissing (tree : FileTree ν α) (root : PathBuf ν) (names place : List ν) : Prop :=
  ∃ front n back dir, names = front ++ n :: back ∧ tree.LeadsTo (root.below front) dir ∧
    tree.entry (dir ++ [n]) = none ∧ place = dir ++ [n]

theorem firstMissing_concat {place : List ν} : FirstMissing tree root (names ++ [n]) place ↔
    FirstMissing tree root names place ∨ ∃ dir, tree.LeadsTo (root.below names) dir ∧
      tree.entry (dir ++ [n]) = none ∧ place = dir ++ [n] := by
  constructor
  · rintro ⟨front, m, back, dir, same, leads, missing, rfl⟩
    cases back using List.reverseRecOn with
    | nil =>
      obtain ⟨rfl, last⟩ := List.append_inj' same rfl
      obtain ⟨rfl, -⟩ := List.cons.inj last
      exact .inr ⟨dir, leads, missing, rfl⟩
    | append_singleton back last =>
      rw [← List.cons_append, ← List.append_assoc] at same
      obtain ⟨rfl, -⟩ := List.append_inj' same rfl
      exact .inl ⟨front, m, back, dir, rfl, leads, missing, rfl⟩
  · rintro (⟨front, m, back, dir, rfl, leads, missing, rfl⟩ | ⟨dir, leads, missing, rfl⟩)
    · exact ⟨front, m, back ++ [n], dir, by simp, leads, missing, rfl⟩
    · exact ⟨names, n, [], dir, rfl, leads, missing, rfl⟩

theorem not_firstMissing_nil {place : List ν} : ¬FirstMissing tree root [] place := by
  rintro ⟨front, n, back, dir, same, -⟩
  exact List.append_ne_nil_of_right_ne_nil _ (List.cons_ne_nil _ _) same.symm

theorem walk_beyond {error : PathError}
    (ends : (tree.walk true maxLinks [] (root.below names).pieces).beyond = some error) (n : ν)
    (follow : Bool) :
    tree.walk follow maxLinks [] (root.below (names ++ [n])).pieces = .error error := by
  have walks : Walks tree true maxLinks [] (root.below names).pieces _ := walks_walk _ _ _
  rw [below_concat_pieces]
  exact (walks.beyond ends (List.cons_ne_nil _ _)).eq

theorem FirstMissing.beyond {place : List ν} (first : FirstMissing tree root names place) :
    (tree.walk true maxLinks [] (root.below names).pieces).beyond = some .notFound := by
  induction names using List.reverseRecOn with
  | nil => exact absurd first not_firstMissing_nil
  | append_singleton names n ih =>
    rcases firstMissing_concat.1 first with first | ⟨dir, leads, missing, rfl⟩
    · rw [walk_beyond (ih first) n true]
      rfl
    · obtain ⟨left, walk⟩ := leads.walk_below n
      rw [walk true _ (.free left missing)]
      rfl

theorem FirstMissing.not_leadsTo {place : List ν} (first : FirstMissing tree root names place) :
    ¬tree.LeadsTo (root.below names) dir := by
  intro leads
  cases first.beyond.symm.trans (leadsTo_iff.1 ⟨dir, leads⟩)

theorem FirstMissing.unique {place place' : List ν} (first : FirstMissing tree root names place)
    (first' : FirstMissing tree root names place') : place = place' := by
  induction names using List.reverseRecOn with
  | nil => exact absurd first not_firstMissing_nil
  | append_singleton names n ih =>
    rcases firstMissing_concat.1 first with first | ⟨dir, leads, missing, rfl⟩
    · rcases firstMissing_concat.1 first' with first' | ⟨dir', leads', missing', rfl⟩
      · exact ih first first'
      · exact absurd leads' first.not_leadsTo
    · rcases firstMissing_concat.1 first' with first' | ⟨dir', leads', missing', rfl⟩
      · exact absurd leads first'.not_leadsTo
      · rw [leads.unique leads']

end Missing

end Lookups

/-! ## Growth -/

/-- A tree grows along ways from a directory: nothing that stands changes, and whatever is new stands
on one of the ways. -/
structure Grows (dir : List ν) (ways : Set (List ν)) (before after : FileTree ν α) : Prop where
  keeps : Extends before after
  along : ∀ place found, after.entry place = some found → before.entry place = none →
    ∃ way ∈ ways, ∃ front, front <+: way ∧ front ≠ [] ∧ place = dir ++ front

section Growth

variable {dir : List ν} {ways : Set (List ν)}

theorem Grows.refl (tree : FileTree ν α) : Grows dir ways tree tree :=
  ⟨.refl tree, fun _ _ stands missing => nomatch stands.symm.trans missing⟩

theorem Grows.trans {first second third : FileTree ν α} (one : Grows dir ways first second)
    (two : Grows dir ways second third) : Grows dir ways first third := by
  refine ⟨one.keeps.trans two.keeps, fun place found stands missing => ?_⟩
  cases between : second.entry place with
  | none => exact two.along place found stands between
  | some found => exact one.along place found between missing

theorem Grows.mono {before after : FileTree ν α} {ways' : Set (List ν)}
    (grows : Grows dir ways before after) (more : ways ⊆ ways') : Grows dir ways' before after := by
  refine ⟨grows.keeps, fun place found stands missing => ?_⟩
  obtain ⟨way, member, on⟩ := grows.along place found stands missing
  exact ⟨way, more member, on⟩

end Growth

/-! ## Operations -/

section Operations

variable (tree : FileTree ν α) [DecidableEq ν]

/-- The tree with another entry at a place, unless that would leave something in no directory. -/
def set (place : List ν) (value : TreeEntry ν α) : FileTree ν α where
  entry other :=
    if other = place ∧ place ≠ [] ∧ (tree.entry place.dropLast).any TreeEntry.isDir ∧
      ¬(tree.entry place).any TreeEntry.isDir
    then some value else tree.entry other
  root := by
    rw [if_neg]
    · exact tree.root
    · rintro ⟨same, some_, -⟩
      exact some_ same.symm
  inDir := by
    intro other n found stands
    by_cases changed : place ≠ [] ∧ (tree.entry place.dropLast).any TreeEntry.isDir ∧
        ¬(tree.entry place).any TreeEntry.isDir
    · have keeps {dir : List ν} (isDir : tree.entry dir = some .dir) :
          (if dir = place ∧ place ≠ [] ∧ (tree.entry place.dropLast).any TreeEntry.isDir ∧
            ¬(tree.entry place).any TreeEntry.isDir then some value else tree.entry dir) =
              some .dir := by
        rw [if_neg]
        · exact isDir
        · rintro ⟨rfl, -, -, other⟩
          rw [isDir] at other
          exact other rfl
      refine keeps ?_
      by_cases here : other ++ [n] = place
      · have above := changed.2.1
        rw [← here, List.dropLast_concat, Option.any_eq_true] at above
        obtain ⟨entry, at_, isDir⟩ := above
        rw [at_, TreeEntry.isDir_iff.1 isDir]
      · rw [if_neg fun same => here same.1] at stands
        exact tree.inDir other n found stands
    · rw [if_neg fun both => changed both.2] at stands ⊢
      exact tree.inDir other n found stands

/-- Create a directory. -/
def mkdir (path : PathBuf ν) : Except PathError (FileTree ν α) :=
  match tree.walk false maxLinks [] path.pieces with
  | .found _ _ _ => .error .alreadyExists
  | .free dir n => .ok (tree.set (dir ++ [n]) .dir)
  | .error error => .error error

/-- Create a link. -/
def symlink (target path : PathBuf ν) : Except PathError (FileTree ν α) :=
  match tree.walk false maxLinks [] path.pieces with
  | .found _ _ _ => .error .alreadyExists
  | .free dir n => .ok (tree.set (dir ++ [n]) (.link target))
  | .error error => .error error

/-- Create a file, or write over the file that the path leads to. -/
def write (path : PathBuf ν) (content : α) : Except PathError (FileTree ν α) :=
  match tree.walk true maxLinks [] path.pieces with
  | .found _ place (.file _) => .ok (tree.set place (.file content))
  | .found _ _ _ => .error .isADirectory
  | .free dir n => .ok (tree.set (dir ++ [n]) (.file content))
  | .error error => .error error

def read (path : PathBuf ν) : Except PathError α :=
  match tree.walk true maxLinks [] path.pieces with
  | .found _ _ (.file content) => .ok content
  | .found _ _ _ => .error .isADirectory
  | .free _ _ => .error .notFound
  | .error error => .error error

def copy (source destination : PathBuf ν) : Except PathError (FileTree ν α) :=
  match tree.read source with
  | .ok content => tree.write destination content
  | .error error => .error error

variable {tree}

theorem set_entry {dir : List ν} {n : ν} (isDir : tree.entry dir = some .dir)
    (free : tree.entry (dir ++ [n]) = none) (value : TreeEntry ν α) (place : List ν) :
    (tree.set (dir ++ [n]) value).entry place =
      if place = dir ++ [n] then some value else tree.entry place := by
  have fits : dir ++ [n] ≠ [] ∧ (tree.entry (dir ++ [n]).dropLast).any TreeEntry.isDir ∧
      ¬(tree.entry (dir ++ [n])).any TreeEntry.isDir := by
    refine ⟨by simp, ?_, ?_⟩
    · rw [List.dropLast_concat, isDir]
      rfl
    · rw [free]
      exact Bool.false_ne_true
  unfold set
  dsimp only
  by_cases here : place = dir ++ [n]
  · rw [if_pos ⟨here, fits⟩, if_pos here]
  · rw [if_neg fun both => here both.1, if_neg here]

theorem extends_set {dir : List ν} {n : ν} (isDir : tree.entry dir = some .dir)
    (free : tree.entry (dir ++ [n]) = none) (value : TreeEntry ν α) :
    Extends tree (tree.set (dir ++ [n]) value) := by
  intro place found stands
  rw [set_entry isDir free, if_neg]
  · exact stands
  · rintro rfl
    rw [free] at stands
    cases stands

section Growth

variable {dir : List ν} {ways : Set (List ν)}

theorem grows_set {names way : List ν} {n : ν} (above : tree.entry (dir ++ names) = some .dir)
    (missing : tree.entry (dir ++ names ++ [n]) = none) (member : way ∈ ways)
    (part : names ++ [n] <+: way) (value : TreeEntry ν α) :
    Grows dir ways tree (tree.set (dir ++ names ++ [n]) value) := by
  refine ⟨extends_set above missing value, fun place found stands nothing => ?_⟩
  rw [set_entry above missing] at stands
  split at stands
  · next here =>
    exact ⟨way, member, names ++ [n], part, by simp, here.trans (List.append_assoc _ _ _)⟩
  · rw [nothing] at stands
    cases stands

end Growth

end Operations

end FileTree

end Foundation
