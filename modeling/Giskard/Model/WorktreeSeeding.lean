import Mathlib
import Giskard.Foundation.FileTree

/-!
# Seeding a worktree

The files that an include file names are copied from the checkout into a new worktree, links as
links. Nothing that the worktree already has is written over, and nothing is written through a link.

SOURCE: crates/giskard-server/src/worktree.rs.
-/

set_option autoImplicit false

namespace Giskard.Worktree

open Foundation

variable {ν : Type}

/-- A path made only of plain names. SOURCE: worktree.rs:491-494. -/
def isPlainRelative (path : PathBuf ν) : Bool :=
  !path.isAbsolute && path.components.all PathPiece.isName

/-- Whether a target climbs above the root from a directory at some depth below it.
SOURCE: worktree.rs:816-828. -/
def escapes : ℕ → List (PathPiece ν) → Bool
  | _, [] => false
  | 0, .parent :: _ => true
  | depth + 1, .parent :: components => escapes depth components
  | depth, .name _ :: components => escapes (depth + 1) components
  | depth, .stay :: components => escapes depth components

/-- One component of the rewritten target. SOURCE: worktree.rs:834-840. -/
def rewriteStep (resolved : PathBuf ν) : PathPiece ν → PathBuf ν
  | .parent => resolved.pop
  | .name name => resolved.push name
  | .stay => resolved

/-- SOURCE: worktree.rs:811-843. -/
def worktreeLinkTarget (fromRoot relative target : PathBuf ν) : PathBuf ν :=
  if target.isAbsolute then target
  else
    let linkDir := relative.parent.getD .empty
    if !escapes linkDir.components.length target.components then target
    else target.components.foldl rewriteStep (fromRoot.join linkDir)

/-! ## Copying -/

/-- What a seeding works on: the tree with the checkout and the worktree, and the directories that
it has created, relative to the worktree. Metadata is left out. -/
structure Seeding (ν α : Type) where
  tree : FileTree ν α
  createdDirs : List (PathBuf ν) := []

/-- How creating the parents ends: they are there, something else is in the way, or an operation
fails. -/
inductive Parents where
  | made
  | blocked
  | failed (error : PathError)

variable {α : Type} [DecidableEq ν]

/-- One directory at a time, from `dir` on. SOURCE: worktree.rs:687-709. -/
def makeParents (toRoot : PathBuf ν) (seeding : Seeding ν α) (dir : PathBuf ν) :
    List (PathPiece ν) → Seeding ν α × Parents
  | [] => (seeding, .made)
  | component :: components =>
    let dir := dir.join ⟨false, [component]⟩
    let target := toRoot.join dir
    match seeding.tree.lstat target with
    | .ok existing =>
      if existing.isDir then makeParents toRoot seeding dir components else (seeding, .blocked)
    | .error .notFound =>
      match seeding.tree.mkdir target with
      | .ok tree =>
        makeParents toRoot ⟨tree, seeding.createdDirs ++ [dir]⟩ dir components
      | .error error => (seeding, .failed error)
    | .error error => (seeding, .failed error)

/-- Whether the file or the link is copied. SOURCE: worktree.rs:711-737. -/
def copyEntry (fromRoot toRoot relative : PathBuf ν) (seeding : Seeding ν α) :
    TreeEntry ν α → Seeding ν α × Except PathError Bool
  | .link _ =>
    match seeding.tree.readLink (fromRoot.join relative) with
    | .ok target =>
      match seeding.tree.symlink (worktreeLinkTarget fromRoot relative target)
          (toRoot.join relative) with
      | .ok tree => ({ seeding with tree }, .ok true)
      | .error error => (seeding, .error error)
    | .error error => (seeding, .error error)
  | .file _ =>
    match seeding.tree.copy (fromRoot.join relative) (toRoot.join relative) with
    | .ok tree => ({ seeding with tree }, .ok true)
    | .error error => (seeding, .error error)
  | .dir => (seeding, .ok false)

/-- SOURCE: worktree.rs:654-740. -/
def copyIncludedFile (fromRoot toRoot : PathBuf ν) (seeding : Seeding ν α) (relative : PathBuf ν) :
    Seeding ν α × Except PathError Bool :=
  if !isPlainRelative relative then (seeding, .ok false)
  else
    match seeding.tree.lstat (toRoot.join relative) with
    | .ok _ => (seeding, .ok false)
    | .error _ =>
      match seeding.tree.lstat (fromRoot.join relative) with
      | .error .notFound => (seeding, .ok false)
      | .error error => (seeding, .error error)
      | .ok metadata =>
        match makeParents toRoot seeding .empty ((relative.parent.map PathBuf.components).getD []) with
        | (seeding, .made) => copyEntry fromRoot toRoot relative seeding metadata
        | (seeding, .blocked) => (seeding, .ok false)
        | (seeding, .failed error) => (seeding, .error error)

/-- The loop over the list, with the number of files copied so far. SOURCE: worktree.rs:628-632. -/
def copyListed (fromRoot toRoot : PathBuf ν) (seeding : Seeding ν α) (copied : ℕ) :
    List (PathBuf ν) → Seeding ν α × Except PathError ℕ
  | [] => (seeding, .ok copied)
  | relative :: paths =>
    match copyIncludedFile fromRoot toRoot seeding relative with
    | (seeding, .ok was) =>
      copyListed fromRoot toRoot seeding (if was then copied + 1 else copied) paths
    | (seeding, .error error) => (seeding, .error error)

/-- Look up the sources of the created directories, deepest first. SOURCE: worktree.rs:633-643. -/
def finishDirs (fromRoot : PathBuf ν) (seeding : Seeding ν α) : Except PathError Unit :=
  (seeding.createdDirs.insertionSort fun dir dir' =>
    dir'.components.length ≤ dir.components.length).forM fun dir =>
      discard (seeding.tree.lstat (fromRoot.join dir))

/-- What is in the tree after a seeding, and how many files it has copied.
SOURCE: worktree.rs:621-645. -/
def copyIncludedFiles (fromRoot toRoot : PathBuf ν) (tree : FileTree ν α) (paths : List (PathBuf ν)) :
    FileTree ν α × Except PathError ℕ :=
  match copyListed fromRoot toRoot { tree } 0 paths with
  | (seeding, .ok copied) => (seeding.tree, (finishDirs fromRoot seeding).map fun _ => copied)
  | (seeding, .error error) => (seeding.tree, .error error)

end Giskard.Worktree
