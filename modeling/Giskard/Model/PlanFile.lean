import Mathlib
import Giskard.Foundation.FileTree
import Giskard.Foundation.Text

/-!
# Saving a plan

The latest plan of a thread is written as a markdown file into the thread's workspace, at the path
that the browser asks for or at a default one. The path is checked by its names alone; the
directories and the file are then created where the tree leads.

SOURCE: crates/giskard-server/src/plan.rs, crates/giskard-server/src/ws.rs.
-/

set_option autoImplicit false

namespace Giskard.Plan

open Foundation

/-! ## The plan -/

inductive PlanItem where
  | agentMessage (text : List Char)
  | other

def PlanItem.text : PlanItem → Option (List Char)
  | .agentMessage text => some text
  | .other => none

/-- A turn: whether its mode is known to be Plan, and its items. -/
structure PlanTurn where
  isPlan : Bool
  items : List PlanItem

def trim (text : List Char) : List Char := (text.dropWhile isWhiteSpace).rdropWhile isWhiteSpace

/-- SOURCE: plan.rs:15-41. -/
def extractPlanMarkdown (title : List Char) (turns : List PlanTurn) : Option (List Char) :=
  match turns.reverse.find? PlanTurn.isPlan with
  | none => none
  | some turn =>
    let body := ['\n', '\n'].intercalate (turn.items.filterMap PlanItem.text)
    if (trim body).isEmpty then none
    else if (trim title).isEmpty then some body
    else some (['#', ' '] ++ trim title ++ ['\n', '\n'] ++ body ++ ['\n'])

/-! ## Its path -/

def pieceOf (text : List Char) : PathPiece (List Char) :=
  if text = [] ∨ text = ['.'] then .stay
  else if text = ['.', '.'] then .parent
  else .name text

/-- A text as a path. -/
def pathOf (text : List Char) : PathBuf (List Char) :=
  if text = [] then .empty
  else ⟨text.head? = some '/', (text.splitOn '/').map pieceOf⟩

/-- The loop over the components. SOURCE: plan.rs:51-64. -/
def resolveComponents (resolved : PathBuf (List Char)) :
    List (PathPiece (List Char)) → Option (PathBuf (List Char))
  | [] => some resolved
  | .name name :: components => resolveComponents (resolved.push name) components
  | .stay :: components => resolveComponents resolved components
  | .parent :: components =>
    match resolved.parent with
    | none => none
    | some resolved => resolveComponents resolved components

/-- SOURCE: plan.rs:48-69. -/
def safePlanPath (workspaceRoot : PathBuf (List Char)) (requested : List Char) :
    Option (PathBuf (List Char)) :=
  let rel := pathOf (requested.dropWhile (· = '/'))
  if rel.isAbsolute then none
  else
    match resolveComponents .empty rel.components with
    | none => none
    | some resolved => if resolved.pieces.isEmpty then none else some (workspaceRoot.join resolved)

/-- The character of a slug, if it has one of its own. -/
def slugChar (c : Char) : Option Char := if c.isAlphanum then some c.toLower else none

/-- One character of the loop, with whether a dash has just been written. SOURCE: plan.rs:85-93. -/
def slugStep (state : List Char × Bool) (c : Char) : List Char × Bool :=
  match slugChar c with
  | some c => (state.1 ++ [c], false)
  | none => if !state.2 && !state.1.isEmpty then (state.1 ++ ['-'], true) else state

/-- SOURCE: plan.rs:82-100. -/
def slugify (text : List Char) : List Char :=
  let trimmed := (text.foldl slugStep ([], false)).1.rdropWhile (· = '-')
  if trimmed.isEmpty then "plan".toList else trimmed

/-- A text with every occurrence of a pattern replaced, from left to right; so many characters of
the last occurrence are still to be passed. -/
def replaceFrom (pattern value : List Char) : ℕ → List Char → List Char
  | _, [] => []
  | skip + 1, _ :: text => replaceFrom pattern value skip text
  | 0, c :: text =>
    if pattern.isPrefixOf (c :: text) then
      value ++ replaceFrom pattern value (pattern.length - 1) text
    else c :: replaceFrom pattern value 0 text

/-- SOURCE: plan.rs:72-80. -/
def defaultPlanPath (defaultDir template title ts : List Char) : List Char :=
  let filename := replaceFrom "\x7bts\x7d".toList ts 0
    (replaceFrom "\x7bslug\x7d".toList (slugify title) 0 template)
  if defaultDir.isEmpty then filename
  else defaultDir.rdropWhile (· = '/') ++ ['/'] ++ filename

/-! ## Writing it -/

/-- The tree, and the places where a directory was created or a file was created or written over. -/
structure Disk where
  tree : FileTree (List Char) (List Char)
  touched : List (List (List Char)) := []

def hasNul : PathPiece (List Char) → Bool
  | .name name => name.contains (Char.ofNat 0)
  | _ => false

/-- No operation takes a path with a zero byte. -/
def taken (path : PathBuf (List Char)) : Bool := !path.pieces.any hasNul

def Disk.mkdir (disk : Disk) (path : PathBuf (List Char)) : Except PathError Disk :=
  if !taken path then .error .invalidInput
  else
    match disk.tree.mkdir path with
    | .ok tree => .ok ⟨tree, disk.touched ++ (disk.tree.newPlace path).toList⟩
    | .error error => .error error

def Disk.isDir (disk : Disk) (path : PathBuf (List Char)) : Bool := taken path && disk.tree.isDir path

def Disk.write (disk : Disk) (path : PathBuf (List Char)) (content : List Char) :
    Except PathError Disk :=
  if !taken path then .error .invalidInput
  else
    match disk.tree.write path content with
    | .ok tree => .ok ⟨tree, disk.touched ++ (disk.tree.filePlace path).toList⟩
    | .error error => .error error

theorem components_length_le (path : PathBuf (List Char)) :
    path.components.length ≤ path.pieces.length := by
  unfold PathBuf.components
  split
  · next rest _ same =>
    rw [same]
    exact Nat.succ_le_succ (List.length_filter_le _ _)
  · exact List.length_filter_le _ _

theorem parent_shorter {path above : PathBuf (List Char)} (parent : path.parent = some above) :
    above.components.length < path.components.length := by
  unfold PathBuf.parent at parent
  split at parent
  · cases parent
  · next some_ =>
    rw [← Option.some.inj parent]
    refine (components_length_le _).trans_lt ?_
    rw [List.length_dropLast]
    exact Nat.sub_lt (List.length_pos_of_ne_nil some_) Nat.one_pos

/-- The standard library's `create_dir_all`: a directory that cannot be created because something on
the way is missing is tried again after its parents. -/
def createDirAll (disk : Disk) (path : PathBuf (List Char)) : Disk × Except PathError Unit :=
  if !path.isAbsolute && path.pieces.isEmpty then (disk, .ok ())
  else
    match disk.mkdir path with
    | .ok disk => (disk, .ok ())
    | .error .notFound =>
      match parent : path.parent with
      | none => (disk, .error .notFound)
      | some above =>
        match createDirAll disk above with
        | (disk, .error error) => (disk, .error error)
        | (disk, .ok ()) =>
          match disk.mkdir path with
          | .ok disk => (disk, .ok ())
          | .error error => (disk, if disk.isDir path then .ok () else .error error)
    | .error error => (disk, if disk.isDir path then .ok () else .error error)
termination_by path.components.length
decreasing_by exact parent_shorter parent

structure PlanConfig where
  defaultDir : List Char
  filenameTemplate : List Char

/-- The parts of a path below another one. -/
def stripPrefix (base path : PathBuf (List Char)) : Option (List (PathPiece (List Char))) :=
  if base.isAbsolute = path.isAbsolute ∧ base.components <+: path.components then
    some (path.components.drop base.components.length)
  else none

def pieceText : PathPiece (List Char) → List Char
  | .stay => ['.']
  | .parent => ['.', '.']
  | .name name => name

def pathText (path : PathBuf (List Char)) : List Char :=
  (if path.isAbsolute then ['/'] else []) ++ ['/'].intercalate (path.components.map pieceText)

/-- What the store answers, and the texts of errors of the file system. -/
structure SaveEnv where
  title : Except (List Char) (List Char)
  workspace : Except (List Char) (PathBuf (List Char))
  turns : Except (List Char) (List PlanTurn)
  config : Except (List Char) PlanConfig
  ts : List Char
  errorText : PathError → List Char

/-- The path of the plan. SOURCE: ws.rs:2155-2165. -/
def planPath (config : PlanConfig) (title ts requestedPath : List Char) : List Char :=
  if (trim requestedPath).isEmpty then
    defaultPlanPath config.defaultDir config.filenameTemplate title ts
  else requestedPath

/-- Create the directories and the file. SOURCE: ws.rs:2170-2182. -/
def writePlan (errorText : PathError → List Char) (disk : Disk) (workspaceRoot target :
    PathBuf (List Char)) (markdown : List Char) : Disk × Except (List Char) (List Char) :=
  match (match target.parent with
    | some parent => createDirAll disk parent
    | none => (disk, .ok ())) with
  | (disk, .error error) => (disk, .error (errorText error))
  | (disk, .ok ()) =>
    match disk.write target markdown with
    | .error error => (disk, .error (errorText error))
    | .ok disk =>
      (disk, .ok (match stripPrefix workspaceRoot target with
        | some below => ['/'].intercalate (below.map pieceText)
        | none => pathText target))

/-- SOURCE: ws.rs:2132-2183. -/
def savePlan (env : SaveEnv) (tree : FileTree (List Char) (List Char)) (requestedPath : List Char) :
    Disk × Except (List Char) (List Char) :=
  match env.title with
  | .error error => ({ tree }, .error error)
  | .ok title =>
    match env.workspace with
    | .error error =>
      ({ tree }, .error ("could not resolve the thread's workspace: ".toList ++ error))
    | .ok workspaceRoot =>
      match env.turns with
      | .error error => ({ tree }, .error error)
      | .ok turns =>
        match extractPlanMarkdown title turns with
        | none => ({ tree }, .error "no plan-mode content to save".toList)
        | some markdown =>
          match env.config with
          | .error error => ({ tree }, .error error)
          | .ok config =>
            match safePlanPath workspaceRoot (planPath config title env.ts requestedPath) with
            | none => ({ tree }, .error "path escapes workspace root".toList)
            | some target => writePlan env.errorText { tree } workspaceRoot target markdown

end Giskard.Plan
