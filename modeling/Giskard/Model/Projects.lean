import Mathlib
import Giskard.Model.Core
import Giskard.Model.ThreadRuntime

/-!
# The project index

Creating and deleting a project, as the store takes them: the index is loaded under its lock,
changed in memory and saved under its lock, and after that the project's own directory is
written or removed. The lock is free between the load and the save, so the calls of several
requests interleave there.

The configuration's absorbed `default_model` is left out: nothing reads it and a new
configuration has none.

SOURCE: crates/giskard-persist/src/store.rs.
-/

set_option autoImplicit false

namespace Giskard

/-- SOURCE: store.rs:28. -/
def schemaVersion : UInt32 := 1

/-- SOURCE: store.rs:40-47. -/
structure ProjectEntry where
  id : ProjectId
  name : String
  dir : String
  createdAt : DateTime
  order : ℕ
  deriving DecidableEq

/-- SOURCE: store.rs:33-38. -/
structure ProjectIndex where
  version : UInt32
  projects : List ProjectEntry
  deriving DecidableEq

/-- SOURCE: store.rs:49-76. -/
structure ProjectConfig where
  version : UInt32
  id : ProjectId
  name : String
  dir : String
  harness : String
  workspaceRoot : Option String
  createdAt : DateTime
  updatedAt : DateTime
  deriving DecidableEq

/-- The files of the store that a call on a project touches: the index, and the projects'
configurations. -/
structure ProjectFiles where
  index : Option ProjectIndex
  configs : ProjectId → Option ProjectConfig

namespace ProjectFiles

/-- SOURCE: store.rs:943-952. -/
def loadProjectIndex (files : ProjectFiles) : ProjectIndex :=
  files.index.getD ⟨schemaVersion, []⟩

/-- SOURCE: store.rs:954-958. -/
def saveProjectIndex (files : ProjectFiles) (index : ProjectIndex) : ProjectFiles :=
  { files with index := some index }

/-- SOURCE: store.rs:967-970. -/
def saveProject (files : ProjectFiles) (config : ProjectConfig) : ProjectFiles :=
  { files with configs := Function.update files.configs config.id (some config) }

/-- SOURCE: store.rs:1014-1019. -/
def removeProjectDir (files : ProjectFiles) (id : ProjectId) : ProjectFiles :=
  { files with configs := Function.update files.configs id none }

end ProjectFiles

/-- A call of `create_project`, with the time it reads, or of `delete_project`. -/
inductive ProjectCall where
  | create (id : ProjectId) (name dir harness : String) (now : DateTime)
  | delete (id : ProjectId)
  deriving DecidableEq

namespace ProjectCall

def id : ProjectCall → ProjectId
  | .create id .. => id
  | .delete id => id

/-- The change of the index in memory. SOURCE: store.rs:984-992, 1011. -/
def modify : ProjectCall → ProjectIndex → ProjectIndex
  | .create id name dir _ now, index =>
    { index with projects := index.projects ++ [⟨id, name, dir, now, index.projects.length⟩] }
  | .delete id, index => { index with projects := index.projects.filter fun p => p.id ≠ id }

/-- What follows the save of the index. SOURCE: store.rs:995-1006, 1014-1020. -/
def finish : ProjectCall → ProjectFiles → ProjectFiles
  | .create id name dir harness now, files =>
    files.saveProject ⟨schemaVersion, id, name, dir, harness, none, now, now⟩
  | .delete id, files => files.removeProjectDir id

end ProjectCall

/-- How far a call is: the index it loaded stays in its memory until it saves. -/
inductive ProjectCallPhase where
  | start
  | loaded (index : ProjectIndex)
  | saved
  | returned
  deriving DecidableEq

/-- The files, and how far each call is. -/
structure ProjectCalls where
  files : ProjectFiles
  phases : ℕ → ProjectCallPhase

namespace ProjectCalls

/-- No call has begun. -/
def initial (files : ProjectFiles) : ProjectCalls := ⟨files, fun _ => .start⟩

/-- The next step of one of the calls. SOURCE: store.rs:975-1022. -/
def advance (calls : List ProjectCall) (state : ProjectCalls) (i : ℕ) : ProjectCalls :=
  match calls[i]? with
  | none => state
  | some call => match state.phases i with
    | .start =>
      { state with
        phases := Function.update state.phases i (.loaded state.files.loadProjectIndex) }
    | .loaded index =>
      { files := state.files.saveProjectIndex (call.modify index)
        phases := Function.update state.phases i .saved }
    | .saved =>
      { files := call.finish state.files
        phases := Function.update state.phases i .returned }
    | .returned => state

end ProjectCalls

end Giskard
