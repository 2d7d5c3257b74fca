import Mathlib
import Giskard.Foundation.IndexMap
import Giskard.Foundation.Schedule

/-!
# Harnesses of a project

Each declaration of a project has a slot for one harness instance with its event driver. A harness
is created on first use; a deletion of the project marks every slot, quiesces every driver, shuts
the instances down one by one and clears each slot, and puts back what it could not stop. The
slots are read and written under one gate, which a creation holds across the factory's call and a
deletion takes for each of its transitions.

An instance is a number, the count of those published before it, and stands for its driver too.
The threads that a deletion releases, the texts of the errors and the shutdown of the registry are
left out; a project without an authority is one whose slots are empty.

SOURCE: crates/giskard-server/src/registry.rs:752-806, 1760-1887, registry/project.rs:110-322.
-/

set_option autoImplicit false

namespace Giskard.Harnesses

open Foundation (IndexMap)

/-- SOURCE: project.rs:116-119. -/
inductive ProjectHarnessState where
  | active (harness : ℕ)
  | deleting (harness : ℕ)
  deriving DecidableEq

def ProjectHarnessState.harness : ProjectHarnessState → ℕ
  | .active harness | .deleting harness => harness

def ProjectHarnessState.isDeleting : ProjectHarnessState → Bool
  | .active _ => false
  | .deleting _ => true

/-- A declaration and its harness. SOURCE: project.rs:123-124. -/
abbrev NamedHarness := String × ℕ

/-- The slots of the declarations. SOURCE: project.rs:60-70. -/
abbrev Slots := IndexMap String ProjectHarnessState

namespace Slots

/-- The incumbent, or that there is none, unless it is being deleted. SOURCE: project.rs:219-235. -/
def activeOrCreatable (slots : Slots) (name : String) : Except Unit (Option ℕ) :=
  match slots.get? name with
  | some (.active harness) => .ok (some harness)
  | some (.deleting _) => .error ()
  | none => .ok none

/-- SOURCE: project.rs:238-243. -/
def publishActive (slots : Slots) (name : String) (harness : ℕ) : Slots :=
  slots.insert name (.active harness)

/-- SOURCE: project.rs:254-267. -/
def rollbackDeleteIfRunning (slots : Slots) (named : NamedHarness) : Slots :=
  if slots.get? named.1 = some (.deleting named.2) then slots.insert named.1 (.active named.2)
  else slots

/-- SOURCE: project.rs:270-277. -/
def finishDelete (slots : Slots) (named : NamedHarness) : Slots :=
  if slots.get? named.1 = some (.deleting named.2) then slots.shiftRemove named.1 else slots

/-- SOURCE: project.rs:291-310. -/
def beginDeleteAll (slots : Slots) : Option (List NamedHarness × Slots) :=
  if slots.values.any ProjectHarnessState.isDeleting then none
  else
    some (slots.entries.map fun entry => (entry.1, entry.2.harness),
      slots.mapValues fun state => .deleting state.harness)

end Slots

/-- Where a deletion is; of each list, the harnesses that are done with come first.
SOURCE: registry.rs:1768-1851. -/
inductive Stage where
  | quiescing (quiesced left : List NamedHarness)
  /-- A driver could not be quiesced: those that were resume, and all slots are put back. -/
  | backingOut (left all : List NamedHarness)
  | stopping (stopped left : List NamedHarness)
  /-- A harness is shut down and its slot is not cleared yet. -/
  | clearing (stopped : List NamedHarness) (current : NamedHarness) (left : List NamedHarness)
  | releasing (stopped : List NamedHarness)
  /-- A shutdown failed: the threads of the harnesses that were stopped are released. -/
  | abandoning (stopped remaining : List NamedHarness)
  | resuming (stopped resumed left : List NamedHarness)
  | returned (stopped : List NamedHarness) (succeeded : Bool)
  deriving DecidableEq

/-- A deletion and the harnesses it marked. -/
structure Deletion where
  marked : List NamedHarness
  stage : Stage
  deriving DecidableEq

structure State where
  slots : Slots
  /-- The declaration of each instance published so far. -/
  published : List String
  shutDown : List ℕ
  quiesced : List ℕ
  /-- The calls that found no incumbent and read the bindings for a new one. -/
  creating : IndexMap ℕ String
  deletions : IndexMap ℕ Deletion
  calls : ℕ

namespace State

def empty : State := ⟨IndexMap.empty, [], [], [], IndexMap.empty, IndexMap.empty, 0⟩

/-- The fast path of a creation. SOURCE: registry.rs:752-772. -/
def getOrCreate (state : State) (name : String) : State :=
  match state.slots.activeOrCreatable name with
  | .ok none =>
    { state with creating := state.creating.insert state.calls name, calls := state.calls + 1 }
  | _ => state

/-- The rest of it: the check is made again, and the factory may fail. SOURCE: registry.rs:783-806. -/
def create (state : State) (call : ℕ) (made : Bool) : State :=
  match state.creating.get? call with
  | none => state
  | some name =>
    match state.slots.activeOrCreatable name with
    | .ok none =>
      if made then
        { state with
          slots := state.slots.publishActive name state.published.length
          published := state.published ++ [name]
          creating := state.creating.shiftRemove call }
      else { state with creating := state.creating.shiftRemove call }
    | _ => { state with creating := state.creating.shiftRemove call }

/-- SOURCE: registry.rs:1769-1780. -/
def beginDeletion (state : State) : State :=
  match state.slots.beginDeleteAll with
  | none => state
  | some (marked, slots) =>
    { state with
      slots := slots
      deletions := state.deletions.insert state.calls ⟨marked, .quiescing [] marked⟩
      calls := state.calls + 1 }

/-- SOURCE: registry.rs:1872-1887. -/
def rollback (state : State) (remaining : List NamedHarness) : State :=
  { state with slots := remaining.foldl Slots.rollbackDeleteIfRunning state.slots }

def quiesce (state : State) (harness : ℕ) : State :=
  { state with quiesced := harness :: state.quiesced }

def resume (state : State) (harness : ℕ) : State :=
  { state with quiesced := state.quiesced.filter (· ≠ harness) }

def stop (state : State) (harness : ℕ) : State :=
  { state with shutDown := harness :: state.shutDown }

/-- The next step of a deletion at some stage; `ok` tells whether the driver or the harness does
what it is asked. SOURCE: registry.rs:1782-1851. -/
def advanceStage (state : State) (ok : Bool) : Stage → State × Stage
  | .quiescing quiesced [] => (state, .stopping [] quiesced)
  | .quiescing quiesced (next :: left) =>
    if ok then (state.quiesce next.2, .quiescing (quiesced ++ [next]) left)
    else (state, .backingOut quiesced (quiesced ++ next :: left))
  | .backingOut [] all => (state.rollback all, .returned [] false)
  | .backingOut (next :: left) all =>
    -- A driver that does not resume is only warned about here.
    (if ok then state.resume next.2 else state, .backingOut left all)
  | .stopping stopped [] => (state, .releasing stopped)
  | .stopping stopped (next :: left) =>
    if ok then (state.stop next.2, .clearing stopped next left)
    else (state, .abandoning stopped (next :: left))
  | .clearing stopped current left =>
    ({ state with slots := state.slots.finishDelete current }, .stopping (stopped ++ [current]) left)
  | .releasing stopped => (state, .returned stopped true)
  | .abandoning stopped remaining => (state, .resuming stopped [] remaining)
  | .resuming stopped resumed [] => (state.rollback resumed, .returned stopped false)
  | .resuming stopped resumed (next :: left) =>
    if ok then (state.resume next.2, .resuming stopped (resumed ++ [next]) left)
    else (state, .returned stopped false)
  | .returned stopped succeeded => (state, .returned stopped succeeded)

def advance (state : State) (call : ℕ) (ok : Bool) : State :=
  match state.deletions.get? call with
  | none => state
  | some deletion =>
    let (next, stage) := state.advanceStage ok deletion.stage
    { next with deletions := next.deletions.insert call { deletion with stage := stage } }

end State

/-- What happens next. -/
inductive Choice where
  | getOrCreate (name : String)
  | create (call : ℕ) (made : Bool)
  | deleteProject
  | advance (call : ℕ) (ok : Bool)

def State.step (state : State) : Choice → State
  | .getOrCreate name => state.getOrCreate name
  | .create call made => state.create call made
  | .deleteProject => state.beginDeletion
  | .advance call ok => state.advance call ok

end Giskard.Harnesses
