import Mathlib
import Giskard.Foundation.Schedule
import Giskard.Model.OutputRoute

/-!
# Versions of served outputs

A runtime copy carries its own version, and a hash is of the output that the call has read. A
cached version is the hash of an earlier read: it fits the output of a call exactly when the item
did not change between the two reads. The route does not make sure of that.

SOURCE: crates/giskard-server/src/routes.rs.
-/

set_option autoImplicit false

namespace Giskard

open Foundation

namespace OutputState

/-- A call that finds a cached version has read the item as it was when that version's output was
read. -/
def Sound (state : OutputState) : OutputChoice → Prop
  | .call i => match state.calls i with
    | .missedAgain read => state.cached.isSome → state.cachedAt = read.readAt
    | .missedThrice read _ => state.cached.isSome → state.cachedAt = read.readAt
    | _ => True
  | _ => True

/-- What a call has is right: a read is of the item after as many changes, a hash is of the read,
and an answer has its version. -/
def CallHolds (crates : Crates) (outputs : ℕ → Option StoredCommandOutput) : RouteCall → Prop
  | .read read | .missedAgain read => outputs read.readAt = some read.output
  | .hashed read version | .missedThrice read version =>
    outputs read.readAt = some read.output ∧
      version = commandOutputVersion crates read.output.output
  | .answered answer => answer.version = commandOutputVersion crates answer.output
  | _ => True

/-- The outputs that the item has had, by the number of its changes, account for the state. -/
structure Versioned (crates : Crates) (outputs : ℕ → Option StoredCommandOutput)
    (state : OutputState) : Prop where
  current : outputs state.changes = storedCommandOutput state.persisted
  later : ∀ change, state.changes < change → outputs change = none
  runtime : ∀ output, state.runtime = some output →
    output.version = commandOutputVersion crates output.output
  cached : ∀ version, state.cached = some version → ∃ output,
    outputs state.cachedAt = some output ∧ version = commandOutputVersion crates output.output
  calls : ∀ i, CallHolds crates outputs (state.calls i)

section Steps

variable {crates : Crates} {outputs : ℕ → Option StoredCommandOutput} {state : OutputState}

theorem preparedCommandOutput_version {item : Item} {output : LoadedCommandOutput}
    (prepared : preparedCommandOutput crates item = some output) :
    output.version = commandOutputVersion crates output.output := by
  unfold preparedCommandOutput at prepared
  split at prepared
  · split at prepared
    · cases prepared
    · split at prepared
      · cases prepared
      · cases prepared
        rfl
  · cases prepared

theorem Versioned.found (holds : Versioned crates outputs state) {read : OutputRead}
    {version : String} (known : outputs read.readAt = some read.output)
    (there : state.cached = some version)
    (fresh : state.cached.isSome → state.cachedAt = read.readAt) :
    version = commandOutputVersion crates read.output.output := by
  obtain ⟨output, source, hash⟩ := holds.cached version there
  rw [fresh (by rw [there]; rfl), known, Option.some.injEq] at source
  rw [source, hash]

/-- The step of a call keeps what it has right, and the cached version. -/
theorem Versioned.callStep (holds : Versioned crates outputs state) {i : ℕ}
    (sound : Sound state (.call i)) :
    CallHolds crates outputs (state.callStep crates (state.calls i)).1 ∧
      ∀ version, (state.callStep crates (state.calls i)).2.1 = some version → ∃ output,
        outputs (state.callStep crates (state.calls i)).2.2 = some output ∧
          version = commandOutputVersion crates output.output := by
  have mine := holds.calls i
  unfold Sound at sound
  dsimp only at sound
  cases place : state.calls i with
  | start =>
    refine ⟨?_, holds.cached⟩
    unfold OutputState.callStep
    dsimp only
    split
    · next found => exact holds.runtime _ found
    · trivial
  | missed => exact ⟨trivial, holds.cached⟩
  | permitted =>
    refine ⟨?_, holds.cached⟩
    unfold OutputState.callStep
    dsimp only
    split
    · next found =>
      change outputs state.changes = _
      rw [holds.current, found]
    · trivial
  | read read =>
    rw [place] at mine
    refine ⟨?_, holds.cached⟩
    unfold OutputState.callStep
    dsimp only
    split
    · next found => exact holds.runtime _ found
    · exact mine
  | missedAgain read =>
    rw [place] at mine sound
    refine ⟨?_, holds.cached⟩
    unfold OutputState.callStep
    dsimp only
    split
    · next there => exact holds.found mine there sound
    · exact ⟨mine, rfl⟩
  | hashed read version =>
    rw [place] at mine
    refine ⟨?_, holds.cached⟩
    unfold OutputState.callStep
    dsimp only
    split
    · next found => exact holds.runtime _ found
    · exact mine
  | missedThrice read version =>
    rw [place] at mine sound
    unfold OutputState.callStep
    dsimp only
    split
    · next there =>
      refine ⟨holds.found mine.1 there sound, ?_⟩
      intro version' same
      exact holds.cached version' same
    · refine ⟨mine.2, ?_⟩
      intro version' same
      cases same
      exact ⟨read.output, mine.1, mine.2⟩
  | answered answer =>
    rw [place] at mine
    exact ⟨mine, holds.cached⟩
  | failed => exact ⟨trivial, holds.cached⟩

/-- A change of the item adds an output and leaves the earlier ones. -/
theorem Versioned.change (holds : Versioned crates outputs state) (item : Item)
    (completion : LateCompletion) :
    ∃ outputs', Versioned crates outputs' { state with
      persisted := item, changes := state.changes + 1, completion := completion } := by
  have earlier {change : ℕ} {output : StoredCommandOutput} (known : outputs change = some output) :
      Function.update outputs (state.changes + 1) (storedCommandOutput item) change =
        some output := by
    rw [Function.update_of_ne, known]
    rintro rfl
    rw [holds.later _ (Nat.lt_succ_self _)] at known
    cases known
  refine ⟨Function.update outputs (state.changes + 1) (storedCommandOutput item), ?_, ?_,
    holds.runtime, ?_, ?_⟩
  · exact Function.update_self _ _ _
  · intro change after
    rw [Function.update_of_ne (Nat.ne_of_gt after)]
    exact holds.later change (Nat.lt_of_succ_lt after)
  · intro version there
    obtain ⟨output, source, hash⟩ := holds.cached version there
    exact ⟨output, earlier source, hash⟩
  · intro i
    have mine := holds.calls i
    dsimp only
    cases place : state.calls i with
    | read read | missedAgain read =>
      rw [place] at mine
      exact earlier mine
    | hashed read version | missedThrice read version =>
      rw [place] at mine
      exact ⟨earlier mine.1, mine.2⟩
    | answered answer =>
      rw [place] at mine
      exact mine
    | _ => trivial

theorem Versioned.step (holds : Versioned crates outputs state) {choice : OutputChoice}
    (sound : Sound state choice) : ∃ outputs', Versioned crates outputs' (state.step crates choice) := by
  cases choice with
  | call i =>
    obtain ⟨call, cached⟩ := holds.callStep sound
    refine ⟨outputs, holds.current, holds.later, holds.runtime, cached, ?_⟩
    intro j
    unfold OutputState.step
    dsimp only
    by_cases same : j = i
    · subst same
      rw [Function.update_self]
      exact call
    · rw [Function.update_of_ne same]
      exact holds.calls j
  | install item =>
    unfold OutputState.step
    dsimp only
    split
    · exact ⟨outputs, holds.current, holds.later,
        fun output prepared => preparedCommandOutput_version prepared, holds.cached, holds.calls⟩
    · exact ⟨outputs, holds⟩
  | append result =>
    unfold OutputState.step
    dsimp only
    split
    · next item _ =>
      cases result with
      | amended => exact holds.change item .amended
      | unsupported =>
        exact ⟨outputs, holds.current, holds.later, holds.runtime, holds.cached, holds.calls⟩
      | failed wrote =>
        cases wrote with
        | true => exact holds.change item .idle
        | false =>
          exact ⟨outputs, holds.current, holds.later, holds.runtime, holds.cached, holds.calls⟩
    · exact ⟨outputs, holds⟩
  | drop =>
    have dropped (completion : LateCompletion) : Versioned crates outputs
        { state with runtime := none, completion := completion } :=
      ⟨holds.current, holds.later, (fun _ none_ => by cases none_), holds.cached, holds.calls⟩
    unfold OutputState.step
    dsimp only
    split
    · exact ⟨outputs, dropped .dropped⟩
    · exact ⟨outputs, dropped .idle⟩
    · exact ⟨outputs, holds⟩
  | forget =>
    unfold OutputState.step
    dsimp only
    split
    · exact ⟨outputs, holds.current, holds.later, holds.runtime, (fun _ none_ => by cases none_),
        holds.calls⟩
    · exact ⟨outputs, holds⟩

end Steps

/-- No call and no completion has begun, and nothing is cached. -/
structure Fresh (state : OutputState) : Prop where
  runtime : state.runtime = none
  cached : state.cached = none
  completion : state.completion = .idle
  calls : ∀ i, state.calls i = .start

theorem Fresh.versioned {crates : Crates} {state : OutputState} (fresh : Fresh state) :
    ∃ outputs, Versioned crates outputs state := by
  refine ⟨Function.update (fun _ => none) state.changes (storedCommandOutput state.persisted),
    Function.update_self _ _ _, ?_, ?_, ?_, ?_⟩
  · intro change after
    exact Function.update_of_ne (Nat.ne_of_gt after) _ _
  · intro output there
    rw [fresh.runtime] at there
    cases there
  · intro version there
    rw [fresh.cached] at there
    cases there
  · intro i
    rw [fresh.calls i]
    trivial

/-- Every answer has the version of its own output, in every interleaving in which a call finds a
cached version only of the item as it was when the call read it. -/
theorem answers_versioned (crates : Crates) (start : OutputState) (schedule : List OutputChoice)
    (fresh : Fresh start) (sound : Schedule.Meets (step crates) Sound start schedule) (i : ℕ)
    (answer : LoadedCommandOutput)
    (answered : (Schedule.run (step crates) start schedule).calls i = .answered answer) :
    answer.version = commandOutputVersion crates answer.output := by
  have invariant : ∃ outputs, Versioned crates outputs
      (Schedule.run (step crates) start schedule) :=
    @Schedule.run_invariant _ _ _ Sound (fun state => ∃ outputs, Versioned crates outputs state)
      _ _ fresh.versioned sound fun state choice holds condition => by
        obtain ⟨outputs, versioned⟩ := holds
        exact versioned.step condition
  obtain ⟨outputs, versioned⟩ := invariant
  have mine := versioned.calls i
  rw [answered] at mine
  exact mine

/-! ## Samples -/

/-- The digests of no output and of the output a. -/
noncomputable def sampleOutputDigests : Crates :=
  { Crates.reference with
    sha256Hex := fun bytes =>
      if bytes = [] then "e3b0c44298fc1c149afbf4c8996fb92427ae41e4649b934ca495991b7852b855"
      else if bytes = [97] then "ca978112ca1bbdcafac231b39a23dc4da786eff8147c4e72b9807785afee48bb"
      else "" }

/-- A command that has ended. -/
def sampleSettled (output : String) : Item where
  id := ⟨⟨7⟩⟩
  harnessItemId := "h"
  payload := .commandExecution "make" none "/" output false none none none (some "completed") none
    none
  createdAt := ⟨0, 0⟩

def sampleOutputs : OutputState where
  runtime := none
  persisted := sampleSettled ""
  cached := none
  completion := .idle
  calls := fun _ => .start
  changes := 0
  cachedAt := 0

theorem sampleOutputs_fresh : Fresh sampleOutputs := ⟨rfl, rfl, rfl, fun _ => rfl⟩

/-- A call that hashes the output, and one that finds the version. -/
theorem answers_versioned_sample :
    ∃ answer, (Schedule.run (step sampleOutputDigests) sampleOutputs
        (List.replicate 7 (.call 0) ++ List.replicate 5 (.call 1))).calls 1 = .answered answer ∧
      answer.version = commandOutputVersion sampleOutputDigests answer.output := by
  have answered : ∃ answer, (Schedule.run (step sampleOutputDigests) sampleOutputs
      (List.replicate 7 (.call 0) ++ List.replicate 5 (.call 1))).calls 1 = .answered answer :=
    ⟨_, rfl⟩
  obtain ⟨answer, answered⟩ := answered
  refine ⟨answer, answered, answers_versioned sampleOutputDigests sampleOutputs _
    sampleOutputs_fresh ?_ 1 answer answered⟩
  exact ⟨trivial, trivial, trivial, trivial, (fun none_ => by cases none_), trivial,
    (fun none_ => by cases none_), trivial, trivial, trivial, trivial, fun _ => rfl, trivial⟩

/-- A call reads the item, the item is amended, and the call caches the version of what it has
read: the next call answers with that version for the amended output. -/
theorem answers_unversioned :
    ∃ answer, (Schedule.run (step sampleOutputDigests) sampleOutputs
        (List.replicate 6 (.call 0) ++ [.install (sampleSettled "a"), .append .amended, .drop,
          .forget, .call 0] ++ List.replicate 5 (.call 1))).calls 1 = .answered answer ∧
      answer.output = "a" ∧
      answer.version ≠ commandOutputVersion sampleOutputDigests answer.output := by
  refine ⟨_, rfl, rfl, ?_⟩
  change commandOutputVersion sampleOutputDigests "" ≠ commandOutputVersion sampleOutputDigests "a"
  decide +kernel

end OutputState

end Giskard
