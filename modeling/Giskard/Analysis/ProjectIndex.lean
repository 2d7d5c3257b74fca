import Mathlib
import Giskard.Foundation.Schedule
import Giskard.Model.Projects

/-!
# Calls on the project index

A call that saves the index it loaded, changed by its own project only, loses what another call
saved in between. Where every call saves over the index it loaded, nothing is lost: the index
has the projects that were there or were created, without those that were deleted.

SOURCE: crates/giskard-persist/src/store.rs.
-/

set_option autoImplicit false

namespace Giskard

open Foundation

namespace ProjectCall

/-- The entry that a creation adds, up to its place in the index. -/
def Adds (call : ProjectCall) (entry : ProjectEntry) : Prop :=
  ∃ harness, call = .create entry.id entry.name entry.dir harness entry.createdAt

/-- An index has the effect of a set of calls on the index before them, and no other. -/
structure Effect (done : ProjectCall → Prop) (before after : ProjectIndex) : Prop where
  origin : ∀ entry ∈ after.projects,
    entry ∈ before.projects ∨ ∃ call, done call ∧ call.Adds entry
  kept : ∀ entry ∈ before.projects, ¬ done (.delete entry.id) → entry ∈ after.projects
  added : ∀ id name dir harness now, done (.create id name dir harness now) →
    ∃ entry ∈ after.projects, (ProjectCall.create id name dir harness now).Adds entry
  removed : ∀ entry ∈ after.projects, ¬ done (.delete entry.id)

theorem effect_none (index : ProjectIndex) : Effect (fun _ => False) index index where
  origin _ member := .inl member
  kept _ member _ := member
  added _ _ _ _ _ done := done.elim
  removed _ _ done := done

/-- One more call on a project that no earlier call was about. -/
theorem effect_modify {done next : ProjectCall → Prop} {before after : ProjectIndex}
    (effect : Effect done before after) {call : ProjectCall}
    (step : ∀ other, next other ↔ other = call ∨ done other)
    (fresh : ∀ other, done other → other.id ≠ call.id) :
    Effect next before (call.modify after) := by
  cases call with
  | create id name dir harness now =>
    refine ⟨?_, ?_, ?_, ?_⟩
    · intro entry member
      rw [modify, List.mem_append, List.mem_singleton] at member
      rcases member with member | rfl
      · rcases effect.origin entry member with old | ⟨other, did, adds⟩
        · exact .inl old
        · exact .inr ⟨other, (step other).2 (.inr did), adds⟩
      · exact .inr ⟨_, (step _).2 (.inl rfl), harness, rfl⟩
    · intro entry member stays
      apply List.mem_append_left
      exact effect.kept entry member fun deleted => stays ((step _).2 (.inr deleted))
    · intro id' name' dir' harness' now' did
      rcases (step _).1 did with same | earlier
      · rw [same]
        refine ⟨⟨id, name, dir, now, after.projects.length⟩, ?_, harness, rfl⟩
        exact List.mem_append_right _ (List.mem_singleton_self _)
      · obtain ⟨entry, member, adds⟩ := effect.added _ _ _ _ _ earlier
        exact ⟨entry, List.mem_append_left _ member, adds⟩
    · intro entry member deleted
      have earlier : done (.delete entry.id) := by
        rcases (step _).1 deleted with same | earlier
        · cases same
        · exact earlier
      rw [modify, List.mem_append, List.mem_singleton] at member
      rcases member with member | rfl
      · exact effect.removed entry member earlier
      · exact fresh _ earlier rfl
  | delete id =>
    have survives {entry : ProjectEntry} :
        entry ∈ (modify (.delete id) after).projects ↔ entry ∈ after.projects ∧ entry.id ≠ id := by
      rw [modify, List.mem_filter, decide_eq_true_eq]
    refine ⟨?_, ?_, ?_, ?_⟩
    · intro entry member
      rcases effect.origin entry (survives.1 member).1 with old | ⟨other, did, adds⟩
      · exact .inl old
      · exact .inr ⟨other, (step other).2 (.inr did), adds⟩
    · intro entry member stays
      rw [survives]
      refine ⟨effect.kept entry member fun deleted => stays ((step _).2 (.inr deleted)), ?_⟩
      rintro rfl
      exact stays ((step _).2 (.inl rfl))
    · intro id' name' dir' harness' now' did
      have earlier : done (.create id' name' dir' harness' now') := by
        rcases (step _).1 did with same | earlier
        · cases same
        · exact earlier
      obtain ⟨entry, member, adds⟩ := effect.added _ _ _ _ _ earlier
      refine ⟨entry, survives.2 ⟨member, ?_⟩, adds⟩
      obtain ⟨harness, same⟩ := adds
      injection same with same
      exact same ▸ fresh _ earlier
    · intro entry member deleted
      obtain ⟨member, other⟩ := survives.1 member
      rcases (step _).1 deleted with same | earlier
      · injection same with same
        exact other same
      · exact effect.removed entry member earlier

end ProjectCall

namespace ProjectCalls

/-- A call has saved the index. -/
def Saved (calls : List ProjectCall) (state : ProjectCalls) (call : ProjectCall) : Prop :=
  ∃ i : ℕ, calls[i]? = some call ∧ (state.phases i = .saved ∨ state.phases i = .returned)

/-- A step that saves the index saves over the one its call loaded. -/
def SavesOverLoaded (state : ProjectCalls) (i : ℕ) : Prop :=
  ∀ index, state.phases i = .loaded index → state.files.loadProjectIndex = index

/-- Every call has returned. -/
def AllReturned (calls : List ProjectCall) (state : ProjectCalls) : Prop :=
  ∀ i < calls.length, state.phases i = .returned

section Steps

variable {calls : List ProjectCall} {state : ProjectCalls}

theorem saved_update {i : ℕ} {phase : ProjectCallPhase} {files : ProjectFiles}
    (same : (phase = .saved ∨ phase = .returned) ↔
      (state.phases i = .saved ∨ state.phases i = .returned)) (call : ProjectCall) :
    Saved calls ⟨files, Function.update state.phases i phase⟩ call ↔ Saved calls state call := by
  unfold Saved
  constructor
  · rintro ⟨j, found, saved⟩
    refine ⟨j, found, ?_⟩
    dsimp only at saved
    by_cases here : j = i
    · subst here
      rw [Function.update_self] at saved
      exact same.1 saved
    · rwa [Function.update_of_ne here] at saved
  · rintro ⟨j, found, saved⟩
    refine ⟨j, found, ?_⟩
    dsimp only
    by_cases here : j = i
    · subst here
      rw [Function.update_self]
      exact same.2 saved
    · rwa [Function.update_of_ne here]

theorem saved_save {i : ℕ} {call : ProjectCall} {files : ProjectFiles}
    (found : calls[i]? = some call) (other : ProjectCall) :
    Saved calls ⟨files, Function.update state.phases i .saved⟩ other ↔
      other = call ∨ Saved calls state other := by
  unfold Saved
  constructor
  · rintro ⟨j, there, saved⟩
    dsimp only at saved
    by_cases here : j = i
    · subst here
      rw [found, Option.some.injEq] at there
      exact .inl there.symm
    · rw [Function.update_of_ne here] at saved
      exact .inr ⟨j, there, saved⟩
  · rintro (rfl | ⟨j, there, saved⟩)
    · exact ⟨i, found, .inl (Function.update_self _ _ _)⟩
    · refine ⟨j, there, ?_⟩
      dsimp only
      by_cases here : j = i
      · subst here
        exact .inl (Function.update_self _ _ _)
      · rwa [Function.update_of_ne here]

theorem loadProjectIndex_finish (call : ProjectCall) (files : ProjectFiles) :
    (call.finish files).loadProjectIndex = files.loadProjectIndex := by
  cases call with
  | create id name dir harness now => rfl
  | delete id => rfl

theorem saved_other (distinct : (calls.map ProjectCall.id).Nodup) {i : ℕ} {call : ProjectCall}
    (found : calls[i]? = some call) (unsaved : state.phases i ≠ .saved)
    (running : state.phases i ≠ .returned) {other : ProjectCall}
    (saved : Saved calls state other) : other.id ≠ call.id := by
  obtain ⟨j, there, phase⟩ := saved
  intro same
  have index : j = i := by
    obtain ⟨below, eq⟩ := List.getElem?_eq_some_iff.1 found
    obtain ⟨below', eq'⟩ := List.getElem?_eq_some_iff.1 there
    have bound : i < (calls.map ProjectCall.id).length := by simpa using below
    have bound' : j < (calls.map ProjectCall.id).length := by simpa using below'
    apply (@List.Nodup.getElem_inj_iff _ _ distinct j bound' i bound).1
    rw [List.getElem_map, List.getElem_map, eq, eq', same]
  subst index
  exact phase.elim unsaved running

/-- One step that saves over what its call loaded adds the call's effect and no other. -/
theorem advance_effect (distinct : (calls.map ProjectCall.id).Nodup) {before : ProjectIndex}
    (effect : ProjectCall.Effect (Saved calls state) before state.files.loadProjectIndex) (i : ℕ)
    (current : SavesOverLoaded state i) :
    ProjectCall.Effect (Saved calls (advance calls state i)) before
      (advance calls state i).files.loadProjectIndex := by
  unfold advance
  cases found : calls[i]? with
  | none => exact effect
  | some call =>
    dsimp only
    cases phase : state.phases i with
    | start =>
      have same (other : ProjectCall) := @saved_update calls state i
        (.loaded state.files.loadProjectIndex) state.files (by simp [phase]) other
      dsimp only
      rw [funext fun other => propext (same other)]
      exact effect
    | loaded index =>
      have same := current index phase
      subst same
      apply ProjectCall.effect_modify effect (saved_save found)
      intro other saved
      exact saved_other distinct found (by simp [phase]) (by simp [phase]) saved
    | saved =>
      have same (other : ProjectCall) := @saved_update calls state i .returned
        (call.finish state.files) (by simp [phase]) other
      dsimp only
      rw [funext fun other => propext (same other), loadProjectIndex_finish]
      exact effect
    | returned => exact effect

end Steps

/-- When every call saves over the index it loaded, then after all have returned the index has
the projects that were there before or were created, without those that were deleted. -/
theorem projects_kept (files : ProjectFiles) (calls : List ProjectCall)
    (distinct : (calls.map ProjectCall.id).Nodup) (schedule : List ℕ)
    (current : Schedule.Meets (advance calls) SavesOverLoaded (initial files) schedule)
    (returned : AllReturned calls (Schedule.run (advance calls) (initial files) schedule)) :
    let before := files.loadProjectIndex.projects
    let after :=
      (Schedule.run (advance calls) (initial files) schedule).files.loadProjectIndex.projects
    (∀ id, id ∈ after.map ProjectEntry.id ↔
      (id ∈ before.map ProjectEntry.id ∨
        ∃ name dir harness now, .create id name dir harness now ∈ calls) ∧
      .delete id ∉ calls) ∧
    (∀ entry ∈ before, .delete entry.id ∉ calls → entry ∈ after) ∧
    (∀ entry ∈ after, entry ∈ before ∨ ∃ call ∈ calls, call.Adds entry) := by
  intro before after
  have effect : ProjectCall.Effect
      (Saved calls (Schedule.run (advance calls) (initial files) schedule))
      files.loadProjectIndex
      (Schedule.run (advance calls) (initial files) schedule).files.loadProjectIndex := by
    refine @Schedule.run_invariant _ _ _ SavesOverLoaded
      (fun state => ProjectCall.Effect (Saved calls state) files.loadProjectIndex
        state.files.loadProjectIndex) _ _ ?_ current
      (fun state i effect current => advance_effect distinct effect i current)
    have none : Saved calls (initial files) = fun _ => False := by
      funext call
      simp [Saved, initial]
    rw [none]
    exact ProjectCall.effect_none _
  have saved (call : ProjectCall) : Saved calls
      (Schedule.run (advance calls) (initial files) schedule) call ↔ call ∈ calls := by
    constructor
    · rintro ⟨i, found, -⟩
      exact List.mem_of_getElem? found
    · intro member
      obtain ⟨i, below, rfl⟩ := List.getElem_of_mem member
      exact ⟨i, List.getElem?_eq_getElem below, .inr (returned i below)⟩
  rw [funext fun call => propext (saved call)] at effect
  refine ⟨?_, effect.kept, effect.origin⟩
  intro id
  constructor
  · intro member
    obtain ⟨entry, present, rfl⟩ := List.mem_map.1 member
    refine ⟨?_, effect.removed entry present⟩
    rcases effect.origin entry present with old | ⟨call, member, harness, rfl⟩
    · exact .inl (List.mem_map_of_mem old)
    · exact .inr ⟨_, _, harness, _, member⟩
  · rintro ⟨old | ⟨name, dir, harness, now, member⟩, stays⟩
    · obtain ⟨entry, present, rfl⟩ := List.mem_map.1 old
      exact List.mem_map_of_mem (effect.kept entry present stays)
    · obtain ⟨entry, present, harness', same⟩ := effect.added id name dir harness now member
      injection same with same
      exact List.mem_map.2 ⟨entry, present, same.symm⟩

/-- Two projects created by requests that do not wait for each other. -/
def sampleCreations : List ProjectCall :=
  [.create ⟨⟨1⟩⟩ "one" "/one" "codex" ⟨0, 0⟩, .create ⟨⟨2⟩⟩ "two" "/two" "codex" ⟨0, 0⟩]

theorem projects_kept_sample :
    let files : ProjectFiles := ⟨none, fun _ => none⟩
    let final := Schedule.run (advance sampleCreations) (initial files) [0, 0, 0, 1, 1, 1]
    ∀ id, id ∈ final.files.loadProjectIndex.projects.map ProjectEntry.id ↔
      (id ∈ files.loadProjectIndex.projects.map ProjectEntry.id ∨
        ∃ name dir harness now, .create id name dir harness now ∈ sampleCreations) ∧
      .delete id ∉ sampleCreations := by
  intro files final
  refine (projects_kept files sampleCreations (by decide) [0, 0, 0, 1, 1, 1] ?_ ?_).1
  · refine ⟨?_, ?_, ?_, ?_, ?_, ?_, trivial⟩ <;>
      (intro index phase; cases phase; try rfl)
  · unfold AllReturned
    decide

/-- The second load sees an index without the first project, and its save writes that index. -/
theorem projects_lost :
    let files : ProjectFiles := ⟨none, fun _ => none⟩
    let final := Schedule.run (advance sampleCreations) (initial files) [0, 1, 0, 1, 0, 1]
    (sampleCreations.map ProjectCall.id).Nodup ∧ AllReturned sampleCreations final ∧
      ¬ (∀ id, id ∈ final.files.loadProjectIndex.projects.map ProjectEntry.id ↔
        (id ∈ files.loadProjectIndex.projects.map ProjectEntry.id ∨
          ∃ name dir harness now, .create id name dir harness now ∈ sampleCreations) ∧
        .delete id ∉ sampleCreations) := by
  intro files final
  refine ⟨by decide, by unfold AllReturned; decide, ?_⟩
  intro complete
  have present := (complete ⟨⟨1⟩⟩).2
    ⟨.inr ⟨"one", "/one", "codex", ⟨0, 0⟩, List.mem_cons_self⟩, by decide⟩
  revert present
  decide

end ProjectCalls

end Giskard
