import Mathlib
import Giskard.Model.HarnessTransitions

/-!
# Deletions leave no harness behind

A slot in deletion belongs to one deletion under way, which has it among the harnesses that it has
not finished with; a harness leaves its slot only once it is shut down. So every instance that was
published is in its slot or shut down, and a deletion that fails has put back what it did not stop.
A deletion that succeeds has cleared what it marked, which is all there is as long as no creation
publishes a new instance while the deletion is under way.

## Main results

* `sound_run`: the invariant of a run
* `slots_are_owned`: what it says of the slots
* `deletions_leave_no_harness`: what the steps of a run leave behind
* `creation_outlives_deletion`: an instance in a slot of a deleted project
-/

set_option autoImplicit false

namespace Giskard.Harnesses

open Foundation (IndexMap)
open Foundation.Schedule (Meets run run_invariant)

/-! ## The slots -/

namespace Slots

variable {slots : Slots} {name : String} {harness : ℕ} {named : NamedHarness}
  {remaining : List NamedHarness}

/-- The slot of a declaration holds this harness, in deletion. -/
def Marks (slots : Slots) (named : NamedHarness) : Prop :=
  slots.get? named.1 = some (.deleting named.2)

theorem activeOrCreatable_none (creatable : slots.activeOrCreatable name = .ok none) :
    slots.get? name = none := by
  unfold activeOrCreatable at creatable
  split at creatable
  · cases creatable
  · cases creatable
  · next empty => exact empty

theorem get?_rollback_of_ne (other : name ≠ named.1) :
    (slots.rollbackDeleteIfRunning named).get? name = slots.get? name := by
  unfold rollbackDeleteIfRunning
  split
  · exact IndexMap.get?_insert_of_ne _ other _
  · rfl

theorem get?_rollback_self (marks : slots.Marks named) :
    (slots.rollbackDeleteIfRunning named).get? named.1 = some (.active named.2) := by
  unfold Marks at marks
  unfold rollbackDeleteIfRunning
  rw [if_pos marks]
  exact IndexMap.get?_insert_self _ _ _

theorem get?_rollbackAll_of_notMem (absent : name ∉ remaining.map Prod.fst) :
    (remaining.foldl rollbackDeleteIfRunning slots).get? name = slots.get? name := by
  induction remaining generalizing slots with
  | nil => rfl
  | cons next rest ih =>
    rw [List.map_cons, List.mem_cons, not_or] at absent
    rw [List.foldl_cons, ih absent.2]
    exact get?_rollback_of_ne absent.1

theorem get?_rollbackAll (marks : ∀ named ∈ remaining, slots.Marks named)
    (distinct : (remaining.map Prod.fst).Nodup) (member : named ∈ remaining) :
    (remaining.foldl rollbackDeleteIfRunning slots).get? named.1 = some (.active named.2) := by
  induction remaining generalizing slots with
  | nil => cases member
  | cons next rest ih =>
    rw [List.map_cons, List.nodup_cons] at distinct
    rw [List.foldl_cons]
    rcases List.mem_cons.1 member with rfl | later
    · rw [get?_rollbackAll_of_notMem distinct.1]
      exact get?_rollback_self (marks named (List.mem_cons_self ..))
    · apply ih _ distinct.2 later
      intro other among
      unfold Marks
      rw [get?_rollback_of_ne]
      · exact marks other (List.mem_cons_of_mem _ among)
      · intro same
        exact distinct.1 (same ▸ List.mem_map_of_mem among)

theorem finishDelete_of_marks (marks : slots.Marks named) :
    slots.finishDelete named = slots.shiftRemove named.1 := by
  unfold Marks at marks
  unfold finishDelete
  rw [if_pos marks]

theorem beginDeleteAll_some {marked : List NamedHarness} {after : Slots}
    (begun : slots.beginDeleteAll = some (marked, after)) :
    (∀ name harness, slots.get? name ≠ some (.deleting harness))
      ∧ after = slots.mapValues (fun state => .deleting state.harness)
      ∧ marked = slots.entries.map fun entry => (entry.1, entry.2.harness) := by
  unfold beginDeleteAll at begun
  split at begun
  · cases begun
  · next idle =>
    cases begun
    refine ⟨?_, rfl, rfl⟩
    intro name harness found
    apply idle
    exact List.any_eq_true.2 ⟨_, IndexMap.mem_values_iff.2 ⟨name, found⟩, rfl⟩

theorem mem_marked {marked : List NamedHarness}
    (all : marked = slots.entries.map fun entry => (entry.1, entry.2.harness)) :
    named ∈ marked ↔ ∃ state, slots.get? named.1 = some state ∧ state.harness = named.2 := by
  rw [all, List.mem_map]
  constructor
  · rintro ⟨entry, member, rfl⟩
    exact ⟨entry.2, IndexMap.get?_eq_some.2 member, rfl⟩
  · rintro ⟨state, found, same⟩
    exact ⟨(named.1, state), IndexMap.get?_eq_some.1 found, Prod.ext rfl same⟩

end Slots

/-! ## Deletions under way -/

/-- The harnesses that a deletion has marked and not finished with. -/
def Stage.unfinished : Stage → List NamedHarness
  | .quiescing quiesced left => quiesced ++ left
  | .backingOut _ all => all
  | .stopping _ left => left
  | .clearing _ current left => current :: left
  | .releasing _ => []
  | .abandoning _ remaining => remaining
  | .resuming _ resumed left => resumed ++ left
  | .returned _ _ => []

/-- The harnesses that a deletion has stopped and cleared. -/
def Stage.stopped : Stage → List NamedHarness
  | .quiescing _ _ | .backingOut _ _ => []
  | .stopping stopped _ | .clearing stopped _ _ | .releasing stopped | .abandoning stopped _
  | .resuming stopped _ _ | .returned stopped _ => stopped

/-- The harnesses of a failed deletion whose drivers run again. -/
def Stage.resumed : Stage → List NamedHarness
  | .resuming _ resumed _ => resumed
  | _ => []

/-- The harness that is shut down and still in its slot. -/
def Stage.current : Stage → Option NamedHarness
  | .clearing _ current _ => some current
  | _ => none

def Stage.Returned (stage : Stage) : Prop :=
  ∃ stopped succeeded, stage = .returned stopped succeeded

/-- What a deletion answers for. -/
structure Deletion.Sound (state : State) (deletion : Deletion) : Prop where
  forward : ∀ left all, deletion.stage ≠ .backingOut left all
  split : ¬deletion.stage.Returned →
    deletion.marked = deletion.stage.stopped ++ deletion.stage.unfinished
  distinct : (deletion.stage.unfinished.map Prod.fst).Nodup
  marks : ∀ named ∈ deletion.stage.unfinished, state.slots.Marks named
  running : ∀ named ∈ deletion.stage.unfinished, named.2 ∈ state.shutDown →
    deletion.stage.current = some named
  current : ∀ named, deletion.stage.current = some named → named.2 ∈ state.shutDown
  resumed : ∀ named ∈ deletion.stage.resumed, named.2 ∉ state.quiesced
  gone : ∀ named ∈ deletion.stage.stopped, named.2 ∈ state.shutDown ∧
    named.2 < state.published.length ∧
    ∀ slot, state.slots.get? named.1 = some slot → slot.harness ≠ named.2

structure Sound (state : State) : Prop where
  deletions : ∀ call deletion, state.deletions.get? call = some deletion → deletion.Sound state
  alone : ∀ one other first second, state.deletions.get? one = some first →
    state.deletions.get? other = some second → first.stage.unfinished ≠ [] →
    second.stage.unfinished ≠ [] → one = other
  answered : ∀ named, state.slots.Marks named → ∃ call deletion,
    state.deletions.get? call = some deletion ∧ named ∈ deletion.stage.unfinished
  placed : ∀ name slot, state.slots.get? name = some slot →
    state.published[slot.harness]? = some name
  kept : ∀ (harness : ℕ) name, state.published[harness]? = some name →
    (∃ slot, state.slots.get? name = some slot ∧ slot.harness = harness)
      ∨ harness ∈ state.shutDown
  serving : ∀ name harness, state.slots.get? name = some (.active harness) →
    harness ∉ state.quiesced ∧ harness ∉ state.shutDown
  made : ∀ harness, harness ∈ state.quiesced ∨ harness ∈ state.shutDown →
    harness < state.published.length
  begun : ∀ call deletion, state.deletions.get? call = some deletion → call < state.calls

variable {state : State} {call : ℕ} {deletion : Deletion}

theorem sound_empty : Sound State.empty := by
  refine ⟨?_, ?_, ?_, ?_, ?_, ?_, ?_, ?_⟩
  · exact fun _ _ found => by cases found
  · exact fun _ _ _ _ found => by cases found
  · exact fun _ marks => by cases marks
  · exact fun _ _ found => by cases found
  · exact fun _ _ found => by cases found
  · exact fun _ _ found => by cases found
  · exact fun _ member => by rcases member with member | member <;> cases member
  · exact fun _ _ found => by cases found

theorem Sound.one_slot (sound : Sound state) {one other : String}
    {first second : ProjectHarnessState} (here : state.slots.get? one = some first)
    (there : state.slots.get? other = some second) (same : first.harness = second.harness) :
    one = other := by
  have placed := sound.placed one first here
  rw [same, sound.placed other second there] at placed
  exact (Option.some.inj placed).symm

theorem Stage.mem_unfinished_of_current {stage : Stage} {named : NamedHarness}
    (current : stage.current = some named) : named ∈ stage.unfinished := by
  cases stage with
  | clearing stopped now left =>
    cases current
    exact List.mem_cons_self ..
  | _ => cases current

theorem Stage.mem_unfinished_of_resumed {stage : Stage} {named : NamedHarness}
    (resumed : named ∈ stage.resumed) : named ∈ stage.unfinished := by
  cases stage with
  | resuming stopped resumed left => exact List.mem_append_left _ resumed
  | _ => cases resumed

theorem Deletion.Sound.idle {next : State} (sound : deletion.Sound state)
    (idle : deletion.stage.unfinished = []) (published : next.published = state.published)
    (within : ∀ name slot, next.slots.get? name = some slot →
      ∃ old, state.slots.get? name = some old ∧ old.harness = slot.harness)
    (more : ∀ harness ∈ state.shutDown, harness ∈ next.shutDown) : deletion.Sound next := by
  have none (named : NamedHarness) : named ∉ deletion.stage.unfinished := by
    rw [idle]
    exact List.not_mem_nil
  refine ⟨sound.forward, sound.split, sound.distinct, ?_, ?_, ?_, ?_, ?_⟩
  · exact fun named member => absurd member (none named)
  · exact fun named member => absurd member (none named)
  · exact fun named current => absurd (Stage.mem_unfinished_of_current current) (none named)
  · exact fun named member => absurd (Stage.mem_unfinished_of_resumed member) (none named)
  · intro named member
    obtain ⟨stopped, known, gone⟩ := sound.gone named member
    refine ⟨more _ stopped, published ▸ known, ?_⟩
    intro slot found
    obtain ⟨old, before, same⟩ := within _ slot found
    rw [← same]
    exact gone old before

/-- The deletion that has harnesses left takes a step; the slots keep what they keep, and all the
marks there are afterwards are its own. -/
theorem Sound.advanced {slots : Slots} {shutDown quiesced : List ℕ} {stage : Stage}
    (sound : Sound state) (found : state.deletions.get? call = some deletion)
    (busy : deletion.stage.unfinished ≠ [])
    (within : ∀ name slot, slots.get? name = some slot →
      ∃ old, state.slots.get? name = some old ∧ old.harness = slot.harness)
    (more : ∀ harness ∈ state.shutDown, harness ∈ shutDown)
    (own : Deletion.Sound { state with slots := slots, shutDown := shutDown, quiesced := quiesced }
      { deletion with stage := stage })
    (answered : ∀ named, slots.Marks named → named ∈ stage.unfinished)
    (kept : ∀ (harness : ℕ) name, state.published[harness]? = some name →
      (∃ slot, slots.get? name = some slot ∧ slot.harness = harness) ∨ harness ∈ shutDown)
    (serving : ∀ name harness, slots.get? name = some (.active harness) →
      harness ∉ quiesced ∧ harness ∉ shutDown)
    (made : ∀ harness, harness ∈ quiesced ∨ harness ∈ shutDown →
      harness < state.published.length) :
    Sound { state with
      slots := slots
      shutDown := shutDown
      quiesced := quiesced
      deletions := state.deletions.insert call { deletion with stage := stage } } := by
  have others {other : ℕ} {second : Deletion} (apart : other ≠ call)
      (there : state.deletions.get? other = some second) : second.stage.unfinished = [] := by
    by_contra more
    exact apart (sound.alone other call second deletion there found more busy)
  refine ⟨?_, ?_, ?_, ?_, kept, serving, made, ?_⟩
  · intro other second there
    rw [IndexMap.get?_insert] at there
    split at there
    · cases there
      exact ⟨own.forward, own.split, own.distinct, own.marks, own.running, own.current,
        own.resumed, own.gone⟩
    · next apart =>
      exact (sound.deletions other second there).idle (others apart there) rfl within more
  · intro one other first second here there some_ more
    rw [IndexMap.get?_insert] at here there
    split at here
    · next same =>
      split at there
      · next also => rw [same, also]
      · next apart => exact absurd (others apart there) more
    · next apart => exact absurd (others apart here) some_
  · intro named marks
    exact ⟨call, _, IndexMap.get?_insert_self _ _ _, answered named marks⟩
  · intro name slot there
    obtain ⟨old, before, same⟩ := within name slot there
    rw [← same]
    exact sound.placed name old before
  · intro other second there
    rw [IndexMap.get?_insert] at there
    split at there
    · next same => exact same ▸ sound.begun call deletion found
    · exact sound.begun other second there

/-- A deletion goes on without touching a harness. -/
theorem Sound.restaged {stage : Stage} (sound : Sound state)
    (found : state.deletions.get? call = some deletion)
    (same : stage.unfinished = deletion.stage.unfinished)
    (own : Deletion.Sound state { deletion with stage := stage }) :
    Sound { state with
      deletions := state.deletions.insert call { deletion with stage := stage } } := by
  refine ⟨?_, ?_, ?_, sound.placed, sound.kept, sound.serving, sound.made, ?_⟩
  · intro other second there
    rw [IndexMap.get?_insert] at there
    split at there
    · cases there
      exact ⟨own.forward, own.split, own.distinct, own.marks, own.running, own.current,
        own.resumed, own.gone⟩
    · next apart =>
      have old := sound.deletions other second there
      exact ⟨old.forward, old.split, old.distinct, old.marks, old.running, old.current,
        old.resumed, old.gone⟩
  · intro one other first second here there more most
    rw [IndexMap.get?_insert] at here there
    split at here
    · next one_is =>
      cases here
      split at there
      · next other_is => rw [one_is, other_is]
      · rw [one_is]
        exact sound.alone call other deletion second found there (same ▸ more) most
    · split at there
      · next other_is =>
        cases there
        rw [other_is]
        exact sound.alone one call first deletion here found more (same ▸ most)
      · exact sound.alone one other first second here there more most
  · intro named marks
    obtain ⟨other, second, there, member⟩ := sound.answered named marks
    by_cases apart : other = call
    · rw [apart, found] at there
      cases there
      exact ⟨call, _, IndexMap.get?_insert_self _ _ _, same ▸ member⟩
    · exact ⟨other, second, (IndexMap.get?_insert_of_ne _ apart _).trans there, member⟩
  · intro other second there
    rw [IndexMap.get?_insert] at there
    split at there
    · next same => exact same ▸ sound.begun call deletion found
    · exact sound.begun other second there

theorem within_refl (slots : Slots) (name : String) (slot : ProjectHarnessState)
    (found : slots.get? name = some slot) :
    ∃ old, slots.get? name = some old ∧ old.harness = slot.harness :=
  ⟨slot, found, rfl⟩

theorem Sound.lt_published (sound : Sound state) {named : NamedHarness}
    (marks : state.slots.Marks named) : named.2 < state.published.length := by
  have placed := sound.placed _ _ marks
  exact (List.getElem?_eq_some_iff.1 placed).1

theorem Sound.ne_of_marks (sound : Sound state) {named : NamedHarness} {name : String} {harness : ℕ}
    (marks : state.slots.Marks named) (active : state.slots.get? name = some (.active harness)) :
    harness ≠ named.2 := by
  intro same
  have here := sound.one_slot active marks same
  rw [here] at active
  cases active.symm.trans marks

theorem Sound.answered_by (sound : Sound state)
    (found : state.deletions.get? call = some deletion) (busy : deletion.stage.unfinished ≠ [])
    {named : NamedHarness} (marks : state.slots.Marks named) :
    named ∈ deletion.stage.unfinished := by
  obtain ⟨other, second, there, member⟩ := sound.answered named marks
  have same := sound.alone other call second deletion there found (List.ne_nil_of_mem member) busy
  rw [same, found] at there
  cases there
  exact member

/-! ## One step of a deletion -/

theorem Sound.quiesceNext {marked quiesced left : List NamedHarness} {next : NamedHarness}
    (sound : Sound state)
    (found : state.deletions.get? call = some ⟨marked, .quiescing quiesced (next :: left)⟩) :
    Sound { state.quiesce next.2 with
      deletions := state.deletions.insert call ⟨marked, .quiescing (quiesced ++ [next]) left⟩ } := by
  have own := sound.deletions _ _ found
  have same : (quiesced ++ [next]) ++ left = quiesced ++ next :: left := by
    rw [List.append_assoc, List.singleton_append]
  have marks := own.marks next (List.mem_append_right _ (List.mem_cons_self ..))
  refine sound.advanced found (List.append_ne_nil_of_right_ne_nil _ (List.cons_ne_nil _ _))
    (within_refl _) (fun _ stopped => stopped) ?_ ?_ sound.kept ?_ ?_
  · refine ⟨?_, ?_, ?_, ?_, ?_, ?_, ?_, ?_⟩
    · exact fun _ _ backing => by cases backing
    · intro under
      change marked = [] ++ ((quiesced ++ [next]) ++ left)
      rw [same]
      exact own.split (by rintro ⟨_, _, ⟨⟩⟩)
    · change (((quiesced ++ [next]) ++ left).map Prod.fst).Nodup
      rw [same]
      exact own.distinct
    · change ∀ named ∈ (quiesced ++ [next]) ++ left, _
      rw [same]
      exact own.marks
    · change ∀ named ∈ (quiesced ++ [next]) ++ left, _
      rw [same]
      exact own.running
    · exact fun _ current => by cases current
    · exact fun _ member => by cases member
    · exact fun _ member => by cases member
  · intro named marked
    change named ∈ (quiesced ++ [next]) ++ left
    rw [same]
    exact sound.answered_by found
      (List.append_ne_nil_of_right_ne_nil _ (List.cons_ne_nil _ _)) marked
  · intro name harness active
    have serves := sound.serving name harness active
    refine ⟨?_, serves.2⟩
    intro member
    rcases List.mem_cons.1 member with new | old
    · exact sound.ne_of_marks marks active new
    · exact serves.1 old
  · intro harness member
    rcases member with quieted | stopped
    · rcases List.mem_cons.1 quieted with new | old
      · exact new ▸ sound.lt_published marks
      · exact sound.made harness (.inl old)
    · exact sound.made harness (.inr stopped)

theorem Sound.resumeNext {marked stopped resumed left : List NamedHarness} {next : NamedHarness}
    (sound : Sound state)
    (found : state.deletions.get? call = some ⟨marked, .resuming stopped resumed (next :: left)⟩) :
    Sound { state.resume next.2 with
      deletions :=
        state.deletions.insert call ⟨marked, .resuming stopped (resumed ++ [next]) left⟩ } := by
  have own := sound.deletions _ _ found
  have same : (resumed ++ [next]) ++ left = resumed ++ next :: left := by
    rw [List.append_assoc, List.singleton_append]
  refine sound.advanced found (List.append_ne_nil_of_right_ne_nil _ (List.cons_ne_nil _ _))
    (within_refl _) (fun _ stopped => stopped) ?_ ?_ sound.kept ?_ ?_
  · refine ⟨?_, ?_, ?_, ?_, ?_, ?_, ?_, own.gone⟩
    · exact fun _ _ backing => by cases backing
    · intro under
      change marked = stopped ++ ((resumed ++ [next]) ++ left)
      rw [same]
      exact own.split (by rintro ⟨_, _, ⟨⟩⟩)
    · change (((resumed ++ [next]) ++ left).map Prod.fst).Nodup
      rw [same]
      exact own.distinct
    · change ∀ named ∈ (resumed ++ [next]) ++ left, _
      rw [same]
      exact own.marks
    · change ∀ named ∈ (resumed ++ [next]) ++ left, _
      rw [same]
      exact own.running
    · exact fun _ current => by cases current
    · intro named member quieted
      have filtered := List.mem_filter.1 quieted
      rcases List.mem_append.1 member with before | now
      · exact own.resumed named before filtered.1
      · rw [List.mem_singleton.1 now] at filtered
        exact of_decide_eq_true filtered.2 rfl
  · intro named marks
    change named ∈ (resumed ++ [next]) ++ left
    rw [same]
    exact sound.answered_by found
      (List.append_ne_nil_of_right_ne_nil _ (List.cons_ne_nil _ _)) marks
  · intro name harness active
    have serves := sound.serving name harness active
    exact ⟨fun member => serves.1 (List.mem_filter.1 member).1, serves.2⟩
  · intro harness member
    rcases member with quieted | stopped
    · exact sound.made harness (.inl (List.mem_filter.1 quieted).1)
    · exact sound.made harness (.inr stopped)

theorem Sound.stopNext {marked stopped left : List NamedHarness} {next : NamedHarness}
    (sound : Sound state)
    (found : state.deletions.get? call = some ⟨marked, .stopping stopped (next :: left)⟩) :
    Sound { state.stop next.2 with
      deletions := state.deletions.insert call ⟨marked, .clearing stopped next left⟩ } := by
  have own := sound.deletions _ _ found
  have marks := own.marks next (List.mem_cons_self ..)
  refine sound.advanced found (List.cons_ne_nil _ _) (within_refl _)
    (fun _ stopped => List.mem_cons_of_mem _ stopped) ?_ ?_ ?_ ?_ ?_
  · refine ⟨?_, ?_, own.distinct, own.marks, ?_, ?_, ?_, ?_⟩
    · exact fun _ _ backing => by cases backing
    · exact fun _ => own.split (by rintro ⟨_, _, ⟨⟩⟩)
    · intro named member down
      rcases List.mem_cons.1 down with now | before
      · have marked := own.marks named member
        have name := sound.one_slot marked marks now
        exact congrArg some (Prod.ext name.symm now.symm)
      · have current := own.running named member before
        cases current
    · intro named current
      cases current
      exact List.mem_cons_self ..
    · exact fun _ member => by cases member
    · intro named member
      have gone := own.gone named member
      exact ⟨List.mem_cons_of_mem _ gone.1, gone.2⟩
  · exact fun named marked => sound.answered_by found (List.cons_ne_nil _ _) marked
  · intro harness name known
    rcases sound.kept harness name known with there | down
    · exact .inl there
    · exact .inr (List.mem_cons_of_mem _ down)
  · intro name harness active
    have serves := sound.serving name harness active
    refine ⟨serves.1, ?_⟩
    intro down
    rcases List.mem_cons.1 down with now | before
    · exact sound.ne_of_marks marks active now
    · exact serves.2 before
  · intro harness member
    rcases member with quieted | down
    · exact sound.made harness (.inl quieted)
    · rcases List.mem_cons.1 down with now | before
      · exact now ▸ sound.lt_published marks
      · exact sound.made harness (.inr before)

theorem Sound.finishCurrent {marked stopped left : List NamedHarness} {current : NamedHarness}
    (sound : Sound state)
    (found : state.deletions.get? call = some ⟨marked, .clearing stopped current left⟩) :
    Sound { state with
      slots := state.slots.finishDelete current
      deletions :=
        state.deletions.insert call ⟨marked, .stopping (stopped ++ [current]) left⟩ } := by
  have own := sound.deletions _ _ found
  have marks := own.marks current (List.mem_cons_self ..)
  have down := own.current current rfl
  have apart := List.nodup_cons.1 own.distinct
  have cleared (name : String) : (state.slots.finishDelete current).get? name
      = if name = current.1 then none else state.slots.get? name := by
    rw [Slots.finishDelete_of_marks marks, IndexMap.get?_shiftRemove]
  have still {name : String} {slot : ProjectHarnessState}
      (there : (state.slots.finishDelete current).get? name = some slot) :
      name ≠ current.1 ∧ state.slots.get? name = some slot := by
    rw [cleared] at there
    split at there
    · cases there
    · next other => exact ⟨other, there⟩
  refine sound.advanced found (List.cons_ne_nil _ _)
    (fun name slot there => ⟨slot, (still there).2, rfl⟩) (fun _ stopped => stopped) ?_ ?_ ?_ ?_
    sound.made
  · refine ⟨?_, ?_, apart.2, ?_, ?_, ?_, ?_, ?_⟩
    · exact fun _ _ backing => by cases backing
    · intro under
      have split := own.split (by rintro ⟨_, _, ⟨⟩⟩)
      change marked = (stopped ++ [current]) ++ left
      rw [List.append_assoc, List.singleton_append]
      exact split
    · intro named member
      have other : named.1 ≠ current.1 := by
        intro same
        exact apart.1 (same ▸ List.mem_map_of_mem member)
      exact (cleared named.1).trans ((if_neg other).trans
        (own.marks named (List.mem_cons_of_mem _ member)))
    · intro named member stopped
      have now := own.running named (List.mem_cons_of_mem _ member) stopped
      cases now
      exact absurd (List.mem_map_of_mem member) apart.1
    · exact fun _ now => by cases now
    · exact fun _ member => by cases member
    · intro named member
      rcases List.mem_append.1 member with before | now
      · have gone := own.gone named before
        exact ⟨gone.1, gone.2.1, fun slot there => gone.2.2 slot (still there).2⟩
      · rw [List.mem_singleton.1 now]
        exact ⟨down, sound.lt_published marks, fun slot there => absurd rfl (still there).1⟩
  · intro named marked
    have before := sound.answered_by found (List.cons_ne_nil _ _) (still marked).2
    rcases List.mem_cons.1 before with now | later
    · exact absurd (congrArg Prod.fst now) (still marked).1
    · exact later
  · intro harness name known
    rcases sound.kept harness name known with ⟨slot, there, same⟩ | stopped
    · by_cases here : name = current.1
      · rw [here] at there
        cases there.symm.trans marks
        exact .inr (same ▸ down)
      · exact .inl ⟨slot, (cleared name).trans ((if_neg here).trans there), same⟩
    · exact .inr stopped
  · exact fun name harness active => sound.serving name harness (still active).2

/-- What a rollback leaves of a failed deletion: each harness that was not stopped is active. -/
theorem Sound.rollbackAll {marked stopped resumed : List NamedHarness} (sound : Sound state)
    (found : state.deletions.get? call = some ⟨marked, .resuming stopped resumed []⟩)
    (some_ : resumed ≠ []) :
    Sound { state.rollback resumed with
      deletions := state.deletions.insert call ⟨marked, .returned stopped false⟩ } := by
  have own := sound.deletions _ _ found
  have all : resumed ++ [] = resumed := List.append_nil _
  have busy : resumed ++ [] ≠ [] := all.symm ▸ some_
  have distinct : (resumed.map Prod.fst).Nodup := all ▸ own.distinct
  have marks (named : NamedHarness) (member : named ∈ resumed) : state.slots.Marks named :=
    own.marks named (List.mem_append_left _ member)
  have restored {named : NamedHarness} (member : named ∈ resumed) :
      (state.rollback resumed).slots.get? named.1 = some (.active named.2) :=
    Slots.get?_rollbackAll marks distinct member
  have elsewhere {name : String} (absent : name ∉ resumed.map Prod.fst) :
      (state.rollback resumed).slots.get? name = state.slots.get? name :=
    Slots.get?_rollbackAll_of_notMem absent
  have cases_ {name : String} {slot : ProjectHarnessState}
      (there : (state.rollback resumed).slots.get? name = some slot) :
      (∃ harness, (name, harness) ∈ resumed ∧ slot = .active harness)
        ∨ name ∉ resumed.map Prod.fst ∧ state.slots.get? name = some slot := by
    by_cases among : name ∈ resumed.map Prod.fst
    · obtain ⟨named, member, rfl⟩ := List.mem_map.1 among
      exact .inl ⟨named.2, member, Option.some.inj (there.symm.trans (restored member))⟩
    · exact .inr ⟨among, (elsewhere among).symm.trans there⟩
  have within (name : String) (slot : ProjectHarnessState)
      (there : (state.rollback resumed).slots.get? name = some slot) :
      ∃ old, state.slots.get? name = some old ∧ old.harness = slot.harness := by
    rcases cases_ there with ⟨harness, member, rfl⟩ | ⟨-, before⟩
    · exact ⟨_, marks _ member, rfl⟩
    · exact ⟨slot, before, rfl⟩
  refine sound.advanced found busy within (fun _ stopped => stopped) ?_ ?_ ?_ ?_ sound.made
  · refine ⟨?_, ?_, List.nodup_nil, ?_, ?_, ?_, ?_, ?_⟩
    · exact fun _ _ backing => by cases backing
    · exact fun under => absurd ⟨_, _, rfl⟩ under
    · exact fun _ member => by cases member
    · exact fun _ member => by cases member
    · exact fun _ now => by cases now
    · exact fun _ member => by cases member
    · intro named member
      have gone := own.gone named member
      refine ⟨gone.1, gone.2.1, ?_⟩
      intro slot there
      obtain ⟨old, before, same⟩ := within _ slot there
      rw [← same]
      exact gone.2.2 old before
  · intro named marked
    rcases cases_ marked with ⟨harness, -, impossible⟩ | ⟨absent, before⟩
    · cases impossible
    · have member := sound.answered_by found busy before
      exact absurd (List.mem_map_of_mem (all ▸ member)) absent
  · intro harness name known
    rcases sound.kept harness name known with ⟨slot, there, same⟩ | down
    · by_cases among : name ∈ resumed.map Prod.fst
      · obtain ⟨named, member, rfl⟩ := List.mem_map.1 among
        refine .inl ⟨_, restored member, ?_⟩
        cases there.symm.trans (marks named member)
        exact same
      · exact .inl ⟨slot, (elsewhere among).trans there, same⟩
    · exact .inr down
  · intro name harness active
    rcases cases_ active with ⟨other, member, same⟩ | ⟨-, before⟩
    · cases same
      refine ⟨own.resumed _ member, ?_⟩
      intro down
      have now := own.running _ (List.mem_append_left _ member) down
      cases now
    · exact sound.serving name harness before

/-- A driver that is asked to quiesce or to resume does so. -/
def Stage.Obeyed (ok : Bool) : Stage → Prop
  | .quiescing _ (_ :: _) | .resuming _ _ (_ :: _) => ok = true
  | _ => True

/-- The event drivers live. -/
def DriversAlive (state : State) : Choice → Prop
  | .advance call ok =>
    ∀ deletion, state.deletions.get? call = some deletion → deletion.stage.Obeyed ok
  | _ => True

theorem Sound.advance (sound : Sound state) {ok : Bool}
    (alive : DriversAlive state (.advance call ok)) : Sound (state.advance call ok) := by
  unfold State.advance
  split
  · exact sound
  · next deletion found =>
    have obeyed := alive deletion found
    obtain ⟨marked, stage⟩ := deletion
    have own := sound.deletions _ _ found
    cases stage with
    | quiescing quiesced left =>
      cases left with
      | nil =>
        have all : quiesced ++ [] = quiesced := List.append_nil _
        refine sound.restaged found ?_ ?_
        · exact all.symm
        refine ⟨?_, ?_, all ▸ own.distinct, ?_, ?_, ?_, ?_, ?_⟩
        · exact fun _ _ backing => by cases backing
        · exact fun _ => (own.split (by rintro ⟨_, _, ⟨⟩⟩)).trans (congrArg _ all)
        · exact fun named member => own.marks named (List.mem_append_left _ member)
        · exact fun named member => own.running named (List.mem_append_left _ member)
        · exact fun _ now => by cases now
        · exact fun _ member => by cases member
        · exact fun _ member => by cases member
      | cons next left =>
        cases obeyed
        exact sound.quiesceNext found
    | backingOut left all => exact absurd rfl (own.forward left all)
    | stopping stopped left =>
      cases left with
      | nil =>
        refine sound.restaged found ?_ ?_
        · rfl
        refine ⟨?_, ?_, own.distinct, own.marks, own.running, ?_, own.resumed, own.gone⟩
        · exact fun _ _ backing => by cases backing
        · exact fun _ => own.split (by rintro ⟨_, _, ⟨⟩⟩)
        · exact fun _ now => by cases now
      | cons next left =>
        cases ok with
        | true => exact sound.stopNext found
        | false =>
          refine sound.restaged found ?_ ?_
          · rfl
          refine ⟨?_, ?_, own.distinct, own.marks, own.running, ?_, own.resumed, own.gone⟩
          · exact fun _ _ backing => by cases backing
          · exact fun _ => own.split (by rintro ⟨_, _, ⟨⟩⟩)
          · exact fun _ now => by cases now
    | clearing stopped current left => exact sound.finishCurrent found
    | releasing stopped =>
      refine sound.restaged found ?_ ?_
      · rfl
      refine ⟨?_, ?_, own.distinct, own.marks, own.running, ?_, own.resumed, own.gone⟩
      · exact fun _ _ backing => by cases backing
      · exact fun under => absurd ⟨_, _, rfl⟩ under
      · exact fun _ now => by cases now
    | abandoning stopped remaining =>
      refine sound.restaged found ?_ ?_
      · rfl
      refine ⟨?_, ?_, own.distinct, own.marks, own.running, ?_, ?_, own.gone⟩
      · exact fun _ _ backing => by cases backing
      · exact fun _ => own.split (by rintro ⟨_, _, ⟨⟩⟩)
      · exact fun _ now => by cases now
      · exact fun _ member => by cases member
    | resuming stopped resumed left =>
      cases left with
      | nil =>
        by_cases none : resumed = []
        · subst none
          refine sound.restaged found ?_ ?_
          · rfl
          refine ⟨?_, ?_, own.distinct, own.marks, own.running, ?_, own.resumed, own.gone⟩
          · exact fun _ _ backing => by cases backing
          · exact fun under => absurd ⟨_, _, rfl⟩ under
          · exact fun _ now => by cases now
        · exact sound.rollbackAll found none
      | cons next left =>
        cases obeyed
        exact sound.resumeNext found
    | returned stopped succeeded =>
      refine sound.restaged found ?_ ?_
      · rfl
      exact own

/-! ## Creations and the beginning of a deletion -/

theorem Sound.calling (sound : Sound state) (creating : IndexMap ℕ String) {calls : ℕ}
    (more : state.calls ≤ calls) : Sound { state with creating := creating, calls := calls } := by
  refine ⟨?_, sound.alone, sound.answered, sound.placed, sound.kept, sound.serving, sound.made, ?_⟩
  · intro call deletion found
    have own := sound.deletions call deletion found
    exact ⟨own.forward, own.split, own.distinct, own.marks, own.running, own.current, own.resumed,
      own.gone⟩
  · exact fun call deletion found => Nat.lt_of_lt_of_le (sound.begun call deletion found) more

theorem Sound.publish (sound : Sound state) {name : String}
    (empty : state.slots.get? name = none) (creating : IndexMap ℕ String) :
    Sound { state with
      slots := state.slots.publishActive name state.published.length
      published := state.published ++ [name]
      creating := creating } := by
  have longer : (state.published ++ [name]).length = state.published.length + 1 :=
    List.length_append
  have elsewhere {other : String} (apart : other ≠ name) :
      (state.slots.publishActive name state.published.length).get? other
        = state.slots.get? other :=
    IndexMap.get?_insert_of_ne _ apart _
  have slot_of {other : String} {slot : ProjectHarnessState}
      (there : (state.slots.publishActive name state.published.length).get? other = some slot) :
      other = name ∧ slot = .active state.published.length
        ∨ other ≠ name ∧ state.slots.get? other = some slot := by
    by_cases same : other = name
    · rw [same] at there
      exact .inl ⟨same, (Option.some.inj ((IndexMap.get?_insert_self _ _ _).symm.trans there)).symm⟩
    · exact .inr ⟨same, (elsewhere same).symm.trans there⟩
  have filled {other : String} {slot : ProjectHarnessState}
      (there : state.slots.get? other = some slot) : other ≠ name := by
    rintro rfl
    cases empty.symm.trans there
  refine ⟨?_, sound.alone, ?_, ?_, ?_, ?_, ?_, sound.begun⟩
  · intro call deletion found
    have own := sound.deletions call deletion found
    refine ⟨own.forward, own.split, own.distinct, ?_, own.running, own.current, own.resumed, ?_⟩
    · intro named member
      have marks := own.marks named member
      exact (elsewhere (filled marks)).trans marks
    · intro named member
      obtain ⟨stopped, known, gone⟩ := own.gone named member
      refine ⟨stopped, longer ▸ Nat.lt_succ_of_lt known, ?_⟩
      intro slot there
      rcases slot_of there with ⟨-, rfl⟩ | ⟨-, before⟩
      · exact (Nat.ne_of_lt known).symm
      · exact gone slot before
  · intro named marks
    rcases slot_of marks with ⟨-, impossible⟩ | ⟨-, before⟩
    · cases impossible
    · exact sound.answered named before
  · intro other slot there
    rcases slot_of there with ⟨rfl, rfl⟩ | ⟨-, before⟩
    · exact List.getElem?_concat_length
    · have placed := sound.placed other slot before
      have known := (List.getElem?_eq_some_iff.1 placed).1
      exact (List.getElem?_append_left known).trans placed
  · intro harness other known
    by_cases new : harness = state.published.length
    · subst new
      have same := List.getElem?_concat_length.symm.trans known
      cases same
      exact .inl ⟨_, IndexMap.get?_insert_self _ _ _, rfl⟩
    · have bound : harness < state.published.length + 1 :=
        longer ▸ (List.getElem?_eq_some_iff.1 known).1
      have old : harness < state.published.length := by omega
      rw [List.getElem?_append_left old] at known
      rcases sound.kept harness other known with ⟨slot, there, same⟩ | down
      · exact .inl ⟨slot, (elsewhere (filled there)).trans there, same⟩
      · exact .inr down
  · intro other harness active
    rcases slot_of active with ⟨-, same⟩ | ⟨-, before⟩
    · cases same
      constructor
      · exact fun quieted => absurd (sound.made _ (.inl quieted)) (Nat.lt_irrefl _)
      · exact fun down => absurd (sound.made _ (.inr down)) (Nat.lt_irrefl _)
    · exact sound.serving other harness before
  · intro harness member
    exact longer ▸ Nat.lt_succ_of_lt (sound.made harness member)

theorem Sound.getOrCreate (sound : Sound state) (name : String) : Sound (state.getOrCreate name) := by
  unfold State.getOrCreate
  split
  · exact sound.calling _ (Nat.le_succ _)
  · exact sound

theorem Sound.create (sound : Sound state) (made : Bool) : Sound (state.create call made) := by
  unfold State.create
  split
  · exact sound
  · split
    · next creatable =>
      split
      · exact sound.publish (Slots.activeOrCreatable_none creatable) _
      · exact sound.calling _ (Nat.le_refl _)
    · exact sound.calling _ (Nat.le_refl _)

theorem Sound.beginDeletion (sound : Sound state) : Sound state.beginDeletion := by
  unfold State.beginDeletion
  split
  · exact sound
  · next marked slots begun =>
    obtain ⟨unmarked, rfl, all⟩ := Slots.beginDeleteAll_some begun
    have idle {other : ℕ} {second : Deletion}
        (there : state.deletions.get? other = some second) : second.stage.unfinished = [] := by
      apply List.eq_nil_iff_forall_not_mem.2
      intro named member
      exact unmarked _ _ ((sound.deletions other second there).marks named member)
    have slot_of {name : String} {slot : ProjectHarnessState}
        (there : (state.slots.mapValues fun state => .deleting state.harness).get? name
          = some slot) :
        ∃ old, state.slots.get? name = some old ∧ slot = .deleting old.harness := by
      rw [IndexMap.get?_mapValues, Option.map_eq_some_iff] at there
      obtain ⟨old, before, rfl⟩ := there
      exact ⟨old, before, rfl⟩
    have within (name : String) (slot : ProjectHarnessState)
        (there : (state.slots.mapValues fun state => .deleting state.harness).get? name
          = some slot) :
        ∃ old, state.slots.get? name = some old ∧ old.harness = slot.harness := by
      obtain ⟨old, before, rfl⟩ := slot_of there
      exact ⟨old, before, rfl⟩
    refine ⟨?_, ?_, ?_, ?_, ?_, ?_, sound.made, ?_⟩
    · intro other second there
      rw [IndexMap.get?_insert] at there
      split at there
      · cases there
        refine ⟨?_, fun _ => rfl, ?_, ?_, ?_, ?_, ?_, ?_⟩
        · exact fun _ _ backing => by cases backing
        · change (marked.map Prod.fst).Nodup
          rw [all, List.map_map]
          exact state.slots.nodup
        · intro named member
          obtain ⟨old, before, same⟩ := (Slots.mem_marked all).1 member
          refine (IndexMap.get?_mapValues _ _ _).trans ?_
          rw [before, ← same]
          rfl
        · intro named member down
          obtain ⟨old, before, same⟩ := (Slots.mem_marked all).1 member
          cases old with
          | active harness =>
            cases same
            exact absurd down (sound.serving _ _ before).2
          | deleting harness => exact absurd before (unmarked _ _)
        · exact fun _ now => by cases now
        · exact fun _ member => by cases member
        · exact fun _ member => by cases member
      · exact (sound.deletions other second there).idle (idle there) rfl within
          fun _ stopped => stopped
    · intro one other first second here there more most
      rw [IndexMap.get?_insert] at here there
      split at here
      · next one_is =>
        split at there
        · next other_is => rw [one_is, other_is]
        · exact absurd (idle there) most
      · exact absurd (idle here) more
    · intro named marks
      refine ⟨state.calls, _, IndexMap.get?_insert_self _ _ _, ?_⟩
      obtain ⟨old, before, same⟩ := slot_of marks
      exact (Slots.mem_marked all).2 ⟨old, before, (ProjectHarnessState.deleting.inj same).symm⟩
    · intro name slot there
      obtain ⟨old, before, same⟩ := within name slot there
      rw [← same]
      exact sound.placed name old before
    · intro harness name known
      rcases sound.kept harness name known with ⟨slot, there, same⟩ | down
      · refine .inl ⟨.deleting slot.harness, ?_, same⟩
        refine (IndexMap.get?_mapValues _ _ _).trans ?_
        rw [there]
        rfl
      · exact .inr down
    · intro name harness active
      obtain ⟨old, -, impossible⟩ := slot_of active
      cases impossible
    · intro other second there
      rw [IndexMap.get?_insert] at there
      split at there
      · next same => exact same ▸ Nat.lt_succ_self _
      · exact Nat.lt_succ_of_lt (sound.begun other second there)

theorem Sound.step (sound : Sound state) (choice : Choice) (alive : DriversAlive state choice) :
    Sound (state.step choice) := by
  cases choice with
  | getOrCreate name => exact sound.getOrCreate name
  | create call made => exact sound.create made
  | deleteProject => exact sound.beginDeletion
  | advance call ok => exact sound.advance alive

theorem sound_run {schedule : List Choice}
    (alive : Meets State.step DriversAlive State.empty schedule) :
    Sound (run State.step State.empty schedule) :=
  run_invariant sound_empty alive fun _ choice sound alive => sound.step choice alive

/-- While the drivers live, whatever creations and deletions come between each other's steps: an
instance that its slot offers is neither quiesced nor shut down, and a slot in deletion is one that
a single deletion has yet to finish with. SOURCE: registry.rs:752-806, 1760-1887. -/
theorem slots_are_owned {schedule : List Choice}
    (alive : Meets State.step DriversAlive State.empty schedule) :
    let state := run State.step State.empty schedule
    (∀ name harness, state.slots.get? name = some (.active harness) →
      harness ∉ state.quiesced ∧ harness ∉ state.shutDown) ∧
    ∀ name harness, state.slots.get? name = some (.deleting harness) →
      ∃! call, ∃ deletion, state.deletions.get? call = some deletion ∧
        (name, harness) ∈ deletion.stage.unfinished := by
  have sound := sound_run alive
  refine ⟨sound.serving, fun name harness marked => ?_⟩
  obtain ⟨call, deletion, under, member⟩ := sound.answered (name, harness) marked
  refine ⟨call, ⟨deletion, under, member⟩, ?_⟩
  rintro other ⟨second, there, member'⟩
  exact sound.alone _ _ _ _ there under (List.ne_nil_of_mem member') (List.ne_nil_of_mem member)

/-! ## How a deletion returns -/

theorem advanceStage_returned {stage : Stage} {ok succeeded : Bool} {stopped : List NamedHarness}
    (forward : ∀ left all, stage ≠ .backingOut left all) (obeyed : stage.Obeyed ok)
    (after : (state.advanceStage ok stage).2 = .returned stopped succeeded) :
    stage = .returned stopped succeeded
      ∨ stage = .releasing stopped ∧ succeeded = true ∧ (state.advanceStage ok stage).1 = state
      ∨ ∃ resumed, stage = .resuming stopped resumed [] ∧ succeeded = false ∧
          (state.advanceStage ok stage).1 = state.rollback resumed := by
  cases stage with
  | quiescing quiesced left =>
    cases left with
    | nil => cases after
    | cons next left =>
      cases obeyed
      cases after
  | backingOut left all => exact absurd rfl (forward left all)
  | stopping gone left =>
    cases left with
    | nil => cases after
    | cons next left =>
      cases ok with
      | true => cases after
      | false => cases after
  | clearing gone current left => cases after
  | releasing gone =>
    cases after
    exact .inr (.inl ⟨rfl, rfl, rfl⟩)
  | abandoning gone remaining => cases after
  | resuming gone resumed left =>
    cases left with
    | nil =>
      cases after
      exact .inr (.inr ⟨resumed, rfl, rfl, rfl⟩)
    | cons next left =>
      cases obeyed
      cases after
  | returned gone done => exact .inl after

theorem advanceStage_deletions {stage : Stage} {ok : Bool} :
    (state.advanceStage ok stage).1.deletions = state.deletions := by
  unfold State.advanceStage
  split
  all_goals try rfl
  all_goals split
  all_goals rfl

/-- Only a step of a deletion makes it return. -/
theorem step_returned {choice : Choice} {stopped : List NamedHarness} {succeeded : Bool}
    (before : state.deletions.get? call ≠ some deletion)
    (after : (state.step choice).deletions.get? call = some deletion)
    (returned : deletion.stage = .returned stopped succeeded) :
    ∃ ok stage, choice = .advance call ok ∧
      state.deletions.get? call = some ⟨deletion.marked, stage⟩ ∧
      (state.advanceStage ok stage).2 = .returned stopped succeeded ∧
      (state.step choice).slots = (state.advanceStage ok stage).1.slots ∧
      (state.step choice).quiesced = (state.advanceStage ok stage).1.quiesced ∧
      (state.step choice).shutDown = (state.advanceStage ok stage).1.shutDown := by
  cases choice with
  | getOrCreate name =>
    unfold State.step State.getOrCreate at after
    dsimp only at after
    split at after
    · exact absurd after before
    · exact absurd after before
  | create other made =>
    unfold State.step State.create at after
    dsimp only at after
    split at after
    · exact absurd after before
    · split at after
      · split at after
        · exact absurd after before
        · exact absurd after before
      · exact absurd after before
  | deleteProject =>
    unfold State.step State.beginDeletion at after
    dsimp only at after
    split at after
    · exact absurd after before
    · dsimp only at after
      rw [IndexMap.get?_insert] at after
      split at after
      · cases after
        cases returned
      · exact absurd after before
  | advance other ok =>
    unfold State.step State.advance at after ⊢
    dsimp only at after ⊢
    split at after
    · exact absurd after before
    · next old found =>
      dsimp only at after
      rw [advanceStage_deletions, IndexMap.get?_insert] at after
      split at after
      · next same =>
        cases after
        subst same
        refine ⟨ok, old.stage, rfl, found, returned, ?_⟩
        exact ⟨rfl, rfl, rfl⟩
      · exact absurd after before

/-- A harness that a deletion stopped has left its slot. -/
def State.Gone (state : State) (named : NamedHarness) : Prop :=
  named.2 ∈ state.shutDown ∧ ∀ slot, state.slots.get? named.1 = some slot → slot.harness ≠ named.2

/-- A harness serves its slot, and its driver is resumed. -/
def State.Serves (state : State) (named : NamedHarness) : Prop :=
  state.slots.get? named.1 = some (.active named.2) ∧ named.2 ∉ state.quiesced ∧
    named.2 ∉ state.shutDown

/-- Every harness a deletion marked is gone, if the deletion stopped it, or serves again. -/
def State.Undone (state : State) (marked stopped : List NamedHarness) : Prop :=
  ∀ named ∈ marked,
    named ∈ stopped ∧ state.Gone named ∨ named ∉ stopped ∧ state.Serves named

/-- A deletion that fails has undone what it did not finish. -/
theorem Sound.undone {choice : Choice} {stopped : List NamedHarness} (sound : Sound state)
    (alive : DriversAlive state choice) (before : state.deletions.get? call ≠ some deletion)
    (after : (state.step choice).deletions.get? call = some deletion)
    (failed : deletion.stage = .returned stopped false) :
    (state.step choice).Undone deletion.marked stopped := by
  obtain ⟨ok, stage, rfl, found, returned, slots, quiesced, shutDown⟩ :=
    step_returned before after failed
  have own := sound.deletions _ _ found
  rcases advanceStage_returned own.forward (alive _ found) returned with rfl | success | failure
  · exact absurd (found.trans (congrArg some
      (show Deletion.mk _ _ = deletion by rw [← failed]))) before
  · cases success.2.1
  · obtain ⟨resumed, rfl, -, same⟩ := failure
    have all : resumed ++ [] = resumed := List.append_nil _
    have split : deletion.marked = stopped ++ (resumed ++ []) := by
      have split := own.split (by rintro ⟨_, _, ⟨⟩⟩)
      cases returned
      exact split
    have marks (named : NamedHarness) (member : named ∈ resumed) : state.slots.Marks named :=
      own.marks named (List.mem_append_left _ member)
    have gone := ((sound.step _ alive).deletions call deletion after).gone
    rw [failed] at gone
    intro named member
    rw [split, all] at member
    rcases List.mem_append.1 member with stopped_ | put
    · exact .inl ⟨stopped_, (gone named stopped_).1, (gone named stopped_).2.2⟩
    · have active : (state.advanceStage ok (.resuming stopped resumed [])).1.slots.get? named.1
          = some (.active named.2) :=
        Slots.get?_rollbackAll marks (all ▸ own.distinct) put
      refine .inr ⟨?_, ?_, ?_, ?_⟩
      · intro stopped_
        exact (own.gone named (by cases returned; exact stopped_)).2.2 _ (marks named put) rfl
      · rw [slots]
        exact active
      · rw [quiesced]
        exact own.resumed named (by exact put)
      · rw [shutDown]
        intro down
        have now := own.running named (List.mem_append_left _ put) down
        cases now

/-! ## Deletions without creations -/

/-- A creation publishes an instance only while no deletion is under way. -/
def Uncrowded (state : State) : Choice → Prop
  | .create call true =>
    (∃ name, state.creating.get? call = some name ∧ state.slots.get? name = none) →
      ∀ other deletion, state.deletions.get? other = some deletion → deletion.stage.Returned
  | _ => True

/-- A deletion under way has every harness of the project among those it has not finished with. -/
def Covered (state : State) : Prop :=
  ∀ call deletion, state.deletions.get? call = some deletion → ¬deletion.stage.Returned →
    ∀ name slot, state.slots.get? name = some slot →
      (name, slot.harness) ∈ deletion.stage.unfinished

/-- What is in the slots after a step of a deletion was there before, and the deletion has not
finished with it unless it returns. -/
theorem advanceStage_slots {stage : Stage} {ok : Bool} {marked : List NamedHarness}
    (own : Deletion.Sound state ⟨marked, stage⟩) {name : String} {slot : ProjectHarnessState}
    (there : (state.advanceStage ok stage).1.slots.get? name = some slot) :
    ∃ old, state.slots.get? name = some old ∧ old.harness = slot.harness ∧
      ((name, slot.harness) ∈ stage.unfinished → ¬(state.advanceStage ok stage).2.Returned →
        (name, slot.harness) ∈ (state.advanceStage ok stage).2.unfinished) := by
  cases stage with
  | quiescing quiesced left =>
    cases left with
    | nil =>
      refine ⟨slot, there, rfl, fun member _ => ?_⟩
      exact (List.append_nil quiesced) ▸ member
    | cons next left =>
      cases ok with
      | true =>
        refine ⟨slot, there, rfl, fun member _ => ?_⟩
        change _ ∈ (quiesced ++ [next]) ++ left
        rw [List.append_assoc]
        exact member
      | false => exact ⟨slot, there, rfl, fun member _ => member⟩
  | backingOut left all => exact absurd rfl (own.forward left all)
  | stopping stopped left =>
    cases left with
    | nil => exact ⟨slot, there, rfl, fun member _ => member⟩
    | cons next left =>
      cases ok with
      | true => exact ⟨slot, there, rfl, fun member _ => member⟩
      | false => exact ⟨slot, there, rfl, fun member _ => member⟩
  | clearing stopped current left =>
    have marks := own.marks current (List.mem_cons_self ..)
    change (state.slots.finishDelete current).get? name = some slot at there
    rw [Slots.finishDelete_of_marks marks, IndexMap.get?_shiftRemove] at there
    split at there
    · cases there
    · next other =>
      refine ⟨slot, there, rfl, fun member _ => ?_⟩
      rcases List.mem_cons.1 member with now | later
      · exact absurd (congrArg Prod.fst now) other
      · exact later
  | releasing stopped => exact ⟨slot, there, rfl, fun member _ => member⟩
  | abandoning stopped remaining => exact ⟨slot, there, rfl, fun member _ => member⟩
  | resuming stopped resumed left =>
    cases left with
    | nil =>
      have old : ∃ old, state.slots.get? name = some old ∧ old.harness = slot.harness := by
        by_cases among : name ∈ resumed.map Prod.fst
        · obtain ⟨named, member, rfl⟩ := List.mem_map.1 among
          have all : resumed ++ [] = resumed := List.append_nil _
          have marks (other : NamedHarness) (member : other ∈ resumed) : state.slots.Marks other :=
            own.marks other (List.mem_append_left _ member)
          have active := Slots.get?_rollbackAll marks (all ▸ own.distinct) member
          cases active.symm.trans there
          exact ⟨_, marks named member, rfl⟩
        · exact ⟨slot, (Slots.get?_rollbackAll_of_notMem among).symm.trans there, rfl⟩
      obtain ⟨old, before, same⟩ := old
      exact ⟨old, before, same, fun _ under => absurd ⟨_, _, rfl⟩ under⟩
    | cons next left =>
      cases ok with
      | true =>
        refine ⟨slot, there, rfl, fun member _ => ?_⟩
        change _ ∈ (resumed ++ [next]) ++ left
        rw [List.append_assoc]
        exact member
      | false => exact ⟨slot, there, rfl, fun _ under => absurd ⟨_, _, rfl⟩ under⟩
  | returned stopped succeeded => exact ⟨slot, there, rfl, fun member _ => member⟩

theorem Covered.advance (covered : Covered state) (sound : Sound state) (ok : Bool) :
    Covered (state.advance call ok) := by
  unfold State.advance
  split
  · exact covered
  · next deletion found =>
    have own := sound.deletions _ _ found
    intro other second there under name slot here
    obtain ⟨old, before, same, mine⟩ := advanceStage_slots own here
    dsimp only at there
    rw [advanceStage_deletions, IndexMap.get?_insert] at there
    split at there
    · cases there
      apply mine _ under
      rw [← same]
      by_cases returned : deletion.stage.Returned
      · obtain ⟨stopped, succeeded, returned⟩ := returned
        rw [returned] at under
        exact absurd ⟨_, _, rfl⟩ under
      · exact covered call deletion found returned name old before
    · rw [← same]
      exact covered other second there under name old before

theorem Covered.step (covered : Covered state) (sound : Sound state) {choice : Choice}
    (uncrowded : Uncrowded state choice) : Covered (state.step choice) := by
  cases choice with
  | getOrCreate name =>
    unfold State.step State.getOrCreate
    dsimp only
    split
    · exact covered
    · exact covered
  | create other made =>
    unfold State.step State.create
    dsimp only
    split
    · exact covered
    · next name creating =>
      split
      · next creatable =>
        cases made with
        | true =>
          have empty := Slots.activeOrCreatable_none creatable
          intro call deletion found under
          exact absurd (uncrowded ⟨name, creating, empty⟩ call deletion found) under
        | false => exact covered
      · exact covered
  | deleteProject =>
    unfold State.step State.beginDeletion
    dsimp only
    split
    · exact covered
    · next marked slots begun =>
      obtain ⟨unmarked, rfl, all⟩ := Slots.beginDeleteAll_some begun
      intro call deletion found under name slot there
      rw [IndexMap.get?_mapValues, Option.map_eq_some_iff] at there
      obtain ⟨old, before, rfl⟩ := there
      dsimp only at found
      rw [IndexMap.get?_insert] at found
      split at found
      · cases found
        exact (Slots.mem_marked all).2 ⟨old, before, rfl⟩
      · have member := covered call deletion found under name old before
        have marks := (sound.deletions call deletion found).marks _ member
        exact absurd marks (unmarked _ _)
  | advance call ok => exact covered.advance sound ok

theorem covered_empty : Covered State.empty := by
  intro call deletion found
  cases found

/-! ## The main results -/

/-- What a step leaves behind: every published instance is in its slot or shut down, and of those
of one declaration at most one is not shut down; a slot in deletion belongs to a deletion under
way; and a deletion that fails now has undone what it did not finish. -/
structure Kept (state : State) (choice : Choice) : Prop where
  placed : ∀ (harness : ℕ) name, (state.step choice).published[harness]? = some name →
    (∃ slot, (state.step choice).slots.get? name = some slot ∧ slot.harness = harness)
      ∨ harness ∈ (state.step choice).shutDown
  single : ∀ (first second : ℕ) name, (state.step choice).published[first]? = some name →
    (state.step choice).published[second]? = some name →
    first ∉ (state.step choice).shutDown → second ∉ (state.step choice).shutDown → first = second
  answered : ∀ named, (state.step choice).slots.Marks named → ∃ call deletion,
    (state.step choice).deletions.get? call = some deletion ∧ ¬deletion.stage.Returned ∧
      named ∈ deletion.marked
  undone : ∀ call deletion stopped, state.deletions.get? call ≠ some deletion →
    (state.step choice).deletions.get? call = some deletion →
    deletion.stage = .returned stopped false → (state.step choice).Undone deletion.marked stopped

/-- A deletion that succeeds now leaves every slot of the project empty. -/
def Emptied (state : State) (choice : Choice) : Prop :=
  ∀ call deletion stopped, state.deletions.get? call ≠ some deletion →
    (state.step choice).deletions.get? call = some deletion →
    deletion.stage = .returned stopped true → ∀ name, (state.step choice).slots.get? name = none

theorem Sound.single (sound : Sound state) {first second : ℕ} {name : String}
    (one : state.published[first]? = some name) (other : state.published[second]? = some name)
    (up : first ∉ state.shutDown) (also : second ∉ state.shutDown) : first = second := by
  rcases sound.kept first name one with ⟨slot, here, rfl⟩ | down
  · rcases sound.kept second name other with ⟨slot', there, rfl⟩ | down
    · cases here.symm.trans there
      rfl
    · exact absurd down also
  · exact absurd down up

theorem Sound.leaves (sound : Sound state) {choice : Choice} (alive : DriversAlive state choice) :
    Kept state choice := by
  have after := sound.step choice alive
  refine ⟨after.kept, fun first second name => after.single, ?_, ?_⟩
  · intro named marks
    obtain ⟨call, deletion, found, member⟩ := after.answered named marks
    have under : ¬deletion.stage.Returned := by
      rintro ⟨stopped, succeeded, returned⟩
      rw [returned] at member
      cases member
    refine ⟨call, deletion, found, under, ?_⟩
    rw [(after.deletions call deletion found).split under]
    exact List.mem_append_right _ member
  · exact fun call deletion stopped before now failed => sound.undone alive before now failed

theorem Sound.emptied (sound : Sound state) (covered : Covered state) {choice : Choice}
    (alive : DriversAlive state choice) : Emptied state choice := by
  intro call deletion stopped before now succeeded name
  obtain ⟨ok, stage, rfl, found, returned, slots, -, -⟩ := step_returned before now succeeded
  have own := sound.deletions _ _ found
  rcases advanceStage_returned own.forward (alive _ found) returned with rfl | success | failure
  · exact absurd (found.trans (congrArg some
      (show Deletion.mk _ _ = deletion by rw [← succeeded]))) before
  · obtain ⟨rfl, -, same⟩ := success
    rw [slots, same]
    apply Option.eq_none_iff_forall_ne_some.2
    intro slot there
    have member := covered call _ found (by rintro ⟨_, _, ⟨⟩⟩) name slot there
    cases member
  · obtain ⟨resumed, -, impossible, -⟩ := failure
    cases impossible

theorem meets_kept {schedule : List Choice} (sound : Sound state)
    (alive : Meets State.step DriversAlive state schedule) :
    Meets State.step Kept state schedule := by
  induction schedule generalizing state with
  | nil => trivial
  | cons choice rest ih => exact ⟨sound.leaves alive.1, ih (sound.step choice alive.1) alive.2⟩

theorem meets_emptied {schedule : List Choice} (sound : Sound state) (covered : Covered state)
    (alive : Meets State.step DriversAlive state schedule)
    (uncrowded : Meets State.step Uncrowded state schedule) :
    Meets State.step Emptied state schedule := by
  induction schedule generalizing state with
  | nil => trivial
  | cons choice rest ih =>
    exact ⟨sound.emptied covered alive.1, ih (sound.step choice alive.1)
      (covered.step sound uncrowded.1) alive.2 uncrowded.2⟩

/-- However creations and deletions of one project interleave while its drivers live, no instance
is lost and no slot is stuck; and where no creation publishes an instance while a deletion is under
way, a deletion that succeeds leaves no slot occupied. -/
theorem deletions_leave_no_harness (schedule : List Choice)
    (alive : Meets State.step DriversAlive State.empty schedule) :
    Meets State.step Kept State.empty schedule
      ∧ (Meets State.step Uncrowded State.empty schedule →
        Meets State.step Emptied State.empty schedule) :=
  ⟨meets_kept sound_empty alive, meets_emptied sound_empty covered_empty alive⟩

/-- Two declarations, and a deletion that has quiesced both drivers. -/
def quiescedDeletion : List Choice :=
  [.getOrCreate "stable", .create 0 true, .getOrCreate "nightly", .create 1 true, .deleteProject,
    .advance 2 true, .advance 2 true, .advance 2 true]

theorem slots_are_owned_sample : ∃! call, ∃ deletion,
    (run State.step State.empty quiescedDeletion).deletions.get? call = some deletion ∧
      ("nightly", 1) ∈ deletion.stage.unfinished := by
  have obeyed (state : State) : DriversAlive state (.advance 2 true) := by
    intro deletion found
    unfold Stage.Obeyed
    split <;> trivial
  exact (@slots_are_owned quiescedDeletion ⟨trivial, trivial, trivial, trivial, trivial, obeyed _,
    obeyed _, obeyed _, trivial⟩).2 "nightly" 1 (by decide +kernel)

/-- The next harness is shut down and its slot is cleared. -/
def stopAndClear : List Choice := [.advance 2 true, .advance 2 true]

/-- A creation between the two shutdowns, up to the deletion's last step. -/
def crowdedDeletion : List Choice :=
  quiescedDeletion ++ stopAndClear ++ [.getOrCreate "stable", .create 3 true] ++ stopAndClear ++
    [.advance 2 true]

theorem deletions_leave_no_harness_sample :
    Meets State.step Emptied State.empty
      (quiescedDeletion ++ stopAndClear ++ stopAndClear ++ [.advance 2 true, .advance 2 true]) := by
  have obeyed (state : State) (call : ℕ) : DriversAlive state (.advance call true) := by
    intro deletion found
    unfold Stage.Obeyed
    split <;> trivial
  apply (deletions_leave_no_harness _ _).2
  · refine ⟨trivial, ?_, trivial, ?_, trivial, trivial, trivial, trivial, trivial, trivial, trivial,
      trivial, trivial, trivial, trivial⟩
    · exact fun _ _ _ found => by cases found
    · exact fun _ _ _ found => by cases found
  · exact ⟨trivial, trivial, trivial, trivial, trivial, obeyed _ _, obeyed _ _, obeyed _ _,
      obeyed _ _, obeyed _ _, obeyed _ _, obeyed _ _, obeyed _ _, obeyed _ _, trivial⟩

/-- A creation finds a slot cleared while the deletion stops the next harness, and the deletion
succeeds with the new instance in its slot. -/
theorem creation_outlives_deletion :
    (¬∀ schedule, Meets State.step DriversAlive State.empty schedule →
        Meets State.step Emptied State.empty schedule)
      ∧ (run State.step State.empty crowdedDeletion).deletions.get? 2
        = some ⟨[("stable", 0), ("nightly", 1)], .releasing [("stable", 0), ("nightly", 1)]⟩
      ∧ ((run State.step State.empty crowdedDeletion).step (.advance 2 true)).deletions.get? 2
        = some ⟨[("stable", 0), ("nightly", 1)], .returned [("stable", 0), ("nightly", 1)] true⟩
      ∧ ((run State.step State.empty crowdedDeletion).step (.advance 2 true)).slots.get? "stable"
        = some (.active 2) := by
  have obeyed (state : State) (call : ℕ) : DriversAlive state (.advance call true) := by
    intro deletion found
    unfold Stage.Obeyed
    split <;> trivial
  have returned :
      ((run State.step State.empty crowdedDeletion).step (.advance 2 true)).deletions.get? 2
        = some ⟨[("stable", 0), ("nightly", 1)], .returned [("stable", 0), ("nightly", 1)] true⟩ := by
    decide +kernel
  have releasing : (run State.step State.empty crowdedDeletion).deletions.get? 2
      = some ⟨[("stable", 0), ("nightly", 1)], .releasing [("stable", 0), ("nightly", 1)]⟩ := by
    decide +kernel
  have occupied : ((run State.step State.empty crowdedDeletion).step (.advance 2 true)).slots.get?
      "stable" = some (.active 2) := by
    decide +kernel
  refine ⟨?_, releasing, returned, occupied⟩
  intro always
  have alive : Meets State.step DriversAlive State.empty
      (crowdedDeletion ++ [Choice.advance 2 true]) :=
    ⟨trivial, trivial, trivial, trivial, trivial, obeyed _ _, obeyed _ _, obeyed _ _,
      obeyed _ _, obeyed _ _, trivial, trivial, obeyed _ _, obeyed _ _, obeyed _ _, obeyed _ _,
      trivial⟩
  have meets := always _ alive
  have last := (Foundation.Schedule.meets_append.1 meets).2.1
  have empty := last 2 _ _ (by rw [releasing]; simp) returned rfl "stable"
  cases empty.symm.trans occupied

end Giskard.Harnesses
