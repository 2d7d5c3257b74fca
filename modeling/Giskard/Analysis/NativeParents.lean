import Mathlib
import Giskard.Foundation.Ancestry
import Giskard.Foundation.Schedule
import Giskard.Model.NativeParents

/-!
# Whether attested parentage is a forest

A recorded parent never changes. Whether the chains of parents end is decided by the links that
report upwards: the mapper refuses one to the owner's own parent, and a link to an ancestor
further up, whose parent nothing has attested, closes a circle.
-/

set_option autoImplicit false

namespace Giskard

open Foundation (Above IndexMap Rooted)

namespace NativeParentage

/-- The parents, every native thread without one being a root. -/
def up (s : NativeParentage) (node : NativeThreadId) : Option (Option NativeThreadId) :=
  some (s.nativeParents.get? node)

/-- Every chain of parents ends. -/
def Forest (s : NativeParentage) : Prop := ∀ node, Rooted s.up node

/-- The parent and the child that an item's link attests, where the item is not dropped and
neither id is blank. -/
def linked (s : NativeParentage) (link : Option String) (threadId : String)
    (fallbackThread : ThreadId) : Option (NativeThreadId × NativeThreadId) :=
  match s.routes.resolve threadId fallbackThread, link with
  | .ok _, some harnessThreadId =>
    let parent := NativeThreadId.trimmed threadId
    let child := NativeThreadId.trimmed harnessThreadId
    if parent.text = "" ∨ child.text = "" then none else some (parent, child)
  | _, _ => none

def attested (s : NativeParentage) : ParentageStep → Option (NativeThreadId × NativeThreadId)
  | .itemStarted item threadId fallbackThread => s.linked item.startLink threadId fallbackThread
  | .itemCompleted item threadId fallbackThread =>
    s.linked item.completedLink threadId fallbackThread
  | .route _ => none

/-- A link that does not name, from further down than its child, an ancestor of its owner without
a recorded parent. -/
def Harmless (s : NativeParentage) (label : ParentageStep) : Prop :=
  ∀ parent child, s.attested label = some (parent, child) → s.nativeParents.get? child = none →
    ∀ grand, s.nativeParents.get? parent = some grand → grand ≠ child → ¬ Above s.up grand child

variable {crates : Crates} {s : NativeParentage} {label : ParentageStep}
  {parent child : NativeThreadId}

/-! ## One step -/

/-- What a step does to the parents: nothing, or it records the one it attests. -/
theorem step_cases (crates : Crates) (s : NativeParentage) (label : ParentageStep) :
    (s.step crates label).nativeParents = s.nativeParents ∧
        (∀ parent child, s.attested label = some (parent, child) → parent ≠ child →
          s.nativeParents.get? parent ≠ some child → s.nativeParents.get? child ≠ none) ∨
      ∃ parent child, s.attested label = some (parent, child) ∧ parent ≠ child ∧
        s.nativeParents.get? parent ≠ some child ∧ s.nativeParents.get? child = none ∧
          (s.step crates label).nativeParents = s.nativeParents.insert child parent := by
  have item (link : Option String) (threadId : String) (fallbackThread : ThreadId) :
      (s.onItem link threadId fallbackThread).nativeParents = s.nativeParents ∧
          (∀ parent child, s.linked link threadId fallbackThread = some (parent, child) →
            parent ≠ child → s.nativeParents.get? parent ≠ some child →
              s.nativeParents.get? child ≠ none) ∨
        ∃ parent child, s.linked link threadId fallbackThread = some (parent, child) ∧
          parent ≠ child ∧ s.nativeParents.get? parent ≠ some child ∧
            s.nativeParents.get? child = none ∧
              (s.onItem link threadId fallbackThread).nativeParents =
                s.nativeParents.insert child parent := by
    unfold onItem linked
    cases s.routes.resolve threadId fallbackThread with
    | error unknown => exact Or.inl ⟨rfl, fun _ _ none => by cases none⟩
    | ok thread =>
      cases link with
      | none => exact Or.inl ⟨rfl, fun _ _ none => by cases none⟩
      | some harnessThreadId =>
        dsimp only
        unfold trackNativeParentage
        dsimp only
        generalize NativeThreadId.trimmed threadId = parent
        generalize NativeThreadId.trimmed harnessThreadId = child
        by_cases blank : parent.text = "" ∨ child.text = ""
        · have skipped : parent.text = "" ∨ child.text = "" ∨ parent = child := by tauto
          rw [if_pos blank, if_pos skipped]
          exact Or.inl ⟨rfl, fun _ _ none => by cases none⟩
        · rw [if_neg blank]
          by_cases self : parent = child
          · rw [if_pos (Or.inr (Or.inr self))]
            refine Or.inl ⟨rfl, fun _ _ same ne => ?_⟩
            cases same
            exact absurd self ne
          · have named : ¬ (parent.text = "" ∨ child.text = "" ∨ parent = child) := by tauto
            rw [if_neg named]
            split
            · next inverts =>
              refine Or.inl ⟨rfl, fun _ _ same _ other => ?_⟩
              cases same
              exact absurd inverts other
            · next straight =>
              split
              · next absent => exact Or.inr ⟨parent, child, rfl, self, straight, absent, rfl⟩
              · next there =>
                refine Or.inl ⟨rfl, fun _ _ same _ _ => ?_⟩
                cases same
                exact there
  cases label with
  | itemStarted item' threadId fallbackThread => exact item _ _ _
  | itemCompleted item' threadId fallbackThread => exact item _ _ _
  | route request => exact Or.inl ⟨rfl, fun _ _ none => by cases none⟩

theorem step_keeps (recorded : s.nativeParents.get? child = some parent) :
    (s.step crates label).nativeParents.get? child = some parent := by
  rcases step_cases crates s label with ⟨same, _⟩ | ⟨above, below, _, _, _, absent, new⟩
  · rwa [same]
  · rw [new, IndexMap.get?_insert_of_ne]
    · exact recorded
    · rintro rfl
      rw [absent] at recorded
      cases recorded

theorem up_of_same {t : NativeParentage} (same : t.nativeParents = s.nativeParents) :
    t.up = s.up := by
  unfold up
  rw [same]

theorem up_of_insert {t : NativeParentage}
    (new : t.nativeParents = s.nativeParents.insert child parent) :
    t.up = Foundation.graft s.up child parent := by
  funext node
  unfold up
  rw [new]
  by_cases same : node = child
  · rw [same, IndexMap.get?_insert_self, Foundation.graft_self]
  · rw [IndexMap.get?_insert_of_ne _ same, Foundation.graft_of_ne same]

theorem above_of_parent (other : parent ≠ child)
    (above : Above s.up parent child) : ∃ grand, s.nativeParents.get? parent = some grand ∧
      Above s.up grand child := by
  rcases Relation.ReflTransGen.cases_head above with same | ⟨grand, hangs, rest⟩
  · exact absurd same other
  · exact ⟨grand, Option.some.inj hangs, rest⟩

theorem Forest.step (forest : s.Forest) (harmless : s.Harmless label) :
    (s.step crates label).Forest := by
  rcases step_cases crates s label with ⟨same, _⟩ | ⟨above, below, link, other, straight, absent, new⟩
  · intro node
    rw [up_of_same same]
    exact forest node
  · intro node
    rw [up_of_insert new]
    apply (forest node).graft (forest above)
    intro circle
    obtain ⟨grand, hangs, rest⟩ := above_of_parent other circle
    refine harmless above below link absent grand hangs ?_ rest
    rintro rfl
    exact straight hangs

theorem harmless_of_forest (forest : s.Forest) (still : (s.step crates label).Forest) :
    s.Harmless label := by
  intro parent child link absent grand hangs further above
  have circle : Above s.up parent child :=
    Relation.ReflTransGen.head (congrArg some hangs) above
  have other : parent ≠ child := by
    rintro rfl
    rw [absent] at hangs
    cases hangs
  have straight : s.nativeParents.get? parent ≠ some child := by
    rw [hangs]
    exact fun same => further (Option.some.inj same)
  rcases step_cases crates s label with ⟨_, taken⟩ | ⟨owner, below, link', _, _, _, new⟩
  · exact taken parent child link other straight absent
  · rw [link] at link'
    cases link'
    have rooted := still child
    rw [up_of_insert new] at rooted
    exact Foundation.not_rooted_graft (congrArg some absent) circle rooted

/-! ## Runs -/

variable {steps : List ParentageStep}

/-- Every chain of parents ends at every point of a run, and no recorded parent changes. -/
def ParentageKept (crates : Crates) (steps : List ParentageStep) : Prop :=
  ∀ before after, steps = before ++ after →
    (Foundation.Schedule.run (step crates) start before).Forest ∧
      ∀ child parent,
        (Foundation.Schedule.run (step crates) start before).nativeParents.get? child = some parent →
          (Foundation.Schedule.run (step crates) start steps).nativeParents.get? child = some parent

theorem run_keeps (recorded : s.nativeParents.get? child = some parent)
    (steps : List ParentageStep) :
    (Foundation.Schedule.run (step crates) s steps).nativeParents.get? child = some parent :=
  @Foundation.Schedule.run_preserves _ _ (step crates)
    (fun s => s.nativeParents.get? child = some parent) _ recorded (fun _ _ => step_keeps) steps

theorem forest_start : start.Forest := fun _ => .root rfl

theorem harmless_of_forests (forests : ∀ before after, steps = before ++ after →
    (Foundation.Schedule.run (step crates) s before).Forest) :
    Foundation.Schedule.Meets (step crates) Harmless s steps := by
  induction steps generalizing s with
  | nil => trivial
  | cons label rest ih =>
    refine ⟨?_, ?_⟩
    · exact harmless_of_forest (forests [] (label :: rest) rfl) (forests [label] rest rfl)
    · apply ih
      rintro before after rfl
      exact forests (label :: before) after rfl

/-- Attested parentage is a forest over a run just where no link of it reports to an ancestor
further up than the owner's parent, that has no recorded parent itself. -/
theorem parentage_kept_iff (crates : Crates) (steps : List ParentageStep) :
    ParentageKept crates steps ↔ Foundation.Schedule.Meets (step crates) Harmless start steps := by
  constructor
  · exact fun kept => harmless_of_forests fun before after same => (kept before after same).1
  · rintro harmless before after rfl
    obtain ⟨first, _⟩ := Foundation.Schedule.meets_append.1 harmless
    refine ⟨?_, ?_⟩
    · exact Foundation.Schedule.run_invariant forest_start first fun _ _ forest harmless =>
        forest.step harmless
    · intro child parent recorded
      rw [Foundation.Schedule.run_append]
      exact run_keeps recorded after

/-- A spawns B, B spawns C, and C reports to A. -/
def sampleCircle : List ParentageStep :=
  [.itemStarted (.collabAgentToolCall (.str "spawnAgent") ["b"]) "a" ⟨⟨1⟩⟩,
    .itemStarted (.collabAgentToolCall (.str "spawnAgent") ["c"]) "b" ⟨⟨1⟩⟩,
    .itemStarted (.collabAgentToolCall (.str "sendInput") ["a"]) "c" ⟨⟨1⟩⟩]

theorem circle_of_links : ¬ ParentageKept Crates.reference sampleCircle := by
  intro kept
  have harmless : Foundation.Schedule.Meets (step Crates.reference) Harmless start sampleCircle :=
    harmless_of_forests fun before after same => (kept before after same).1
  have last := harmless.2.2.1 ⟨"c"⟩ ⟨"a"⟩ rfl rfl ⟨"b"⟩ rfl (by decide)
  exact last (.single rfl)

end NativeParentage

end Giskard
