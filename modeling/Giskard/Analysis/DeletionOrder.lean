import Mathlib
import Giskard.Model.ThreadDeletion

/-!
# A cascade can stop anywhere

The order of a deletion is a post-order of the threads under its root. A cascade deletes a prefix
of it, so what is left of it still hangs together under the root, and the order of what is left
is found again by the same visit.
-/

set_option autoImplicit false

namespace Giskard

open Foundation Foundation.PostOrder
open Relation (ReflTransGen TransGen)

namespace ThreadGraph

variable {crates : Crates} {graph : ThreadGraph}

/-! ## The threads of a graph -/

theorem mem_children {child current : ThreadId} :
    child ∈ graph.children crates current ↔ graph.Hangs child current := by
  unfold children Hangs
  simp only [List.mem_mergeSort, List.mem_map, List.mem_filter, decide_eq_true_eq]
  constructor
  · rintro ⟨file, ⟨member, parent⟩, id⟩
    exact ⟨file, member, id, parent⟩
  · rintro ⟨file, member, id, parent⟩
    exact ⟨file, ⟨member, parent⟩, id⟩

theorem reached_iff {top node : ThreadId} :
    ReflTransGen (fun a b => b ∈ graph.children crates a) top node ↔
      ReflTransGen graph.Hangs node top := by
  rw [← Relation.reflTransGen_swap]
  simp only [mem_children]

theorem mem_entries_without {threads : List ThreadId} {thread : ThreadId} {file : ThreadFile} :
    (thread, file) ∈ (graph.without threads).entries ↔
      (thread, file) ∈ graph.entries ∧ thread ∉ threads := by
  simp [without, IndexMap.retain]

theorem mem_keys_without {threads : List ThreadId} {thread : ThreadId} :
    thread ∈ (graph.without threads).keys ↔ thread ∈ graph.keys ∧ thread ∉ threads := by
  simp only [IndexMap.keys, List.mem_map, Prod.exists, mem_entries_without]
  constructor
  · rintro ⟨_, file, ⟨member, left⟩, rfl⟩
    exact ⟨⟨_, file, member, rfl⟩, left⟩
  · rintro ⟨⟨_, file, member, rfl⟩, left⟩
    exact ⟨_, file, ⟨member, left⟩, rfl⟩

theorem Keyed.mem_keys (keyed : graph.Keyed) {child parent : ThreadId}
    (hangs : graph.Hangs child parent) : child ∈ graph.keys := by
  obtain ⟨file, member, rfl, -⟩ := hangs
  obtain ⟨⟨thread, _⟩, inside, rfl⟩ := List.mem_map.1 member
  rw [keyed _ _ inside]
  exact List.mem_map.2 ⟨_, inside, rfl⟩

theorem Keyed.parent_unique (keyed : graph.Keyed) {child first second : ThreadId}
    (left : graph.Hangs child first) (right : graph.Hangs child second) : first = second := by
  obtain ⟨file, member, rfl, parent⟩ := left
  obtain ⟨file', member', same, parent'⟩ := right
  obtain ⟨⟨thread, _⟩, inside, rfl⟩ := List.mem_map.1 member
  obtain ⟨⟨thread', _⟩, inside', rfl⟩ := List.mem_map.1 member'
  have key : thread = thread' := by
    rw [← keyed _ _ inside, ← keyed _ _ inside', same]
  subst key
  have found := IndexMap.get?_eq_some.2 inside
  rw [IndexMap.get?_eq_some.2 inside', Option.some_inj] at found
  rw [found, parent, Option.some_inj] at parent'
  exact parent'

theorem Keyed.hangs_without (keyed : graph.Keyed) {threads : List ThreadId}
    {child parent : ThreadId} :
    (graph.without threads).Hangs child parent ↔ graph.Hangs child parent ∧ child ∉ threads := by
  constructor
  · rintro ⟨file, member, id, up⟩
    obtain ⟨⟨thread, _⟩, inside, rfl⟩ := List.mem_map.1 member
    obtain ⟨inside, left⟩ := mem_entries_without.1 inside
    refine ⟨⟨_, List.mem_map.2 ⟨_, inside, rfl⟩, id, up⟩, ?_⟩
    rw [← id, keyed _ _ inside]
    exact left
  · rintro ⟨⟨file, member, id, up⟩, left⟩
    obtain ⟨⟨thread, _⟩, inside, rfl⟩ := List.mem_map.1 member
    rw [← id, keyed _ _ inside] at left
    exact ⟨_, List.mem_map.2 ⟨_, mem_entries_without.2 ⟨inside, left⟩, rfl⟩, id, up⟩

theorem without_nil : graph.without [] = graph := by
  apply IndexMap.ext
  simp [without, IndexMap.retain]

theorem shiftRemove_without (threads : List ThreadId) (thread : ThreadId) :
    (graph.without threads).shiftRemove thread = graph.without (threads ++ [thread]) := by
  apply IndexMap.ext
  simp only [without, IndexMap.retain, IndexMap.shiftRemove, List.filter_filter]
  refine List.filter_congr fun entry _ => ?_
  simp [not_or, and_comm]

end ThreadGraph

section Order

variable {crates : Crates} {fuel : ℕ} {graph : ThreadGraph} {root : ThreadId}

/-! ## The order -/

/-- The threads a visit can come to. -/
def ThreadGraph.nodes (graph : ThreadGraph) (root : ThreadId) : Finset ThreadId :=
  insert root (graph.values.map fun file => file.id).toFinset

theorem ThreadGraph.card_nodes_le : (graph.nodes root).card ≤ graph.entries.length + 1 := by
  refine (Finset.card_insert_le _ _).trans (Nat.succ_le_succ ?_)
  refine (List.toFinset_card_le _).trans ?_
  simp [IndexMap.values]

theorem ThreadGraph.nodes_closed (node : ThreadId) (_ : node ∈ graph.nodes root)
    (child : ThreadId) (hangs : child ∈ graph.children crates node) :
    child ∈ graph.nodes root := by
  obtain ⟨file, member, id, -⟩ := ThreadGraph.mem_children.1 hangs
  refine Finset.mem_insert_of_mem (List.mem_toFinset.2 ?_)
  exact List.mem_map.2 ⟨file, member, id⟩

theorem descendantDeletionOrder_listed (present : root ∈ graph.keys)
    (enough : graph.entries.length + 1 < fuel) :
    ∃ order, descendantDeletionOrder crates fuel graph root = some order ∧
      Listed (graph.children crates) [] [root] order := by
  have bound : unseen (graph.nodes root) [] < fuel := by
    unfold unseen
    have := (Finset.card_filter_le (graph.nodes root) (· ∉ ([] : List ThreadId))).trans
      ThreadGraph.card_nodes_le
    omega
  obtain ⟨seen, listed, ran, -, listing⟩ := visit_spec (@ThreadGraph.nodes_closed crates graph root)
    fuel root [] [] (Finset.mem_insert_self _ _) bound
  refine ⟨listed, ?_, listing⟩
  simp [descendantDeletionOrder, present, ran]

variable {order : List ThreadId}

theorem mem_order_iff (listing : Listed (graph.children crates) [] [root] order)
    (thread : ThreadId) : thread ∈ order ↔ ReflTransGen graph.Hangs thread root := by
  rw [listing.mem_iff, ThreadGraph.reached_iff]

theorem mem_keys_of_listed (keyed : graph.Keyed) (present : root ∈ graph.keys)
    (listing : Listed (graph.children crates) [] [root] order) {thread : ThreadId}
    (member : thread ∈ order) : thread ∈ graph.keys := by
  rcases ((mem_order_iff listing thread).1 member).cases_head with rfl | ⟨parent, hangs, -⟩
  · exact present
  · exact keyed.mem_keys hangs

theorem not_mem_take_of_mem_drop {n : ℕ} (nodup : order.Nodup) {thread : ThreadId}
    (left : thread ∈ order.drop n) : thread ∉ order.take n := by
  have split := nodup
  rw [← List.take_append_drop n order, List.nodup_append'] at split
  exact fun gone => split.2.2 gone left

/-! ## What is left after a prefix -/

theorem ancestor_mem_drop (keyed : graph.Keyed) (acyclic : ¬ TransGen graph.Hangs root root)
    (listing : Listed (graph.children crates) [] [root] order) {n : ℕ}
    {thread ancestor : ThreadId} (left : thread ∈ order.drop n)
    (above : ReflTransGen graph.Hangs thread ancestor)
    (below : ReflTransGen graph.Hangs ancestor root) : ancestor ∈ order.drop n := by
  induction above using ReflTransGen.head_induction_on with
  | refl => exact left
  | head hangs rest ih =>
    rename_i node parent
    by_cases top : node = root
    · -- The root's parent does not lead back to the root.
      subst top
      exact absurd (TransGen.head' hangs (rest.trans below)) acyclic
    · obtain ⟨parent', kept, child⟩ := listing.parent_mem_drop left top
      rw [keyed.parent_unique hangs (ThreadGraph.mem_children.1 child)] at ih
      exact ih kept

theorem parent_mem_without (keyed : graph.Keyed) (acyclic : ¬ TransGen graph.Hangs root root)
    (listing : Listed (graph.children crates) [] [root] order) {n : ℕ}
    {thread parent : ThreadId} (left : thread ∈ order.drop n)
    (hangs : graph.Hangs thread parent) (known : parent ∈ graph.keys) :
    parent ∈ (graph.without (order.take n)).keys := by
  refine ThreadGraph.mem_keys_without.2 ⟨known, ?_⟩
  by_cases top : thread = root
  · intro gone
    have back := (mem_order_iff listing parent).1 (List.mem_of_mem_take gone)
    exact acyclic (TransGen.head' (top ▸ hangs) back)
  · obtain ⟨parent', kept, child⟩ := listing.parent_mem_drop left top
    rw [keyed.parent_unique hangs (ThreadGraph.mem_children.1 child)]
    exact not_mem_take_of_mem_drop listing.nodup kept

theorem mem_drop_iff (keyed : graph.Keyed)
    (listing : Listed (graph.children crates) [] [root] order) {n : ℕ}
    (kept : root ∈ order.drop n) (thread : ThreadId) :
    ReflTransGen (graph.without (order.take n)).Hangs thread root ↔ thread ∈ order.drop n := by
  constructor
  · intro chain
    induction chain using ReflTransGen.head_induction_on with
    | refl => exact kept
    | head hangs rest ih =>
      obtain ⟨hangs, spared⟩ := keyed.hangs_without.1 hangs
      have member := (mem_order_iff listing _).2
        (ReflTransGen.head hangs ((mem_order_iff listing _).1 (List.mem_of_mem_drop ih)))
      rw [← List.take_append_drop n order, List.mem_append] at member
      exact member.resolve_left spared
  · intro left
    have chain := listing.reached_within_drop left
    rw [← Relation.reflTransGen_swap]
    refine ReflTransGen.mono ?_ _ _ chain
    rintro upper lower ⟨child, -, below⟩
    exact keyed.hangs_without.2
      ⟨ThreadGraph.mem_children.1 child, not_mem_take_of_mem_drop listing.nodup below⟩

theorem root_mem_drop (listing : Listed (graph.children crates) [] [root] order) {n : ℕ}
    {thread : ThreadId} (left : thread ∈ order.drop n) : root ∈ order.drop n := by
  have last := listing.getLast?_eq
  have some' : order.drop n ≠ [] := List.ne_nil_of_mem left
  have short : n < order.length := by
    by_contra long
    exact some' (List.drop_eq_nil_of_le (by omega))
  refine List.mem_of_getLast? ?_
  rw [List.getLast?_drop, if_neg (by omega), last]

/-- The visit of what is left lists what is left of the order. -/
theorem order_without_perm (keyed : graph.Keyed)
    (listing : Listed (graph.children crates) [] [root] order) (present : root ∈ graph.keys)
    (enough : graph.entries.length + 1 < fuel) (n : ℕ) :
    ∃ left, descendantDeletionOrder crates fuel (graph.without (order.take n)) root = some left ∧
      left.Perm (order.drop n) := by
  by_cases some' : order.drop n = []
  · -- Everything was deleted, the root with it.
    have gone : root ∈ order.take n := by
      have member := (mem_order_iff listing root).2 .refl
      rwa [← List.take_append_drop n order, some', List.append_nil] at member
    have absent : root ∉ (graph.without (order.take n)).keys := fun member =>
      (ThreadGraph.mem_keys_without.1 member).2 gone
    exact ⟨[], by simp [descendantDeletionOrder, absent], by rw [some']⟩
  · obtain ⟨thread, left⟩ := List.exists_mem_of_ne_nil _ some'
    have kept := root_mem_drop listing left
    have still : root ∈ (graph.without (order.take n)).keys :=
      ThreadGraph.mem_keys_without.2 ⟨present, not_mem_take_of_mem_drop listing.nodup kept⟩
    have fewer : (graph.without (order.take n)).entries.length ≤ graph.entries.length :=
      List.length_filter_le _ _
    obtain ⟨again, found, listing'⟩ := descendantDeletionOrder_listed still
      (show (graph.without (order.take n)).entries.length + 1 < fuel by omega)
    refine ⟨again, found, ?_⟩
    rw [List.perm_ext_iff_of_nodup listing'.nodup (listing.nodup.sublist (List.drop_sublist _ _))]
    intro thread
    rw [mem_order_iff listing', mem_drop_iff keyed listing kept]

end Order

/-! ## The cascade -/

section Cascade

variable {env : ThreadId → DeletionStep} {shuttingDown : Bool} {total : ℕ} {graph : ThreadGraph}

/-- A cascade deletes the threads of a prefix of its records. -/
theorem runCascade_before (files : List ThreadFile) (before : List ThreadId) (deleted : ℕ)
    (count : deleted + files.length = total) :
    ∃ n, (runCascade env shuttingDown total files (graph.without before) deleted).1 =
      graph.without (before ++ (files.map fun file => file.id).take n) := by
  induction files generalizing before deleted with
  | nil => exact ⟨0, by simp [runCascade]⟩
  | cons file files ih =>
    rw [List.length_cons] at count
    have untouched : ∃ n, graph.without before =
        graph.without (before ++ ((file :: files).map fun file => file.id).take n) :=
      ⟨0, by simp⟩
    have removal (gone : Bool) : ∃ n, (graph.without before).afterRemoval file.id gone =
        graph.without (before ++ ((file :: files).map fun file => file.id).take n) := by
      cases gone with
      | false => exact untouched
      | true => exact ⟨1, ThreadGraph.shiftRemove_without before file.id⟩
    have onward : ∃ n, (runCascade env shuttingDown total files
          ((graph.without before).shiftRemove file.id) (deleted + 1)).1 =
        graph.without (before ++ ((file :: files).map fun file => file.id).take n) := by
      rw [ThreadGraph.shiftRemove_without]
      obtain ⟨n, rest⟩ := ih (before ++ [file.id]) (deleted + 1) (by omega)
      exact ⟨n + 1, by simp [rest]⟩
    unfold runCascade
    cases env file.id with
    | stopped => exact untouched
    | kept => exact untouched
    | storeFailed gone => exact removal gone
    | deleted => exact onward
    | removalStillRunning gone =>
      dsimp only
      split
      · -- It was the last thread.
        have none : files = [] := List.eq_nil_of_length_eq_zero (by omega)
        subst none
        exact removal gone
      · exact removal gone

theorem deletionFiles_ids (keyed : graph.Keyed) (order : List ThreadId)
    (known : ∀ thread ∈ order, thread ∈ graph.keys) :
    (deletionFiles graph order).map (fun file => file.id) = order := by
  induction order with
  | nil => rfl
  | cons thread order ih =>
    obtain ⟨file, found⟩ := IndexMap.mem_keys_iff.1 (known thread List.mem_cons_self)
    have rest := ih fun thread member => known thread (List.mem_cons_of_mem _ member)
    unfold deletionFiles at rest ⊢
    rw [List.filterMap_cons_some found, List.map_cons, rest,
      keyed _ _ (IndexMap.get?_eq_some.1 found)]

end Cascade

/-- The deletion order of a thread lists exactly the threads under it, the thread last. Whatever
part of it was deleted, the rest hangs together under the thread and is found again, and a cascade
leaves such a rest wherever it stops. -/
theorem cascade_stops_anywhere (crates : Crates) (fuel : ℕ) (graph : ThreadGraph) (root : ThreadId)
    (present : root ∈ graph.keys) (enough : graph.entries.length + 1 < fuel) :
    ∃ order, descendantDeletionOrder crates fuel graph root = some order ∧
      order.Nodup ∧ order.getLast? = some root ∧
      (∀ thread, thread ∈ order ↔ ReflTransGen graph.Hangs thread root) ∧
      (graph.Keyed →
        (∀ n,
          (¬ TransGen graph.Hangs root root → ∀ thread ∈ order.drop n,
            thread ∈ (graph.without (order.take n)).keys ∧
            (∀ parent, graph.Hangs thread parent → parent ∈ graph.keys →
              parent ∈ (graph.without (order.take n)).keys) ∧
            ∀ ancestor, ReflTransGen graph.Hangs thread ancestor →
              ReflTransGen graph.Hangs ancestor root →
                ancestor ∈ (graph.without (order.take n)).keys) ∧
          ∃ left, descendantDeletionOrder crates fuel (graph.without (order.take n)) root =
            some left ∧ left.Perm (order.drop n)) ∧
        ∀ env shuttingDown, ∃ n, (runCascade env shuttingDown order.length
          (deletionFiles graph order) graph 0).1 = graph.without (order.take n)) := by
  obtain ⟨order, found, listing⟩ := @descendantDeletionOrder_listed crates _ _ _ present enough
  refine ⟨order, found, listing.nodup, listing.getLast?_eq, mem_order_iff listing, fun keyed => ?_⟩
  have known : ∀ thread ∈ order, thread ∈ graph.keys := fun _ =>
    mem_keys_of_listed keyed present listing
  have kept {n : ℕ} {thread : ThreadId} (left : thread ∈ order.drop n) :
      thread ∈ (graph.without (order.take n)).keys :=
    ThreadGraph.mem_keys_without.2 ⟨known thread (List.mem_of_mem_drop left),
      not_mem_take_of_mem_drop listing.nodup left⟩
  refine ⟨fun n => ⟨fun acyclic thread left => ⟨kept left, ?_, ?_⟩, ?_⟩, ?_⟩
  · exact fun parent hangs => parent_mem_without keyed acyclic listing left hangs
  · exact fun ancestor above below =>
      kept (ancestor_mem_drop keyed acyclic listing left above below)
  · exact order_without_perm keyed listing present enough n
  · intro env shuttingDown
    have ids := deletionFiles_ids keyed order known
    have count : 0 + (deletionFiles graph order).length = order.length := by
      rw [Nat.zero_add, ← List.length_map (fun file : ThreadFile => file.id), ids]
    obtain ⟨n, left⟩ := @runCascade_before env shuttingDown _ graph
      (deletionFiles graph order) [] 0 count
    rw [ThreadGraph.without_nil, ids, List.nil_append] at left
    exact ⟨n, left⟩

/-- A record that names this parent. -/
def sampleMember (id : BitVec 128) (parent : Option ThreadId) : ThreadFile :=
  { orphanFile ⟨0, 0⟩ ⟨⟨0⟩⟩ ⟨⟨id⟩⟩ "native" "codex" .unknown with parentThreadId := parent }

/-- A thread with a child. -/
def sampleFamily : ThreadGraph :=
  (IndexMap.empty.insert ⟨⟨1⟩⟩ (sampleMember 1 none)).insert ⟨⟨2⟩⟩ (sampleMember 2 (some ⟨⟨1⟩⟩))

theorem sampleFamily_keyed : sampleFamily.Keyed := by
  intro thread file member
  have cases' : (thread, file) ∈ [((⟨⟨1⟩⟩ : ThreadId), sampleMember 1 none),
      (⟨⟨2⟩⟩, sampleMember 2 (some ⟨⟨1⟩⟩))] := member
  simp only [List.mem_cons, Prod.mk.injEq, List.not_mem_nil, or_false] at cases'
  rcases cases' with ⟨rfl, rfl⟩ | ⟨rfl, rfl⟩ <;> rfl

/-- Whatever part of the family was deleted, the threads that are left are threads of the rest. -/
theorem cascade_stops_within_family : ∃ order,
    descendantDeletionOrder .reference 4 sampleFamily ⟨⟨1⟩⟩ = some order ∧
      order.getLast? = some ⟨⟨1⟩⟩ ∧
      ∀ n, ∀ thread ∈ order.drop n, thread ∈ (sampleFamily.without (order.take n)).keys := by
  obtain ⟨order, found, -, last, -, rest⟩ := cascade_stops_anywhere .reference 4 sampleFamily
    ⟨⟨1⟩⟩ (by decide) (by decide)
  have acyclic : ¬ TransGen sampleFamily.Hangs ⟨⟨1⟩⟩ ⟨⟨1⟩⟩ := by
    intro cycle
    obtain ⟨parent, ⟨file, member, id, up⟩, -⟩ := TransGen.head'_iff.1 cycle
    have cases' : file ∈ [sampleMember 1 none, sampleMember 2 (some ⟨⟨1⟩⟩)] := member
    simp only [List.mem_cons, List.not_mem_nil, or_false] at cases'
    rcases cases' with rfl | rfl
    · cases up
    · exact absurd id (by decide)
  exact ⟨order, found, last, fun n thread left =>
    (((rest sampleFamily_keyed).1 n).1 acyclic thread left).1⟩

end Giskard
