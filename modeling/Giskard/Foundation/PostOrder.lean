import Mathlib

/-!
# The post-order of a depth-first visit

A visit of a graph that is given by the children of each node. A node that was seen is passed
over; another one is marked, its children are visited in turn, and it is listed after them. The
marks make a visit of a malformed graph finite; the fuel is what a visit may descend.

What a visit lists is a list on its own: the nodes that are reached and were not seen, each once,
and each but the first ones visited before one of its parents. What is left of such a list after
any number of its nodes is closed towards the root.
-/

set_option autoImplicit false

namespace Foundation.PostOrder

open Relation (ReflTransGen)

variable {α : Type}

section Visit

variable [DecidableEq α]

/-- A visit from one node, on the nodes that were seen and the order so far. -/
def visit (children : α → List α) : ℕ → α → List α × List α → Option (List α × List α)
  | 0, _, _ => none
  | fuel + 1, current, (seen, order) =>
    if current ∈ seen then some (seen, order)
    else ((children current).foldlM (fun state child => visit children fuel child state)
      (current :: seen, order)).map fun state => (state.1, state.2 ++ [current])

end Visit

/-- What the visit of some nodes lists, when some nodes were seen before. -/
structure Listed (children : α → List α) (seen starts listed : List α) : Prop where
  nodup : listed.Nodup
  fresh : ∀ node ∈ listed, node ∉ seen
  reached : ∀ node ∈ listed, ∃ start ∈ starts, ReflTransGen (fun a b => b ∈ children a) start node
  visited : ∀ start ∈ starts, start ∈ seen ∨ start ∈ listed
  closed : ∀ node ∈ listed, ∀ child ∈ children node, child ∈ seen ∨ child ∈ listed
  parentLater : ∀ before node after, listed = before ++ node :: after →
    node ∈ starts ∨ ∃ parent ∈ after, node ∈ children parent

namespace Listed

variable {children : α → List α} {seen starts listed : List α}

theorem passed {node : α} (old : node ∈ seen) : Listed children seen [node] [] where
  nodup := List.nodup_nil
  fresh := by simp
  reached := by simp
  visited := by simpa using old
  closed := by simp
  parentLater := by simp

theorem none : Listed children seen [] [] where
  nodup := List.nodup_nil
  fresh := by simp
  reached := by simp
  visited := by simp
  closed := by simp
  parentLater := by simp

/-- The visit of some nodes and then of others lists the one's nodes before the other's. -/
theorem append {seen' more later : List α} (first : Listed children seen starts listed)
    (marked : ∀ node, node ∈ seen' ↔ node ∈ seen ∨ node ∈ listed)
    (second : Listed children seen' more later) :
    Listed children seen (starts ++ more) (listed ++ later) where
  nodup := by
    refine List.nodup_append'.2 ⟨first.nodup, second.nodup, ?_⟩
    intro node here there
    exact second.fresh node there ((marked node).2 (.inr here))
  fresh := by
    intro node member
    rcases List.mem_append.1 member with here | there
    · exact first.fresh node here
    · exact fun old => second.fresh node there ((marked node).2 (.inl old))
  reached := by
    intro node member
    rcases List.mem_append.1 member with here | there
    · obtain ⟨start, given, path⟩ := first.reached node here
      exact ⟨start, List.mem_append_left _ given, path⟩
    · obtain ⟨start, given, path⟩ := second.reached node there
      exact ⟨start, List.mem_append_right _ given, path⟩
  visited := by
    intro start member
    rcases List.mem_append.1 member with here | there
    · rcases first.visited start here with old | new
      · exact .inl old
      · exact .inr (List.mem_append_left _ new)
    · rcases second.visited start there with old | new
      · rcases (marked start).1 old with older | new
        · exact .inl older
        · exact .inr (List.mem_append_left _ new)
      · exact .inr (List.mem_append_right _ new)
  closed := by
    intro node member child hangs
    rcases List.mem_append.1 member with here | there
    · rcases first.closed node here child hangs with old | new
      · exact .inl old
      · exact .inr (List.mem_append_left _ new)
    · rcases second.closed node there child hangs with old | new
      · rcases (marked child).1 old with older | new
        · exact .inl older
        · exact .inr (List.mem_append_left _ new)
      · exact .inr (List.mem_append_right _ new)
  parentLater := by
    intro before node after split
    rcases List.append_eq_append_iff.1 split with ⟨between, rfl, rest⟩ | ⟨between, rest, tail⟩
    · rcases second.parentLater between node after rest with start | above
      · exact .inl (List.mem_append_right _ start)
      · exact .inr above
    · cases between with
      | nil =>
        rw [List.nil_append] at tail
        rcases second.parentLater [] node after tail.symm with start | above
        · exact .inl (List.mem_append_right _ start)
        · exact .inr above
      | cons head between =>
        obtain ⟨rfl, rfl⟩ := List.cons.inj tail
        rcases first.parentLater before node between rest with start | ⟨parent, above, hangs⟩
        · exact .inl (List.mem_append_left _ start)
        · exact .inr ⟨parent, List.mem_append_left _ above, hangs⟩

/-- A node is listed after what the visit of its children lists. -/
theorem node {current : α} (new : current ∉ seen)
    (below : Listed children (current :: seen) (children current) listed) :
    Listed children seen [current] (listed ++ [current]) where
  nodup := by
    refine List.nodup_append'.2 ⟨below.nodup, List.nodup_singleton _, ?_⟩
    intro node here there
    rw [List.mem_singleton] at there
    exact below.fresh node here (there ▸ List.mem_cons_self)
  fresh := by
    intro node member
    rcases List.mem_append.1 member with here | there
    · exact fun old => below.fresh node here (List.mem_cons_of_mem _ old)
    · rw [List.mem_singleton] at there
      exact there ▸ new
  reached := by
    intro node member
    refine ⟨current, List.mem_singleton_self _, ?_⟩
    rcases List.mem_append.1 member with here | there
    · obtain ⟨start, child, path⟩ := below.reached node here
      exact ReflTransGen.head child path
    · rw [List.mem_singleton] at there
      exact there ▸ ReflTransGen.refl
  visited := by simp
  closed := by
    intro node member child hangs
    have settled : child ∈ current :: seen ∨ child ∈ listed := by
      rcases List.mem_append.1 member with here | there
      · exact below.closed node here child hangs
      · rw [List.mem_singleton] at there
        exact below.visited child (there ▸ hangs)
    rcases settled with old | new
    · rcases List.mem_cons.1 old with rfl | older
      · exact .inr (by simp)
      · exact .inl older
    · exact .inr (List.mem_append_left _ new)
  parentLater := by
    intro before node after split
    rcases List.append_eq_append_iff.1 split with ⟨between, rfl, rest⟩ | ⟨between, rest, tail⟩
    · cases between with
      | nil =>
        obtain ⟨rfl, -⟩ := List.cons.inj rest
        exact .inl (List.mem_singleton_self _)
      | cons head between => simp at rest
    · cases between with
      | nil =>
        obtain ⟨rfl, -⟩ := List.cons.inj tail
        exact .inl (List.mem_singleton_self _)
      | cons head between =>
        obtain ⟨rfl, rfl⟩ := List.cons.inj tail
        have last : current ∈ between ++ [current] := by simp
        rcases below.parentLater before node between rest with child | ⟨parent, above, hangs⟩
        · exact .inr ⟨current, last, child⟩
        · exact .inr ⟨parent, List.mem_append_left _ above, hangs⟩

variable {root : α}

theorem mem_iff (listing : Listed children [] [root] listed) (node : α) :
    node ∈ listed ↔ ReflTransGen (fun a b => b ∈ children a) root node := by
  constructor
  · intro member
    obtain ⟨start, given, path⟩ := listing.reached node member
    rw [List.mem_singleton] at given
    exact given ▸ path
  · intro path
    induction path with
    | refl => simpa using listing.visited root (List.mem_singleton_self _)
    | tail above hangs ih => simpa using listing.closed _ ih _ hangs

theorem getLast?_eq (listing : Listed children [] [root] listed) :
    listed.getLast? = some root := by
  have present : root ∈ listed := (listing.mem_iff root).2 .refl
  have split := (List.dropLast_append_getLast (List.ne_nil_of_mem present)).symm
  rw [List.getLast?_eq_getLast_of_ne_nil (List.ne_nil_of_mem present), Option.some_inj]
  rcases listing.parentLater _ _ [] split with start | ⟨parent, above, hangs⟩
  · simpa using start
  · simp at above

theorem parent_mem_drop (listing : Listed children [] [root] listed) {n : ℕ} {node : α}
    (left : node ∈ listed.drop n) (other : node ≠ root) :
    ∃ parent ∈ listed.drop n, node ∈ children parent := by
  obtain ⟨before, after, split⟩ := List.append_of_mem left
  have whole : listed = (listed.take n ++ before) ++ node :: after := by
    rw [List.append_assoc, ← split, List.take_append_drop]
  rcases listing.parentLater _ _ _ whole with start | ⟨parent, above, hangs⟩
  · exact absurd (List.mem_singleton.1 start) other
  · exact ⟨parent, by simp [split, above], hangs⟩

/-- The root reaches what is left without leaving it. -/
theorem reached_within_drop (listing : Listed children [] [root] listed) {n : ℕ} {node : α}
    (left : node ∈ listed.drop n) :
    ReflTransGen (fun a b => b ∈ children a ∧ a ∈ listed.drop n ∧ b ∈ listed.drop n) root node := by
  -- The parent stands later in the list, so what comes after a node decreases.
  suffices step : ∀ (count : ℕ) (before after : List α) (node : α), after.length = count →
      listed.drop n = before ++ node :: after →
      ReflTransGen (fun a b => b ∈ children a ∧ a ∈ listed.drop n ∧ b ∈ listed.drop n) root node by
    obtain ⟨before, after, split⟩ := List.append_of_mem left
    exact step _ before after node rfl split
  intro count
  induction count using Nat.strongRecOn with
  | _ count ih =>
    intro before after node length split
    have whole : listed = (listed.take n ++ before) ++ node :: after := by
      rw [List.append_assoc, ← split, List.take_append_drop]
    rcases listing.parentLater _ _ _ whole with start | ⟨parent, above, hangs⟩
    · rw [List.mem_singleton.1 start]
    · obtain ⟨between, rest, inner⟩ := List.append_of_mem above
      have again : listed.drop n = (before ++ node :: between) ++ parent :: rest := by
        rw [split, inner]
        simp
      have shorter : rest.length < count := by
        rw [← length, inner]
        simp
        omega
      exact (ih _ shorter _ _ _ rfl again).tail
        ⟨hangs, by simp [again], by simp [split]⟩

end Listed

variable [DecidableEq α]

/-- The number of nodes of a closed set that were not seen. -/
def unseen (nodes : Finset α) (seen : List α) : ℕ := (nodes.filter (· ∉ seen)).card

theorem unseen_mono (nodes : Finset α) {seen later : List α} (grows : seen ⊆ later) :
    unseen nodes later ≤ unseen nodes seen := by
  refine Finset.card_le_card fun node => ?_
  simp only [Finset.mem_filter]
  exact fun ⟨member, new⟩ => ⟨member, fun old => new (grows old)⟩

theorem unseen_cons (nodes : Finset α) {seen : List α} {current : α} (member : current ∈ nodes)
    (new : current ∉ seen) : unseen nodes (current :: seen) < unseen nodes seen := by
  refine Finset.card_lt_card ⟨fun node => ?_, fun contained => ?_⟩
  · simp only [Finset.mem_filter, List.mem_cons, not_or]
    rintro ⟨member, _, new⟩
    exact ⟨member, new⟩
  · have marked := contained (Finset.mem_filter.2 ⟨member, new⟩)
    simp at marked

variable {children : α → List α}

/-- A visit with more fuel than there are nodes to see returns, with the order extended by what
it lists and that marked. -/
theorem visit_spec {nodes : Finset α}
    (closed : ∀ node ∈ nodes, ∀ child ∈ children node, child ∈ nodes) :
    ∀ (fuel : ℕ) (current : α) (seen order : List α), current ∈ nodes → unseen nodes seen < fuel →
      ∃ seen' listed, visit children fuel current (seen, order) = some (seen', order ++ listed) ∧
        (∀ node, node ∈ seen' ↔ node ∈ seen ∨ node ∈ listed) ∧
        Listed children seen [current] listed
  | 0, current, seen, order, _, enough => absurd enough (Nat.not_lt_zero _)
  | fuel + 1, current, seen, order, member, enough => by
    by_cases old : current ∈ seen
    · exact ⟨seen, [], by simp [visit, old], by simp, .passed old⟩
    · -- The children in turn, each on the marks that the ones before it left.
      have turns : ∀ (starts : List α), (∀ child ∈ starts, child ∈ nodes) →
          ∀ (seen order : List α), unseen nodes seen < fuel →
          ∃ seen' listed, starts.foldlM (fun state child => visit children fuel child state)
              (seen, order) = some (seen', order ++ listed) ∧
            (∀ node, node ∈ seen' ↔ node ∈ seen ∨ node ∈ listed) ∧
            Listed children seen starts listed := by
        intro starts
        induction starts with
        | nil => exact fun _ seen order _ => ⟨seen, [], by simp, by simp, .none⟩
        | cons child starts ih =>
          intro inside seen order enough
          obtain ⟨seen₁, first, ran, marked, listing⟩ :=
            visit_spec closed fuel child seen order (inside child List.mem_cons_self) enough
          have fewer : unseen nodes seen₁ < fuel :=
            lt_of_le_of_lt (unseen_mono nodes fun node old => (marked node).2 (.inl old)) enough
          obtain ⟨seen₂, second, rest, marked', listing'⟩ := ih
            (fun child member => inside child (List.mem_cons_of_mem _ member))
            seen₁ (order ++ first) fewer
          refine ⟨seen₂, first ++ second, ?_, ?_, listing.append marked listing'⟩
          · rw [List.foldlM_cons, ran, ← List.append_assoc]
            exact rest
          · intro node
            rw [marked', marked, List.mem_append, or_assoc]
      obtain ⟨seen', listed, ran, marked, below⟩ := turns (children current) (closed current member)
        (current :: seen) order (by have := unseen_cons nodes member old; omega)
      refine ⟨seen', listed ++ [current], ?_, ?_, below.node old⟩
      · simp [visit, old, ran]
      · intro node
        rw [marked, List.mem_cons, List.mem_append, List.mem_singleton]
        tauto

end Foundation.PostOrder
