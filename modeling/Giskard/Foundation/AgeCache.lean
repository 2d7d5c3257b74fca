import Mathlib

/-!
# Caches that evict by age

A cache is a list of keys with values, oldest first. A lookup takes the first value of a key; a
store puts a value at the end, and evicts the oldest one when the cache is full. A store does not
look for the key that it stores, so whether a key has one value depends on what is left of the
cache when it is stored.
-/

set_option autoImplicit false

namespace Foundation

namespace AgeCache

variable {κ ν : Type} {capacity n : ℕ} {cache : List (κ × ν)} {key other : κ} {value next : ν}

/-- The first value of a key. -/
def lookup [DecidableEq κ] (cache : List (κ × ν)) (key : κ) : Option ν :=
  (cache.find? fun entry => entry.1 = key).map Prod.snd

/-- What a store leaves of a cache. -/
def evict (capacity : ℕ) (cache : List (κ × ν)) : List (κ × ν) :=
  if capacity ≤ cache.length then cache.tail else cache

/-- Put a value at the end. -/
def store (capacity : ℕ) (cache : List (κ × ν)) (key : κ) (value : ν) : List (κ × ν) :=
  evict capacity cache ++ [(key, value)]

/-- A value of a key with at most `n` younger ones. -/
def Behind (n : ℕ) (key : κ) (value : ν) (cache : List (κ × ν)) : Prop :=
  ∃ older newer, cache = older ++ (key, value) :: newer ∧ newer.length ≤ n

theorem evict_sublist (capacity : ℕ) (cache : List (κ × ν)) : (evict capacity cache).Sublist cache := by
  unfold evict
  split
  · exact List.tail_sublist cache
  · exact List.Sublist.refl cache

theorem length_evict_lt (room : 0 < capacity) (fits : cache.length ≤ capacity) :
    (evict capacity cache).length < capacity := by
  unfold evict
  split
  · rw [List.length_tail]
    omega
  · omega

theorem length_store_le (room : 0 < capacity) (fits : cache.length ≤ capacity) :
    (store capacity cache key value).length ≤ capacity := by
  unfold store
  rw [List.length_append, List.length_singleton]
  exact length_evict_lt room fits

theorem nodup_store_iff (single : (cache.map Prod.fst).Nodup) :
    ((store capacity cache key value).map Prod.fst).Nodup ↔
      key ∉ (evict capacity cache).map Prod.fst := by
  have kept : ((evict capacity cache).map Prod.fst).Nodup :=
    single.sublist ((evict_sublist capacity cache).map _)
  unfold store
  rw [List.map_append, List.map_singleton, List.nodup_append]
  constructor
  · rintro ⟨-, -, apart⟩ inside
    exact apart key inside key List.mem_cons_self rfl
  · intro absent
    refine ⟨kept, List.nodup_singleton key, ?_⟩
    intro one member two last
    rw [List.mem_singleton.1 last]
    rintro rfl
    exact absent member

theorem behind_store : Behind 0 key value (store capacity cache key value) :=
  ⟨_, [], rfl, le_rfl⟩

theorem Behind.mono {m : ℕ} (behind : Behind n key value cache) (more : n ≤ m) :
    Behind m key value cache := by
  obtain ⟨older, newer, same, few⟩ := behind
  exact ⟨older, newer, same, few.trans more⟩

theorem Behind.store (behind : Behind n key value cache) (room : n + 1 < capacity) :
    Behind (n + 1) key value (store capacity cache other next) := by
  obtain ⟨older, newer, rfl, few⟩ := behind
  unfold AgeCache.store evict
  split
  · next full =>
    cases older with
    | nil =>
      rw [List.nil_append, List.length_cons] at full
      omega
    | cons oldest older =>
      refine ⟨older, newer ++ [(other, next)], ?_, ?_⟩
      · rw [List.cons_append, List.tail_cons, List.append_assoc, List.cons_append]
      · rw [List.length_append, List.length_singleton]
        omega
  · refine ⟨older, newer ++ [(other, next)], ?_, ?_⟩
    · rw [List.append_assoc, List.cons_append]
    · rw [List.length_append, List.length_singleton]
      omega

variable [DecidableEq κ]

theorem Behind.lookup (behind : Behind n key value cache) (single : (cache.map Prod.fst).Nodup) :
    lookup cache key = some value := by
  obtain ⟨older, newer, rfl, -⟩ := behind
  have before : older.find? (fun entry => entry.1 = key) = none := by
    rw [List.find?_eq_none]
    intro entry member same
    rw [List.map_append, List.nodup_append] at single
    exact single.2.2 entry.1 (List.mem_map_of_mem member) key
      (List.mem_map_of_mem List.mem_cons_self) (of_decide_eq_true same)
  unfold AgeCache.lookup
  rw [List.find?_append, before, Option.none_or, List.find?_cons]
  dsimp only
  rw [decide_eq_true rfl]
  rfl

end AgeCache

end Foundation
