import Mathlib

/-!
# Maps in insertion order

A map whose entries keep the order in which their keys were first inserted. Inserting a key
that is present replaces its value where it stands; removing a key shifts the later entries
forward. The keys of the entries are distinct, which the structure carries.
-/

set_option autoImplicit false

namespace Foundation

/-- A map in insertion order. -/
structure IndexMap (κ ν : Type) where
  entries : List (κ × ν)
  nodup : (entries.map Prod.fst).Nodup

namespace IndexMap

variable {κ ν : Type}

/-- The map without entries. -/
def empty : IndexMap κ ν := ⟨[], List.nodup_nil⟩

/-- The keys in order. -/
def keys (map : IndexMap κ ν) : List κ := map.entries.map Prod.fst

/-- The values in order. -/
def values (map : IndexMap κ ν) : List ν := map.entries.map Prod.snd

@[simp] theorem keys_empty : (empty : IndexMap κ ν).keys = [] := rfl

theorem ext {left right : IndexMap κ ν} (same : left.entries = right.entries) : left = right := by
  cases left
  cases right
  simpa using same

variable [DecidableEq κ]

/-- The value of a key. -/
def get? (map : IndexMap κ ν) (key : κ) : Option ν :=
  (map.entries.find? fun entry => entry.1 = key).map Prod.snd

/-- The entries with one key's value replaced in place, or appended when it is new. -/
def insertEntries (key : κ) (value : ν) : List (κ × ν) → List (κ × ν)
  | [] => [(key, value)]
  | entry :: entries =>
    if entry.1 = key then (key, value) :: entries else entry :: insertEntries key value entries

theorem keys_insertEntries (key : κ) (value : ν) (entries : List (κ × ν)) :
    (insertEntries key value entries).map Prod.fst =
      if key ∈ entries.map Prod.fst then entries.map Prod.fst
      else entries.map Prod.fst ++ [key] := by
  induction entries with
  | nil => simp [insertEntries]
  | cons entry entries ih =>
    by_cases here : entry.1 = key
    · simp [insertEntries, here]
    · have there : ¬ key = entry.1 := fun same => here same.symm
      simp only [insertEntries, here, if_false, List.map_cons, ih, List.mem_cons, there, false_or]
      split <;> simp

/-- Insert a key: in place when it is present, at the end when it is new. -/
def insert (map : IndexMap κ ν) (key : κ) (value : ν) : IndexMap κ ν where
  entries := insertEntries key value map.entries
  nodup := by
    rw [keys_insertEntries]
    split
    · exact map.nodup
    · next absent =>
      rw [List.nodup_append]
      refine ⟨map.nodup, List.nodup_singleton key, ?_⟩
      rintro a present b same rfl
      rw [List.mem_singleton] at same
      exact absent (same ▸ present)

/-- Remove a key; the later entries move forward. -/
def shiftRemove (map : IndexMap κ ν) (key : κ) : IndexMap κ ν where
  entries := map.entries.filter fun entry => entry.1 ≠ key
  nodup := map.nodup.sublist (List.filter_sublist.map Prod.fst)

theorem keys_insert (map : IndexMap κ ν) (key : κ) (value : ν) :
    (map.insert key value).keys = if key ∈ map.keys then map.keys else map.keys ++ [key] :=
  keys_insertEntries key value map.entries

theorem keys_shiftRemove (map : IndexMap κ ν) (key : κ) :
    (map.shiftRemove key).keys = map.keys.filter fun k => k ≠ key := by
  simp only [keys, shiftRemove, List.filter_map]
  rfl

theorem mem_keys_insert {map : IndexMap κ ν} {key k : κ} {value : ν} :
    k ∈ (map.insert key value).keys ↔ k = key ∨ k ∈ map.keys := by
  rw [keys_insert]
  split
  · next present =>
    constructor
    · exact .inr
    · rintro (rfl | member)
      · exact present
      · exact member
  · rw [List.mem_append, List.mem_singleton, or_comm]

/-- What is in the map after an insertion: the inserted entry, and the others'. -/
theorem mem_insert {map : IndexMap κ ν} {key k : κ} {value v : ν} :
    (k, v) ∈ (map.insert key value).entries ↔
      (k = key ∧ v = value) ∨ (k ≠ key ∧ (k, v) ∈ map.entries) := by
  have list (entries : List (κ × ν)) (nodup : (entries.map Prod.fst).Nodup) :
      (k, v) ∈ insertEntries key value entries ↔
        (k = key ∧ v = value) ∨ (k ≠ key ∧ (k, v) ∈ entries) := by
    induction entries with
    | nil => simp [insertEntries]
    | cons entry entries ih =>
      obtain ⟨first, old⟩ := entry
      rw [List.map_cons, List.nodup_cons] at nodup
      by_cases here : first = key
      · subst here
        have other : ∀ w, (k, w) ∈ entries → k ≠ first := by
          rintro w member rfl
          exact nodup.1 (List.mem_map.2 ⟨_, member, rfl⟩)
        simp only [insertEntries, if_true, List.mem_cons, Prod.mk.injEq]
        constructor
        · rintro (same | member)
          · exact .inl same
          · exact .inr ⟨other v member, .inr member⟩
        · rintro (same | ⟨different, same | member⟩)
          · exact .inl same
          · exact absurd same.1 different
          · exact .inr member
      · simp only [insertEntries, here, if_false, List.mem_cons, ih nodup.2, Prod.mk.injEq]
        constructor
        · rintro (⟨rfl, rfl⟩ | same | ⟨different, member⟩)
          · exact .inr ⟨here, .inl ⟨rfl, rfl⟩⟩
          · exact .inl same
          · exact .inr ⟨different, .inr member⟩
        · rintro (same | ⟨different, same | member⟩)
          · exact .inr (.inl same)
          · exact .inl same
          · exact .inr (.inr ⟨different, member⟩)
  exact list map.entries map.nodup

theorem mem_keys_shiftRemove {map : IndexMap κ ν} {key k : κ} :
    k ∈ (map.shiftRemove key).keys ↔ k ∈ map.keys ∧ k ≠ key := by
  simp [keys_shiftRemove]

theorem get?_eq_some {map : IndexMap κ ν} {key : κ} {value : ν} :
    map.get? key = some value ↔ (key, value) ∈ map.entries := by
  constructor
  · intro found
    obtain ⟨entry, first, rfl⟩ := Option.map_eq_some_iff.1 found
    have key_eq : entry.1 = key := by simpa using List.find?_some first
    exact key_eq ▸ List.mem_of_find?_eq_some first
  · intro member
    have present : (map.entries.find? fun entry => entry.1 = key).isSome := by
      rw [List.find?_isSome]
      exact ⟨_, member, by simp⟩
    obtain ⟨entry, first⟩ := Option.isSome_iff_exists.1 present
    have key_eq : entry.1 = key := by simpa using List.find?_some first
    have same : entry = (key, value) :=
      List.inj_on_of_nodup_map map.nodup (List.mem_of_find?_eq_some first) member key_eq
    simp [get?, first, same]

theorem get?_eq_none {map : IndexMap κ ν} {key : κ} : map.get? key = none ↔ key ∉ map.keys := by
  simp only [get?, Option.map_eq_none_iff, List.find?_eq_none, keys, List.mem_map]
  constructor
  · rintro absent ⟨entry, member, rfl⟩
    exact absent entry member (by simp)
  · intro absent entry member same
    exact absent ⟨entry, member, by simpa using same⟩

/-- Keep the entries that satisfy a predicate. -/
def retain (map : IndexMap κ ν) (p : κ → ν → Bool) : IndexMap κ ν where
  entries := map.entries.filter fun entry => p entry.1 entry.2
  nodup := map.nodup.sublist (List.filter_sublist.map Prod.fst)

/-- Change every value in place. -/
def mapValues (map : IndexMap κ ν) (f : ν → ν) : IndexMap κ ν where
  entries := map.entries.map fun entry => (entry.1, f entry.2)
  nodup := by
    rw [List.map_map]
    exact map.nodup

theorem get?_mapValues (map : IndexMap κ ν) (f : ν → ν) (key : κ) :
    (map.mapValues f).get? key = (map.get? key).map f := by
  unfold get? mapValues
  rw [List.find?_map, Option.map_map, Option.map_map]
  rfl

@[simp] theorem get?_insert_self (map : IndexMap κ ν) (key : κ) (value : ν) :
    (map.insert key value).get? key = some value := by
  rw [get?_eq_some, mem_insert]
  exact .inl ⟨rfl, rfl⟩

theorem get?_insert_of_ne (map : IndexMap κ ν) {key k : κ} (other : k ≠ key) (value : ν) :
    (map.insert key value).get? k = map.get? k := by
  apply Option.ext
  intro v
  rw [get?_eq_some, get?_eq_some, mem_insert]
  simp [other]

theorem get?_retain (map : IndexMap κ ν) (p : κ → ν → Bool) (key : κ) :
    (map.retain p).get? key = (map.get? key).filter (p key) := by
  apply Option.ext
  intro v
  rw [get?_eq_some, Option.filter_eq_some_iff, get?_eq_some, retain, List.mem_filter]

@[simp] theorem get?_empty (key : κ) : (empty : IndexMap κ ν).get? key = none := rfl

theorem entries_insert_of_absent {map : IndexMap κ ν} {key : κ} (absent : key ∉ map.keys)
    (value : ν) : (map.insert key value).entries = map.entries ++ [(key, value)] := by
  have new (entries : List (κ × ν)) (absent : key ∉ entries.map Prod.fst) :
      insertEntries key value entries = entries ++ [(key, value)] := by
    induction entries with
    | nil => rfl
    | cons entry entries ih =>
      rw [List.map_cons, List.mem_cons, not_or] at absent
      rw [insertEntries, if_neg fun same => absent.1 same.symm, ih absent.2, List.cons_append]
  exact new map.entries absent

theorem shiftRemove_of_absent {map : IndexMap κ ν} {key : κ} (absent : key ∉ map.keys) :
    map.shiftRemove key = map := by
  apply ext
  rw [shiftRemove, List.filter_eq_self]
  rintro ⟨k, value⟩ member
  have other : k ≠ key := by
    rintro rfl
    exact absent (List.mem_map_of_mem member)
  simpa using other

theorem shiftRemove_insert {map : IndexMap κ ν} {key : κ} (absent : key ∉ map.keys) (value : ν) :
    (map.insert key value).shiftRemove key = map := by
  have old := congrArg entries (shiftRemove_of_absent absent)
  apply ext
  rw [shiftRemove] at old ⊢
  dsimp only at old ⊢
  rw [entries_insert_of_absent absent, List.filter_append, old]
  simp

theorem get?_shiftRemove (map : IndexMap κ ν) (key k : κ) :
    (map.shiftRemove key).get? k = if k = key then none else map.get? k := by
  split
  · next same =>
    rw [get?_eq_none, mem_keys_shiftRemove]
    exact fun present => present.2 same
  · next other =>
    apply Option.ext
    intro v
    rw [get?_eq_some, get?_eq_some, shiftRemove, List.mem_filter]
    simp [other]

theorem get?_of_shiftRemove {map : IndexMap κ ν} {key k : κ} {value : ν}
    (found : (map.shiftRemove key).get? k = some value) : map.get? k = some value := by
  rw [get?_shiftRemove] at found
  split at found
  · cases found
  · exact found

theorem get?_insert (map : IndexMap κ ν) (key k : κ) (value : ν) :
    (map.insert key value).get? k = if k = key then some value else map.get? k := by
  split
  · next same => rw [same, get?_insert_self]
  · next other => exact get?_insert_of_ne map other value

theorem insert_of_get? {map : IndexMap κ ν} {key : κ} {value : ν}
    (found : map.get? key = some value) : map.insert key value = map := by
  have list (entries : List (κ × ν)) (nodup : (entries.map Prod.fst).Nodup)
      (member : (key, value) ∈ entries) : insertEntries key value entries = entries := by
    induction entries with
    | nil => cases member
    | cons entry entries ih =>
      rw [List.map_cons, List.nodup_cons] at nodup
      unfold insertEntries
      split
      · next here =>
        rcases List.mem_cons.1 member with same | later
        · rw [same]
        · exact absurd (List.mem_map.2 ⟨_, later, here.symm⟩) nodup.1
      · next other =>
        rcases List.mem_cons.1 member with same | later
        · rw [← same] at other
          exact absurd rfl other
        · rw [ih nodup.2 later]
  exact ext (list map.entries map.nodup (get?_eq_some.1 found))

theorem mem_keys_iff {map : IndexMap κ ν} {key : κ} :
    key ∈ map.keys ↔ ∃ value, map.get? key = some value := by
  rw [← not_iff_not, ← get?_eq_none, Option.eq_none_iff_forall_ne_some, not_exists]

theorem mem_values_iff {map : IndexMap κ ν} {value : ν} :
    value ∈ map.values ↔ ∃ key, map.get? key = some value := by
  simp only [values, List.mem_map, get?_eq_some]
  constructor
  · rintro ⟨⟨key, _⟩, member, rfl⟩
    exact ⟨key, member⟩
  · rintro ⟨key, member⟩
    exact ⟨_, member, rfl⟩

/-- A key's value, and the values left when it is removed. -/
theorem values_perm_shiftRemove {map : IndexMap κ ν} {key : κ} {value : ν}
    (found : map.get? key = some value) :
    map.values.Perm (value :: (map.shiftRemove key).values) := by
  have list (entries : List (κ × ν)) (nodup : (entries.map Prod.fst).Nodup)
      (member : (key, value) ∈ entries) :
      entries.Perm ((key, value) :: entries.filter fun entry => entry.1 ≠ key) := by
    induction entries with
    | nil => cases member
    | cons entry entries ih =>
      rw [List.map_cons, List.nodup_cons] at nodup
      rcases List.mem_cons.1 member with rfl | later
      · have others : entries.filter (fun entry => entry.1 ≠ key) = entries := by
          rw [List.filter_eq_self]
          intro entry inside
          have different : entry.1 ≠ key := by
            intro same
            exact nodup.1 (List.mem_map.2 ⟨entry, inside, same⟩)
          simpa using different
        rw [List.filter_cons_of_neg (by simp), others]
      · have different : entry.1 ≠ key := by
          rintro rfl
          exact nodup.1 (List.mem_map.2 ⟨_, later, rfl⟩)
        rw [List.filter_cons_of_pos (by simpa using different)]
        exact ((ih nodup.2 later).cons entry).trans (List.Perm.swap _ _ _)
  exact (list map.entries map.nodup (get?_eq_some.1 found)).map Prod.snd

theorem filterMap_insert {α : Type} {map : IndexMap κ ν} {key : κ} {old new : ν}
    (f : κ × ν → Option α) (found : map.get? key = some old) (same : f (key, new) = f (key, old)) :
    (map.insert key new).entries.filterMap f = map.entries.filterMap f := by
  have list (entries : List (κ × ν))
      (first : (entries.find? fun entry => entry.1 = key).map Prod.snd = some old) :
      (insertEntries key new entries).filterMap f = entries.filterMap f := by
    induction entries with
    | nil => cases first
    | cons entry entries ih =>
      obtain ⟨k, v⟩ := entry
      by_cases here : k = key
      · subst here
        rw [List.find?_cons_of_pos (by simp), Option.map_some, Option.some.injEq] at first
        rw [insertEntries, if_pos rfl, List.filterMap_cons, List.filterMap_cons, same, ← first]
      · rw [List.find?_cons_of_neg (by simpa using here)] at first
        rw [insertEntries, if_neg here, List.filterMap_cons, List.filterMap_cons, ih first]
  exact list map.entries found

/-! ## Values with a key of their own -/

section Collect

variable (key : ν → κ)

/-- The values by their keys: each key has the place of its first value and its last value. -/
def collect (values : List ν) : IndexMap κ ν :=
  values.foldl (fun map value => map.insert (key value) value) empty

theorem collect_concat (values : List ν) (value : ν) :
    collect key (values ++ [value]) = (collect key values).insert (key value) value :=
  List.foldl_concat _ _ _ _

theorem key_of_mem_collect {values : List ν} {k : κ} {v : ν}
    (member : (k, v) ∈ (collect key values).entries) : key v = k := by
  induction values using List.reverseRecOn with
  | nil => cases member
  | append_singleton values value ih =>
    rw [collect_concat, mem_insert] at member
    rcases member with ⟨rfl, rfl⟩ | ⟨-, member⟩
    · rfl
    · exact ih member

theorem get?_collect (values : List ν) (k : κ) :
    (collect key values).get? k = values.reverse.find? fun value => key value = k := by
  induction values using List.reverseRecOn with
  | nil => rfl
  | append_singleton values value ih =>
    rw [collect_concat, get?_insert, List.reverse_concat]
    by_cases here : key value = k
    · rw [if_pos here.symm, List.find?_cons_of_pos (by simpa using here)]
    · rw [if_neg (Ne.symm here), List.find?_cons_of_neg (by simpa using here), ih]

theorem entries_collect_of_nodup {values : List ν} (distinct : (values.map key).Nodup) :
    (collect key values).entries = values.map fun value => (key value, value) := by
  induction values using List.reverseRecOn with
  | nil => rfl
  | append_singleton values value ih =>
    rw [List.map_append, List.nodup_append] at distinct
    have before := ih distinct.1
    have absent : key value ∉ (collect key values).keys := by
      rw [keys, before, List.map_map]
      intro member
      exact distinct.2.2 _ member _ (List.mem_singleton_self _) rfl
    rw [collect_concat, entries_insert_of_absent absent, before, List.map_append]
    rfl

theorem values_collect_of_nodup {values : List ν} (distinct : (values.map key).Nodup) :
    (collect key values).values = values := by
  have second : (Prod.snd ∘ fun value => (key value, value)) = (id : ν → ν) := rfl
  rw [IndexMap.values, entries_collect_of_nodup key distinct, List.map_map, second, List.map_id]

theorem insertEntries_map (f : ν → ν) (k : κ) (value : ν) (entries : List (κ × ν)) :
    insertEntries k (f value) (entries.map fun entry => (entry.1, f entry.2)) =
      (insertEntries k value entries).map fun entry => (entry.1, f entry.2) := by
  induction entries with
  | nil => rfl
  | cons entry entries ih =>
    rw [List.map_cons, insertEntries, insertEntries]
    dsimp only
    split
    · rw [List.map_cons]
    · rw [List.map_cons, ih]

theorem values_collect_map {f : ν → ν} (keeps : ∀ value, key (f value) = key value)
    (values : List ν) : (collect key (values.map f)).values = (collect key values).values.map f := by
  have entries : (collect key (values.map f)).entries =
      (collect key values).entries.map fun entry => (entry.1, f entry.2) := by
    induction values using List.reverseRecOn with
    | nil => rfl
    | append_singleton values value ih =>
      rw [List.map_append, List.map_singleton, collect_concat, collect_concat, insert, insert]
      dsimp only
      rw [ih, keeps, insertEntries_map]
  rw [IndexMap.values, entries, List.map_map, IndexMap.values, List.map_map]
  rfl

theorem mem_of_mem_values_collect {values : List ν} {value : ν}
    (member : value ∈ (collect key values).values) : value ∈ values := by
  obtain ⟨k, found⟩ := mem_values_iff.1 member
  rw [get?_collect] at found
  exact List.mem_reverse.1 (List.mem_of_find?_eq_some found)

end Collect

end IndexMap

end Foundation
