import Mathlib

/-!
# Lists with keys

A list whose elements have pairwise distinct keys, and the operation that puts an element in the
place of the one with its key, or behind the others.
-/

set_option autoImplicit false

namespace Foundation

namespace KeyedList

variable {κ α : Type} [DecidableEq κ] (key : α → κ)

/-- Replace the element with the same key, or append. -/
def upsert (list : List α) (value : α) : List α :=
  match list.findIdx? fun existing => key existing = key value with
  | some index => list.set index value
  | none => list ++ [value]

variable {key} {list : List α} {value other : α}

variable (key) in
theorem upsert_cases (list : List α) (value : α) :
    (∃ front old back, list = front ++ old :: back ∧ key old = key value ∧
      upsert key list value = front ++ value :: back) ∨
      ((∀ existing ∈ list, key existing ≠ key value) ∧ upsert key list value = list ++ [value]) := by
  cases found : list.findIdx? fun existing => key existing = key value with
  | none =>
    refine Or.inr ⟨?_, by simp only [upsert, found]⟩
    intro existing member same
    have absent := List.findIdx?_eq_none_iff.1 found existing member
    simp [same] at absent
  | some index =>
    obtain ⟨inside, same, _⟩ := List.findIdx?_eq_some_iff_getElem.1 found
    refine Or.inl ⟨list.take index, list[index], list.drop (index + 1), ?_, by simpa using same, ?_⟩
    · rw [List.getElem_cons_drop, List.take_append_drop]
    · simp only [upsert, found]
      rw [List.set_eq_take_append_cons_drop, if_pos inside]

variable (key) in
theorem upsert_keys (list : List α) (value : α) :
    (upsert key list value).map key = list.map key ∨
      (key value ∉ list.map key ∧ (upsert key list value).map key = list.map key ++ [key value]) := by
  rcases upsert_cases key list value with ⟨front, old, back, rfl, same, replaced⟩ |
    ⟨absent, appended⟩
  · refine Or.inl ?_
    rw [replaced, List.map_append, List.map_append, List.map_cons, List.map_cons, same]
  · refine Or.inr ⟨?_, by rw [appended, List.map_append, List.map_singleton]⟩
    rintro member
    obtain ⟨existing, inside, same⟩ := List.mem_map.1 member
    exact absent existing inside same

theorem upsert_nodup (nodup : (list.map key).Nodup) : ((upsert key list value).map key).Nodup := by
  rcases upsert_keys key list value with same | ⟨absent, grown⟩
  · rwa [same]
  · rw [grown, List.nodup_append]
    refine ⟨nodup, List.nodup_singleton _, ?_⟩
    rintro first inside second single rfl
    rw [List.mem_singleton.1 single] at inside
    exact absent inside

theorem mem_upsert (nodup : (list.map key).Nodup) (member : other ∈ upsert key list value) :
    other = value ∨ (other ∈ list ∧ key other ≠ key value) := by
  rcases upsert_cases key list value with ⟨front, old, back, rfl, same, replaced⟩ |
    ⟨absent, appended⟩
  · rw [replaced, List.mem_append, List.mem_cons] at member
    rw [List.map_append, List.map_cons, List.nodup_append, List.nodup_cons] at nodup
    obtain ⟨_, ⟨fresh, _⟩, apart⟩ := nodup
    rcases member with before | rfl | after
    · refine Or.inr ⟨List.mem_append_left _ before, ?_⟩
      rw [← same]
      exact apart _ (List.mem_map_of_mem before) _ List.mem_cons_self
    · exact Or.inl rfl
    · refine Or.inr ⟨List.mem_append_right _ (List.mem_cons_of_mem _ after), ?_⟩
      rw [← same]
      intro clash
      exact fresh (clash ▸ List.mem_map_of_mem after)
  · rw [appended, List.mem_append, List.mem_singleton] at member
    rcases member with inside | rfl
    · exact Or.inr ⟨inside, absent other inside⟩
    · exact Or.inl rfl

end KeyedList

end Foundation
