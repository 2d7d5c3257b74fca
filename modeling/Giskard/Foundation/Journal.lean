import Mathlib

/-!
# Journals

A journal is a list that grows at its end. Two ways to speak of one: every entry is justified by
the entries before it, and since an entry of one kind only entries of another kind followed.
Each has a rule for the entry that is written next.
-/

set_option autoImplicit false

namespace Foundation

namespace Journal

variable {α : Type}

/-- Every entry has a property of the entries before it. -/
def Justified (P : List α → α → Prop) (journal : List α) : Prop :=
  ∀ earlier entry, earlier ++ [entry] <+: journal → P earlier entry

/-- Some entry satisfies `p`, and every entry after it `q`. -/
def Since (p q : α → Prop) (journal : List α) : Prop :=
  ∃ earlier entry later, journal = earlier ++ entry :: later ∧ p entry ∧ ∀ other ∈ later, q other

variable {P : List α → α → Prop} {p q : α → Prop} {journal more : List α} {entry : α}

theorem justified_nil : Justified P [] := by
  intro earlier entry start
  have empty := List.prefix_nil.1 start
  simp at empty

theorem justified_concat :
    Justified P (journal ++ [entry]) ↔ Justified P journal ∧ P journal entry := by
  constructor
  · intro justified
    refine ⟨?_, justified journal entry (List.prefix_refl _)⟩
    intro earlier other start
    exact justified earlier other (start.trans (List.prefix_append _ _))
  · rintro ⟨justified, last⟩ earlier other start
    rcases List.prefix_concat_iff.1 start with whole | part
    · obtain ⟨rfl, same⟩ := List.append_inj' whole rfl
      cases same
      exact last
    · exact justified earlier other part

theorem Justified.append (justified : Justified P journal)
    (free : ∀ entry ∈ more, ∀ earlier, P earlier entry) : Justified P (journal ++ more) := by
  induction more using List.reverseRecOn with
  | nil => rwa [List.append_nil]
  | append_singleton more entry ih =>
    rw [← List.append_assoc, justified_concat]
    refine ⟨ih fun other member => free other (List.mem_append_left _ member), ?_⟩
    exact free entry (List.mem_append_right _ (List.mem_singleton_self _)) _

theorem Since.concat (since : Since p q journal) (next : q entry) :
    Since p q (journal ++ [entry]) := by
  obtain ⟨earlier, first, later, rfl, here, after⟩ := since
  refine ⟨earlier, first, later ++ [entry], by simp, here, ?_⟩
  intro other member
  rcases List.mem_append.1 member with old | new
  · exact after other old
  · rw [List.mem_singleton.1 new]
    exact next

theorem Since.append (since : Since p q journal) (next : ∀ entry ∈ more, q entry) :
    Since p q (journal ++ more) := by
  induction more using List.reverseRecOn with
  | nil => rwa [List.append_nil]
  | append_singleton more entry ih =>
    rw [← List.append_assoc]
    refine (ih fun other member => next other (List.mem_append_left _ member)).concat ?_
    exact next entry (List.mem_append_right _ (List.mem_singleton_self _))

theorem since_concat (here : p entry) : Since p q (journal ++ [entry]) :=
  ⟨journal, entry, [], rfl, here, by simp⟩

end Journal

end Foundation
