import Mathlib

/-!
# Questions that may be withdrawn while they are answered

A party asks questions under names of its own and may withdraw them. The other party keeps the
questions it has not answered; an answer is first taken off the pending questions and is then
under way until it is written, refused or put back. A withdrawal that finds its question pending
removes it; one that does not is remembered, so that an answer under way is refused.

What has to hold for a withdrawn question to stay unanswered is the side condition of two steps:
nothing is put back that is withdrawn, and the withdrawals are forgotten only when none of them
concerns an answer under way.
-/

set_option autoImplicit false

namespace Foundation

/-- The questions of one asking party, by name: those pending, those whose answer is under way,
and the withdrawals remembered; then all that were ever asked or withdrawn, and the answers
written. -/
structure AnswerDesk (α : Type) where
  pending : Multiset α
  underWay : Multiset α
  withdrawn : Finset α
  asked : Finset α
  cancelled : Finset α
  responses : List α

namespace AnswerDesk

variable {α : Type}

/-- Every question is in one place at most, and a withdrawn one is nowhere but, remembered as
withdrawn, under way. -/
structure Sound (desk : AnswerDesk α) : Prop where
  once : (desk.pending + desk.underWay).Nodup
  known : ∀ id ∈ desk.pending + desk.underWay, id ∈ desk.asked
  dead : ∀ id ∈ desk.pending, id ∉ desk.cancelled
  remembered : ∀ id ∈ desk.underWay, id ∈ desk.cancelled → id ∈ desk.withdrawn
  single : desk.responses.Nodup
  answered : ∀ id ∈ desk.responses, id ∈ desk.asked ∧ id ∉ desk.pending + desk.underWay

variable {desk next : AnswerDesk α} {id : α}

theorem Sound.underWay_once (sound : Sound desk) : desk.underWay.Nodup :=
  Multiset.nodup_of_le (Multiset.le_add_left _ _) sound.once

theorem Sound.pending_once (sound : Sound desk) : desk.pending.Nodup :=
  Multiset.nodup_of_le (Multiset.le_add_right _ _) sound.once

theorem Sound.apart (sound : Sound desk) (there : id ∈ desk.pending) : id ∉ desk.underWay :=
  Multiset.disjoint_left.1 (Multiset.nodup_add.1 sound.once).2.2 there

theorem Sound.fewer (sound : Sound desk) {pending underWay : Multiset α} {withdrawn : Finset α}
    (less : pending ≤ desk.pending) (lost : underWay ≤ desk.underWay)
    (kept : ∀ id ∈ underWay, id ∈ desk.withdrawn → id ∈ withdrawn) :
    Sound { desk with pending := pending, underWay := underWay, withdrawn := withdrawn } where
  once := Multiset.nodup_of_le (add_le_add less lost) sound.once
  known id held := sound.known id (Multiset.mem_of_le (add_le_add less lost) held)
  dead id there := sound.dead id (Multiset.mem_of_le less there)
  remembered id there gone :=
    kept id there (sound.remembered id (Multiset.mem_of_le lost there) gone)
  single := sound.single
  answered id there :=
    ⟨(sound.answered id there).1,
      fun held => (sound.answered id there).2 (Multiset.mem_of_le (add_le_add less lost) held)⟩

variable [DecidableEq α]

/-- One step of either party. -/
inductive Step : AnswerDesk α → AnswerDesk α → Prop where
  | ask (desk : AnswerDesk α) (id : α) (new : id ∉ desk.asked) (live : id ∉ desk.cancelled) :
      Step desk { desk with pending := id ::ₘ desk.pending, asked := insert id desk.asked }
  | deny (desk : AnswerDesk α) (id : α) (new : id ∉ desk.asked) (live : id ∉ desk.cancelled) :
      Step desk { desk with
        responses := desk.responses ++ [id]
        asked := insert id desk.asked }
  | withdrawPending (desk : AnswerDesk α) (id : α) (rest : Multiset α)
      (there : desk.pending = id ::ₘ rest) :
      Step desk { desk with pending := rest, cancelled := insert id desk.cancelled }
  | withdraw (desk : AnswerDesk α) (id : α) (absent : id ∉ desk.pending) :
      Step desk { desk with
        withdrawn := insert id desk.withdrawn
        cancelled := insert id desk.cancelled }
  | take (desk : AnswerDesk α) (id : α) (rest : Multiset α) (there : desk.pending = id ::ₘ rest) :
      Step desk { desk with pending := rest, underWay := id ::ₘ desk.underWay }
  | drop (desk : AnswerDesk α) (pending underWay : Multiset α) (fewer : pending ≤ desk.pending)
      (lost : underWay ≤ desk.underWay) :
      Step desk { desk with pending := pending, underWay := underWay }
  | putBack (desk : AnswerDesk α) (id : α) (rest : Multiset α)
      (there : desk.underWay = id ::ₘ rest) (live : id ∉ desk.withdrawn) :
      Step desk { desk with pending := id ::ₘ desk.pending, underWay := rest }
  | refuse (desk : AnswerDesk α) (id : α) (rest : Multiset α)
      (there : desk.underWay = id ::ₘ rest) :
      Step desk { desk with underWay := rest, withdrawn := desk.withdrawn.erase id }
  | answer (desk : AnswerDesk α) (id : α) (rest : Multiset α)
      (there : desk.underWay = id ::ₘ rest) (live : id ∉ desk.withdrawn) :
      Step desk { desk with underWay := rest, responses := desk.responses ++ [id] }
  | forget (desk : AnswerDesk α) (covered : ∀ id ∈ desk.underWay, id ∉ desk.withdrawn) :
      Step desk { desk with withdrawn := ∅ }

theorem Sound.ask (sound : Sound desk) (new : id ∉ desk.asked) (live : id ∉ desk.cancelled) :
    Sound { desk with pending := id ::ₘ desk.pending, asked := insert id desk.asked } where
  once := by
    dsimp only
    rw [Multiset.cons_add, Multiset.nodup_cons]
    exact ⟨fun held => new (sound.known id held), sound.once⟩
  known other held := by
    dsimp only at held ⊢
    rw [Multiset.cons_add, Multiset.mem_cons] at held
    rcases held with rfl | held
    · exact Finset.mem_insert_self _ _
    · exact Finset.mem_insert_of_mem (sound.known other held)
  dead other there := by
    rcases Multiset.mem_cons.1 there with rfl | there
    · exact live
    · exact sound.dead other there
  remembered := sound.remembered
  single := sound.single
  answered other there := by
    obtain ⟨known, absent⟩ := sound.answered other there
    refine ⟨Finset.mem_insert_of_mem known, ?_⟩
    dsimp only
    rw [Multiset.cons_add, Multiset.mem_cons, not_or]
    refine ⟨?_, absent⟩
    rintro rfl
    exact new known

omit [DecidableEq α] in
theorem Sound.respond (sound : Sound desk) {asked : Finset α} (more : desk.asked ⊆ asked)
    (known : id ∈ asked) (fresh : id ∉ desk.responses)
    (absent : id ∉ desk.pending + desk.underWay) :
    Sound { desk with responses := desk.responses ++ [id], asked := asked } where
  once := sound.once
  known other held := more (sound.known other held)
  dead := sound.dead
  remembered := sound.remembered
  single := by
    dsimp only
    rw [List.nodup_append]
    refine ⟨sound.single, List.nodup_singleton id, ?_⟩
    rintro first inside second single rfl
    rw [List.mem_singleton] at single
    exact fresh (single ▸ inside)
  answered other there := by
    dsimp only at there ⊢
    rw [List.mem_append, List.mem_singleton] at there
    rcases there with there | rfl
    · exact ⟨more (sound.answered other there).1, (sound.answered other there).2⟩
    · exact ⟨known, absent⟩

omit [DecidableEq α] in
theorem Sound.moved (sound : Sound desk) {pending underWay : Multiset α}
    (held : pending + underWay = desk.pending + desk.underWay)
    (dead : ∀ id ∈ pending, id ∉ desk.cancelled)
    (remembered : ∀ id ∈ underWay, id ∈ desk.cancelled → id ∈ desk.withdrawn) :
    Sound { desk with pending := pending, underWay := underWay } where
  once := held ▸ sound.once
  known id there := sound.known id (held ▸ there)
  dead := dead
  remembered := remembered
  single := sound.single
  answered id there := ⟨(sound.answered id there).1, held ▸ (sound.answered id there).2⟩

theorem Step.kept (step : Step desk next) (sound : Sound desk) : Sound next := by
  cases step with
  | ask id new live => exact sound.ask new live
  | deny id new live =>
    apply sound.respond (Finset.subset_insert _ _) (Finset.mem_insert_self _ _)
    · exact fun there => new (sound.answered id there).1
    · exact fun held => new (sound.known id held)
  | withdrawPending id rest there =>
    have less := sound.fewer (there ▸ Multiset.le_cons_self rest id) le_rfl fun _ _ kept => kept
    have once := sound.pending_once
    rw [there, Multiset.nodup_cons] at once
    refine ⟨less.once, less.known, ?_, ?_, less.single, less.answered⟩
    · intro other left gone
      rcases Finset.mem_insert.1 gone with rfl | gone
      · exact once.1 left
      · exact less.dead other left gone
    · intro other way gone
      rcases Finset.mem_insert.1 gone with rfl | gone
      · exact absurd way (sound.apart (there ▸ Multiset.mem_cons_self other rest))
      · exact sound.remembered other way gone
  | withdraw id absent =>
    refine ⟨sound.once, sound.known, ?_, ?_, sound.single, sound.answered⟩
    · intro other there gone
      rcases Finset.mem_insert.1 gone with rfl | gone
      · exact absent there
      · exact sound.dead other there gone
    · intro other way gone
      rcases Finset.mem_insert.1 gone with rfl | gone
      · exact Finset.mem_insert_self _ _
      · exact Finset.mem_insert_of_mem (sound.remembered other way gone)
  | take id rest there =>
    have live := sound.dead id (there ▸ Multiset.mem_cons_self id rest)
    apply sound.moved
    · rw [there, Multiset.add_cons, Multiset.cons_add]
    · exact fun other left => sound.dead other (there ▸ Multiset.mem_cons_of_mem left)
    · intro other way gone
      rcases Multiset.mem_cons.1 way with rfl | way
      · exact absurd gone live
      · exact sound.remembered other way gone
  | drop pending underWay fewer lost => exact sound.fewer fewer lost fun _ _ kept => kept
  | putBack id rest there live =>
    apply sound.moved
    · rw [there, Multiset.add_cons, Multiset.cons_add]
    · intro other back gone
      rcases Multiset.mem_cons.1 back with rfl | back
      · exact live (sound.remembered other (there ▸ Multiset.mem_cons_self other rest) gone)
      · exact sound.dead other back gone
    · exact fun other way => sound.remembered other (there ▸ Multiset.mem_cons_of_mem way)
  | refuse id rest there =>
    have once := sound.underWay_once
    rw [there, Multiset.nodup_cons] at once
    apply sound.fewer le_rfl (there ▸ Multiset.le_cons_self rest id)
    rintro other way kept
    refine Finset.mem_erase.2 ⟨?_, kept⟩
    rintro rfl
    exact once.1 way
  | answer id rest there live =>
    have inside : id ∈ desk.underWay := there ▸ Multiset.mem_cons_self id rest
    have once := sound.underWay_once
    rw [there, Multiset.nodup_cons] at once
    have less := sound.fewer le_rfl (there ▸ Multiset.le_cons_self rest id) fun _ _ kept => kept
    apply less.respond (Finset.Subset.refl _)
    · exact sound.known id (Multiset.mem_add.2 (Or.inr inside))
    · exact fun answered => (sound.answered id answered).2 (Multiset.mem_add.2 (Or.inr inside))
    · exact fun held => (Multiset.mem_add.1 held).elim
        (fun pending => sound.apart pending inside) once.1
  | forget covered =>
    refine ⟨sound.once, sound.known, sound.dead, ?_, sound.single, sound.answered⟩
    intro other way gone
    exact absurd (sound.remembered other way gone) (covered other way)

theorem Step.silent (step : Step desk next) (sound : Sound desk) (gone : id ∈ desk.cancelled) :
    id ∈ next.cancelled ∧ next.responses.count id = desk.responses.count id := by
  have other {written : α} (different : written ≠ id) :
      (desk.responses ++ [written]).count id = desk.responses.count id := by
    rw [List.count_append, List.count_singleton, beq_iff_eq.not.2 different |> if_neg,
      Nat.add_zero]
  cases step with
  | deny written new live =>
    refine ⟨gone, other ?_⟩
    rintro rfl
    exact live gone
  | answer written rest there live =>
    refine ⟨gone, other ?_⟩
    rintro rfl
    exact live (sound.remembered written (there ▸ Multiset.mem_cons_self written rest) gone)
  | withdrawPending written rest there => exact ⟨Finset.mem_insert_of_mem gone, rfl⟩
  | withdraw written absent => exact ⟨Finset.mem_insert_of_mem gone, rfl⟩
  | ask => exact ⟨gone, rfl⟩
  | take => exact ⟨gone, rfl⟩
  | drop => exact ⟨gone, rfl⟩
  | putBack => exact ⟨gone, rfl⟩
  | refuse => exact ⟨gone, rfl⟩
  | forget => exact ⟨gone, rfl⟩

/-- Any number of steps. -/
abbrev Steps : AnswerDesk α → AnswerDesk α → Prop := Relation.ReflTransGen Step

theorem Steps.kept (steps : Steps desk next) (sound : Sound desk) : Sound next := by
  induction steps with
  | refl => exact sound
  | tail _ last ih => exact last.kept ih

theorem Steps.silent (steps : Steps desk next) (sound : Sound desk) (gone : id ∈ desk.cancelled) :
    id ∈ next.cancelled ∧ next.responses.count id = desk.responses.count id := by
  induction steps with
  | refl => exact ⟨gone, rfl⟩
  | tail before last ih =>
    obtain ⟨still, same⟩ := last.silent (Steps.kept before sound) ih.1
    exact ⟨still, same.trans ih.2⟩

end AnswerDesk

end Foundation
