import Mathlib

/-!
# Tickets and their answers

Callers get numbered tickets and wait for an answer. Some tickets are calls, of which an account
is kept: a call is held until it is refused, abandoned because its caller stopped waiting, or
served, with one answer of its own. The other tickets are only told apart from the calls. Every
call then has one answer at most, and one exactly unless it is held or its caller is gone.
-/

set_option autoImplicit false

namespace Foundation

/-- The next number, the calls given out so far, those held, the other tickets that may still be
answered, the tickets whose callers stopped waiting, the answers, and the calls served. -/
structure TicketOffice (α : Type) where
  next : ℕ
  calls : List ℕ
  held : List ℕ
  others : Set ℕ
  closed : Finset ℕ
  replies : List (ℕ × α)
  served : List ℕ

namespace TicketOffice

variable {α : Type}

/-- The answers a ticket got. -/
def answersTo (office : TicketOffice α) (ticket : ℕ) : List α :=
  (office.replies.filter fun entry => entry.1 = ticket).map Prod.snd

/-- An answer; nobody gets that of a caller who stopped waiting. -/
def post (office : TicketOffice α) (ticket : ℕ) (answer : α) : TicketOffice α :=
  if ticket ∈ office.closed then office
  else { office with replies := office.replies ++ [(ticket, answer)] }

/-- One step. A call is served with an answer of its own. -/
inductive Step (done : α) : TicketOffice α → TicketOffice α → Prop where
  | skip (office : TicketOffice α) : Step done office { office with next := office.next + 1 }
  | other (office : TicketOffice α) :
      Step done office { office with
        next := office.next + 1
        others := insert office.next office.others }
  | call (office : TicketOffice α) :
      Step done office { office with
        next := office.next + 1
        calls := office.calls ++ [office.next]
        held := office.held ++ [office.next] }
  | forget (office : TicketOffice α) (others : Set ℕ) (fewer : others ⊆ office.others) :
      Step done office { office with others := others }
  | reorder (office : TicketOffice α) (held : List ℕ) (same : held.Perm office.held) :
      Step done office { office with held := held }
  | close (office : TicketOffice α) (ticket : ℕ) :
      Step done office { office with closed := insert ticket office.closed }
  | answer (office : TicketOffice α) (ticket : ℕ) (answer : α) (known : ticket ∈ office.others) :
      Step done office (office.post ticket answer)
  | refuse (office : TicketOffice α) (before after : List ℕ) (ticket : ℕ) (answer : α)
      (held : office.held = before ++ ticket :: after) (other : answer ≠ done) :
      Step done office { office.post ticket answer with held := before ++ after }
  | abandon (office : TicketOffice α) (before after : List ℕ) (ticket : ℕ)
      (held : office.held = before ++ ticket :: after) (gone : ticket ∈ office.closed) :
      Step done office { office with held := before ++ after }
  | serve (office : TicketOffice α) (before after : List ℕ) (ticket : ℕ)
      (held : office.held = before ++ ticket :: after) (waits : ticket ∉ office.closed) :
      Step done office { office.post ticket done with
        held := before ++ after
        served := office.served ++ [ticket] }

/-- Any number of steps. -/
abbrev Steps (done : α) : TicketOffice α → TicketOffice α → Prop :=
  Relation.ReflTransGen (Step done)

/-- The account of the calls. -/
structure Sound (done : α) (office : TicketOffice α) : Prop where
  numbered : ∀ ticket ∈ office.calls, ticket < office.next
  apart : ∀ ticket ∈ office.others, ticket < office.next ∧ ticket ∉ office.calls
  ahead : ∀ ticket, office.next ≤ ticket → office.answersTo ticket = []
  once : office.held.Nodup
  known : ∀ ticket ∈ office.held, ticket ∈ office.calls
  silent : ∀ ticket ∈ office.held, office.answersTo ticket = [] ∧ ticket ∉ office.served
  settled : ∀ ticket ∈ office.calls, ticket ∉ office.held →
    (∃ answer, office.answersTo ticket = [answer]) ∨
      office.answersTo ticket = [] ∧ ticket ∈ office.closed
  given : ∀ ticket ∈ office.served, ticket ∈ office.calls
  exact : ∀ ticket ∈ office.calls, done ∈ office.answersTo ticket ↔ ticket ∈ office.served

variable {done : α} {office next : TicketOffice α} {ticket : ℕ}

/-- The same office, with other tickets besides the calls. -/
def knowing (office : TicketOffice α) (others : Set ℕ) : TicketOffice α :=
  { office with others := others }

/-- The same office, with other calls held. -/
def holding (office : TicketOffice α) (held : List ℕ) : TicketOffice α :=
  { office with held := held }

/-! ## Answers -/

theorem answersTo_post_of_ne {other : ℕ} (ne : ticket ≠ other) (answer : α) :
    (office.post other answer).answersTo ticket = office.answersTo ticket := by
  unfold post
  split
  · rfl
  · unfold answersTo
    dsimp only
    rw [List.filter_append, List.filter_singleton]
    simp [Ne.symm ne]

theorem answersTo_post (waits : ticket ∉ office.closed) (answer : α) :
    (office.post ticket answer).answersTo ticket = office.answersTo ticket ++ [answer] := by
  unfold post
  rw [if_neg waits]
  unfold answersTo
  dsimp only
  rw [List.filter_append, List.map_append, List.filter_singleton]
  simp

theorem post_of_closed (gone : ticket ∈ office.closed) (answer : α) :
    office.post ticket answer = office := if_pos gone

@[simp] theorem next_post (answer : α) : (office.post ticket answer).next = office.next := by
  unfold post
  split <;> rfl

@[simp] theorem calls_post (answer : α) : (office.post ticket answer).calls = office.calls := by
  unfold post
  split <;> rfl

@[simp] theorem held_post (answer : α) : (office.post ticket answer).held = office.held := by
  unfold post
  split <;> rfl

@[simp] theorem others_post (answer : α) : (office.post ticket answer).others = office.others := by
  unfold post
  split <;> rfl

@[simp] theorem closed_post (answer : α) : (office.post ticket answer).closed = office.closed := by
  unfold post
  split <;> rfl

@[simp] theorem served_post (answer : α) : (office.post ticket answer).served = office.served := by
  unfold post
  split <;> rfl

theorem post_knowing (others : Set ℕ) (answer : α) :
    (office.knowing others).post ticket answer = (office.post ticket answer).knowing others := by
  unfold post knowing
  dsimp only
  split <;> rfl

theorem post_holding (held : List ℕ) (answer : α) :
    (office.holding held).post ticket answer = (office.post ticket answer).holding held := by
  unfold post holding
  dsimp only
  split <;> rfl

/-! ## One step -/

theorem Steps.answered (known : ticket ∈ office.others) {others : Set ℕ}
    (fewer : others ⊆ office.others) (answer : α) :
    Steps done office ((office.knowing others).post ticket answer) := by
  rw [post_knowing]
  refine (Relation.ReflTransGen.single (Step.answer office ticket answer known)).tail ?_
  refine Step.forget _ others ?_
  rwa [others_post]

theorem Steps.refused {answer : α} (other : answer ≠ done) (before after : List ℕ) (ticket : ℕ) :
    Steps done (office.holding (before ++ ticket :: after))
      ((office.holding (before ++ after)).post ticket answer) := by
  have step := Step.refuse (office.holding (before ++ ticket :: after)) before after ticket answer
    rfl other
  rw [post_holding] at step
  rw [post_holding]
  exact .single step

theorem Steps.abandoned (before after : List ℕ) (gone : ticket ∈ office.closed) :
    Steps done (office.holding (before ++ ticket :: after)) (office.holding (before ++ after)) :=
  .single (Step.abandon (office.holding (before ++ ticket :: after)) before after ticket rfl gone)

theorem Steps.attended (before after : List ℕ) (waits : ticket ∉ office.closed) :
    Steps done (office.holding (before ++ ticket :: after))
      (({ office.holding (before ++ after) with
        served := office.served ++ [ticket] } : TicketOffice α).post ticket done) := by
  have step : Step done (office.holding (before ++ ticket :: after)) _ :=
    Step.serve (office.holding (before ++ ticket :: after)) before after ticket rfl waits
  have same : ({ office.holding (before ++ after) with
      served := office.served ++ [ticket] } : TicketOffice α).post ticket done =
        { (office.holding (before ++ ticket :: after)).post ticket done with
          held := before ++ after
          served := office.served ++ [ticket] } := by
    unfold post holding
    dsimp only
    rw [if_neg waits, if_neg waits]
  rw [same]
  exact .single step

namespace Sound

variable (sound : Sound done office)

include sound

theorem fresh : office.next ∉ office.calls ∧ office.next ∉ office.held ∧
    office.next ∉ office.served := by
  have new : office.next ∉ office.calls :=
    fun there => absurd (sound.numbered _ there) (Nat.lt_irrefl _)
  exact ⟨new, fun there => new (sound.known _ there), fun there => new (sound.given _ there)⟩

theorem skip : Sound done { office with next := office.next + 1 } where
  numbered ticket there := (sound.numbered ticket there).trans (Nat.lt_succ_self _)
  apart ticket there :=
    ⟨(sound.apart ticket there).1.trans (Nat.lt_succ_self _), (sound.apart ticket there).2⟩
  ahead ticket later := sound.ahead ticket (Nat.le_of_succ_le later)
  once := sound.once
  known := sound.known
  silent := sound.silent
  settled := sound.settled
  given := sound.given
  exact := sound.exact

theorem other : Sound done { office with
    next := office.next + 1
    others := insert office.next office.others } where
  numbered := sound.skip.numbered
  apart ticket there := by
    rcases there with rfl | old
    · exact ⟨Nat.lt_succ_self _, sound.fresh.1⟩
    · exact sound.skip.apart ticket old
  ahead := sound.skip.ahead
  once := sound.once
  known := sound.known
  silent := sound.silent
  settled := sound.settled
  given := sound.given
  exact := sound.exact

theorem call : Sound done { office with
    next := office.next + 1
    calls := office.calls ++ [office.next]
    held := office.held ++ [office.next] } where
  numbered ticket there := by
    rcases List.mem_append.1 there with old | new
    · exact sound.skip.numbered ticket old
    · rw [List.mem_singleton.1 new]
      exact Nat.lt_succ_self _
  apart ticket there := by
    refine ⟨(sound.skip.apart ticket there).1, ?_⟩
    intro called
    rcases List.mem_append.1 called with old | new
    · exact (sound.apart ticket there).2 old
    · have below := (sound.apart ticket there).1
      rw [List.mem_singleton.1 new] at below
      exact Nat.lt_irrefl _ below
  ahead := sound.skip.ahead
  once := by
    refine List.nodup_append.2 ⟨sound.once, List.nodup_singleton _, ?_⟩
    intro first inside second last same
    rw [List.mem_singleton.1 last] at same
    exact sound.fresh.2.1 (same ▸ inside)
  known ticket there := by
    rcases List.mem_append.1 there with old | new
    · exact List.mem_append_left _ (sound.known ticket old)
    · exact List.mem_append_right _ new
  silent ticket there := by
    rcases List.mem_append.1 there with old | new
    · exact sound.silent ticket old
    · rw [List.mem_singleton.1 new]
      exact ⟨sound.ahead _ le_rfl, sound.fresh.2.2⟩
  settled ticket there free := by
    rcases List.mem_append.1 there with old | new
    · exact sound.settled ticket old fun held => free (List.mem_append_left _ held)
    · exact absurd (List.mem_append_right _ new) free
  given ticket there := List.mem_append_left _ (sound.given ticket there)
  exact ticket there := by
    rcases List.mem_append.1 there with old | new
    · exact sound.exact ticket old
    · rw [List.mem_singleton.1 new]
      have none : office.answersTo office.next = [] := sound.ahead _ le_rfl
      constructor
      · intro answered
        have answered : done ∈ office.answersTo office.next := answered
        rw [none] at answered
        cases answered
      · exact fun served => absurd served sound.fresh.2.2

theorem close : Sound done { office with closed := insert ticket office.closed } where
  numbered := sound.numbered
  apart := sound.apart
  ahead := sound.ahead
  once := sound.once
  known := sound.known
  silent := sound.silent
  settled call there free := by
    rcases sound.settled call there free with answered | ⟨none, gone⟩
    · exact Or.inl answered
    · exact Or.inr ⟨none, Finset.mem_insert_of_mem gone⟩
  given := sound.given
  exact := sound.exact

theorem forget {others : Set ℕ} (fewer : others ⊆ office.others) :
    Sound done { office with others := others } where
  numbered := sound.numbered
  apart ticket there := sound.apart ticket (fewer there)
  ahead := sound.ahead
  once := sound.once
  known := sound.known
  silent := sound.silent
  settled := sound.settled
  given := sound.given
  exact := sound.exact

theorem reorder {held : List ℕ} (same : held.Perm office.held) :
    Sound done { office with held := held } where
  numbered := sound.numbered
  apart := sound.apart
  ahead := sound.ahead
  once := same.nodup_iff.2 sound.once
  known ticket there := sound.known ticket (same.mem_iff.1 there)
  silent ticket there := sound.silent ticket (same.mem_iff.1 there)
  settled ticket there free :=
    sound.settled ticket there fun inside => free (same.mem_iff.2 inside)
  given := sound.given
  exact := sound.exact

/-- The answer to another ticket. -/
theorem answer (known : ticket ∈ office.others) (answer : α) :
    Sound done (office.post ticket answer) := by
  have other {call : ℕ} (there : call ∈ office.calls) :
      (office.post ticket answer).answersTo call = office.answersTo call := by
    apply answersTo_post_of_ne
    rintro rfl
    exact (sound.apart call known).2 there
  have ahead {later : ℕ} (past : office.next ≤ later) :
      (office.post ticket answer).answersTo later = office.answersTo later := by
    apply answersTo_post_of_ne
    rintro rfl
    exact absurd (sound.apart later known).1 (Nat.not_lt.2 past)
  refine ⟨?_, ?_, ?_, ?_, ?_, ?_, ?_, ?_, ?_⟩
  · simpa using sound.numbered
  · simpa using sound.apart
  · intro later past
    rw [next_post] at past
    rw [ahead past]
    exact sound.ahead later past
  · simpa using sound.once
  · simpa using sound.known
  · intro call there
    rw [held_post] at there
    rw [other (sound.known call there), served_post]
    exact sound.silent call there
  · intro call there free
    rw [calls_post] at there
    rw [held_post] at free
    rw [other there, closed_post]
    exact sound.settled call there free
  · simpa using sound.given
  · intro call there
    rw [calls_post] at there
    rw [other there, served_post]
    exact sound.exact call there

theorem held_apart {before after : List ℕ} (held : office.held = before ++ ticket :: after) :
    ticket ∈ office.held ∧ ticket ∉ before ++ after ∧
      ∀ call, call ∈ office.held ↔ call = ticket ∨ call ∈ before ++ after := by
  have once := sound.once
  rw [held, List.nodup_middle, List.nodup_cons] at once
  refine ⟨?_, once.1, ?_⟩
  · rw [held]
    exact List.mem_append_right _ List.mem_cons_self
  · intro call
    rw [held]
    simp only [List.mem_append, List.mem_cons]
    tauto

theorem rest_once {before after : List ℕ} (held : office.held = before ++ ticket :: after) :
    (before ++ after).Nodup := by
  have once := sound.once
  rw [held, List.nodup_middle, List.nodup_cons] at once
  exact once.2

theorem abandon {before after : List ℕ} (held : office.held = before ++ ticket :: after)
    (gone : ticket ∈ office.closed) : Sound done { office with held := before ++ after } := by
  obtain ⟨here, _, parts⟩ := sound.held_apart held
  have old {call : ℕ} (there : call ∈ before ++ after) : call ∈ office.held :=
    (parts call).2 (Or.inr there)
  refine ⟨sound.numbered, sound.apart, sound.ahead, sound.rest_once held,
    fun call there => sound.known call (old there),
    fun call there => sound.silent call (old there), ?_, sound.given, sound.exact⟩
  intro call there free
  by_cases same : call = ticket
  · rw [same]
    exact Or.inr ⟨(sound.silent ticket here).1, gone⟩
  · exact sound.settled call there fun inside => ((parts call).1 inside).elim same free

/-- A held call gets its answer, and is served if that is the answer of those. -/
theorem settle {before after served : List ℕ} {answer : α}
    (held : office.held = before ++ ticket :: after)
    (waits : ticket ∉ office.closed)
    (grown : ∀ call, call ∈ served ↔ call ∈ office.served ∨ call = ticket ∧ answer = done) :
    Sound done { office.post ticket answer with held := before ++ after, served := served } := by
  obtain ⟨here, out, parts⟩ := sound.held_apart held
  have old {call : ℕ} (there : call ∈ before ++ after) : call ∈ office.held :=
    (parts call).2 (Or.inr there)
  have called := sound.known ticket here
  have silent := sound.silent ticket here
  have mine : (office.post ticket answer).answersTo ticket = [answer] := by
    rw [answersTo_post waits, silent.1]
    rfl
  have others {call : ℕ} (ne : call ≠ ticket) :
      (office.post ticket answer).answersTo call = office.answersTo call :=
    answersTo_post_of_ne ne answer
  refine ⟨?_, ?_, ?_, sound.rest_once held, ?_, ?_, ?_, ?_, ?_⟩
  · simpa using sound.numbered
  · simpa using sound.apart
  · intro later past
    dsimp only at past
    rw [next_post] at past
    have ne : later ≠ ticket := by
      rintro rfl
      exact absurd (sound.numbered later called) (Nat.not_lt.2 past)
    exact (others ne).trans (sound.ahead later past)
  · intro call there
    dsimp only
    rw [calls_post]
    exact sound.known call (old there)
  · intro call there
    have ne : call ≠ ticket := by
      rintro rfl
      exact out there
    refine ⟨(others ne).trans (sound.silent call (old there)).1, ?_⟩
    intro now
    rcases (grown call).1 now with before | ⟨same, _⟩
    · exact (sound.silent call (old there)).2 before
    · exact ne same
  · intro call there free
    dsimp only at there
    rw [calls_post] at there
    by_cases same : call = ticket
    · rw [same]
      exact Or.inl ⟨answer, mine⟩
    · have was := sound.settled call there fun inside => ((parts call).1 inside).elim same free
      rcases was with ⟨given, answered⟩ | ⟨none, gone⟩
      · exact Or.inl ⟨given, (others same).trans answered⟩
      · refine Or.inr ⟨(others same).trans none, ?_⟩
        dsimp only
        rwa [closed_post]
  · intro call there
    dsimp only
    rw [calls_post]
    rcases (grown call).1 there with before | ⟨same, _⟩
    · exact sound.given call before
    · exact same ▸ called
  · intro call there
    dsimp only at there
    rw [calls_post] at there
    dsimp only
    rw [grown call]
    by_cases same : call = ticket
    · rw [same]
      change done ∈ (office.post ticket answer).answersTo ticket ↔ _
      rw [mine, List.mem_singleton]
      constructor
      · exact fun is => Or.inr ⟨rfl, is.symm⟩
      · rintro (before | ⟨_, is⟩)
        · exact absurd before silent.2
        · exact is.symm
    · change done ∈ (office.post ticket answer).answersTo call ↔ _
      rw [others same, sound.exact call there]
      constructor
      · exact Or.inl
      · rintro (before | ⟨is, _⟩)
        · exact before
        · exact absurd is same

end Sound

theorem Step.sound (step : Step done office next) (sound : Sound done office) :
    Sound done next := by
  cases step with
  | skip => exact sound.skip
  | other => exact sound.other
  | call => exact sound.call
  | forget others fewer => exact sound.forget fewer
  | reorder held same => exact sound.reorder same
  | close ticket => exact sound.close
  | answer ticket answer known => exact sound.answer known answer
  | refuse before after ticket answer held other =>
    by_cases gone : ticket ∈ office.closed
    · rw [post_of_closed gone]
      exact sound.abandon held gone
    · have grown (call : ℕ) :
          call ∈ office.served ↔ call ∈ office.served ∨ call = ticket ∧ answer = done :=
        ⟨Or.inl, fun either => either.elim id fun is => absurd is.2 other⟩
      have settled := sound.settle held gone grown
      simpa using settled
  | abandon before after ticket held gone => exact sound.abandon held gone
  | serve before after ticket held waits =>
    apply sound.settle held waits
    intro call
    rw [List.mem_append, List.mem_singleton, and_iff_left rfl]

theorem Steps.sound (steps : Steps done office next) (sound : Sound done office) :
    Sound done next := by
  induction steps with
  | refl => exact sound
  | tail _ step ih => exact step.sound ih

theorem sound_empty (closed : Finset ℕ) :
    Sound done (⟨0, [], [], ∅, closed, [], []⟩ : TicketOffice α) where
  numbered _ there := by cases there
  apart _ there := there.elim
  ahead _ _ := rfl
  once := List.nodup_nil
  known _ there := by cases there
  silent _ there := by cases there
  settled _ there := by cases there
  given _ there := by cases there
  exact _ there := by cases there

end TicketOffice

end Foundation
