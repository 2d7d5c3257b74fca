import Mathlib

/-!
# Requests that are answered at most once

Requests arrive, wait for an answer, and are answered, refused or resolved elsewhere. As long
as what waits was received, and was neither answered nor resolved, no request is answered twice, and
none after it was resolved. There is one rule for each thing that can happen.
-/

set_option autoImplicit false

namespace Foundation

/-- What waits was received, is not answered and not resolved, and no answer was written twice. -/
structure WaitingRoom {α : Type} (received resolved : List α) (waiting : Set α)
    (written : List α) : Prop where
  waiting_received : ∀ a ∈ waiting, a ∈ received
  waiting_written : ∀ a ∈ waiting, a ∉ written
  waiting_resolved : ∀ a ∈ waiting, a ∉ resolved
  written_received : ∀ a ∈ written, a ∈ received
  written_nodup : written.Nodup

namespace WaitingRoom

variable {α : Type} {received resolved written : List α} {waiting fewer : Set α} {a : α}

theorem empty : WaitingRoom ([] : List α) [] ∅ [] where
  waiting_received := fun _ none => none.elim
  waiting_written := fun _ none => none.elim
  waiting_resolved := fun _ none => none.elim
  written_received := fun _ none => by cases none
  written_nodup := List.nodup_nil

theorem drop (room : WaitingRoom received resolved waiting written) (sub : fewer ⊆ waiting) :
    WaitingRoom received resolved fewer written where
  waiting_received := fun a here => room.waiting_received a (sub here)
  waiting_written := fun a here => room.waiting_written a (sub here)
  waiting_resolved := fun a here => room.waiting_resolved a (sub here)
  written_received := room.written_received
  written_nodup := room.written_nodup

theorem answer (room : WaitingRoom received resolved waiting written) (here : a ∈ waiting)
    (sub : fewer ⊆ waiting) (gone : a ∉ fewer) :
    WaitingRoom received resolved fewer (written ++ [a]) where
  waiting_received := fun b member => room.waiting_received b (sub member)
  waiting_written := by
    intro b member answered
    rcases List.mem_append.1 answered with old | new
    · exact room.waiting_written b (sub member) old
    · rw [List.mem_singleton.1 new] at member
      exact gone member
  waiting_resolved := fun b member => room.waiting_resolved b (sub member)
  written_received := by
    intro b answered
    rcases List.mem_append.1 answered with old | new
    · exact room.written_received b old
    · rw [List.mem_singleton.1 new]
      exact room.waiting_received a here
  written_nodup := by
    rw [List.nodup_append]
    refine ⟨room.written_nodup, List.nodup_singleton a, ?_⟩
    rintro b old c new rfl
    rw [List.mem_singleton.1 new] at old
    exact room.waiting_written a here old

theorem receive (room : WaitingRoom received resolved waiting written) :
    WaitingRoom (received ++ [a]) resolved waiting written where
  waiting_received := fun b member => List.mem_append_left _ (room.waiting_received b member)
  waiting_written := room.waiting_written
  waiting_resolved := room.waiting_resolved
  written_received := fun b member => List.mem_append_left _ (room.written_received b member)
  written_nodup := room.written_nodup

theorem ask {more : Set α} (room : WaitingRoom received resolved waiting written)
    (new : a ∉ received) (unresolved : a ∉ resolved) (sub : more ⊆ insert a waiting) :
    WaitingRoom (received ++ [a]) resolved more written := by
  have unwritten : a ∉ written := fun answered => new (room.written_received a answered)
  refine ⟨?_, ?_, ?_, room.receive.written_received, room.written_nodup⟩
  · intro b member
    rcases sub member with rfl | old
    · exact List.mem_append_right _ (List.mem_singleton_self b)
    · exact List.mem_append_left _ (room.waiting_received b old)
  · intro b member
    rcases sub member with rfl | old
    · exact unwritten
    · exact room.waiting_written b old
  · intro b member
    rcases sub member with rfl | old
    · exact unresolved
    · exact room.waiting_resolved b old

theorem refuse (room : WaitingRoom received resolved waiting written) (new : a ∉ received) :
    WaitingRoom (received ++ [a]) resolved waiting (written ++ [a]) where
  waiting_received := room.receive.waiting_received
  waiting_written := by
    intro b member answered
    rcases List.mem_append.1 answered with old | here
    · exact room.waiting_written b member old
    · rw [List.mem_singleton.1 here] at member
      exact new (room.waiting_received a member)
  waiting_resolved := room.waiting_resolved
  written_received := by
    intro b answered
    rcases List.mem_append.1 answered with old | here
    · exact List.mem_append_left _ (room.written_received b old)
    · exact List.mem_append_right _ here
  written_nodup := by
    rw [List.nodup_append]
    refine ⟨room.written_nodup, List.nodup_singleton a, ?_⟩
    rintro b old c here rfl
    rw [List.mem_singleton.1 here] at old
    exact new (room.written_received a old)

theorem resolve (room : WaitingRoom received resolved waiting written) (sub : fewer ⊆ waiting)
    (gone : a ∉ fewer) : WaitingRoom received (resolved ++ [a]) fewer written where
  waiting_received := fun b member => room.waiting_received b (sub member)
  waiting_written := fun b member => room.waiting_written b (sub member)
  waiting_resolved := by
    intro b member done
    rcases List.mem_append.1 done with old | new
    · exact room.waiting_resolved b (sub member) old
    · rw [List.mem_singleton.1 new] at member
      exact gone member
  written_received := room.written_received
  written_nodup := room.written_nodup

end WaitingRoom

end Foundation
