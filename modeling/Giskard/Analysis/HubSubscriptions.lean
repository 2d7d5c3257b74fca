import Mathlib
import Giskard.Model.Hub

/-!
# Subscriptions that outlive their client

A list names a client once at most. The lists of a client that has disconnected stay without it
until a subscribe call that found it earlier goes on; nothing takes the entry of such a call out
again, so that the last one of a client leaves it behind.
-/

set_option autoImplicit false

namespace Giskard.Hub

open Foundation

variable {τ δ : Type} [DecidableEq τ]

/-! ## Lists -/

/-- The clients that a thread's list names. -/
def names (subs : IndexMap τ (SubList δ)) (thread : τ) : List ClientId :=
  ((subs.get? thread).getD []).map Prod.fst

section Lists

variable (subs : IndexMap τ (SubList δ)) (thread : τ)

theorem names_insertClient (call : Subscribing τ δ) :
    names (insertClient subs call) thread =
      if thread = call.thread ∧ call.client ∉ names subs thread
      then names subs thread ++ [call.client] else names subs thread := by
  have named : (((subs.get? call.thread).getD []).any fun entry => entry.1 = call.client) = true ↔
      call.client ∈ names subs call.thread := by
    rw [List.any_eq_true, names, List.mem_map]
    simp only [decide_eq_true_eq]
  unfold insertClient
  dsimp only
  by_cases present : call.client ∈ names subs call.thread
  · rw [if_pos (named.2 present), if_neg]
    rintro ⟨rfl, absent⟩
    exact absent present
  · rw [if_neg fun found => present (named.1 found)]
    by_cases here : thread = call.thread
    · rw [here, if_pos ⟨rfl, present⟩, names, IndexMap.get?_insert_self, Option.getD_some,
        List.map_append]
      rfl
    · rw [if_neg fun both => here both.1, names, IndexMap.get?_insert_of_ne _ here, names]

theorem map_withoutClient (client : ClientId) (list : SubList δ) :
    (withoutClient client list).map Prod.fst = (list.map Prod.fst).filter (· ≠ client) := by
  rw [withoutClient, List.filter_map]
  rfl

theorem names_purgeClient (client : ClientId) :
    names (purgeClient subs client) thread = (names subs thread).filter (· ≠ client) := by
  unfold purgeClient names
  rw [IndexMap.get?_retain, IndexMap.get?_mapValues]
  cases subs.get? thread with
  | none => rfl
  | some list =>
    rw [Option.map_some, Option.filter_some, Option.getD_some, ← map_withoutClient]
    split
    · rfl
    · next empty =>
      have none : withoutClient client list = [] := by simpa using empty
      rw [none]
      rfl

theorem names_unsubscribeClient (other : τ) (client : ClientId) :
    (names (unsubscribeClient subs other client) thread).Sublist (names subs thread) := by
  unfold unsubscribeClient names
  split
  · exact List.Sublist.refl _
  · next list found =>
    dsimp only
    by_cases here : thread = other
    · have kept : ((withoutClient client list).map Prod.fst).Sublist (list.map Prod.fst) :=
        List.filter_sublist.map Prod.fst
      rw [here, found]
      split
      · rw [IndexMap.get?_shiftRemove, if_pos rfl]
        exact List.nil_sublist _
      · rw [IndexMap.get?_insert_self]
        exact kept
    · split
      · rw [IndexMap.get?_shiftRemove, if_neg here]
      · rw [IndexMap.get?_insert_of_ne _ here]

theorem names_retainSubscribers (other : τ) (retained : ClientId × δ → Bool) :
    (names (retainSubscribers subs other retained) thread).Sublist (names subs thread) := by
  unfold retainSubscribers names
  split
  · exact List.Sublist.refl _
  · next list found =>
    by_cases here : thread = other
    · rw [here, found, IndexMap.get?_insert_self]
      exact List.filter_sublist.map Prod.fst
    · rw [IndexMap.get?_insert_of_ne _ here]

end Lists

namespace HubState

variable (hub : HubState τ δ)

/-! ## What the lists name -/

/-- A subscribe call goes on for a client whose disconnect has returned. -/
def Late : HubChoice τ δ → Prop
  | .insert call => ∃ subscribing ∈ hub.subscribing[call]?, subscribing.client ∈ hub.disconnected
  | _ => False

/-- Each list names a client once, and none names a client whose disconnect has returned while no
subscribe call of it is running. -/
structure Tidy : Prop where
  once : ∀ thread, (names hub.subs thread).Nodup
  gone : ∀ client ∈ hub.disconnected, (∀ call ∈ hub.subscribing, call.client ≠ client) →
    ∀ thread, client ∉ names hub.subs thread

/-- No list names a client whose disconnect has returned. -/
structure Clean : Prop where
  once : ∀ thread, (names hub.subs thread).Nodup
  gone : ∀ client ∈ hub.disconnected, ∀ thread, client ∉ names hub.subs thread

variable {hub}

theorem Clean.tidy (clean : hub.Clean) : hub.Tidy :=
  ⟨clean.once, fun client returned _ => clean.gone client returned⟩

theorem Clean.shrink (clean : hub.Clean) {next : HubState τ δ}
    (smaller : ∀ thread, (names next.subs thread).Sublist (names hub.subs thread))
    (same : next.disconnected = hub.disconnected) : next.Clean where
  once thread := (clean.once thread).sublist (smaller thread)
  gone client returned thread member :=
    clean.gone client (same ▸ returned) thread ((smaller thread).subset member)

theorem Clean.insert (clean : hub.Clean) {call : ℕ} (early : ¬hub.Late (.insert call)) :
    (hub.insert call).Clean := by
  unfold HubState.insert
  split
  · exact clean
  · next subscribing found =>
    have present : subscribing.client ∉ hub.disconnected := fun returned =>
      early ⟨subscribing, found, returned⟩
    constructor
    · intro thread
      rw [names_insertClient]
      split
      · next adds =>
        exact List.Nodup.concat adds.2 (clean.once thread) |> fun nodup => by
          rwa [List.concat_eq_append] at nodup
      · exact clean.once thread
    · intro client returned thread
      rw [names_insertClient]
      split
      · rw [List.mem_append, List.mem_singleton, not_or]
        refine ⟨clean.gone client returned thread, ?_⟩
        rintro rfl
        exact present returned
      · exact clean.gone client returned thread

theorem Clean.purge (clean : hub.Clean) (call : ℕ) : (hub.purge call).Clean := by
  unfold HubState.purge
  split
  · exact clean
  · next client found =>
    constructor
    · intro thread
      rw [names_purgeClient]
      exact (clean.once thread).filter _
    · intro other returned thread
      rw [names_purgeClient, List.mem_filter, decide_eq_true_eq]
      rintro ⟨member, apart⟩
      rcases List.mem_cons.1 returned with rfl | earlier
      · exact apart rfl
      · exact clean.gone other earlier thread member

theorem Clean.step (clean : hub.Clean) {choice : HubChoice τ δ} (early : ¬hub.Late choice) :
    (hub.step choice).Clean := by
  cases choice with
  | insert call => exact clean.insert early
  | purge call => exact clean.purge call
  | unsubscribe thread client =>
    exact clean.shrink (fun other => names_unsubscribeClient hub.subs other thread client) rfl
  | publish thread retained =>
    exact clean.shrink (fun other => names_retainSubscribers hub.subs other thread retained) rfl
  | register client delivery =>
    refine clean.shrink (fun thread => ?_) ?_ <;>
      simp only [HubState.step, HubState.register] <;> split <;> rfl
  | subscribe thread client =>
    refine clean.shrink (fun thread => ?_) ?_ <;>
      simp only [HubState.step, HubState.subscribe] <;> split <;> rfl
  | disconnect client => exact clean.shrink (fun _ => List.Sublist.refl _) rfl
  | publishAll retained => exact clean.shrink (fun _ => List.Sublist.refl _) rfl

theorem clean_new : (HubState.new : HubState τ δ).Clean :=
  ⟨fun _ => List.nodup_nil, fun _ none => nomatch none⟩

theorem once_step (once : ∀ thread, (names hub.subs thread).Nodup) (choice : HubChoice τ δ) :
    ∀ thread, (names (hub.step choice).subs thread).Nodup := by
  -- Without clients that have disconnected, no call is late.
  have clean : Clean { hub with disconnected := [] } := ⟨once, fun _ none => nomatch none⟩
  have same : (hub.step choice).subs = (step { hub with disconnected := [] } choice).subs := by
    cases choice <;>
      simp only [HubState.step, HubState.register, HubState.subscribe, HubState.insert,
        HubState.purge] <;>
      (try split) <;> rfl
  rw [same]
  refine (clean.step ?_).once
  cases choice <;> simp [Late]

/-- SOURCE: hub.rs:85-136. -/
theorem Clean.run (clean : hub.Clean) {schedule : List (HubChoice τ δ)}
    (early : Schedule.Meets HubState.step (fun hub choice => ¬hub.Late choice) hub schedule) :
    (Schedule.run HubState.step hub schedule).Clean :=
  Schedule.run_invariant clean early fun _ _ clean early => clean.step early

/-! ## What a late call leaves behind -/

theorem disconnected_step {client : ClientId} (returned : client ∈ hub.disconnected)
    (choice : HubChoice τ δ) : client ∈ (hub.step choice).disconnected := by
  cases choice with
  | purge call =>
    unfold HubState.step HubState.purge
    dsimp only
    split
    · exact returned
    · exact List.mem_cons_of_mem _ returned
  | register other delivery =>
    simp only [HubState.step, HubState.register]
    split <;> exact returned
  | subscribe thread other =>
    simp only [HubState.step, HubState.subscribe]
    split <;> exact returned
  | insert call =>
    simp only [HubState.step, HubState.insert]
    split <;> exact returned
  | unsubscribe thread other => exact returned
  | disconnect other => exact returned
  | publish thread retained => exact returned
  | publishAll retained => exact returned

/-- The last running subscribe call of a client ends with a list that names the client. -/
theorem named_of_last {call : Subscribing τ δ} (running : call ∈ hub.subscribing)
    (choice : HubChoice τ δ)
    (last : ∀ other ∈ (hub.step choice).subscribing, other.client ≠ call.client) :
    ∃ thread, call.client ∈ names (hub.step choice).subs thread := by
  have still {next : HubState τ δ} (kept : call ∈ next.subscribing)
      (last : ∀ other ∈ next.subscribing, other.client ≠ call.client) :
      ∃ thread, call.client ∈ names next.subs thread := absurd rfl (last call kept)
  cases choice with
  | insert index =>
    unfold HubState.step HubState.insert at last ⊢
    dsimp only at last ⊢
    split at last
    · exact still running last
    · next other found =>
      by_cases same : other.client = call.client
      · refine ⟨other.thread, ?_⟩
        rw [names_insertClient, ← same]
        split
        · exact List.mem_concat_self
        · next present => exact not_not.1 fun absent => present ⟨rfl, absent⟩
      · obtain ⟨place, here⟩ := List.getElem?_of_mem running
        have elsewhere : place ≠ index := by
          rintro rfl
          exact same (congrArg _ (Option.some.inj (found.symm.trans here)))
        exact still (List.mem_eraseIdx_iff_getElem?.2 ⟨place, elsewhere, here⟩) last
  | subscribe thread client =>
    unfold HubState.step HubState.subscribe at last ⊢
    dsimp only at last ⊢
    split at last
    · exact still running last
    · exact still (List.mem_append_left _ running) last
  | register client delivery =>
    have same : (hub.register client delivery).subscribing = hub.subscribing := by
      unfold HubState.register
      split <;> rfl
    exact still (same.symm ▸ running) last
  | purge index =>
    unfold HubState.step HubState.purge at last ⊢
    dsimp only at last ⊢
    split at last <;> exact still running last
  | unsubscribe thread client => exact still running last
  | disconnect client => exact still running last
  | publish thread retained => exact still running last
  | publishAll retained => exact still running last

theorem not_tidy_of_running {call : Subscribing τ δ} (running : call ∈ hub.subscribing)
    (returned : call.client ∈ hub.disconnected) {schedule : List (HubChoice τ δ)}
    (ended : (Schedule.run step hub schedule).subscribing = []) :
    ∃ front, front <+: schedule ∧ ¬(Schedule.run step hub front).Tidy := by
  induction schedule generalizing hub call with
  | nil =>
    rw [Schedule.run_nil] at ended
    rw [ended] at running
    exact nomatch running
  | cons choice rest ih =>
    by_cases last : ∀ other ∈ (hub.step choice).subscribing, other.client ≠ call.client
    · refine ⟨[choice], List.prefix_append [choice] rest, fun tidy => ?_⟩
      obtain ⟨thread, named⟩ := named_of_last running choice last
      exact tidy.gone call.client (disconnected_step returned choice) last thread named
    · push Not at last
      obtain ⟨other, member, same⟩ := last
      obtain ⟨front, before, broken⟩ :=
        ih member (same ▸ disconnected_step returned choice) ended
      exact ⟨choice :: front, List.cons_prefix_cons.2 ⟨rfl, before⟩, broken⟩

theorem meets_of_tidy {schedule : List (HubChoice τ δ)}
    (ended : (Schedule.run step hub schedule).subscribing = [])
    (tidy : ∀ front, front <+: schedule → (Schedule.run step hub front).Tidy) :
    Schedule.Meets step (fun hub choice => ¬hub.Late choice) hub schedule := by
  induction schedule generalizing hub with
  | nil => trivial
  | cons choice rest ih =>
    refine ⟨fun late => ?_, ih ended fun front before =>
      tidy (choice :: front) (List.cons_prefix_cons.2 ⟨rfl, before⟩)⟩
    cases choice with
    | insert call =>
      obtain ⟨subscribing, found, returned⟩ := late
      obtain ⟨front, before, broken⟩ :=
        not_tidy_of_running (List.mem_of_getElem? found) returned ended
      exact broken (tidy front before)
    | _ => exact late

end HubState

/-- Each list names a client at most once, in every run. A run in which no subscribe call goes on
after its client's disconnect has returned leaves no list with such a client at any time, and if all
subscribe calls have ended, only such a run does. SOURCE: hub.rs:75-166. -/
theorem disconnected_clients_unlisted (schedule : List (HubChoice τ δ)) :
    (∀ thread, (names (Schedule.run HubState.step .new schedule).subs thread).Nodup) ∧
      (Schedule.Meets HubState.step (fun hub choice => ¬hub.Late choice) .new schedule →
        ∀ front, front <+: schedule → (Schedule.run HubState.step .new front).Tidy) ∧
      ((Schedule.run HubState.step .new schedule).subscribing = [] →
        (∀ front, front <+: schedule → (Schedule.run HubState.step .new front).Tidy) →
        Schedule.Meets HubState.step (fun hub choice => ¬hub.Late choice) .new schedule) := by
  refine ⟨?_, fun early front before => ?_, HubState.meets_of_tidy⟩
  · exact @Schedule.run_preserves (HubState τ δ) _ HubState.step
      (fun hub => ∀ thread, (names hub.subs thread).Nodup) .new (fun _ => List.nodup_nil)
      (fun _ choice once => HubState.once_step once choice) schedule
  · obtain ⟨rest, rfl⟩ := before
    exact (HubState.clean_new.run (Schedule.meets_append.1 early).1).tidy

/-- A client registers, a subscribe call finds it, and its disconnect returns before the call
goes on. -/
def lateSchedule : List (HubChoice ℕ Unit) :=
  [.register 1 (), .subscribe 0 1, .disconnect 1, .purge 0, .insert 0]

theorem late_subscription_stays : ¬(Schedule.run HubState.step .new lateSchedule).Tidy := by
  intro tidy
  exact tidy.gone 1 (by decide) (by decide) 0 (by decide)

end Giskard.Hub
