import Mathlib
import Giskard.Foundation.Schedule
import Giskard.Model.ProjectDriver
import Giskard.Analysis.DriverOwners

/-!
# Links that the project driver holds on to

A link that no caller waits for is the only record of a relationship. The driver has it in flight,
or in the deferred queue, or it has settled it. In the queue a newer link for the same native id
takes its place, and then stands for it. While a link is in flight nothing is put into the queue,
and so a link never takes the place of a newer one.

SOURCE: crates/giskard-server/src/registry/driver.rs.
-/

set_option autoImplicit false

namespace Giskard

open Foundation

/-! ## The queue -/

/-- The native id of an entry of the queue. -/
def DeferredAdmission.native (entry : DeferredAdmission) : String := entry.admission.nativeThreadId

/-- The native id of a link. -/
def DriverLink.native (link : DriverLink) : String := link.link.info.nativeThreadId

namespace ProjectEventDriver

section Queue

variable {admission : DriverAdmission} {attempts : ℕ} {entries : List DeferredAdmission}

theorem native_newerAdmission {existing : DriverAdmission}
    (same : existing.nativeThreadId = admission.nativeThreadId) :
    (newerAdmission existing admission).nativeThreadId = existing.nativeThreadId := by
  cases existing <;> cases admission <;> first | rfl | exact same.symm

theorem natives_queueEntries :
    (queueEntries admission attempts entries).map DeferredAdmission.native =
      if admission.nativeThreadId ∈ entries.map DeferredAdmission.native then
        entries.map DeferredAdmission.native
      else entries.map DeferredAdmission.native ++ [admission.nativeThreadId] := by
  induction entries with
  | nil => rfl
  | cons entry rest ih =>
    unfold queueEntries
    by_cases here : entry.admission.nativeThreadId = admission.nativeThreadId
    · have first : DeferredAdmission.native
          ⟨newerAdmission entry.admission admission, max entry.attempts attempts⟩ =
          entry.native := native_newerAdmission here
      have present : admission.nativeThreadId ∈
          (entry :: rest).map DeferredAdmission.native := by
        rw [List.map_cons, ← here]
        exact List.mem_cons_self ..
      rw [if_pos here, if_pos present, List.map_cons, List.map_cons, first]
    · have there : ¬ admission.nativeThreadId = entry.native := fun same => here same.symm
      rw [if_neg here, List.map_cons, ih, List.map_cons]
      by_cases present : admission.nativeThreadId ∈ rest.map DeferredAdmission.native
      · rw [if_pos present, if_pos (List.mem_cons_of_mem _ present)]
      · have absent : admission.nativeThreadId ∉
            entry.native :: rest.map DeferredAdmission.native := by
          rw [List.mem_cons, not_or]
          exact ⟨there, present⟩
        rw [if_neg present, if_neg absent, List.cons_append]

theorem nodup_queueEntries (distinct : (entries.map DeferredAdmission.native).Nodup) :
    ((queueEntries admission attempts entries).map DeferredAdmission.native).Nodup := by
  rw [natives_queueEntries]
  split
  · exact distinct
  · next absent =>
    rw [List.nodup_append]
    refine ⟨distinct, List.nodup_singleton _, ?_⟩
    rintro native member other same rfl
    exact absent (List.mem_singleton.1 same ▸ member)

/-- What is in the queue after an admission was queued: the others as they were, and for its native
id the admission, or a link that a discovery does not replace. -/
theorem mem_queueEntries (distinct : (entries.map DeferredAdmission.native).Nodup)
    {entry : DeferredAdmission} (member : entry ∈ queueEntries admission attempts entries) :
    (entry ∈ entries ∧ entry.native ≠ admission.nativeThreadId) ∨ entry.admission = admission ∨
    ∃ link record old, entry.admission = .link link ∧ admission = .discovered record ∧
      old ∈ entries ∧ old.admission = .link link := by
  induction entries with
  | nil =>
    rw [List.mem_singleton.1 member]
    exact .inr (.inl rfl)
  | cons first rest ih =>
    rw [List.map_cons, List.nodup_cons] at distinct
    unfold queueEntries at member
    by_cases here : first.admission.nativeThreadId = admission.nativeThreadId
    · rw [if_pos here] at member
      rcases List.mem_cons.1 member with rfl | member
      · dsimp only
        cases old : first.admission with
        | discovered record => exact .inr (.inl rfl)
        | link link =>
          cases admission with
          | link other => exact .inr (.inl rfl)
          | discovered record =>
            exact .inr (.inr ⟨link, record, first, rfl, rfl, List.mem_cons_self .., old⟩)
      · refine .inl ⟨List.mem_cons_of_mem _ member, fun same => distinct.1 ?_⟩
        have native : first.native = entry.native := here.trans same.symm
        rw [native]
        exact List.mem_map_of_mem member
    · rw [if_neg here] at member
      rcases List.mem_cons.1 member with rfl | member
      · exact .inl ⟨List.mem_cons_self .., here⟩
      · rcases ih distinct.2 member with ⟨old, other⟩ | same | ⟨link, record, old, queued, new, found, is⟩
        · exact .inl ⟨List.mem_cons_of_mem _ old, other⟩
        · exact .inr (.inl same)
        · exact .inr (.inr ⟨link, record, old, queued, new, List.mem_cons_of_mem _ found, is⟩)

theorem mem_queueEntries_of_ne {entry : DeferredAdmission} (member : entry ∈ entries)
    (other : entry.native ≠ admission.nativeThreadId) :
    entry ∈ queueEntries admission attempts entries := by
  induction entries with
  | nil => cases member
  | cons first rest ih =>
    unfold queueEntries
    by_cases here : first.admission.nativeThreadId = admission.nativeThreadId
    · rw [if_pos here]
      rcases List.mem_cons.1 member with rfl | member
      · exact absurd here other
      · exact List.mem_cons_of_mem _ member
    · rw [if_neg here]
      rcases List.mem_cons.1 member with rfl | member
      · exact List.mem_cons_self ..
      · exact List.mem_cons_of_mem _ (ih member)

theorem link_mem_queueEntries (link : DriverLink) :
    ∃ queued, ⟨.link link, queued⟩ ∈ queueEntries (.link link) attempts entries := by
  induction entries with
  | nil => exact ⟨attempts, List.mem_cons_self ..⟩
  | cons first rest ih =>
    unfold queueEntries
    split
    · refine ⟨max first.attempts attempts, ?_⟩
      cases first.admission <;> exact List.mem_cons_self ..
    · obtain ⟨queued, member⟩ := ih
      exact ⟨queued, List.mem_cons_of_mem _ member⟩

theorem link_mem_queueEntries_discovered {link : DriverLink} {record : ThreadDiscovered}
    {queued : ℕ} (member : ⟨.link link, queued⟩ ∈ entries) :
    ∃ queued, ⟨.link link, queued⟩ ∈ queueEntries (.discovered record) attempts entries := by
  induction entries with
  | nil => cases member
  | cons first rest ih =>
    unfold queueEntries
    rcases List.mem_cons.1 member with rfl | member
    · split
      · exact ⟨_, List.mem_cons_self ..⟩
      · exact ⟨queued, List.mem_cons_self ..⟩
    · split
      · exact ⟨queued, List.mem_cons_of_mem _ member⟩
      · obtain ⟨queued, member⟩ := ih member
        exact ⟨queued, List.mem_cons_of_mem _ member⟩

end Queue

/-! ## Links -/

/-- A link is the admission in flight. -/
def InFlight (driver : ProjectEventDriver) (link : DriverLink) : Prop :=
  ∃ attempts, driver.admission = some (.link link, attempts)

/-- A link is in the deferred queue. -/
def Deferred (driver : ProjectEventDriver) (link : DriverLink) : Prop :=
  ∃ attempts, ⟨.link link, attempts⟩ ∈ driver.deferred

/-- The admission of a link returned without an error. -/
def AdmittedOk (driver : ProjectEventDriver) (link : DriverLink) : Prop :=
  ∃ attempts thread, .linkFinished link attempts (.ok thread) ∈ driver.observed

/-- The file of a link's parent was absent when it was examined. -/
def ParentAbsent (driver : ProjectEventDriver) (link : DriverLink) : Prop :=
  .linkDropped link ∈ driver.observed

/-- A link is in flight, in the queue, or settled. -/
def Holds (driver : ProjectEventDriver) (link : DriverLink) : Prop :=
  driver.InFlight link ∨ driver.Deferred link ∨ driver.AdmittedOk link ∨ driver.ParentAbsent link

/-- What holds of the links, while one of them may be worked on. -/
structure LinksKept (driver : ProjectEventDriver) (hand : Option DriverLink) : Prop where
  distinct : (driver.deferred.map DeferredAdmission.native).Nodup
  unwaited : ∀ link, driver.Deferred link → link.waited = false
  brought : ∀ link, hand = some link ∨ driver.InFlight link ∨ driver.Deferred link →
    driver.handled[link.serial]? = some (.link link.link link.waited)
  newest : ∀ link older, hand = some link ∨ driver.InFlight link → driver.Deferred older →
    older.native = link.native → older.serial ≤ link.serial
  kept : ∀ serial link, driver.handled[serial]? = some (.link link false) →
    ∃ newer : DriverLink, serial ≤ newer.serial ∧ newer.waited = false ∧
      newer.native = link.info.nativeThreadId ∧ (hand = some newer ∨ driver.Holds newer)

section Links

variable {crates : Crates} {driver next : ProjectEventDriver} {hand : Option DriverLink}
  {link : DriverLink}

theorem Holds.congr {other : DriverLink} (holds : driver.Holds other)
    (admission : next.admission = driver.admission) (deferred : next.deferred = driver.deferred)
    (observed : driver.observed ⊆ next.observed) : next.Holds other := by
  unfold Holds InFlight Deferred at holds ⊢
  rw [admission, deferred]
  rcases holds with flight | queued | ⟨attempts, thread, event⟩ | event
  · exact .inl flight
  · exact .inr (.inl queued)
  · exact .inr (.inr (.inl ⟨attempts, thread, observed event⟩))
  · exact .inr (.inr (.inr (observed event)))

/-- What is worked on was worked on, and what is queued was queued, but nothing is lost. -/
theorem LinksKept.moves {hand' : Option DriverLink} (kept : LinksKept driver hand)
    (distinct : (next.deferred.map DeferredAdmission.native).Nodup)
    (handled : next.handled = driver.handled)
    (works : ∀ link, hand' = some link ∨ next.InFlight link →
      hand = some link ∨ driver.InFlight link)
    (queued : ∀ link, next.Deferred link → driver.Deferred link)
    (stays : ∀ link, hand = some link ∨ driver.Holds link → hand' = some link ∨ next.Holds link) :
    LinksKept next hand' where
  distinct := distinct
  unwaited link there := kept.unwaited link (queued link there)
  brought link there := by
    rw [handled]
    refine kept.brought link (or_assoc.1 ?_)
    exact (or_assoc.2 there).imp (works link) (queued link)
  newest link older there old := kept.newest link older (works link there) (queued older old)
  kept serial link there := by
    rw [handled] at there
    obtain ⟨newer, late, unwaited, native, holds⟩ := kept.kept serial link there
    exact ⟨newer, late, unwaited, native, stays newer holds⟩

/-- Only the fields that the links rest on matter. -/
theorem LinksKept.congr (kept : LinksKept driver hand)
    (admission : next.admission = driver.admission) (deferred : next.deferred = driver.deferred)
    (observed : driver.observed ⊆ next.observed) (handled : next.handled = driver.handled) :
    LinksKept next hand := by
  refine kept.moves (by rw [deferred]; exact kept.distinct) handled ?_ ?_ ?_
  · intro other
    rw [InFlight, admission]
    exact id
  · intro other
    rw [Deferred, deferred]
    exact id
  · exact fun other => Or.imp id fun holds => holds.congr admission deferred observed

theorem LinksKept.letGo (kept : LinksKept driver (some link))
    (settled : link.waited = true ∨ driver.Holds link) : LinksKept driver none where
  distinct := kept.distinct
  unwaited := kept.unwaited
  brought := by
    rintro other (there | there)
    · cases there
    · exact kept.brought other (.inr there)
  newest := by
    rintro other older (there | there)
    · cases there
    · exact kept.newest other older (.inr there)
  kept := by
    intro serial other there
    obtain ⟨newer, late, unwaited, native, holds⟩ := kept.kept serial other there
    refine ⟨newer, late, unwaited, native, ?_⟩
    rcases holds with same | holds
    · cases same
      rcases settled with waited | holds
      · rw [waited] at unwaited
        cases unwaited
      · exact .inr holds
    · exact .inr holds

/-- The link that is worked on is put into the queue. -/
theorem LinksKept.queueLink (kept : LinksKept driver (some link)) (idle : driver.admission = none)
    (unwaited : link.waited = false) (attempts : ℕ) : LinksKept (driver.queueDeferred (.link link) attempts) none := by
  have queued (other : DriverLink) (there : (driver.queueDeferred (.link link) attempts).Deferred
      other) : other = link ∨ driver.Deferred other ∧ other.native ≠ link.native := by
    obtain ⟨tries, member⟩ := there
    rcases mem_queueEntries kept.distinct member with ⟨old, different⟩ | same |
      ⟨-, record, -, -, discovered, -⟩
    · exact .inr ⟨⟨tries, old⟩, different⟩
    · cases same
      exact .inl rfl
    · cases discovered
  refine ⟨nodup_queueEntries kept.distinct, ?_, ?_, ?_, ?_⟩
  · intro other there
    rcases queued other there with rfl | ⟨old, -⟩
    · exact unwaited
    · exact kept.unwaited other old
  · rintro other (there | there | there)
    · cases there
    · exact kept.brought other (.inr (.inl there))
    · rcases queued other there with rfl | ⟨old, -⟩
      · exact kept.brought other (.inl rfl)
      · exact kept.brought other (.inr (.inr old))
  · rintro other older (there | ⟨tries, there⟩)
    · cases there
    · change driver.admission = _ at there
      rw [idle] at there
      cases there
  · intro serial other there
    obtain ⟨newer, late, unwaited', native, holds⟩ := kept.kept serial other there
    have now : (driver.queueDeferred (.link link) attempts).Deferred link :=
      link_mem_queueEntries link
    rcases holds with same | flight | ⟨tries, old⟩ | ok | absent
    · cases same
      exact ⟨link, late, unwaited', native, .inr (.inr (.inl now))⟩
    · exact ⟨newer, late, unwaited', native, .inr (.inl flight)⟩
    · by_cases same : newer.native = link.native
      · have older := kept.newest link newer (.inl rfl) ⟨tries, old⟩ same
        exact ⟨link, late.trans older, unwaited, same.symm.trans native, .inr (.inr (.inl now))⟩
      · exact ⟨newer, late, unwaited', native,
          .inr (.inr (.inl ⟨tries, mem_queueEntries_of_ne old same⟩))⟩
    · exact ⟨newer, late, unwaited', native, .inr (.inr (.inr (.inl ok)))⟩
    · exact ⟨newer, late, unwaited', native, .inr (.inr (.inr (.inr absent)))⟩

/-- A discovery is put into the queue. -/
theorem LinksKept.queueDiscovered (kept : LinksKept driver none) (record : ThreadDiscovered)
    (attempts : ℕ) : LinksKept (driver.queueDeferred (.discovered record) attempts) none := by
  have queued (other : DriverLink)
      (there : (driver.queueDeferred (.discovered record) attempts).Deferred other) :
      driver.Deferred other := by
    obtain ⟨tries, member⟩ := there
    rcases mem_queueEntries kept.distinct member with ⟨old, -⟩ | same |
      ⟨link, -, old, same, -, member, is⟩
    · exact ⟨tries, old⟩
    · cases same
    · cases same
      exact ⟨old.attempts, by rw [← is]; exact member⟩
  refine kept.moves (nodup_queueEntries kept.distinct) rfl (fun _ => id) queued ?_
  rintro other (same | flight | ⟨tries, old⟩ | other)
  · cases same
  · exact .inr (.inl flight)
  · exact .inr (.inr (.inl (link_mem_queueEntries_discovered old)))
  · exact .inr (.inr (.inr other))

/-- A link is taken from the head of the queue. -/
theorem LinksKept.popLink (kept : LinksKept driver none) {attempts : ℕ}
    {rest : List DeferredAdmission} (idle : driver.admission = none)
    (queue : driver.deferred = ⟨.link link, attempts⟩ :: rest) :
    LinksKept { driver with deferred := rest } (some link) ∧ link.waited = false := by
  have queued (other : DriverLink)
      (there : ({ driver with deferred := rest } : ProjectEventDriver).Deferred other) :
      driver.Deferred other := by
    obtain ⟨tries, member⟩ := there
    exact ⟨tries, by rw [queue]; exact List.mem_cons_of_mem _ member⟩
  have head : driver.Deferred link := ⟨attempts, by rw [queue]; exact List.mem_cons_self ..⟩
  have distinct := kept.distinct
  rw [queue, List.map_cons, List.nodup_cons] at distinct
  refine ⟨⟨distinct.2, ?_, ?_, ?_, ?_⟩, kept.unwaited link head⟩
  · exact fun other there => kept.unwaited other (queued other there)
  · rintro other (there | there | there)
    · cases there
      exact kept.brought link (.inr (.inr head))
    · exact kept.brought other (.inr (.inl there))
    · exact kept.brought other (.inr (.inr (queued other there)))
  · rintro other older (there | ⟨tries, there⟩) ⟨tries', old⟩ native
    · cases there
      refine absurd ?_ distinct.1
      have same : DeferredAdmission.native ⟨.link link, attempts⟩ =
          DeferredAdmission.native ⟨.link older, tries'⟩ := native.symm
      rw [same]
      exact List.mem_map_of_mem old
    · change driver.admission = _ at there
      rw [idle] at there
      cases there
  · intro serial other there
    obtain ⟨newer, late, unwaited, native, holds⟩ := kept.kept serial other there
    refine ⟨newer, late, unwaited, native, ?_⟩
    rcases holds with same | flight | ⟨tries, old⟩ | ok | absent
    · cases same
    · exact .inr (.inl flight)
    · rw [queue] at old
      rcases List.mem_cons.1 old with same | old
      · cases same
        exact .inl rfl
      · exact .inr (.inr (.inl ⟨tries, old⟩))
    · exact .inr (.inr (.inr (.inl ok)))
    · exact .inr (.inr (.inr (.inr absent)))

/-- A discovery is taken from the head of the queue. -/
theorem LinksKept.popDiscovered (kept : LinksKept driver none) {record : ThreadDiscovered}
    {attempts : ℕ} {rest : List DeferredAdmission}
    (queue : driver.deferred = ⟨.discovered record, attempts⟩ :: rest) :
    LinksKept { driver with deferred := rest } none := by
  have queued (other : DriverLink) :
      ({ driver with deferred := rest } : ProjectEventDriver).Deferred other ↔
        driver.Deferred other := by
    unfold Deferred
    rw [queue]
    simp
  have distinct := kept.distinct
  rw [queue, List.map_cons, List.nodup_cons] at distinct
  refine kept.moves distinct.2 rfl (fun _ => id) (fun other => (queued other).1) ?_
  exact fun other => Or.imp id (Or.imp id (Or.imp (queued other).2 id))

theorem LinksKept.launch (kept : LinksKept driver (some link)) (idle : driver.admission = none)
    (attempts : ℕ) : LinksKept { driver with admission := some (.link link, attempts) } none := by
  refine kept.moves kept.distinct rfl ?_ (fun _ => id) ?_
  · rintro other (there | ⟨tries, there⟩)
    · cases there
    · cases there
      exact .inl rfl
  · rintro other (same | ⟨tries, flight⟩ | rest)
    · cases same
      exact .inr (.inl ⟨attempts, rfl⟩)
    · rw [idle] at flight
      cases flight
    · exact .inr (.inr rest)

theorem LinksKept.launchDiscovered (kept : LinksKept driver none) (idle : driver.admission = none)
    (record : ThreadDiscovered) (attempts : ℕ) :
    LinksKept { driver with admission := some (.discovered record, attempts) } none := by
  refine kept.moves kept.distinct rfl ?_ (fun _ => id) ?_
  · rintro other (there | ⟨tries, there⟩) <;> cases there
  · rintro other (same | ⟨tries, flight⟩ | rest)
    · cases same
    · rw [idle] at flight
      cases flight
    · exact .inr (.inr rest)

/-- The admission in flight has returned, and what it was about is worked on. -/
theorem LinksKept.land (kept : LinksKept driver none) {source : DriverAdmission} {attempts : ℕ}
    (flying : driver.admission = some (source, attempts)) :
    LinksKept { driver with admission := none }
      (match source with | .link link => some link | .discovered _ => none) := by
  refine kept.moves kept.distinct rfl ?_ (fun _ => id) ?_
  · rintro other (there | ⟨tries, there⟩)
    · cases source with
      | discovered record => cases there
      | link link =>
        cases there
        exact .inr ⟨attempts, flying⟩
    · cases there
  · rintro other (same | ⟨tries, flight⟩ | rest)
    · cases same
    · rw [flying] at flight
      cases flight
      exact .inl rfl
    · exact .inr (.inr rest)

/-- A command is taken; a link is then the one that is worked on. -/
theorem LinksKept.handle (kept : LinksKept driver none) (idle : driver.admission = none)
    (command : DriverCommand) :
    LinksKept { driver with handled := driver.handled ++ [command] }
      (match command with
        | .link link waited => some ⟨link, driver.handled.length, waited⟩
        | _ => none) := by
  have old {serial : ℕ} {other : DriverCommand} (there : driver.handled[serial]? = some other) :
      (driver.handled ++ [command])[serial]? = some other := by
    rw [List.getElem?_append_left (List.getElem?_eq_some_iff.1 there).1, there]
  refine ⟨kept.distinct, kept.unwaited, ?_, ?_, ?_⟩
  · rintro other (there | there | there)
    · cases command with
      | link link waited =>
        cases there
        dsimp only
        rw [List.getElem?_concat_length]
      | _ => cases there
    · exact old (kept.brought other (.inr (.inl there)))
    · exact old (kept.brought other (.inr (.inr there)))
  · rintro other older (there | ⟨tries, there⟩) queued native
    · have before := (List.getElem?_eq_some_iff.1 (kept.brought older (.inr (.inr queued)))).1
      cases command with
      | link link waited =>
        cases there
        exact Nat.le_of_lt before
      | _ => cases there
    · change driver.admission = _ at there
      rw [idle] at there
      cases there
  · intro serial other there
    dsimp only at there
    by_cases before : serial < driver.handled.length
    · rw [List.getElem?_append_left before] at there
      obtain ⟨newer, late, unwaited, native, holds⟩ := kept.kept serial other there
      refine ⟨newer, late, unwaited, native, .inr ?_⟩
      rcases holds with same | holds
      · cases same
      · exact holds
    · have inside := (List.getElem?_eq_some_iff.1 there).1
      rw [List.length_append, List.length_singleton] at inside
      have here : serial = driver.handled.length := by omega
      rw [here, List.getElem?_concat_length, Option.some_inj] at there
      subst there
      exact ⟨⟨other, driver.handled.length, false⟩, Nat.le_of_eq here, rfl, rfl, .inl rfl⟩

/-- Nothing that the owners and their commands rest on is changed. -/
structure SameOwners (driver next : ProjectEventDriver) : Prop where
  owners : next.owners = driver.owners
  slots : next.slots = driver.slots
  coordinators : next.coordinators = driver.coordinators
  parked : next.parked = driver.parked
  replies : next.replies = driver.replies
  handled : next.handled = driver.handled
  quiesced : next.quiesced = driver.quiesced
  harnessAlive : next.harnessAlive = driver.harnessAlive

theorem SameOwners.refl (driver : ProjectEventDriver) : SameOwners driver driver :=
  ⟨rfl, rfl, rfl, rfl, rfl, rfl, rfl, rfl⟩

theorem SameOwners.trans {last : ProjectEventDriver} (left : SameOwners driver next)
    (right : SameOwners next last) : SameOwners driver last :=
  ⟨right.owners.trans left.owners, right.slots.trans left.slots,
    right.coordinators.trans left.coordinators, right.parked.trans left.parked,
    right.replies.trans left.replies, right.handled.trans left.handled,
    right.quiesced.trans left.quiesced, right.harnessAlive.trans left.harnessAlive⟩

theorem SameOwners.attended {working : List ℕ} (same : SameOwners driver next)
    (attended : Attended driver working) : Attended next working :=
  attended.congr same.slots same.coordinators same.owners same.parked same.replies same.handled

/-- Every discovery in the queue was there before. -/
def NoNewDiscovery (driver next : ProjectEventDriver) : Prop :=
  ∀ entry ∈ next.deferred, ∀ record, entry.admission = .discovered record →
    entry ∈ driver.deferred

theorem queueLink_noNewDiscovery (kept : LinksKept driver hand) (attempts : ℕ) :
    NoNewDiscovery driver (driver.queueDeferred (.link link) attempts) := by
  intro entry member record discovered
  rcases mem_queueEntries kept.distinct member with ⟨old, -⟩ | same |
    ⟨_, _, _, _, other, _⟩
  · exact old
  · rw [discovered] at same
    cases same
  · cases other

theorem observed_subset (events : List DriverEvent) :
    driver.observed ⊆ driver.observed ++ events := List.subset_append_left _ _

section BeginLink

variable {parentFile : ThreadId → ParentFile} {attempts : ℕ}

theorem deferLink_kept (kept : LinksKept driver (some link)) (idle : driver.admission = none)
    (unwaited : link.waited = false) (reason : DeferReason) :
    LinksKept (driver.deferLink link attempts reason) none :=
  (kept.queueLink idle unwaited attempts).congr rfl rfl (observed_subset _) rfl

theorem beginLink_kept (kept : LinksKept driver (some link)) (idle : driver.admission = none)
    (alive : driver.harnessAlive = true) :
    LinksKept (driver.beginLink parentFile link attempts) none := by
  unfold beginLink
  split
  · split
    · next waited =>
      exact (kept.letGo (.inl waited)).congr rfl rfl (observed_subset _) rfl
    · next unwaited => exact deferLink_kept kept idle (by simpa using unwaited) _
  · split
    · split
      · next waited =>
        exact (kept.letGo (.inl waited)).congr rfl rfl (observed_subset _) rfl
      · next unwaited =>
        cases parentFile link.link.parentThreadId with
        | present => exact deferLink_kept kept idle (by simpa using unwaited) _
        | absent =>
          have dropped : LinksKept (driver.observe (.linkDropped link)) (some link) :=
            kept.congr rfl rfl (observed_subset _) rfl
          refine dropped.letGo (.inr (.inr (.inr (.inr ?_))))
          exact List.mem_append_right _ (List.mem_singleton_self _)
        | unreadable error => exact deferLink_kept kept idle (by simpa using unwaited) _
    · rw [if_neg (by simp [alive])]
      exact kept.launch idle attempts

theorem beginLink_sameOwners (unwaited : link.waited = false) :
    SameOwners driver (driver.beginLink parentFile link attempts) := by
  unfold beginLink
  rw [unwaited]
  split
  · exact ⟨rfl, rfl, rfl, rfl, rfl, rfl, rfl, rfl⟩
  · split
    · cases parentFile link.link.parentThreadId <;> exact ⟨rfl, rfl, rfl, rfl, rfl, rfl, rfl, rfl⟩
    · split <;> exact ⟨rfl, rfl, rfl, rfl, rfl, rfl, rfl, rfl⟩

theorem beginLink_noNewDiscovery (kept : LinksKept driver hand) :
    NoNewDiscovery driver (driver.beginLink parentFile link attempts) := by
  have same : NoNewDiscovery driver driver := fun entry member _ _ => member
  unfold beginLink
  split
  · split
    · exact same
    · exact queueLink_noNewDiscovery kept attempts
  · split
    · split
      · exact same
      · cases parentFile link.link.parentThreadId with
        | present => exact queueLink_noNewDiscovery kept attempts
        | absent => exact same
        | unreadable error => exact queueLink_noNewDiscovery kept attempts
    · split
      · split <;> exact same
      · exact same

theorem beginLink_attended {working : List ℕ} (attended : Attended driver working)
    (there : driver.handled[link.serial]? = some (.link link.link link.waited)) :
    Attended (driver.beginLink parentFile link attempts) working := by
  have answered (reply : DriverReply) : Attended (driver.send link.serial reply) working :=
    attended.answerOther there (by simp) (by simp) reply
  by_cases waited : link.waited = true
  · unfold beginLink
    rw [waited]
    split
    · exact (answered _).congr rfl rfl rfl rfl rfl rfl
    · split
      · exact (answered _).congr rfl rfl rfl rfl rfl rfl
      · split
        · exact answered _
        · exact attended.congr rfl rfl rfl rfl rfl rfl
  · exact (beginLink_sameOwners (by simpa using waited)).attended attended

end BeginLink

section StartDeferred

variable {parentFile : ℕ → ThreadId → ParentFile}

/-- The wake of the deferred queue: what holds of the links is kept, and nothing else is changed. -/
theorem startDeferredFrom_kept (budget : ℕ) (kept : LinksKept driver none)
    (alive : driver.harnessAlive = true) :
    LinksKept (startDeferredFrom parentFile budget driver) none ∧
      SameOwners driver (startDeferredFrom parentFile budget driver) ∧
      NoNewDiscovery driver (startDeferredFrom parentFile budget driver) := by
  have same : NoNewDiscovery driver driver := fun entry member _ _ => member
  induction budget generalizing driver with
  | zero => exact ⟨kept, .refl driver, same⟩
  | succ budget ih =>
    unfold startDeferredFrom
    split
    · exact ⟨kept, .refl driver, same⟩
    · next free =>
      simp only [Bool.or_eq_true, not_or, Bool.not_eq_true, Option.isSome_eq_false_iff,
        Option.isNone_iff_eq_none] at free
      match queue : driver.deferred with
      | [] => exact ⟨kept, .refl driver, same⟩
      | ⟨.discovered record, attempts⟩ :: rest =>
        dsimp only
        have popped := kept.popDiscovered queue
        have begun : ({ driver with deferred := rest } : ProjectEventDriver).beginDiscovery record
            attempts = { driver with
              deferred := rest, admission := some (.discovered record, attempts) } := by
          unfold beginDiscovery
          rw [if_pos alive]
        rw [begun]
        obtain ⟨kept', owners, fresh⟩ := ih (popped.launchDiscovered free.2 record attempts) alive
          (fun entry member _ _ => member)
        have start : SameOwners driver { driver with
            deferred := rest, admission := some (.discovered record, attempts) } :=
          ⟨rfl, rfl, rfl, rfl, rfl, rfl, rfl, rfl⟩
        refine ⟨kept', start.trans owners, fun entry member record' discovered => ?_⟩
        rw [queue]
        exact List.mem_cons_of_mem _ (fresh entry member record' discovered)
      | ⟨.link link, attempts⟩ :: rest =>
        dsimp only
        obtain ⟨popped, unwaited⟩ := kept.popLink free.2 queue
        have frame := @beginLink_sameOwners { driver with deferred := rest } link
          (parentFile budget) attempts unwaited
        obtain ⟨kept', owners, fresh⟩ := ih
          (@beginLink_kept { driver with deferred := rest } link (parentFile budget) attempts
            popped free.2 alive)
          (frame.harnessAlive.trans alive) (fun entry member _ _ => member)
        have start : SameOwners driver { driver with deferred := rest } :=
          ⟨rfl, rfl, rfl, rfl, rfl, rfl, rfl, rfl⟩
        refine ⟨kept', (start.trans frame).trans owners, fun entry member record' discovered => ?_⟩
        rw [queue]
        exact List.mem_cons_of_mem _ (@beginLink_noNewDiscovery { driver with deferred := rest }
          (some link) link (parentFile budget) attempts popped entry
          (fresh entry member record' discovered) record' discovered)

theorem startDeferred_kept (kept : LinksKept driver none) (alive : driver.harnessAlive = true) :
    LinksKept (driver.startDeferred parentFile) none ∧
      SameOwners driver (driver.startDeferred parentFile) ∧
      NoNewDiscovery driver (driver.startDeferred parentFile) :=
  startDeferredFrom_kept _ kept alive

end StartDeferred

end Links

end ProjectEventDriver

end Giskard
