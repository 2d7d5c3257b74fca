import Mathlib
import Giskard.Foundation.Schedule
import Giskard.Model.ProjectDriver
import Giskard.Analysis.DriverOwners
import Giskard.Analysis.DriverLinks

/-!
# Runs of the project driver

What holds of the owners, of the commands that wait and of the links is kept by every turn of the
driver's loop, and so by every run in which the harness does not go away.

SOURCE: crates/giskard-server/src/registry/driver.rs, thread.rs.
-/

set_option autoImplicit false

namespace Giskard

open Foundation

namespace ProjectEventDriver

/-! ## Turns of the loop -/

/-- What holds between two turns of the loop. -/
structure Sound (driver : ProjectEventDriver) : Prop where
  attended : Attended driver []
  kept : LinksKept driver none
  alive : driver.harnessAlive = true

/-- A link in the queue is not replaced by a discovery. -/
def LinksStay (driver next : ProjectEventDriver) : Prop :=
  ∀ old ∈ driver.deferred, ∀ link, old.admission = .link link →
    ∀ new ∈ next.deferred, new.native = old.native → ∃ newer, new.admission = .link newer

/-- An owner of a thread runs and is detaching. -/
def DetachingOwner (driver : ProjectEventDriver) (thread : ThreadId) : Prop :=
  ∃ owner ∈ driver.owners, owner.thread = thread ∧
    ∃ coordinator, driver.coordinators[owner.coordinator]? = some coordinator ∧
      coordinator.isDetaching = true

section Turns

variable {crates : Crates} {driver next : ProjectEventDriver} {working : List ℕ}
  {parentFile : ℕ → ThreadId → ParentFile}

theorem eq_of_native (distinct : (driver.deferred.map DeferredAdmission.native).Nodup)
    {first second : DeferredAdmission} (left : first ∈ driver.deferred)
    (right : second ∈ driver.deferred) (same : first.native = second.native) : first = second :=
  List.inj_on_of_nodup_map distinct left right same

theorem NoNewDiscovery.linksStay (fresh : NoNewDiscovery driver next)
    (kept : LinksKept driver none) : LinksStay driver next := by
  intro old member link is new member' native
  cases admission : new.admission with
  | link newer => exact ⟨newer, rfl⟩
  | discovered record =>
    have before := fresh new member' record admission
    rw [eq_of_native kept.distinct before member native, is] at admission
    cases admission

theorem queueDiscovered_linksStay (kept : LinksKept driver none) (record : ThreadDiscovered)
    (attempts : ℕ) : LinksStay driver (driver.queueDeferred (.discovered record) attempts) := by
  intro old member link is new member' native
  obtain ⟨admission, tries⟩ := old
  dsimp only at is
  subst is
  obtain ⟨queued, there⟩ := @link_mem_queueEntries_discovered attempts _ link record tries member
  have after := @nodup_queueEntries (.discovered record) attempts _ kept.distinct
  have same : new = ⟨.link link, queued⟩ :=
    List.inj_on_of_nodup_map after member' there native
  exact ⟨link, by rw [same]⟩

theorem attach_links {hand : Option DriverLink} (attach : Attach) (kept : LinksKept driver hand) :
    LinksKept (driver.attach crates attach).1 hand := by
  have effect := @attach_effect crates driver attach
  generalize driver.attach crates attach = outcome at effect ⊢
  obtain ⟨next, result⟩ := outcome
  cases effect with
  | answered result events authorities => exact kept.congr rfl rfl (observed_subset _) rfl
  | parked existing authorities there detaching => exact kept.congr rfl rfl (fun _ h => h) rfl
  | installed authorities free => exact kept.congr rfl rfl (fun _ h => h) rfl

theorem attach_frame (attach : Attach) :
    (driver.attach crates attach).1.harnessAlive = driver.harnessAlive ∧
      (driver.attach crates attach).1.admission = driver.admission ∧
      (driver.attach crates attach).1.deferred = driver.deferred := by
  have effect := @attach_effect crates driver attach
  generalize driver.attach crates attach = outcome at effect ⊢
  obtain ⟨next, result⟩ := outcome
  cases effect <;> exact ⟨rfl, rfl, rfl⟩

theorem attach_coordinator (attended : Attended driver working) (attach : Attach)
    (thread : ThreadId) :
    (driver.attach crates attach).1.coordinator thread = driver.coordinator thread ∨
      ∃ binding classification, (driver.attach crates attach).1.coordinator thread =
        some ⟨binding, classification, .live⟩ := by
  have effect := @attach_effect crates driver attach
  generalize driver.attach crates attach = outcome at effect ⊢
  obtain ⟨next, result⟩ := outcome
  cases effect with
  | answered result events authorities => exact .inl rfl
  | parked existing authorities there detaching => exact .inl rfl
  | installed authorities free =>
    have view := @coordinator_installOwner driver attach working attended thread
    change (driver.installOwner attach).coordinator thread = _ ∨ ∃ binding classification,
      (driver.installOwner attach).coordinator thread = _
    rw [view]
    split
    · exact .inr ⟨_, _, rfl⟩
    · exact .inl rfl

theorem Sound.startDeferred (sound : Sound driver) :
    Sound (driver.startDeferred parentFile) ∧
      NoNewDiscovery driver (driver.startDeferred parentFile) := by
  obtain ⟨kept, same, fresh⟩ := @startDeferred_kept driver parentFile sound.kept sound.alive
  exact ⟨⟨same.attended sound.attended, kept, same.harnessAlive.trans sound.alive⟩, fresh⟩

/-- A command that is taken, and whether it is then worked on. -/
theorem Attended.handle (attended : Attended driver []) (command : DriverCommand) :
    Attended { driver with handled := driver.handled ++ [command] }
      (match command with
        | .attach _ _ => [driver.handled.length]
        | .detach _ => [driver.handled.length]
        | _ => []) := by
  have old {serial : ℕ} {other : DriverCommand} (there : driver.handled[serial]? = some other) :
      (driver.handled ++ [command])[serial]? = some other := by
    rw [List.getElem?_append_left (List.getElem?_eq_some_iff.1 there).1, there]
  have cases_index {serial : ℕ} {other : DriverCommand}
      (there : (driver.handled ++ [command])[serial]? = some other) :
      (serial < driver.handled.length ∧ driver.handled[serial]? = some other) ∨
        serial = driver.handled.length ∧ command = other := by
    by_cases before : serial < driver.handled.length
    · rw [List.getElem?_append_left before] at there
      exact .inl ⟨before, there⟩
    · have inside := (List.getElem?_eq_some_iff.1 there).1
      rw [List.length_append, List.length_singleton] at inside
      have here : serial = driver.handled.length := by omega
      rw [here, List.getElem?_concat_length, Option.some_inj] at there
      exact .inr ⟨here, there⟩
  have unanswered : driver.answers driver.handled.length = 0 := by
    unfold answers
    rw [List.count_eq_zero, List.mem_map]
    rintro ⟨reply, member, same⟩
    have before := attended.answered reply member
    omega
  have unparked : driver.parkedCommands.count driver.handled.length = 0 := by
    unfold parkedCommands
    rw [List.count_eq_zero, List.mem_filterMap]
    rintro ⟨attach, member, waits⟩
    obtain ⟨binding, classification, there, -⟩ := attended.parkedCommand attach member _ waits
    exact lt_irrefl _ (List.getElem?_eq_some_iff.1 there).1
  have unwaiting (thread : ThreadId) :
      (driver.waiters thread).count driver.handled.length = 0 := by
    rw [List.count_eq_zero]
    intro member
    exact lt_irrefl _ (List.getElem?_eq_some_iff.1 (attended.waiterCommand thread _ member)).1
  have apart {serial : ℕ} (before : serial < driver.handled.length) :
      (match command with
        | .attach _ _ => [driver.handled.length]
        | .detach _ => [driver.handled.length]
        | _ => []).count serial = 0 := by
    rw [List.count_eq_zero]
    cases command <;> simp <;> omega
  refine ⟨attended.installed, attended.running, attended.owned, attended.distinct,
    attended.parked, ?_, ?_, ?_, ?_, ?_⟩
  · intro attach member serial waits
    obtain ⟨binding, classification, there, thread⟩ :=
      attended.parkedCommand attach member serial waits
    exact ⟨binding, classification, old there, thread⟩
  · intro thread serial member
    exact old (attended.waiterCommand thread serial member)
  · intro reply member
    have before := attended.answered reply member
    dsimp only
    rw [List.length_append]
    omega
  · intro serial binding classification there
    change driver.answers serial + _ + driver.parkedCommands.count serial = 1
    rcases cases_index there with ⟨before, there⟩ | ⟨rfl, rfl⟩
    · have once := attended.attachOnce serial binding classification there
      rw [apart before]
      exact once
    · rw [unanswered, unparked]
      simp
  · intro serial thread there
    change driver.answers serial + _ + (driver.waiters thread).count serial = 1
    rcases cases_index there with ⟨before, there⟩ | ⟨rfl, rfl⟩
    · have once := attended.detachOnce serial thread there
      rw [apart before]
      exact once
    · rw [unanswered, unwaiting]
      simp

/-! ### Commands -/

theorem takeParked_of_none {thread : ThreadId} (fuel : ℕ) {parked : List Attach}
    (others : ∀ attach ∈ parked, attach.binding.handle.thread ≠ thread) :
    takeParked thread fuel parked = ([], parked) := by
  induction fuel generalizing parked with
  | zero => rfl
  | succ fuel ih =>
    cases parked with
    | nil => rfl
    | cons attach rest =>
      unfold takeParked
      rw [if_neg (others attach (List.mem_cons_self ..)),
        ih fun other member => others other (List.mem_cons_of_mem _ member)]

theorem retryParked_of_none {thread : ThreadId}
    (others : ∀ attach ∈ driver.parked, attach.binding.handle.thread ≠ thread) :
    driver.retryParked crates thread = driver := by
  unfold retryParked
  rw [takeParked_of_none _ others]
  rfl

/-- An attach that a command waits for. -/
theorem attachCommand_sound (attended : Attended driver []) (kept : LinksKept driver none)
    (idle : driver.admission = none) (alive : driver.harnessAlive = true)
    (binding : LoadedThreadBinding) (classification : ClassificationPhase) :
    Sound (driver.handleCommand crates parentFile (.attach binding classification)) ∧
      NoNewDiscovery driver
        (driver.handleCommand crates parentFile (.attach binding classification)) := by
  have attended' := attended.handle (.attach binding classification)
  have kept' := kept.handle idle (.attach binding classification)
  unfold handleCommand
  dsimp only at attended' kept' ⊢
  generalize taken : ({ driver with
    handled := driver.handled ++ [.attach binding classification] } : ProjectEventDriver) = start
    at attended' kept' ⊢
  have there : start.handled[driver.handled.length]? = some (.attach binding classification) := by
    rw [← taken]
    exact List.getElem?_concat_length
  have same : start.deferred = driver.deferred := by rw [← taken]
  have alive' : start.harnessAlive = true := by rw [← taken, alive]
  have attached := @Attended.attached crates start ⟨binding, classification,
    some driver.handled.length⟩ [] attended' (by
      rintro command ⟨⟩
      exact ⟨binding, classification, there, rfl⟩)
  have frame := @attach_frame crates start ⟨binding, classification, some driver.handled.length⟩
  have sound : Sound (start.attach crates ⟨binding, classification,
      some driver.handled.length⟩).1 :=
    ⟨attached, attach_links _ kept', frame.1.trans alive'⟩
  obtain ⟨sound', fresh⟩ := @Sound.startDeferred _ parentFile sound
  refine ⟨sound', fun entry member record discovered => ?_⟩
  have before := fresh entry member record discovered
  rw [frame.2.2, same] at before
  exact before

/-- A detach is answered, or waits for the owner. -/
theorem detach_sound {start : ProjectEventDriver} {thread : ThreadId} {reply : ℕ}
    (attended : Attended start [reply]) (kept : LinksKept start none)
    (alive : start.harnessAlive = true)
    (there : start.handled[reply]? = some (.detach thread)) :
    Sound (start.detach crates parentFile thread reply) ∧
      NoNewDiscovery start (start.detach crates parentFile thread reply) := by
  have inside := (List.getElem?_eq_some_iff.1 there).1
  unfold detach
  cases slot : start.slots thread with
  | none =>
    have sound : Sound (start.send reply .done) :=
      ⟨attended.answer inside .done, kept.congr rfl rfl (fun _ h => h) rfl, alive⟩
    exact sound.startDeferred
  | some pointer =>
    obtain ⟨coordinator, stored, -⟩ := attended.installed thread pointer slot
    have found : start.coordinator thread = some coordinator := by
      unfold ProjectEventDriver.coordinator
      rw [slot, Option.bind_some, stored]
    dsimp only
    rw [stored]
    dsimp only
    have commands : ∀ command ∈ [reply], start.handled[command]? = some (.detach thread) := by
      intro command member
      rw [List.mem_singleton.1 member]
      exact there
    cases owner : coordinator.owner with
    | live =>
      have request : coordinator.requestDetach reply =
          some { coordinator with owner := .detaching [reply] } := by
        unfold ThreadCoordinator.requestDetach
        rw [owner]
      rw [request]
      refine ⟨⟨attended.rephase slot stored rfl ?_ (fun _ => rfl) ?_ commands,
        kept.congr rfl rfl (fun _ h => h) rfl, alive⟩, fun entry member _ _ => member⟩
      · simp [ThreadCoordinator.isFailed, owner]
      · simp [ThreadCoordinator.waiters, owner]
    | detaching waiters =>
      have request : coordinator.requestDetach reply =
          some { coordinator with owner := .detaching (waiters ++ [reply]) } := by
        unfold ThreadCoordinator.requestDetach
        rw [owner]
      rw [request]
      refine ⟨⟨attended.rephase slot stored rfl ?_ (fun _ => rfl) ?_ commands,
        kept.congr rfl rfl (fun _ h => h) rfl, alive⟩, fun entry member _ _ => member⟩
      · simp [ThreadCoordinator.isFailed, owner]
      · simp [ThreadCoordinator.waiters, owner]
    | failed reason =>
      have request : coordinator.requestDetach reply = none := by
        unfold ThreadCoordinator.requestDetach
        rw [owner]
      have failed : coordinator.isFailed = true := by
        simp [ThreadCoordinator.isFailed, owner]
      have apart : ∀ attach ∈ start.parked, attach.binding.handle.thread ≠ thread := by
        intro attach member same
        obtain ⟨stored', found', detaching⟩ := attended.parked attach member
        rw [same, found, Option.some_inj] at found'
        subst found'
        simp [ThreadCoordinator.isDetaching, owner] at detaching
      have cleared : start.clearCoordinatorIf thread pointer =
          { start with slots := Function.update start.slots thread none } := by
        unfold clearCoordinatorIf
        rw [if_pos slot]
      have answered := (attended.clearFailed found failed).answer inside .done
      have unparked : (({ start with slots := Function.update start.slots thread none } :
          ProjectEventDriver).send reply .done).retryParked crates thread =
          ({ start with slots := Function.update start.slots thread none } :
          ProjectEventDriver).send reply .done := retryParked_of_none apart
      rw [request]
      dsimp only
      rw [cleared, unparked]
      have sound : Sound (({ start with slots := Function.update start.slots thread none } :
          ProjectEventDriver).send reply .done) :=
        ⟨answered, kept.congr rfl rfl (fun _ h => h) rfl, alive⟩
      exact sound.startDeferred

@[simp] theorem harnessAlive_beginLink (link : DriverLink)
    (file : ThreadId → ParentFile) (attempts : ℕ) :
    (driver.beginLink file link attempts).harnessAlive = driver.harnessAlive := by
  unfold beginLink
  split
  · split <;> rfl
  · split
    · split
      · rfl
      · cases file link.link.parentThreadId <;> rfl
    · split
      · split <;> rfl
      · rfl

/-- A command that is taken between two turns. -/
theorem handleCommand_sound (sound : Sound driver) (idle : driver.admission = none)
    (command : DriverCommand) :
    Sound (driver.handleCommand crates parentFile command) ∧
      NoNewDiscovery driver (driver.handleCommand crates parentFile command) := by
  have attended := sound.attended.handle command
  have kept := sound.kept.handle idle command
  have there : (driver.handled ++ [command])[driver.handled.length]? = some command :=
    List.getElem?_concat_length
  cases command with
  | attach binding classification =>
    exact attachCommand_sound sound.attended sound.kept idle sound.alive binding classification
  | detach thread => exact detach_sound attended kept sound.alive there
  | link link waited =>
    exact ⟨⟨beginLink_attended attended there, beginLink_kept kept idle sound.alive,
      (harnessAlive_beginLink _ _ _).trans sound.alive⟩, beginLink_noNewDiscovery kept⟩
  | quiesce =>
    exact ⟨⟨(attended.answerOther there (by simp) (by simp) .done).congr rfl rfl rfl rfl rfl rfl,
      kept.congr rfl rfl (fun _ h => h) rfl, sound.alive⟩, fun entry member _ _ => member⟩
  | resume =>
    have start : Sound (({ driver with
        handled := driver.handled ++ [.resume], quiesced := false } : ProjectEventDriver).send
        driver.handled.length .done) :=
      ⟨(attended.answerOther there (by simp) (by simp) .done).congr rfl rfl rfl rfl rfl rfl,
        kept.congr rfl rfl (fun _ h => h) rfl, sound.alive⟩
    exact start.startDeferred

/-! ### Admissions -/

/-- The thread that an admission admitted is attached. -/
theorem attachAdmitted_keeps {hand : Option DriverLink} (attended : Attended driver [])
    (kept : LinksKept driver hand) (result : Except HarnessError (Option Admitted)) :
    Attended (driver.attachAdmitted crates result).1 [] ∧
      LinksKept (driver.attachAdmitted crates result).1 hand ∧
      (driver.attachAdmitted crates result).1.harnessAlive = driver.harnessAlive ∧
      (driver.attachAdmitted crates result).1.admission = driver.admission ∧
      (driver.attachAdmitted crates result).1.deferred = driver.deferred := by
  unfold attachAdmitted
  match result with
  | .ok (some admitted) =>
    have attached := @Attended.attached crates driver
      ⟨admitted.binding, admitted.classification, none⟩ [] attended (by rintro command ⟨⟩)
    have links := @attach_links crates driver hand
      ⟨admitted.binding, admitted.classification, none⟩ kept
    have frame := @attach_frame crates driver
      ⟨admitted.binding, admitted.classification, none⟩
    dsimp only
    generalize driver.attach crates ⟨admitted.binding, admitted.classification, none⟩ = outcome
      at attached links frame ⊢
    match outcome with
    | (_, some (.error error)) => exact ⟨attached, links, frame⟩
    | (_, some (.ok outcome)) => exact ⟨attached, links, frame⟩
    | (_, none) => exact ⟨attached, links, frame⟩
  | .ok none => exact ⟨attended, kept, rfl, rfl, rfl⟩
  | .error error => exact ⟨attended, kept, rfl, rfl, rfl⟩

theorem discoveryFinished_sound (sound : Sound driver) (record : ThreadDiscovered) (attempts : ℕ)
    (result : Except HarnessError (Option ThreadId)) :
    Sound (driver.finishAdmissionReply result (.discovered record) attempts) ∧
      LinksStay driver (driver.finishAdmissionReply result (.discovered record) attempts) := by
  have same : NoNewDiscovery driver driver := fun entry member _ _ => member
  unfold finishAdmissionReply
  cases result with
  | ok thread =>
    exact ⟨⟨sound.attended.congr rfl rfl rfl rfl rfl rfl,
      sound.kept.congr rfl rfl (observed_subset _) rfl, sound.alive⟩, same.linksStay sound.kept⟩
  | error error =>
    have queued := sound.kept.queueDiscovered record (min (attempts + 1) (2 ^ 32 - 1))
    exact ⟨⟨sound.attended.congr rfl rfl rfl rfl rfl rfl,
      queued.congr rfl rfl (observed_subset _) rfl, sound.alive⟩,
      queueDiscovered_linksStay sound.kept record _⟩

/-- The end of an admission of a link. -/
theorem linkFinished_sound {link : DriverLink} (attended : Attended driver [])
    (kept : LinksKept driver (some link)) (alive : driver.harnessAlive = true)
    (idle : driver.admission = none) (attempts : ℕ)
    (result : Except HarnessError (Option ThreadId)) :
    Sound (driver.finishAdmissionReply result (.link link) attempts) ∧
      NoNewDiscovery driver (driver.finishAdmissionReply result (.link link) attempts) := by
  have same : NoNewDiscovery driver driver := fun entry member _ _ => member
  have there := kept.brought link (.inl rfl)
  unfold finishAdmissionReply
  dsimp only
  by_cases waited : link.waited = true
  · rw [if_pos waited]
    refine ⟨⟨?_, ?_, alive⟩, same⟩
    · exact (attended.answerOther there (by simp) (by simp) (.link result)).congr
        rfl rfl rfl rfl rfl rfl
    · exact (kept.letGo (.inl waited)).congr rfl rfl (observed_subset _) rfl
  · rw [if_neg waited]
    cases result with
    | ok thread =>
      refine ⟨⟨attended.congr rfl rfl rfl rfl rfl rfl, ?_, alive⟩, same⟩
      have finished : LinksKept (driver.observe (.linkFinished link attempts (.ok thread)))
          (some link) := kept.congr rfl rfl (observed_subset _) rfl
      refine finished.letGo (.inr (.inr (.inr (.inl ⟨attempts, thread, ?_⟩))))
      exact List.mem_append_right _ (List.mem_singleton_self _)
    | error error =>
      have queued := kept.queueLink idle (by simpa using waited)
        (min (attempts + 1) (2 ^ 32 - 1))
      exact ⟨⟨attended.congr rfl rfl rfl rfl rfl rfl,
        queued.congr rfl rfl (observed_subset _) rfl, alive⟩,
        queueLink_noNewDiscovery kept _⟩

/-- The admission in flight returns. -/
theorem finishAdmission_sound (sound : Sound driver)
    (result : Except HarnessError (Option Admitted)) :
    Sound (driver.finishAdmission crates parentFile result) ∧
      LinksStay driver (driver.finishAdmission crates parentFile result) := by
  have same : NoNewDiscovery driver driver := fun entry member _ _ => member
  unfold finishAdmission
  cases flying : driver.admission with
  | none => exact ⟨sound, same.linksStay sound.kept⟩
  | some flight =>
    obtain ⟨source, attempts⟩ := flight
    have landed := sound.kept.land flying
    have kept := @attachAdmitted_keeps crates { driver with admission := none } _
      (sound.attended.congr rfl rfl rfl rfl rfl rfl) landed result
    dsimp only
    generalize ({ driver with admission := none } : ProjectEventDriver).attachAdmitted crates
      result = outcome at kept ⊢
    obtain ⟨next, outcome⟩ := outcome
    dsimp only at kept ⊢
    obtain ⟨attended, links, alive, idle, deferred⟩ := kept
    have before (last : ProjectEventDriver) (stay : LinksStay next last) :
        LinksStay driver last := by
      intro old member
      exact stay old (by rw [deferred]; exact member)
    cases source with
    | discovered record =>
      have ready : Sound next := ⟨attended, links, alive.trans sound.alive⟩
      obtain ⟨finished, stay⟩ := discoveryFinished_sound ready record attempts outcome
      cases outcome with
      | error error => exact ⟨finished, before _ stay⟩
      | ok thread =>
        obtain ⟨woken, fresh⟩ := @Sound.startDeferred _ parentFile finished
        exact ⟨woken, before _ (@NoNewDiscovery.linksStay next _ fresh ready.kept)⟩
    | link link =>
      have ready : LinksKept next (some link) := links
      obtain ⟨finished, fresh⟩ := linkFinished_sound attended ready (alive.trans sound.alive)
        idle attempts outcome
      have settled (last : ProjectEventDriver) (fresh : NoNewDiscovery next last) :
          LinksStay driver last := by
        refine NoNewDiscovery.linksStay (fun entry member record discovered => ?_) sound.kept
        have there := fresh entry member record discovered
        rw [deferred] at there
        exact there
      cases outcome with
      | error error => exact ⟨finished, settled _ fresh⟩
      | ok thread =>
        obtain ⟨woken, fresh'⟩ := @Sound.startDeferred _ parentFile finished
        exact ⟨woken, settled _ fun entry member record discovered =>
          fresh entry (fresh' entry member record discovered) record discovered⟩

/-! ### Owners that exit -/

/-- The coordinator of a thread, if it has one, is not detaching. -/
def Settled (driver : ProjectEventDriver) (thread : ThreadId) : Prop :=
  ∀ coordinator, driver.coordinator thread = some coordinator → coordinator.isDetaching = false

/-- The attaches that were parked are worked on, and leave a thread that is settled so. -/
theorem retried_keeps {retry : List Attach} {thread : ThreadId} {hand : Option DriverLink}
    (commands : ∀ attach ∈ retry, ∀ command, attach.reply = some command →
      ∃ binding classification, driver.handled[command]? = some (.attach binding classification) ∧
        binding.handle.thread = attach.binding.handle.thread)
    (attended : Attended driver (retry.filterMap Attach.reply)) (settled : driver.Settled thread)
    (kept : LinksKept driver hand) :
    Attended (retry.foldl (fun driver attach => (driver.attach crates attach).1) driver) [] ∧
      (retry.foldl (fun driver attach => (driver.attach crates attach).1) driver).Settled thread ∧
      LinksKept (retry.foldl (fun driver attach => (driver.attach crates attach).1) driver) hand ∧
      (retry.foldl (fun driver attach => (driver.attach crates attach).1) driver).harnessAlive =
        driver.harnessAlive ∧
      (retry.foldl (fun driver attach => (driver.attach crates attach).1) driver).deferred =
        driver.deferred ∧
      (retry.foldl (fun driver attach => (driver.attach crates attach).1) driver).handled =
        driver.handled := by
  induction retry generalizing driver with
  | nil => exact ⟨attended, settled, kept, rfl, rfl, rfl⟩
  | cons attach rest ih =>
    have split : (attach :: rest).filterMap Attach.reply =
        attach.reply.toList ++ rest.filterMap Attach.reply := by
      cases reply : attach.reply <;> simp [reply]
    rw [split] at attended
    have first := @Attended.attached crates _ _ _ attended
      (commands attach (List.mem_cons_self ..))
    have frame := @attach_frame crates driver attach
    have settled' : (driver.attach crates attach).1.Settled thread := by
      intro coordinator found
      rcases @attach_coordinator crates _ _ attended attach thread with same |
        ⟨binding, classification, live⟩
      · rw [same] at found
        exact settled coordinator found
      · rw [live] at found
        cases found
        rfl
    obtain ⟨attended', settled'', kept', alive, deferred, handled⟩ := ih (by
      intro other member command waits
      rw [handled_attach]
      exact commands other (List.mem_cons_of_mem _ member) command waits) first settled'
      (attach_links attach kept)
    exact ⟨attended', settled'', kept', alive.trans frame.1, deferred.trans frame.2.2,
      handled.trans handled_attach⟩

theorem send_foldl (commands : List ℕ) :
    commands.foldl (fun sender waiter => send sender waiter .done) driver =
      { driver with replies := driver.replies ++ commands.map fun waiter => (waiter, .done) } := by
  induction commands generalizing driver with
  | nil => simp
  | cons command rest ih =>
    rw [List.foldl_cons, ih]
    simp [send]

/-- What holds after an owner has exited, before the deferred queue is woken. -/
structure Exited (driver next : ProjectEventDriver) (thread : ThreadId) : Prop where
  sound : Sound next
  settled : next.Settled thread
  deferred : next.deferred = driver.deferred
  handled : next.handled = driver.handled

/-- An owner that was detaching. -/
theorem detached_exited (sound : Sound driver) {index : ℕ} {owner : RunningOwner}
    (there : driver.owners[index]? = some owner) (changed : ThreadCoordinator)
    (event : DriverEvent) :
    Exited driver ((({ driver with
      owners := driver.owners.eraseIdx index
      coordinators := driver.coordinators.set owner.coordinator changed
      slots := Function.update driver.slots owner.thread none
      replies := driver.replies ++ (driver.waiters owner.thread).map fun waiter => (waiter, .done) } :
        ProjectEventDriver).retryParked crates owner.thread).observe event) owner.thread := by
  have parts := @takeParked_spec owner.thread driver.parked.length driver.parked le_rfl
  unfold retryParked
  dsimp only
  generalize takeParked owner.thread driver.parked.length driver.parked = taken at parts ⊢
  obtain ⟨retry, kept⟩ := taken
  dsimp only at parts ⊢
  have attended := sound.attended.exitCleared there changed parts.1 parts.2
  have commands : ∀ attach ∈ retry, ∀ command, attach.reply = some command →
      ∃ binding classification, driver.handled[command]? = some (.attach binding classification) ∧
        binding.handle.thread = attach.binding.handle.thread := fun attach member =>
    sound.attended.parkedCommand attach (parts.1.mem_iff.1 (List.mem_append_left _ member))
  obtain ⟨attended', settled, links, alive, deferred, handled⟩ := @retried_keeps crates
    { driver with
      owners := driver.owners.eraseIdx index
      coordinators := driver.coordinators.set owner.coordinator changed
      slots := Function.update driver.slots owner.thread none
      replies := driver.replies ++ (driver.waiters owner.thread).map fun waiter => (waiter, .done)
      parked := kept } retry owner.thread none commands attended (by
        intro coordinator found
        unfold ProjectEventDriver.coordinator at found
        dsimp only at found
        rw [Function.update_self] at found
        cases found) (sound.kept.congr rfl rfl (fun _ h => h) rfl)
  exact ⟨⟨attended'.congr rfl rfl rfl rfl rfl rfl,
    links.congr rfl rfl (observed_subset _) rfl, alive.trans sound.alive⟩, settled, deferred,
    handled⟩

/-- An owner that runs exits. -/
theorem ownerExited_exited (sound : Sound driver) {index : ℕ} {owner : RunningOwner}
    (there : driver.owners[index]? = some owner) (reason : ForwarderExitReason) :
    ∃ next, Exited driver next owner.thread ∧
      ({ driver with owners := driver.owners.eraseIdx index } : ProjectEventDriver).ownerExited
        crates parentFile owner reason = next.startDeferred parentFile := by
  have attended := sound.attended
  obtain ⟨slot, running⟩ := attended.running owner (List.mem_of_getElem? there)
  obtain ⟨coordinator, stored, -⟩ := attended.installed owner.thread owner.coordinator slot
  have found : driver.coordinator owner.thread = some coordinator := by
    unfold ProjectEventDriver.coordinator
    rw [slot, Option.bind_some, stored]
  have alive := running coordinator found
  unfold ProjectEventDriver.ownerExited
  dsimp only
  rw [stored]
  dsimp only
  cases phase : coordinator.owner with
  | failed reason' => simp [ThreadCoordinator.isFailed, phase] at alive
  | detaching waiting =>
    have exit : coordinator.ownerExited reason =
        ({ coordinator with owner := .failed "detached" }, .detached waiting) := by
      unfold ThreadCoordinator.ownerExited
      rw [phase]
    have waits : driver.waiters owner.thread = waiting := by
      rw [waiters_eq found, ThreadCoordinator.waiters, phase]
    have exited := @detached_exited crates driver sound index owner there
      { coordinator with owner := .failed "detached" }
      (.ownerExited owner.thread reason .detached)
    rw [waits] at exited
    refine ⟨_, exited, ?_⟩
    rw [exit]
    dsimp only
    unfold clearCoordinatorIf
    rw [if_pos slot, send_foldl]
  | live =>
    have settled : coordinator.isDetaching = false := by
      simp [ThreadCoordinator.isDetaching, phase]
    have exit : coordinator.ownerExited reason =
        ({ coordinator with owner := .failed (forwarderExitReasonLabel reason) },
          if reason = .persistenceBlocked then .retainFailed else .clearFailed) := by
      unfold ThreadCoordinator.ownerExited
      rw [phase]
    rw [exit]
    dsimp only
    by_cases blocked : reason = .persistenceBlocked
    · rw [if_pos blocked]
      refine ⟨({ driver with
        owners := driver.owners.eraseIdx index
        coordinators := driver.coordinators.set owner.coordinator
          { coordinator with owner := .failed (forwarderExitReasonLabel reason) } } :
        ProjectEventDriver).observe (.ownerExited owner.thread reason .retained),
        ⟨⟨?_, sound.kept.congr rfl rfl (observed_subset _) rfl, sound.alive⟩, ?_, rfl, rfl⟩,
        rfl⟩
      · have retained := @Attended.exitRetained driver attended index owner there coordinator
          { coordinator with owner := .failed (forwarderExitReasonLabel reason) } stored settled
          rfl rfl rfl
        exact retained.congr rfl rfl rfl rfl rfl rfl
      · intro changed found'
        unfold ProjectEventDriver.coordinator at found'
        dsimp only [observe] at found'
        rw [slot, Option.bind_some,
          List.getElem?_set_self (List.getElem?_eq_some_iff.1 stored).1] at found'
        cases found'
        rfl
    · have unparked : ∀ attach ∈ driver.parked, attach.binding.handle.thread ≠ owner.thread := by
        intro attach member same
        obtain ⟨stored', found', detaching⟩ := attended.parked attach member
        rw [same, found, Option.some_inj] at found'
        subst found'
        rw [settled] at detaching
        cases detaching
      have cleared := @Attended.exitCleared driver attended index owner there
        { coordinator with owner := .failed (forwarderExitReasonLabel reason) } [] driver.parked
        (.refl _) unparked
      rw [waiters_eq found, waiters_of_not_detaching settled, List.map_nil, List.append_nil]
        at cleared
      rw [if_neg blocked]
      dsimp only
      rw [if_pos slot]
      have vacated : ({ driver with
          owners := driver.owners.eraseIdx index
          coordinators := driver.coordinators.set owner.coordinator
            { coordinator with owner := .failed (forwarderExitReasonLabel reason) } } :
          ProjectEventDriver).clearCoordinatorIf owner.thread owner.coordinator =
          { driver with
            owners := driver.owners.eraseIdx index
            coordinators := driver.coordinators.set owner.coordinator
              { coordinator with owner := .failed (forwarderExitReasonLabel reason) }
            slots := Function.update driver.slots owner.thread none } := by
        unfold clearCoordinatorIf
        dsimp only
        rw [if_pos slot]
      rw [vacated]
      refine ⟨({ driver with
        owners := driver.owners.eraseIdx index
        coordinators := driver.coordinators.set owner.coordinator
          { coordinator with owner := .failed (forwarderExitReasonLabel reason) }
        slots := Function.update driver.slots owner.thread none } : ProjectEventDriver).observe
          (.ownerExited owner.thread reason
            (if isTeardownExit driver.quiesced reason then .teardownExit else .failedRemoved)),
        ⟨⟨cleared.congr rfl rfl rfl rfl rfl rfl,
          sound.kept.congr rfl rfl (observed_subset _) rfl, sound.alive⟩, ?_, rfl, rfl⟩, rfl⟩
      intro changed found'
      unfold ProjectEventDriver.coordinator at found'
      dsimp only [observe] at found'
      rw [Function.update_self] at found'
      cases found'

/-- An owner that runs exits: the commands that wait for it have been answered then. -/
theorem ownerExited_sound (sound : Sound driver) {index : ℕ} {owner : RunningOwner}
    (there : driver.owners[index]? = some owner) (reason : ForwarderExitReason) :
    Sound (driver.step crates (.ownerExited index reason parentFile)) ∧
      NoNewDiscovery driver (driver.step crates (.ownerExited index reason parentFile)) ∧
      (driver.step crates (.ownerExited index reason parentFile)).Settled owner.thread ∧
      (driver.step crates (.ownerExited index reason parentFile)).handled = driver.handled := by
  obtain ⟨next, exited, same⟩ :=
    @ownerExited_exited crates driver parentFile sound index owner there reason
  have turn : driver.step crates (.ownerExited index reason parentFile) =
      next.startDeferred parentFile := by
    rw [← same]
    unfold ProjectEventDriver.step
    dsimp only
    rw [there]
  obtain ⟨kept, frame, fresh⟩ :=
    @startDeferred_kept next parentFile exited.sound.kept exited.sound.alive
  rw [turn]
  refine ⟨⟨frame.attended exited.sound.attended, kept,
    frame.harnessAlive.trans exited.sound.alive⟩, ?_, ?_, frame.handled.trans exited.handled⟩
  · intro entry member record discovered
    rw [← exited.deferred]
    exact fresh entry member record discovered
  · intro coordinator found
    apply exited.settled coordinator
    unfold ProjectEventDriver.coordinator at found ⊢
    rw [frame.slots, frame.coordinators] at found
    exact found

/-! ### The loop -/

theorem classifyCoordinator_sound (sound : Sound driver) (thread : ThreadId) :
    Sound (driver.classifyCoordinator thread) ∧
      NoNewDiscovery driver (driver.classifyCoordinator thread) := by
  have same : NoNewDiscovery driver driver := fun entry member _ _ => member
  unfold classifyCoordinator
  cases slot : driver.slots thread with
  | none => exact ⟨sound, same⟩
  | some pointer =>
    obtain ⟨coordinator, stored, -⟩ := sound.attended.installed thread pointer slot
    dsimp only
    generalize change : (fun coordinator : ThreadCoordinator =>
      if coordinator.classification = .orphan then
        { coordinator with classification := .subagent }
      else coordinator) = f
    have replaced : driver.coordinators.modify pointer f =
        driver.coordinators.set pointer (f coordinator) := by
      apply List.ext_getElem?
      intro index
      rw [List.getElem?_modify, List.getElem?_set]
      split
      · next here =>
        subst here
        rw [stored]
        simp [(List.getElem?_eq_some_iff.1 stored).1]
      · simp
    have kind (coordinator : ThreadCoordinator) : (f coordinator).binding = coordinator.binding ∧
        (f coordinator).owner = coordinator.owner := by
      rw [← change]
      dsimp only
      split <;> exact ⟨rfl, rfl⟩
    obtain ⟨binding, owner⟩ := kind coordinator
    rw [replaced]
    refine ⟨⟨@Attended.rephase driver [] thread [] sound.attended pointer slot coordinator
      (f coordinator) stored binding ?_ ?_ ?_ (by simp),
      sound.kept.congr rfl rfl (fun _ h => h) rfl, sound.alive⟩, fun entry member _ _ => member⟩
    · unfold ThreadCoordinator.isFailed
      rw [owner]
    · unfold ThreadCoordinator.isDetaching
      rw [owner]
      exact id
    · unfold ThreadCoordinator.waiters
      rw [owner, List.append_nil]

/-- Every turn keeps what holds, and replaces no link by a discovery. -/
theorem step_sound (sound : Sound driver) (choice : Choice) (alive : choice ≠ .harnessGone) :
    Sound (driver.step crates choice) ∧ LinksStay driver (driver.step crates choice) := by
  have same : NoNewDiscovery driver driver := fun entry member _ _ => member
  cases choice with
  | command command parentFile =>
    unfold ProjectEventDriver.step
    dsimp only
    split
    · next idle =>
      obtain ⟨sound', fresh⟩ := @handleCommand_sound crates driver parentFile sound
        (Option.isNone_iff_eq_none.1 idle) command
      exact ⟨sound', fresh.linksStay sound.kept⟩
    · exact ⟨sound, same.linksStay sound.kept⟩
  | discovery record =>
    unfold ProjectEventDriver.step beginDiscovery
    dsimp only
    split
    · next free =>
      simp only [Bool.and_eq_true, Option.isNone_iff_eq_none] at free
      rw [if_pos sound.alive]
      exact ⟨⟨sound.attended.congr rfl rfl rfl rfl rfl rfl,
        sound.kept.launchDiscovered free.2 record 0, sound.alive⟩,
        NoNewDiscovery.linksStay (fun entry member _ _ => member) sound.kept⟩
    · exact ⟨sound, same.linksStay sound.kept⟩
  | admissionFinished result parentFile => exact finishAdmission_sound sound result
  | ownerExited index reason parentFile =>
    cases there : driver.owners[index]? with
    | none =>
      unfold ProjectEventDriver.step
      dsimp only
      rw [there]
      exact ⟨sound, same.linksStay sound.kept⟩
    | some owner =>
      obtain ⟨sound', fresh, -⟩ :=
        @ownerExited_sound crates driver parentFile sound index owner there reason
      exact ⟨sound', fresh.linksStay sound.kept⟩
  | interned thread project =>
    unfold ProjectEventDriver.step
    dsimp only
    cases driver.authorities thread with
    | some _ => exact ⟨sound, same.linksStay sound.kept⟩
    | none =>
      exact ⟨⟨sound.attended.congr rfl rfl rfl rfl rfl rfl,
        sound.kept.congr rfl rfl (fun _ h => h) rfl, sound.alive⟩,
        NoNewDiscovery.linksStay (fun entry member _ _ => member) sound.kept⟩
  | classified thread =>
    obtain ⟨sound', fresh⟩ := classifyCoordinator_sound sound thread
    exact ⟨sound', fresh.linksStay sound.kept⟩
  | harnessGone => exact absurd rfl alive

end Turns

/-! ## Runs -/

section Runs

variable {crates : Crates} {driver : ProjectEventDriver}

theorem new_sound (projectId : ProjectId) (harnessName : String)
    (authorities : ThreadId → Option ProjectId) : Sound (new projectId harnessName authorities) := by
  have none (thread : ThreadId) :
      (new projectId harnessName authorities).coordinator thread = none := rfl
  refine ⟨⟨?_, ?_, ?_, List.nodup_nil, ?_, ?_, ?_, ?_, ?_, ?_⟩, ⟨List.nodup_nil, ?_, ?_, ?_, ?_⟩,
    rfl⟩
  all_goals simp [new, waiters, ProjectEventDriver.coordinator, Deferred, InFlight]

theorem run_sound (sound : Sound driver) (schedule : List Choice)
    (alive : ∀ choice ∈ schedule, choice ≠ .harnessGone) :
    Sound (Schedule.run (step crates) driver schedule) := by
  induction schedule generalizing driver with
  | nil => exact sound
  | cons choice rest ih =>
    exact ih (step_sound sound choice (alive choice (List.mem_cons_self ..))).1
      fun other member => alive other (List.mem_cons_of_mem _ member)

/-- The commands of a thread that is settled have been answered. -/
theorem Sound.answered (sound : Sound driver) {thread : ThreadId} (settled : driver.Settled thread) :
    (∀ serial binding classification,
      driver.handled[serial]? = some (.attach binding classification) →
      binding.handle.thread = thread → driver.answers serial = 1) ∧
    ∀ serial, driver.handled[serial]? = some (.detach thread) → driver.answers serial = 1 := by
  constructor
  · intro serial binding classification there here
    have once := sound.attended.attachOnce serial binding classification there
    have unparked : driver.parkedCommands.count serial = 0 := by
      unfold parkedCommands
      rw [List.count_eq_zero, List.mem_filterMap]
      rintro ⟨attach, member, waits⟩
      obtain ⟨binding', classification', there', thread'⟩ :=
        sound.attended.parkedCommand attach member serial waits
      rw [there, Option.some_inj] at there'
      cases there'
      obtain ⟨coordinator, found, detaching⟩ := sound.attended.parked attach member
      rw [← thread', here] at found
      rw [settled coordinator found] at detaching
      cases detaching
    rw [unparked, List.count_nil] at once
    exact once
  · intro serial there
    have once := sound.attended.detachOnce serial thread there
    have unwaiting : driver.waiters thread = [] := by
      unfold waiters
      cases found : driver.coordinator thread with
      | none => rfl
      | some coordinator => exact waiters_of_not_detaching (settled coordinator found)
    rw [unwaiting, List.count_nil] at once
    exact once

theorem Sound.settled (sound : Sound driver) {thread : ThreadId}
    (free : ¬ driver.DetachingOwner thread) : driver.Settled thread := by
  intro coordinator found
  by_contra detaching
  rw [Bool.not_eq_false] at detaching
  have alive : coordinator.isFailed = false := by
    unfold ThreadCoordinator.isDetaching at detaching
    unfold ThreadCoordinator.isFailed
    cases phase : coordinator.owner with
    | failed reason =>
      rw [phase] at detaching
      cases detaching
    | live => rfl
    | detaching waiters => rfl
  obtain ⟨owner, member, here⟩ := sound.attended.owned thread coordinator found alive
  have slot := (sound.attended.running owner member).1
  apply free
  refine ⟨owner, member, here, coordinator, ?_, detaching⟩
  unfold ProjectEventDriver.coordinator at found
  rw [← here, slot, Option.bind_some] at found
  exact found

/-- A command about a thread is answered at most once, it has been answered once no owner of the
thread is detaching, and an exit of the thread's owner leaves it answered. -/
def AnsweredOnce (crates : Crates) (driver : ProjectEventDriver) (serial : ℕ) (thread : ThreadId) :
    Prop :=
  driver.answers serial ≤ 1 ∧
  (¬ driver.DetachingOwner thread → driver.answers serial = 1) ∧
  ∀ index owner reason parentFile, driver.owners[index]? = some owner → owner.thread = thread →
    (driver.step crates (.ownerExited index reason parentFile)).answers serial = 1

theorem Sound.answeredOnce (sound : Sound driver) {serial : ℕ} {thread : ThreadId}
    {command : DriverCommand} (there : driver.handled[serial]? = some command)
    (about : (∃ binding classification, command = .attach binding classification ∧
      binding.handle.thread = thread) ∨ command = .detach thread) :
    AnsweredOnce crates driver serial thread := by
  have answers (next : ProjectEventDriver) (sound : Sound next) (settled : next.Settled thread)
      (handled : next.handled = driver.handled) : next.answers serial = 1 := by
    rcases about with ⟨binding, classification, rfl, here⟩ | rfl
    · exact (sound.answered settled).1 serial binding classification (by rw [handled, there]) here
    · exact (sound.answered settled).2 serial (by rw [handled, there])
  refine ⟨?_, fun free => answers driver sound (sound.settled free) rfl, ?_⟩
  · rcases about with ⟨binding, classification, rfl, -⟩ | rfl
    · have once := sound.attended.attachOnce serial binding classification there
      omega
    · have once := sound.attended.detachOnce serial thread there
      omega
  · intro index owner reason parentFile found here
    obtain ⟨sound', -, settled, handled⟩ :=
      @ownerExited_sound crates driver parentFile sound index owner found reason
    exact answers _ sound' (here ▸ settled) handled

end Runs

/-- What is said of a link that no caller waits for: it is in flight, in the queue as itself or as
a newer link for its native id, or settled. -/
def LinkPresent (driver : ProjectEventDriver) (serial : ℕ) (link : Link) : Prop :=
  driver.Holds ⟨link, serial, false⟩ ∨
    ∃ newer : DriverLink, serial ≤ newer.serial ∧ newer.native = link.info.nativeThreadId ∧
      driver.Deferred newer

/-- The link itself, or a newer one for its native id that no caller waits for either, is in
flight, in the queue, or settled. -/
def LinkRepresented (driver : ProjectEventDriver) (serial : ℕ) (link : Link) : Prop :=
  ∃ newer : DriverLink, serial ≤ newer.serial ∧ newer.waited = false ∧
    newer.native = link.info.nativeThreadId ∧ driver.Holds newer

/-- A run of the driver in which the harness stays. A link that no caller waits for is represented
at all times. The queue has one entry for each native id, and no turn puts a discovery in the
place of a link. One owner runs for each thread. An attach and a detach are answered exactly once,
at the latest when the owner that they wait for has exited. -/
theorem driver_run (crates : Crates) (projectId : ProjectId) (harnessName : String)
    (authorities : ThreadId → Option ProjectId) (schedule : List Choice)
    (alive : ∀ choice ∈ schedule, choice ≠ .harnessGone) :
    let driver := Schedule.run (step crates) (new projectId harnessName authorities) schedule
    (∀ serial link, driver.handled[serial]? = some (.link link false) →
      driver.LinkRepresented serial link) ∧
    (driver.deferred.map DeferredAdmission.native).Nodup ∧
    (∀ choice, choice ≠ .harnessGone → LinksStay driver (driver.step crates choice)) ∧
    (driver.owners.map RunningOwner.thread).Nodup ∧
    (∀ serial binding classification,
      driver.handled[serial]? = some (.attach binding classification) →
      AnsweredOnce crates driver serial binding.handle.thread) ∧
    ∀ serial thread, driver.handled[serial]? = some (.detach thread) →
      AnsweredOnce crates driver serial thread := by
  intro driver
  have sound : Sound driver :=
    run_sound (new_sound projectId harnessName authorities) schedule alive
  refine ⟨?_, sound.kept.distinct, fun choice stays => (step_sound sound choice stays).2,
    sound.attended.distinct, ?_, ?_⟩
  · intro serial link there
    obtain ⟨newer, late, unwaited, native, holds⟩ := sound.kept.kept serial link there
    rcases holds with none | holds
    · cases none
    · exact ⟨newer, late, unwaited, native, holds⟩
  · intro serial binding classification there
    exact sound.answeredOnce there (.inl ⟨binding, classification, rfl, rfl⟩)
  · intro serial thread there
    exact sound.answeredOnce there (.inr rfl)

/-! ## Two links for one native id -/

/-- A link to a native thread from a parent. -/
def sampleDriverLink (parent : BitVec 128) : Link :=
  ⟨⟨⟨parent⟩⟩, ⟨⟨7⟩⟩, ⟨⟨8⟩⟩, "item", "agent", none, none, none⟩

/-- Two links for one native id whose parents are not live, and then a detach of another thread,
which wakes the queue. The file of the second parent is gone by then. -/
def sampleLinks : List Choice :=
  [.command (.link (sampleDriverLink 1) false) fun _ _ => .present,
    .command (.link (sampleDriverLink 2) false) fun _ _ => .present,
    .command (.detach ⟨⟨3⟩⟩) fun _ thread => if thread = ⟨⟨2⟩⟩ then .absent else .present]

theorem driver_run_sample :
    let driver := Schedule.run (step Crates.reference)
      (new ⟨⟨0⟩⟩ "codex" fun _ => none) sampleLinks
    driver.LinkRepresented 0 (sampleDriverLink 1) ∧ driver.answers 2 = 1 := by
  have kept := driver_run Crates.reference ⟨⟨0⟩⟩ "codex" (fun _ => none) sampleLinks (by
    intro choice member
    simp only [sampleLinks, List.mem_cons, List.not_mem_nil, or_false] at member
    rcases member with rfl | rfl | rfl <;> exact fun same => by cases same)
  exact ⟨kept.1 0 (sampleDriverLink 1) rfl, rfl⟩

/-- A link is lost to a newer one: its own parent's file is there throughout, and it is neither in
flight, nor in the queue as itself or as a newer one, nor admitted. -/
theorem link_replaced :
    ¬ ∀ (schedule : List Choice), (∀ choice ∈ schedule, choice ≠ .harnessGone) →
      ∀ serial link,
        (Schedule.run (step Crates.reference) (new ⟨⟨0⟩⟩ "codex" fun _ => none)
          schedule).handled[serial]? = some (.link link false) →
        (Schedule.run (step Crates.reference) (new ⟨⟨0⟩⟩ "codex" fun _ => none)
          schedule).LinkPresent serial link := by
  intro claim
  have present := claim sampleLinks (by
    intro choice member
    simp only [sampleLinks, List.mem_cons, List.not_mem_nil, or_false] at member
    rcases member with rfl | rfl | rfl <;> exact fun same => by cases same) 0
    (sampleDriverLink 1) rfl
  have observed : (Schedule.run (step Crates.reference) (new ⟨⟨0⟩⟩ "codex" fun _ => none)
      sampleLinks).observed =
      [.linkDeferred ⟨sampleDriverLink 1, 0, false⟩ .parentNotLive,
        .linkDeferred ⟨sampleDriverLink 2, 1, false⟩ .parentNotLive,
        .linkDropped ⟨sampleDriverLink 2, 1, false⟩] := rfl
  have admission : (Schedule.run (step Crates.reference) (new ⟨⟨0⟩⟩ "codex" fun _ => none)
      sampleLinks).admission = none := rfl
  have deferred : (Schedule.run (step Crates.reference) (new ⟨⟨0⟩⟩ "codex" fun _ => none)
      sampleLinks).deferred = [] := rfl
  unfold LinkPresent Holds InFlight Deferred AdmittedOk ParentAbsent at present
  rw [observed, admission, deferred] at present
  simp [sampleDriverLink] at present

end ProjectEventDriver

end Giskard
