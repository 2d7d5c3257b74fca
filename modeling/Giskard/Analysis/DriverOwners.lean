import Mathlib
import Giskard.Foundation.Schedule
import Giskard.Model.ProjectDriver

/-!
# What the project driver keeps

An owner that runs is the one installed for its thread, so that there is one for each thread. A
command that waits is parked with an owner that is detaching, or is one of that owner's waiters,
and the owner's exit answers it. A link that no caller waits for is in flight, in the deferred
queue, or settled, unless a newer link for the same native id has taken its place.

SOURCE: crates/giskard-server/src/registry/driver.rs, thread.rs.
-/

set_option autoImplicit false

namespace Giskard

open Foundation

/-- The commands that wait for an owner to exit. -/
def ThreadCoordinator.waiters (coordinator : ThreadCoordinator) : List ℕ :=
  match coordinator.owner with
  | .detaching waiters => waiters
  | _ => []

namespace ProjectEventDriver

/-! ## What an attach can do -/

/-- The answer to an attach, as it is sent. -/
def attachReply (attach : Attach) (result : Except HarnessError AttachOutcome) :
    List (ℕ × DriverReply) :=
  attach.reply.toList.map fun command => (command, .attach result)

/-- Everything that an attach can do: it is answered, parked, or it installs an owner. -/
inductive AttachEffect (driver : ProjectEventDriver) (attach : Attach) :
    ProjectEventDriver → Option (Except HarnessError AttachOutcome) → Prop
  | answered (result : Except HarnessError AttachOutcome) (events : List DriverEvent)
      (authorities : ThreadId → Option ProjectId) :
      AttachEffect driver attach
        { driver with
          authorities := authorities
          replies := driver.replies ++ attachReply attach result
          observed := driver.observed ++ events } (some result)
  | parked (existing : ThreadCoordinator) (authorities : ThreadId → Option ProjectId)
      (there : driver.coordinator attach.binding.handle.thread = some existing)
      (detaching : existing.isDetaching = true) :
      AttachEffect driver attach
        { driver with authorities := authorities, parked := driver.parked ++ [attach] } none
  | installed (authorities : ThreadId → Option ProjectId)
      (free : driver.slots attach.binding.handle.thread = none) :
      AttachEffect driver attach
        { driver.installOwner attach with
          authorities := authorities
          replies := driver.replies ++ attachReply attach (.ok .installed) }
        (some (.ok .installed))

section Attach

variable {crates : Crates} {driver : ProjectEventDriver} {attach : Attach}

theorem sendAttach_eq (result : Except HarnessError AttachOutcome) :
    driver.sendAttach attach result =
      ({ driver with replies := driver.replies ++ attachReply attach result }, some result) := by
  unfold sendAttach attachReply
  cases attach.reply with
  | none => simp
  | some command => rfl

theorem AttachEffect.of_sendAttach (result : Except HarnessError AttachOutcome)
    (authorities : ThreadId → Option ProjectId) :
    AttachEffect driver attach
      ({ driver with authorities := authorities }.sendAttach attach result).1
      ({ driver with authorities := authorities }.sendAttach attach result).2 := by
  have effect : AttachEffect driver attach _ (some result) :=
    .answered result [] authorities
  rw [List.append_nil] at effect
  rw [sendAttach_eq]
  exact effect

theorem attachThread_effect (authorities : ThreadId → Option ProjectId) :
    AttachEffect driver attach
      ({ driver with authorities := authorities }.attachThread crates attach).1
      ({ driver with authorities := authorities }.attachThread crates attach).2 := by
  unfold attachThread
  dsimp only
  cases there : { driver with authorities := authorities }.coordinator
      attach.binding.handle.thread with
  | some existing =>
    dsimp only
    split
    · next detaching => exact .parked existing authorities there detaching
    · exact .of_sendAttach _ authorities
  | none =>
    dsimp only
    split
    · exact .of_sendAttach _ authorities
    · split
      · exact .of_sendAttach _ authorities
      · next free =>
        rw [sendAttach_eq]
        exact .installed authorities (by simpa using free)

theorem attach_effect :
    AttachEffect driver attach (driver.attach crates attach).1 (driver.attach crates attach).2 := by
  unfold ProjectEventDriver.attach
  dsimp only
  split
  · rw [sendAttach_eq]
    exact .answered _ [_] driver.authorities
  · split
    · exact .of_sendAttach _ driver.authorities
    · split
      · exact .of_sendAttach _ driver.authorities
      · cases driver.authorities attach.binding.handle.thread with
        | some existing =>
          dsimp only
          split
          · exact .of_sendAttach _ driver.authorities
          · exact attachThread_effect driver.authorities
        | none => exact attachThread_effect _

end Attach

/-! ## Owners and commands that wait -/

/-- The commands that wait for a detach. -/
def waiters (driver : ProjectEventDriver) (thread : ThreadId) : List ℕ :=
  match driver.coordinator thread with
  | some coordinator => coordinator.waiters
  | none => []

/-- How many answers a command has had. -/
def answers (driver : ProjectEventDriver) (command : ℕ) : ℕ :=
  (driver.replies.map Prod.fst).count command

/-- The attach commands that are parked. -/
def parkedCommands (driver : ProjectEventDriver) : List ℕ := driver.parked.filterMap Attach.reply

/-- What holds of the owners and of the commands that wait, while some commands are being worked
on. -/
structure Attended (driver : ProjectEventDriver) (working : List ℕ) : Prop where
  installed : ∀ thread pointer, driver.slots thread = some pointer →
    ∃ coordinator, driver.coordinators[pointer]? = some coordinator ∧
      coordinator.binding.handle.thread = thread
  running : ∀ owner ∈ driver.owners, driver.slots owner.thread = some owner.coordinator ∧
    ∀ coordinator, driver.coordinator owner.thread = some coordinator →
      coordinator.isFailed = false
  owned : ∀ thread coordinator, driver.coordinator thread = some coordinator →
    coordinator.isFailed = false → ∃ owner ∈ driver.owners, owner.thread = thread
  distinct : (driver.owners.map RunningOwner.thread).Nodup
  parked : ∀ attach ∈ driver.parked, ∃ coordinator,
    driver.coordinator attach.binding.handle.thread = some coordinator ∧
      coordinator.isDetaching = true
  parkedCommand : ∀ attach ∈ driver.parked, ∀ command, attach.reply = some command →
    ∃ binding classification, driver.handled[command]? = some (.attach binding classification) ∧
      binding.handle.thread = attach.binding.handle.thread
  waiterCommand : ∀ thread, ∀ command ∈ driver.waiters thread,
    driver.handled[command]? = some (.detach thread)
  answered : ∀ reply ∈ driver.replies, reply.1 < driver.handled.length
  attachOnce : ∀ command binding classification,
    driver.handled[command]? = some (.attach binding classification) →
    driver.answers command + working.count command + driver.parkedCommands.count command = 1
  detachOnce : ∀ command thread, driver.handled[command]? = some (.detach thread) →
    driver.answers command + working.count command + (driver.waiters thread).count command = 1

section Attended

variable {crates : Crates} {driver next : ProjectEventDriver} {attach : Attach} {working : List ℕ}

theorem waiters_of_not_detaching {coordinator : ThreadCoordinator}
    (settled : coordinator.isDetaching = false) : coordinator.waiters = [] := by
  unfold ThreadCoordinator.isDetaching at settled
  unfold ThreadCoordinator.waiters
  cases owner : coordinator.owner with
  | detaching waiters =>
    rw [owner] at settled
    cases settled
  | live => rfl
  | failed reason => rfl

theorem waiters_eq {thread : ThreadId} {coordinator : ThreadCoordinator}
    (there : driver.coordinator thread = some coordinator) :
    driver.waiters thread = coordinator.waiters := by
  unfold ProjectEventDriver.waiters
  rw [there]

theorem Attended.congr (attended : Attended driver working)
    (slots : next.slots = driver.slots) (coordinators : next.coordinators = driver.coordinators)
    (owners : next.owners = driver.owners) (parked : next.parked = driver.parked)
    (replies : next.replies = driver.replies) (handled : next.handled = driver.handled) :
    Attended next working := by
  cases next
  cases driver
  dsimp only at slots coordinators owners parked replies handled
  subst slots coordinators owners parked replies handled
  exact ⟨attended.installed, attended.running, attended.owned, attended.distinct, attended.parked,
    attended.parkedCommand, attended.waiterCommand, attended.answered, attended.attachOnce,
    attended.detachOnce⟩

theorem answers_send (number command : ℕ) (reply : DriverReply) :
    (driver.send number reply).answers command =
      driver.answers command + if number = command then 1 else 0 := by
  unfold answers send
  rw [List.map_append, List.count_append, List.map_singleton, List.count_singleton]
  simp only [beq_iff_eq]

@[simp] theorem handled_send (number : ℕ) (reply : DriverReply) :
    (driver.send number reply).handled = driver.handled := rfl

@[simp] theorem parkedCommands_send (number : ℕ) (reply : DriverReply) :
    (driver.send number reply).parkedCommands = driver.parkedCommands := rfl

@[simp] theorem waiters_send (number : ℕ) (reply : DriverReply) (thread : ThreadId) :
    (driver.send number reply).waiters thread = driver.waiters thread := rfl

/-- A command that is worked on is answered. -/
theorem Attended.answer {number : ℕ} (attended : Attended driver (number :: working))
    (there : number < driver.handled.length) (reply : DriverReply) :
    Attended (driver.send number reply) working where
  installed := attended.installed
  running := attended.running
  owned := attended.owned
  distinct := attended.distinct
  parked := attended.parked
  parkedCommand := attended.parkedCommand
  waiterCommand := attended.waiterCommand
  answered := by
    intro other member
    rcases List.mem_append.1 member with member | member
    · exact attended.answered other member
    · rw [List.mem_singleton.1 member]
      exact there
  attachOnce := by
    intro command binding classification found
    have once := attended.attachOnce command binding classification found
    rw [answers_send, parkedCommands_send]
    rw [List.count_cons] at once
    simp only [beq_iff_eq] at once
    omega
  detachOnce := by
    intro command thread found
    have once := attended.detachOnce command thread found
    rw [answers_send, waiters_send]
    rw [List.count_cons] at once
    simp only [beq_iff_eq] at once
    omega

/-- An answer to a command that is no attach and no detach. -/
theorem Attended.answerOther (attended : Attended driver working) {number : ℕ}
    {command : DriverCommand} (there : driver.handled[number]? = some command)
    (attach : ∀ binding classification, command ≠ .attach binding classification)
    (detach : ∀ thread, command ≠ .detach thread) (reply : DriverReply) :
    Attended (driver.send number reply) working where
  installed := attended.installed
  running := attended.running
  owned := attended.owned
  distinct := attended.distinct
  parked := attended.parked
  parkedCommand := attended.parkedCommand
  waiterCommand := attended.waiterCommand
  answered := by
    intro other member
    rcases List.mem_append.1 member with member | member
    · exact attended.answered other member
    · rw [List.mem_singleton.1 member]
      exact (List.getElem?_eq_some_iff.1 there).1
  attachOnce := by
    intro other binding classification found
    rw [answers_send, if_neg]
    · exact attended.attachOnce other binding classification found
    · rintro rfl
      rw [handled_send, there, Option.some_inj] at found
      exact attach binding classification found
  detachOnce := by
    intro other thread found
    rw [answers_send, if_neg]
    · exact attended.detachOnce other thread found
    · rintro rfl
      rw [handled_send, there, Option.some_inj] at found
      exact detach thread found

theorem Attended.answerAttach (attended : Attended driver (attach.reply.toList ++ working))
    (command : ∀ command, attach.reply = some command → ∃ binding classification,
      driver.handled[command]? = some (.attach binding classification) ∧
        binding.handle.thread = attach.binding.handle.thread)
    (result : Except HarnessError AttachOutcome) :
    Attended { driver with replies := driver.replies ++ attachReply attach result } working := by
  unfold attachReply
  cases reply : attach.reply with
  | none =>
    rw [reply] at attended
    exact attended.congr rfl rfl rfl rfl (List.append_nil _) rfl
  | some number =>
    rw [reply] at attended
    obtain ⟨binding, classification, there, -⟩ := command number reply
    exact attended.answer (List.getElem?_eq_some_iff.1 there).1 (.attach result)

/-- An attach that is parked. -/
theorem Attended.park (attended : Attended driver (attach.reply.toList ++ working))
    (command : ∀ command, attach.reply = some command → ∃ binding classification,
      driver.handled[command]? = some (.attach binding classification) ∧
        binding.handle.thread = attach.binding.handle.thread)
    {existing : ThreadCoordinator}
    (there : driver.coordinator attach.binding.handle.thread = some existing)
    (detaching : existing.isDetaching = true) :
    Attended { driver with parked := driver.parked ++ [attach] } working where
  installed := attended.installed
  running := attended.running
  owned := attended.owned
  distinct := attended.distinct
  parked := by
    intro other member
    rcases List.mem_append.1 member with member | member
    · exact attended.parked other member
    · rw [List.mem_singleton.1 member]
      exact ⟨existing, there, detaching⟩
  parkedCommand := by
    intro other member
    rcases List.mem_append.1 member with member | member
    · exact attended.parkedCommand other member
    · rw [List.mem_singleton.1 member]
      exact command
  waiterCommand := attended.waiterCommand
  answered := attended.answered
  attachOnce := by
    intro number binding classification found
    have once := attended.attachOnce number binding classification found
    have parked : ({ driver with parked := driver.parked ++ [attach] } :
        ProjectEventDriver).parkedCommands = driver.parkedCommands ++ attach.reply.toList := by
      unfold parkedCommands
      rw [List.filterMap_append]
      cases reply : attach.reply <;> simp [reply]
    rw [parked, List.count_append]
    rw [List.count_append] at once
    change driver.answers number + _ + _ = 1
    omega
  detachOnce := by
    intro number thread found
    have once := attended.detachOnce number thread found
    have other : attach.reply.toList.count number = 0 := by
      rw [List.count_eq_zero, Option.mem_toList]
      intro waits
      obtain ⟨binding, classification, there', -⟩ := command number waits
      rw [found] at there'
      cases there'
    rw [List.count_append, other] at once
    change driver.answers number + _ + (driver.waiters thread).count number = 1
    omega

theorem coordinator_installOwner (attended : Attended driver working) (thread : ThreadId) :
    (driver.installOwner attach).coordinator thread =
      if thread = attach.binding.handle.thread then
        some ⟨attach.binding, attach.classification, .live⟩
      else driver.coordinator thread := by
  unfold ProjectEventDriver.coordinator installOwner
  dsimp only
  by_cases here : thread = attach.binding.handle.thread
  · rw [if_pos here, here, Function.update_self]
    simp
  · rw [if_neg here, Function.update_of_ne here]
    cases slot : driver.slots thread with
    | none => rfl
    | some pointer =>
      obtain ⟨coordinator, there, -⟩ := attended.installed thread pointer slot
      rw [Option.bind_some, Option.bind_some,
        List.getElem?_append_left (List.getElem?_eq_some_iff.1 there).1]

/-- An owner that is installed in an empty slot. -/
theorem Attended.install (attended : Attended driver working)
    (free : driver.slots attach.binding.handle.thread = none) :
    Attended (driver.installOwner attach) working := by
  have view := @coordinator_installOwner driver attach working attended
  have empty : driver.coordinator attach.binding.handle.thread = none := by
    unfold ProjectEventDriver.coordinator
    rw [free]
    rfl
  have waiters (thread : ThreadId) :
      (driver.installOwner attach).waiters thread = driver.waiters thread := by
    unfold ProjectEventDriver.waiters
    rw [view]
    by_cases here : thread = attach.binding.handle.thread
    · rw [if_pos here, here, empty]
      rfl
    · rw [if_neg here]
  have unowned : ∀ owner ∈ driver.owners, owner.thread ≠ attach.binding.handle.thread := by
    intro owner member here
    have slot := (attended.running owner member).1
    rw [here, free] at slot
    cases slot
  refine ⟨?_, ?_, ?_, ?_, ?_, attended.parkedCommand, ?_, attended.answered, attended.attachOnce, ?_⟩
  · intro thread pointer slot
    unfold installOwner at slot ⊢
    dsimp only at slot ⊢
    by_cases here : thread = attach.binding.handle.thread
    · rw [here, Function.update_self, Option.some_inj] at slot
      subst slot
      exact ⟨⟨attach.binding, attach.classification, .live⟩, by simp, here.symm⟩
    · rw [Function.update_of_ne here] at slot
      obtain ⟨coordinator, there, thread⟩ := attended.installed thread pointer slot
      exact ⟨coordinator,
        by rw [List.getElem?_append_left (List.getElem?_eq_some_iff.1 there).1, there], thread⟩
  · intro owner member
    rw [view]
    rcases List.mem_append.1 member with member | member
    · have other := unowned owner member
      rw [if_neg other]
      refine ⟨?_, (attended.running owner member).2⟩
      unfold installOwner
      dsimp only
      rw [Function.update_of_ne other]
      exact (attended.running owner member).1
    · rw [List.mem_singleton.1 member, if_pos rfl]
      refine ⟨Function.update_self .., ?_⟩
      rintro coordinator ⟨⟩
      rfl
  · intro thread coordinator there alive
    rw [view] at there
    split at there
    · next here => exact ⟨_, List.mem_append_right _ (List.mem_singleton_self _), here.symm⟩
    · obtain ⟨owner, member, thread⟩ := attended.owned thread coordinator there alive
      exact ⟨owner, List.mem_append_left _ member, thread⟩
  · change ((driver.owners ++ [_]).map RunningOwner.thread).Nodup
    rw [List.map_append, List.nodup_append]
    refine ⟨attended.distinct, List.nodup_singleton _, ?_⟩
    rintro thread member other same rfl
    obtain ⟨owner, there, rfl⟩ := List.mem_map.1 member
    exact unowned owner there (List.mem_singleton.1 same)
  · intro other member
    obtain ⟨coordinator, there, detaching⟩ := attended.parked other member
    refine ⟨coordinator, ?_, detaching⟩
    rw [view, if_neg]
    · exact there
    · intro here
      rw [here, empty] at there
      cases there
  · intro thread number member
    rw [waiters] at member
    exact attended.waiterCommand thread number member
  · intro number thread there
    rw [waiters]
    exact attended.detachOnce number thread there

theorem Attended.attached (attended : Attended driver (attach.reply.toList ++ working))
    (command : ∀ command, attach.reply = some command → ∃ binding classification,
      driver.handled[command]? = some (.attach binding classification) ∧
        binding.handle.thread = attach.binding.handle.thread) :
    Attended (driver.attach crates attach).1 working := by
  have effect := @attach_effect crates driver attach
  generalize driver.attach crates attach = outcome at effect ⊢
  obtain ⟨next, result⟩ := outcome
  cases effect with
  | answered result events authorities =>
    exact (attended.answerAttach command result).congr rfl rfl rfl rfl rfl rfl
  | parked existing authorities there detaching =>
    exact (attended.park command there detaching).congr rfl rfl rfl rfl rfl rfl
  | installed authorities free =>
    have answered := attended.answerAttach command (.ok .installed)
    exact (@Attended.install _ attach _ answered free).congr rfl rfl rfl rfl rfl rfl

theorem swapIn_perm (rest : List Attach) : (swapIn rest).Perm rest := by
  unfold swapIn
  cases last : rest.getLast? with
  | none => rw [List.getLast?_eq_none_iff.1 last]
  | some attach =>
    obtain ⟨front, rfl⟩ := List.getLast?_eq_some_iff.1 last
    rw [List.dropLast_concat]
    exact (List.perm_append_singleton attach front).symm

/-- The attaches of a thread are taken out, and the others stay. -/
theorem takeParked_spec (thread : ThreadId) {fuel : ℕ} {parked : List Attach}
    (enough : parked.length ≤ fuel) :
    ((takeParked thread fuel parked).1 ++ (takeParked thread fuel parked).2).Perm parked ∧
      (∀ attach ∈ (takeParked thread fuel parked).2, attach.binding.handle.thread ≠ thread) := by
  induction fuel generalizing parked with
  | zero =>
    cases parked with
    | nil => exact ⟨.refl _, by simp [takeParked]⟩
    | cons attach rest => simp at enough
  | succ fuel ih =>
    cases parked with
    | nil => exact ⟨.refl _, by simp [takeParked]⟩
    | cons attach rest =>
      rw [List.length_cons] at enough
      unfold takeParked
      split
      · have shorter : (swapIn rest).length ≤ fuel := by
          rw [(swapIn_perm rest).length_eq]
          omega
        obtain ⟨perm, others⟩ := ih shorter
        exact ⟨(perm.trans (swapIn_perm rest)).cons attach, others⟩
      · next other =>
        obtain ⟨perm, others⟩ := ih (show rest.length ≤ fuel by omega)
        refine ⟨List.perm_middle.trans (perm.cons attach), ?_⟩
        intro other member
        rcases List.mem_cons.1 member with rfl | member
        · assumption
        · exact others other member

@[simp] theorem handled_attach : (driver.attach crates attach).1.handled = driver.handled := by
  have effect := @attach_effect crates driver attach
  generalize driver.attach crates attach = outcome at effect ⊢
  obtain ⟨next, result⟩ := outcome
  cases effect <;> rfl

/-- The owners that are left when one of them has exited. -/
theorem Attended.mem_eraseIdx_owners {index : ℕ} {owner : RunningOwner} (attended : Attended driver working)
    (there : driver.owners[index]? = some owner) (other : RunningOwner) :
    other ∈ driver.owners.eraseIdx index ↔
      other ∈ driver.owners ∧ other.thread ≠ owner.thread := by
  obtain ⟨inside, found⟩ := List.getElem?_eq_some_iff.1 there
  have parts : driver.owners =
      driver.owners.take index ++ owner :: driver.owners.drop (index + 1) := by
    rw [← found, List.getElem_cons_drop, List.take_append_drop]
  have distinct := attended.distinct
  rw [parts, List.map_append, List.map_cons, List.nodup_middle, List.nodup_cons,
    ← List.map_append, ← List.eraseIdx_eq_take_drop_succ] at distinct
  have split : other ∈ driver.owners ↔ other = owner ∨ other ∈ driver.owners.eraseIdx index := by
    rw [List.eraseIdx_eq_take_drop_succ, List.mem_append]
    conv_lhs => rw [parts]
    rw [List.mem_append, List.mem_cons]
    tauto
  constructor
  · intro member
    refine ⟨split.2 (.inr member), fun same => distinct.1 ?_⟩
    rw [← same]
    exact List.mem_map_of_mem member
  · rintro ⟨member, different⟩
    rcases split.1 member with rfl | member
    · exact absurd rfl different
    · exact member

theorem Attended.coordinator_set (attended : Attended driver working) {thread other : ThreadId}
    {pointer : ℕ} (slot : driver.slots thread = some pointer) (different : other ≠ thread)
    (changed : ThreadCoordinator) :
    ((driver.slots other).bind fun p => (driver.coordinators.set pointer changed)[p]?) =
      driver.coordinator other := by
  unfold ProjectEventDriver.coordinator
  cases there : driver.slots other with
  | none => rfl
  | some pointer' =>
    obtain ⟨first, found, thread₁⟩ := attended.installed thread pointer slot
    obtain ⟨second, found', thread₂⟩ := attended.installed other pointer' there
    have apart : pointer ≠ pointer' := by
      rintro rfl
      rw [found, Option.some_inj] at found'
      exact different (by rw [← thread₂, ← found', thread₁])
    rw [Option.bind_some, Option.bind_some, List.getElem?_set_ne apart]

/-- The slot of a thread is cleared after its owner has exited; the commands that wait for it are
answered, and the attaches that were parked for it are to be worked on. -/
theorem Attended.exitCleared (attended : Attended driver []) {index : ℕ} {owner : RunningOwner}
    (there : driver.owners[index]? = some owner) (changed : ThreadCoordinator)
    {retry kept : List Attach} (perm : (retry ++ kept).Perm driver.parked)
    (others : ∀ attach ∈ kept, attach.binding.handle.thread ≠ owner.thread) :
    Attended
      { driver with
        owners := driver.owners.eraseIdx index
        coordinators := driver.coordinators.set owner.coordinator changed
        slots := Function.update driver.slots owner.thread none
        replies := driver.replies ++ (driver.waiters owner.thread).map fun waiter => (waiter, .done)
        parked := kept } (retry.filterMap Attach.reply) := by
  have slot := (attended.running owner (List.mem_of_getElem? there)).1
  generalize result : ({ driver with
        owners := driver.owners.eraseIdx index
        coordinators := driver.coordinators.set owner.coordinator changed
        slots := Function.update driver.slots owner.thread none
        replies := driver.replies ++ (driver.waiters owner.thread).map fun waiter => (waiter, .done)
        parked := kept } : ProjectEventDriver) = next
  have slots : next.slots = Function.update driver.slots owner.thread none := by rw [← result]
  have coordinators : next.coordinators = driver.coordinators.set owner.coordinator changed := by
    rw [← result]
  have owners : next.owners = driver.owners.eraseIdx index := by rw [← result]
  have handled : next.handled = driver.handled := by rw [← result]
  have parked : next.parked = kept := by rw [← result]
  have cleared : next.coordinator owner.thread = none := by
    unfold ProjectEventDriver.coordinator
    rw [slots, Function.update_self]
    rfl
  have view (thread : ThreadId) (different : thread ≠ owner.thread) :
      next.coordinator thread = driver.coordinator thread := by
    rw [← attended.coordinator_set slot different changed]
    unfold ProjectEventDriver.coordinator
    rw [slots, coordinators, Function.update_of_ne different]
  have waitersHere : next.waiters owner.thread = [] := by
    unfold ProjectEventDriver.waiters
    rw [cleared]
  have waitersThere (thread : ThreadId) (different : thread ≠ owner.thread) :
      next.waiters thread = driver.waiters thread := by
    unfold ProjectEventDriver.waiters
    rw [view thread different]
  have replied (command : ℕ) : next.answers command =
      driver.answers command + (driver.waiters owner.thread).count command := by
    unfold answers
    rw [← result, List.map_append, List.count_append, List.map_map]
    simp [Function.comp_def]
  have commands (command : ℕ) : (retry.filterMap Attach.reply).count command +
      next.parkedCommands.count command = driver.parkedCommands.count command := by
    unfold parkedCommands
    rw [parked, ← List.count_append, ← List.filterMap_append]
    exact (perm.filterMap _).count_eq command
  have present : ∀ attach ∈ kept, attach ∈ driver.parked := fun attach member =>
    perm.mem_iff.1 (List.mem_append_right _ member)
  have retried : ∀ attach ∈ retry, attach ∈ driver.parked := fun attach member =>
    perm.mem_iff.1 (List.mem_append_left _ member)
  refine ⟨?_, ?_, ?_, ?_, ?_, ?_, ?_, ?_, ?_, ?_⟩
  · intro thread pointer found
    rw [slots] at found
    by_cases here : thread = owner.thread
    · rw [here, Function.update_self] at found
      cases found
    · rw [Function.update_of_ne here] at found
      obtain ⟨coordinator, stored, thread'⟩ := attended.installed thread pointer found
      refine ⟨coordinator, ?_, thread'⟩
      have seen := view thread here
      unfold ProjectEventDriver.coordinator at seen
      rw [slots, Function.update_of_ne here, found, Option.bind_some, Option.bind_some] at seen
      rw [seen, stored]
  · intro other member
    rw [owners, attended.mem_eraseIdx_owners there] at member
    rw [slots, Function.update_of_ne member.2, view _ member.2]
    exact attended.running other member.1
  · intro thread coordinator found alive
    by_cases here : thread = owner.thread
    · rw [here, cleared] at found
      cases found
    · rw [view thread here] at found
      obtain ⟨other, member, thread'⟩ := attended.owned thread coordinator found alive
      refine ⟨other, ?_, thread'⟩
      rw [owners, attended.mem_eraseIdx_owners there]
      exact ⟨member, by rwa [thread']⟩
  · rw [owners]
    exact attended.distinct.sublist ((List.eraseIdx_sublist _ _).map _)
  · intro attach member
    rw [parked] at member
    rw [view _ (others attach member)]
    exact attended.parked attach (present attach member)
  · intro attach member
    rw [parked] at member
    rw [handled]
    exact attended.parkedCommand attach (present attach member)
  · intro thread command member
    rw [handled]
    by_cases here : thread = owner.thread
    · rw [here, waitersHere] at member
      cases member
    · rw [waitersThere thread here] at member
      exact attended.waiterCommand thread command member
  · intro reply member
    rw [← result] at member
    rw [handled]
    rcases List.mem_append.1 member with member | member
    · exact attended.answered reply member
    · obtain ⟨waiter, waits, rfl⟩ := List.mem_map.1 member
      exact (List.getElem?_eq_some_iff.1 (attended.waiterCommand _ waiter waits)).1
  · intro command binding classification found
    rw [handled] at found
    have once := attended.attachOnce command binding classification found
    have notWaiting : (driver.waiters owner.thread).count command = 0 := by
      rw [List.count_eq_zero]
      intro waits
      rw [attended.waiterCommand _ command waits] at found
      cases found
    have moved := commands command
    rw [replied, notWaiting]
    rw [List.count_nil] at once
    omega
  · intro command thread found
    rw [handled] at found
    have once := attended.detachOnce command thread found
    have notRetried : (retry.filterMap Attach.reply).count command = 0 := by
      rw [List.count_eq_zero, List.mem_filterMap]
      rintro ⟨attach, member, waits⟩
      obtain ⟨binding, classification, found', -⟩ :=
        attended.parkedCommand attach (retried attach member) command waits
      rw [found] at found'
      cases found'
    rw [replied, notRetried]
    rw [List.count_nil] at once
    by_cases here : thread = owner.thread
    · rw [here] at once ⊢
      rw [waitersHere, List.count_nil]
      omega
    · have notWaiting : (driver.waiters owner.thread).count command = 0 := by
        rw [List.count_eq_zero]
        intro waits
        rw [attended.waiterCommand _ command waits, Option.some_inj] at found
        cases found
        exact here rfl
      rw [waitersThere thread here, notWaiting]
      omega

/-- A coordinator takes more waiters, or changes in nothing that the owners rest on. -/
theorem Attended.rephase {thread : ThreadId} {more : List ℕ}
    (attended : Attended driver (more ++ working))
    {pointer : ℕ} (slot : driver.slots thread = some pointer)
    {coordinator changed : ThreadCoordinator}
    (there : driver.coordinators[pointer]? = some coordinator)
    (binding : changed.binding = coordinator.binding)
    (failed : changed.isFailed = coordinator.isFailed)
    (detaching : coordinator.isDetaching = true → changed.isDetaching = true)
    (waiting : changed.waiters = coordinator.waiters ++ more)
    (commands : ∀ command ∈ more, driver.handled[command]? = some (.detach thread)) :
    Attended { driver with coordinators := driver.coordinators.set pointer changed } working := by
  have found : driver.coordinator thread = some coordinator := by
    unfold ProjectEventDriver.coordinator
    rw [slot, Option.bind_some, there]
  generalize result : ({ driver with coordinators := driver.coordinators.set pointer changed } :
    ProjectEventDriver) = next
  have slots : next.slots = driver.slots := by rw [← result]
  have coordinators : next.coordinators = driver.coordinators.set pointer changed := by
    rw [← result]
  have owners : next.owners = driver.owners := by rw [← result]
  have handled : next.handled = driver.handled := by rw [← result]
  have parked : next.parked = driver.parked := by rw [← result]
  have replies : next.replies = driver.replies := by rw [← result]
  have here : next.coordinator thread = some changed := by
    unfold ProjectEventDriver.coordinator
    rw [slots, slot, Option.bind_some, coordinators,
      List.getElem?_set_self (List.getElem?_eq_some_iff.1 there).1]
  have view (other : ThreadId) (different : other ≠ thread) :
      next.coordinator other = driver.coordinator other := by
    rw [← attended.coordinator_set slot different changed]
    unfold ProjectEventDriver.coordinator
    rw [slots, coordinators]
  have waitersHere : next.waiters thread = driver.waiters thread ++ more := by
    rw [waiters_eq here, waiters_eq found, waiting]
  have waitersThere (other : ThreadId) (different : other ≠ thread) :
      next.waiters other = driver.waiters other := by
    unfold ProjectEventDriver.waiters
    rw [view other different]
  have answers (command : ℕ) : next.answers command = driver.answers command := by
    unfold ProjectEventDriver.answers
    rw [replies]
  have parkedCommands : next.parkedCommands = driver.parkedCommands := by
    unfold ProjectEventDriver.parkedCommands
    rw [parked]
  refine ⟨?_, ?_, ?_, ?_, ?_, ?_, ?_, ?_, ?_, ?_⟩
  · intro other pointer' found'
    rw [slots] at found'
    obtain ⟨stored, there', thread'⟩ := attended.installed other pointer' found'
    by_cases same : pointer' = pointer
    · subst same
      rw [there, Option.some_inj] at there'
      refine ⟨changed, ?_, by rw [binding, there', thread']⟩
      rw [coordinators, List.getElem?_set_self (List.getElem?_eq_some_iff.1 there).1]
    · refine ⟨stored, ?_, thread'⟩
      rw [coordinators, List.getElem?_set_ne (Ne.symm same), there']
  · intro owner member
    rw [owners] at member
    rw [slots]
    refine ⟨(attended.running owner member).1, ?_⟩
    by_cases same : owner.thread = thread
    · rw [same, here]
      rintro stored ⟨⟩
      rw [failed]
      exact (attended.running owner member).2 coordinator (by rw [same, found])
    · rw [view _ same]
      exact (attended.running owner member).2
  · intro other stored found' alive
    rw [owners]
    by_cases same : other = thread
    · rw [same, here, Option.some_inj] at found'
      subst found'
      rw [same]
      exact attended.owned thread coordinator found (by rw [← failed, alive])
    · rw [view other same] at found'
      exact attended.owned other stored found' alive
  · rw [owners]
    exact attended.distinct
  · intro attach member
    rw [parked] at member
    obtain ⟨stored, found', detaching'⟩ := attended.parked attach member
    by_cases same : attach.binding.handle.thread = thread
    · rw [same, found, Option.some_inj] at found'
      subst found'
      exact ⟨changed, by rw [same, here], detaching detaching'⟩
    · exact ⟨stored, by rw [view _ same, found'], detaching'⟩
  · intro attach member
    rw [parked] at member
    rw [handled]
    exact attended.parkedCommand attach member
  · intro other command member
    rw [handled]
    by_cases same : other = thread
    · subst same
      rw [waitersHere] at member
      rcases List.mem_append.1 member with member | member
      · exact attended.waiterCommand other command member
      · exact commands command member
    · rw [waitersThere other same] at member
      exact attended.waiterCommand other command member
  · rw [replies, handled]
    exact attended.answered
  · intro command binding classification found'
    rw [handled] at found'
    have once := attended.attachOnce command binding classification found'
    have apart : more.count command = 0 := by
      rw [List.count_eq_zero]
      intro member
      rw [commands command member] at found'
      cases found'
    rw [List.count_append, apart] at once
    rw [answers, parkedCommands]
    omega
  · intro command other found'
    rw [handled] at found'
    have once := attended.detachOnce command other found'
    rw [List.count_append] at once
    rw [answers]
    by_cases same : other = thread
    · subst same
      rw [waitersHere, List.count_append]
      omega
    · have apart : more.count command = 0 := by
        rw [List.count_eq_zero]
        intro member
        rw [commands command member, Option.some_inj] at found'
        cases found'
        exact same rfl
      rw [waitersThere other same]
      omega

/-- A failed coordinator stays installed after its owner has exited. -/
theorem Attended.exitRetained (attended : Attended driver []) {index : ℕ} {owner : RunningOwner}
    (there : driver.owners[index]? = some owner) {coordinator changed : ThreadCoordinator}
    (stored : driver.coordinators[owner.coordinator]? = some coordinator)
    (live : coordinator.isDetaching = false) (binding : changed.binding = coordinator.binding)
    (failed : changed.isFailed = true) (settled : changed.isDetaching = false) :
    Attended
      { driver with
        owners := driver.owners.eraseIdx index
        coordinators := driver.coordinators.set owner.coordinator changed } [] := by
  have slot := (attended.running owner (List.mem_of_getElem? there)).1
  have found : driver.coordinator owner.thread = some coordinator := by
    unfold ProjectEventDriver.coordinator
    rw [slot, Option.bind_some, stored]
  generalize result : ({ driver with
    owners := driver.owners.eraseIdx index
    coordinators := driver.coordinators.set owner.coordinator changed } :
    ProjectEventDriver) = next
  have slots : next.slots = driver.slots := by rw [← result]
  have coordinators : next.coordinators = driver.coordinators.set owner.coordinator changed := by
    rw [← result]
  have owners : next.owners = driver.owners.eraseIdx index := by rw [← result]
  have handled : next.handled = driver.handled := by rw [← result]
  have parked : next.parked = driver.parked := by rw [← result]
  have replies : next.replies = driver.replies := by rw [← result]
  have here : next.coordinator owner.thread = some changed := by
    unfold ProjectEventDriver.coordinator
    rw [slots, slot, Option.bind_some, coordinators,
      List.getElem?_set_self (List.getElem?_eq_some_iff.1 stored).1]
  have view (other : ThreadId) (different : other ≠ owner.thread) :
      next.coordinator other = driver.coordinator other := by
    rw [← attended.coordinator_set slot different changed]
    unfold ProjectEventDriver.coordinator
    rw [slots, coordinators]
  have waiters (other : ThreadId) : next.waiters other = driver.waiters other := by
    by_cases same : other = owner.thread
    · rw [same, waiters_eq here, waiters_eq found, waiters_of_not_detaching live,
        waiters_of_not_detaching settled]
    · unfold ProjectEventDriver.waiters
      rw [view other same]
  have apart : ∀ attach ∈ driver.parked, attach.binding.handle.thread ≠ owner.thread := by
    intro attach member same
    obtain ⟨stored', found', detaching⟩ := attended.parked attach member
    rw [same, found, Option.some_inj] at found'
    subst found'
    rw [live] at detaching
    cases detaching
  refine ⟨?_, ?_, ?_, ?_, ?_, ?_, ?_, ?_, ?_, ?_⟩
  · intro other pointer' found'
    rw [slots] at found'
    obtain ⟨stored', there', thread'⟩ := attended.installed other pointer' found'
    by_cases same : pointer' = owner.coordinator
    · subst same
      rw [stored, Option.some_inj] at there'
      refine ⟨changed, ?_, by rw [binding, there', thread']⟩
      rw [coordinators, List.getElem?_set_self (List.getElem?_eq_some_iff.1 stored).1]
    · refine ⟨stored', ?_, thread'⟩
      rw [coordinators, List.getElem?_set_ne (Ne.symm same), there']
  · intro other member
    rw [owners, attended.mem_eraseIdx_owners there] at member
    rw [slots, view _ member.2]
    exact attended.running other member.1
  · intro thread stored' found' alive
    by_cases same : thread = owner.thread
    · rw [same, here, Option.some_inj] at found'
      subst found'
      rw [failed] at alive
      cases alive
    · rw [view thread same] at found'
      obtain ⟨other, member, thread'⟩ := attended.owned thread stored' found' alive
      refine ⟨other, ?_, thread'⟩
      rw [owners, attended.mem_eraseIdx_owners there]
      exact ⟨member, by rwa [thread']⟩
  · rw [owners]
    exact attended.distinct.sublist ((List.eraseIdx_sublist _ _).map _)
  · intro attach member
    rw [parked] at member
    rw [view _ (apart attach member)]
    exact attended.parked attach member
  · rw [parked, handled]
    exact attended.parkedCommand
  · intro thread command member
    rw [waiters] at member
    rw [handled]
    exact attended.waiterCommand thread command member
  · rw [replies, handled]
    exact attended.answered
  · rw [handled]
    unfold answers parkedCommands
    rw [replies, parked]
    exact attended.attachOnce
  · intro command thread found'
    rw [handled] at found'
    rw [waiters]
    unfold answers
    rw [replies]
    exact attended.detachOnce command thread found'

/-- The slot of a thread whose coordinator has failed is cleared. -/
theorem Attended.clearFailed (attended : Attended driver working) {thread : ThreadId}
    {coordinator : ThreadCoordinator} (found : driver.coordinator thread = some coordinator)
    (failed : coordinator.isFailed = true) :
    Attended { driver with slots := Function.update driver.slots thread none } working := by
  have settled : coordinator.isDetaching = false := by
    unfold ThreadCoordinator.isFailed at failed
    unfold ThreadCoordinator.isDetaching
    cases owner : coordinator.owner with
    | detaching waiters =>
      rw [owner] at failed
      cases failed
    | live => rfl
    | failed reason => rfl
  have cleared : ({ driver with slots := Function.update driver.slots thread none } :
      ProjectEventDriver).coordinator thread = none := by
    unfold ProjectEventDriver.coordinator
    dsimp only
    rw [Function.update_self]
    rfl
  have view (other : ThreadId) (different : other ≠ thread) :
      ({ driver with slots := Function.update driver.slots thread none } :
        ProjectEventDriver).coordinator other = driver.coordinator other := by
    unfold ProjectEventDriver.coordinator
    dsimp only
    rw [Function.update_of_ne different]
  have waiters (other : ThreadId) :
      ({ driver with slots := Function.update driver.slots thread none } :
        ProjectEventDriver).waiters other = driver.waiters other := by
    by_cases same : other = thread
    · subst same
      rw [waiters_eq found, waiters_of_not_detaching settled]
      unfold ProjectEventDriver.waiters
      rw [cleared]
    · unfold ProjectEventDriver.waiters
      rw [view other same]
  refine ⟨?_, ?_, ?_, attended.distinct, ?_, attended.parkedCommand, ?_, attended.answered,
    attended.attachOnce, ?_⟩
  · intro other pointer slot
    dsimp only at slot
    by_cases same : other = thread
    · rw [same, Function.update_self] at slot
      cases slot
    · rw [Function.update_of_ne same] at slot
      exact attended.installed other pointer slot
  · intro owner member
    have apart : owner.thread ≠ thread := by
      intro same
      have alive := (attended.running owner member).2 coordinator (by rw [same, found])
      rw [failed] at alive
      cases alive
    rw [view _ apart]
    dsimp only
    rw [Function.update_of_ne apart]
    exact attended.running owner member
  · intro other stored found' alive
    by_cases same : other = thread
    · rw [same, cleared] at found'
      cases found'
    · rw [view other same] at found'
      exact attended.owned other stored found' alive
  · intro attach member
    obtain ⟨stored, found', detaching⟩ := attended.parked attach member
    have apart : attach.binding.handle.thread ≠ thread := by
      intro same
      rw [same, found, Option.some_inj] at found'
      subst found'
      rw [settled] at detaching
      cases detaching
    exact ⟨stored, by rw [view _ apart, found'], detaching⟩
  · intro other command member
    rw [waiters] at member
    exact attended.waiterCommand other command member
  · intro command other found'
    rw [waiters]
    exact attended.detachOnce command other found'

end Attended

end ProjectEventDriver

end Giskard
