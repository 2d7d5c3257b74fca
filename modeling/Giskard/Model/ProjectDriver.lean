import Mathlib
import Giskard.Model.Admission

/-!
# The event driver of a project

The driver of a project's harness owns the event forwarders of the project's threads and admits
native threads one at a time. It takes commands and discoveries only while no admission is in
flight. An attach of a thread whose owner is detaching is parked until that owner exits. A link
that no caller waits for and that cannot be admitted is kept in the deferred queue, one entry for
each native id.

A command is answered through a channel of its own; the answers are a list of the command's
position and its reply. A coordinator is its position in the list of all coordinators, which is
what the code compares. A link carries the position of the command that brought it. What the
environment decides is part of a step: what an admission returns, when and why an owner exits, and
what the store says about a parent's file. The end of the driver is left out.

SOURCE: crates/giskard-server/src/registry/driver.rs, thread.rs, event_forwarder.rs.
-/

set_option autoImplicit false

namespace Giskard

/-! ## Coordinators -/

/-- SOURCE: event_forwarder.rs:659-665. -/
inductive ForwarderExitReason where
  | streamEndedRecovered
  | streamEndedWithoutTurn
  | persistenceBlocked
  | eventPreparationFailed
  | runtimeAuthorityReplaced
  deriving DecidableEq

/-- SOURCE: event_forwarder.rs:672-680. -/
def forwarderExitReasonLabel : ForwarderExitReason → String
  | .streamEndedRecovered => "stream_ended_recovered"
  | .streamEndedWithoutTurn => "stream_ended_without_turn"
  | .persistenceBlocked => "persistence_blocked"
  | .eventPreparationFailed => "event_preparation_failed"
  | .runtimeAuthorityReplaced => "runtime_authority_replaced"

/-- The phase of a thread's owner; a waiter is the command it came with. SOURCE: thread.rs:46-56. -/
inductive OwnerPhase where
  | live
  | detaching (waiters : List ℕ)
  | failed (reason : String)

/-- SOURCE: thread.rs:76-80. -/
structure ThreadCoordinator where
  binding : LoadedThreadBinding
  classification : ClassificationPhase
  owner : OwnerPhase

namespace ThreadCoordinator

/-- SOURCE: thread.rs:182-184. -/
def isDetaching (coordinator : ThreadCoordinator) : Bool :=
  match coordinator.owner with
  | .detaching _ => true
  | _ => false

/-- SOURCE: thread.rs:186-188. -/
def isFailed (coordinator : ThreadCoordinator) : Bool :=
  match coordinator.owner with
  | .failed _ => true
  | _ => false

/-- SOURCE: thread.rs:149-180. -/
def reusableHandle (crates : Crates) (coordinator : ThreadCoordinator) (project : ProjectId)
    (thread : ThreadId) (nativeThreadId : Option String) (classification : ClassificationPhase) :
    Except HarnessError ThreadHandle :=
  if coordinator.binding.projectId ≠ project ∨ coordinator.binding.handle.thread ≠ thread ∨
      (nativeThreadId.any fun native => native ≠ coordinator.binding.handle.harnessThreadId) ∨
      coordinator.classification ≠ classification then
    .error (.protocol
      s!"thread {crates.ulid.print thread.ulid} already has an incompatible event owner")
  else match coordinator.owner with
    | .live => .ok coordinator.binding.handle
    | .failed reason =>
      .error (.protocol s!"thread {crates.ulid.print thread.ulid} event owner failed: {reason}")
    | .detaching _ =>
      .error (.protocol s!"thread {crates.ulid.print thread.ulid} event owner is not reusable")

/-- SOURCE: thread.rs:190-209; without a coordinator the owner has failed already, and the reply
comes back. -/
def requestDetach (coordinator : ThreadCoordinator) (reply : ℕ) : Option ThreadCoordinator :=
  match coordinator.owner with
  | .live => some { coordinator with owner := .detaching [reply] }
  | .detaching waiters => some { coordinator with owner := .detaching (waiters ++ [reply]) }
  | .failed _ => none

end ThreadCoordinator

/-- SOURCE: thread.rs:58-62. -/
inductive OwnerExitOutcome where
  | detached (waiters : List ℕ)
  | retainFailed
  | clearFailed

/-- SOURCE: thread.rs:211-229. -/
def ThreadCoordinator.ownerExited (coordinator : ThreadCoordinator) (reason : ForwarderExitReason) :
    ThreadCoordinator × OwnerExitOutcome :=
  match coordinator.owner with
  | .detaching waiters => ({ coordinator with owner := .failed "detached" }, .detached waiters)
  | .live =>
    ({ coordinator with owner := .failed (forwarderExitReasonLabel reason) },
      if reason = .persistenceBlocked then .retainFailed else .clearFailed)
  | .failed _ => (coordinator, .retainFailed)

/-! ## Commands, replies and events -/

/-- SOURCE: driver.rs:250-253. -/
inductive AttachOutcome where
  | installed
  | reused (handle : ThreadHandle)

/-- An attach; the reply is the command that waits for it, if it is not the driver's own.
SOURCE: driver.rs:255-259. -/
structure Attach where
  binding : LoadedThreadBinding
  classification : ClassificationPhase
  reply : Option ℕ

/-- SOURCE: driver.rs:270-283, without the replies; of a link it says whether a caller waits. -/
inductive DriverCommand where
  | attach (binding : LoadedThreadBinding) (classification : ClassificationPhase)
  | detach (thread : ThreadId)
  | link (link : Link) (waited : Bool)
  | quiesce
  | resume

/-- A link with the command that brought it. SOURCE: driver.rs:261-268. -/
structure DriverLink where
  link : Link
  serial : ℕ
  waited : Bool

/-- An admission that the driver can hold on to. SOURCE: admission.rs:20-23. -/
inductive DriverAdmission where
  | discovered (record : ThreadDiscovered)
  | link (link : DriverLink)

/-- SOURCE: admission.rs:26-31. -/
def DriverAdmission.nativeThreadId : DriverAdmission → String
  | .discovered record => record.harnessThreadId
  | .link source => source.link.info.nativeThreadId

/-- SOURCE: driver.rs:301-304. -/
structure DeferredAdmission where
  admission : DriverAdmission
  attempts : ℕ

/-- The answer to a command. -/
inductive DriverReply where
  | attach (result : Except HarnessError AttachOutcome)
  | link (result : Except HarnessError (Option ThreadId))
  | done

/-- SOURCE: driver.rs:76-84. -/
inductive DeferReason where
  | quiesced
  | parentNotLive
  | parentUnreadable (error : String)

/-- SOURCE: driver.rs:86-101. -/
inductive RefusedSubject where
  | attachWhileQuiesced (thread : ThreadId)
  | linkWhileQuiesced (link : DriverLink)
  | linkWithoutLiveParent (link : DriverLink)

/-- SOURCE: driver.rs:103-113. -/
inductive OwnerExitDisposition where
  | detached
  | teardownExit
  | failedRemoved
  | retained

/-- A decision of the driver; an event about a link carries the link. SOURCE: driver.rs:37-74. -/
inductive DriverEvent where
  | discoveryFinished (record : ThreadDiscovered) (attempts : ℕ)
      (outcome : Except HarnessError (Option ThreadId))
  | linkFinished (link : DriverLink) (attempts : ℕ)
      (outcome : Except HarnessError (Option ThreadId))
  | linkDeferred (link : DriverLink) (reason : DeferReason)
  | linkDropped (link : DriverLink)
  | refused (subject : RefusedSubject)
  | ownerExited (thread : ThreadId) (reason : ForwarderExitReason)
      (disposition : OwnerExitDisposition)

/-- A forwarder that runs, with its coordinator. SOURCE: driver.rs:315-319. -/
structure RunningOwner where
  thread : ThreadId
  coordinator : ℕ

/-- What the store says about a parent's file. -/
inductive ParentFile where
  | present
  | absent
  | unreadable (error : PersistError)

/-- The driver, with the part of the registry that it changes: the project of each thread that is
known, the coordinator installed for it, and all coordinators. The answers, the decisions and the
commands are in the order in which they were made. SOURCE: driver.rs:321-336. -/
structure ProjectEventDriver where
  projectId : ProjectId
  harnessName : String
  harnessAlive : Bool
  owners : List RunningOwner
  parked : List Attach
  admission : Option (DriverAdmission × ℕ)
  deferred : List DeferredAdmission
  quiesced : Bool
  authorities : ThreadId → Option ProjectId
  slots : ThreadId → Option ℕ
  coordinators : List ThreadCoordinator
  replies : List (ℕ × DriverReply)
  observed : List DriverEvent
  handled : List DriverCommand

namespace ProjectEventDriver

variable (crates : Crates) (driver : ProjectEventDriver)

/-- The coordinator installed for a thread. SOURCE: thread.rs:345-347. -/
def coordinator (thread : ThreadId) : Option ThreadCoordinator :=
  (driver.slots thread).bind fun pointer => driver.coordinators[pointer]?

/-- SOURCE: driver.rs:508-512. -/
def observe (event : DriverEvent) : ProjectEventDriver :=
  { driver with observed := driver.observed ++ [event] }

/-- Answer a command. -/
def send (command : ℕ) (reply : DriverReply) : ProjectEventDriver :=
  { driver with replies := driver.replies ++ [(command, reply)] }

/-- Answer the command that waits for an attach, if one does. -/
def sendAttach (attach : Attach) (result : Except HarnessError AttachOutcome) :
    ProjectEventDriver × Option (Except HarnessError AttachOutcome) :=
  match attach.reply with
  | some command => (driver.send command (.attach result), some result)
  | none => (driver, some result)

/-! ## Attaching -/

/-- SOURCE: driver.rs:641-694. -/
def installOwner (attach : Attach) : ProjectEventDriver :=
  let thread := attach.binding.handle.thread
  let pointer := driver.coordinators.length
  { driver with
    coordinators := driver.coordinators ++ [⟨attach.binding, attach.classification, .live⟩]
    slots := Function.update driver.slots thread (some pointer)
    owners := driver.owners ++ [⟨thread, pointer⟩] }

/-- SOURCE: driver.rs:610-697, from the thread's authority on. -/
def attachThread (attach : Attach) :
    ProjectEventDriver × Option (Except HarnessError AttachOutcome) :=
  let thread := attach.binding.handle.thread
  let project := attach.binding.projectId
  match driver.coordinator thread with
  | some existing =>
    if existing.isDetaching then ({ driver with parked := driver.parked ++ [attach] }, none)
    else
      driver.sendAttach attach
        ((existing.reusableHandle crates project thread
          (some attach.binding.handle.harnessThreadId) attach.classification).map .reused)
  | none =>
    if !driver.harnessAlive then
      driver.sendAttach attach (.error (.protocol "project harness is gone"))
    else if (driver.slots thread).isSome then
      driver.sendAttach attach (.error (.protocol
        (s!"thread {crates.ulid.print thread.ulid} event owner installation conflicted with an " ++
          "existing coordinator")))
    else (driver.installOwner attach).sendAttach attach (.ok .installed)

/-- What an attach does, and the result that is sent, if it is not parked.
SOURCE: driver.rs:581-697. -/
def attach (attach : Attach) : ProjectEventDriver × Option (Except HarnessError AttachOutcome) :=
  let thread := attach.binding.handle.thread
  let project := attach.binding.projectId
  if driver.quiesced then
    let (driver, result) :=
      driver.sendAttach attach (.error (.protocol "project is being deleted"))
    (driver.observe (.refused (.attachWhileQuiesced thread)), result)
  else if project ≠ driver.projectId then
    driver.sendAttach attach (.error (.protocol
      (s!"project {crates.ulid.print driver.projectId.ulid} event driver cannot attach thread " ++
        s!"{crates.ulid.print thread.ulid} from project {crates.ulid.print project.ulid}")))
  else if attach.binding.harness ≠ driver.harnessName then
    driver.sendAttach attach (.error (.protocol
      (s!"harness {driver.harnessName} event driver cannot attach thread " ++
        s!"{crates.ulid.print thread.ulid} of harness {attach.binding.harness}")))
  else match driver.authorities thread with
    | some existing =>
      if existing ≠ project then
        driver.sendAttach attach (.error (.protocol
          (s!"thread {crates.ulid.print thread.ulid} is already associated with project " ++
            s!"{crates.ulid.print existing.ulid}, not {crates.ulid.print project.ulid}")))
      else driver.attachThread crates attach
    | none =>
      { driver with authorities := Function.update driver.authorities thread (some project) }
        |>.attachThread crates attach

/-! ## The deferred queue -/

/-- The newer admission, unless a discovery would take the place of a link.
SOURCE: driver.rs:977-986. -/
def newerAdmission (existing admission : DriverAdmission) : DriverAdmission :=
  match existing, admission with
  | .link _, .discovered _ => existing
  | _, _ => admission

/-- SOURCE: driver.rs:964-991. -/
def queueEntries (admission : DriverAdmission) (attempts : ℕ) :
    List DeferredAdmission → List DeferredAdmission
  | [] => [⟨admission, attempts⟩]
  | entry :: rest =>
    if entry.admission.nativeThreadId = admission.nativeThreadId then
      ⟨newerAdmission entry.admission admission, max entry.attempts attempts⟩ :: rest
    else entry :: queueEntries admission attempts rest

/-- SOURCE: driver.rs:964-991; the warning about a long queue is left out. -/
def queueDeferred (admission : DriverAdmission) (attempts : ℕ) : ProjectEventDriver :=
  { driver with deferred := queueEntries admission attempts driver.deferred }

/-- SOURCE: driver.rs:959-962. -/
def deferAdmission (admission : DriverAdmission) (attempts : ℕ) : ProjectEventDriver :=
  driver.queueDeferred admission (min (attempts + 1) (2 ^ 32 - 1))

/-- Keep a link that no caller waits for. -/
def deferLink (link : DriverLink) (attempts : ℕ) (reason : DeferReason) : ProjectEventDriver :=
  (driver.queueDeferred (.link link) attempts).observe (.linkDeferred link reason)

/-- Whether the parent of a link has a live owner. SOURCE: driver.rs:733-741. -/
def parentIsLive (parent : ThreadId) : Bool :=
  match driver.coordinator parent with
  | some coordinator => !coordinator.isDetaching && !coordinator.isFailed
  | none => false

/-- SOURCE: driver.rs:699-848. -/
def beginLink (parentFile : ThreadId → ParentFile) (link : DriverLink) (attempts : ℕ) :
    ProjectEventDriver :=
  if driver.quiesced then
    if link.waited then
      (driver.send link.serial (.link (.error (.protocol "project is being deleted")))).observe
        (.refused (.linkWhileQuiesced link))
    else driver.deferLink link attempts .quiesced
  else if !driver.parentIsLive link.link.parentThreadId then
    if link.waited then
      (driver.send link.serial (.link (.ok none))).observe
        (.refused (.linkWithoutLiveParent link))
    else match parentFile link.link.parentThreadId with
      | .present => driver.deferLink link attempts .parentNotLive
      | .absent => driver.observe (.linkDropped link)
      | .unreadable error => driver.deferLink link attempts (.parentUnreadable error.toString)
  else if !driver.harnessAlive then
    if link.waited then
      driver.send link.serial (.link (.error (.protocol "project harness is gone")))
    else driver
  else { driver with admission := some (.link link, attempts) }

/-- SOURCE: driver.rs:850-876. -/
def beginDiscovery (record : ThreadDiscovered) (attempts : ℕ) : ProjectEventDriver :=
  if driver.harnessAlive then { driver with admission := some (.discovered record, attempts) }
  else driver

/-- The loop of `start_deferred`; the store is asked about a parent at each of its turns.
SOURCE: driver.rs:1008-1021. -/
def startDeferredFrom (parentFile : ℕ → ThreadId → ParentFile) :
    ℕ → ProjectEventDriver → ProjectEventDriver
  | 0, driver => driver
  | budget + 1, driver =>
    if driver.quiesced || driver.admission.isSome then driver
    else match driver.deferred with
      | [] => driver
      | entry :: rest =>
        let driver := { driver with deferred := rest }
        startDeferredFrom parentFile budget (match entry.admission with
          | .discovered record => driver.beginDiscovery record entry.attempts
          | .link link => driver.beginLink (parentFile budget) link entry.attempts)

/-- SOURCE: driver.rs:999-1013. -/
def startDeferred (parentFile : ℕ → ThreadId → ParentFile) : ProjectEventDriver :=
  startDeferredFrom parentFile driver.deferred.length driver

/-! ## Admissions -/

/-- SOURCE: driver.rs:914-957. -/
def finishAdmissionReply (result : Except HarnessError (Option ThreadId))
    (source : DriverAdmission) (attempts : ℕ) : ProjectEventDriver :=
  match source with
  | .discovered record =>
    let driver := match result with
      | .error _ => driver.deferAdmission (.discovered record) attempts
      | .ok _ => driver
    driver.observe (.discoveryFinished record attempts result)
  | .link link =>
    let driver := if link.waited then driver.send link.serial (.link result)
      else match result with
        | .error _ => driver.deferAdmission (.link link) attempts
        | .ok _ => driver
    driver.observe (.linkFinished link attempts result)

/-- The thread that an admission reports, once the thread it admitted is attached.
SOURCE: driver.rs:882-908. -/
def attachAdmitted : Except HarnessError (Option Admitted) →
    ProjectEventDriver × Except HarnessError (Option ThreadId)
  | .ok (some admitted) =>
    match driver.attach crates ⟨admitted.binding, admitted.classification, none⟩ with
    | (driver, some (.error error)) => (driver, .error error)
    | (driver, _) =>
      (driver, .ok (if admitted.classification ≠ .orphan then some admitted.threadId else none))
  | .ok none => (driver, .ok none)
  | .error error => (driver, .error error)

/-- SOURCE: driver.rs:878-912. -/
def finishAdmission (parentFile : ℕ → ThreadId → ParentFile)
    (result : Except HarnessError (Option Admitted)) : ProjectEventDriver :=
  match driver.admission with
  | none => driver
  | some (source, attempts) =>
    let (driver, result) := { driver with admission := none }.attachAdmitted crates result
    let driver := driver.finishAdmissionReply result source attempts
    match result with
    | .ok _ => driver.startDeferred parentFile
    | .error _ => driver

/-! ## Detaching -/

/-- What `swap_remove` leaves of the attaches from an index on: the last one takes the place of the
one that was removed. -/
def swapIn (rest : List Attach) : List Attach :=
  match rest.getLast? with
  | none => []
  | some last => last :: rest.dropLast

/-- The attaches of a thread, in the order in which the loop of `retry_parked` takes them out, and
the others. Each turn leaves fewer attaches from the index on. SOURCE: driver.rs:1079-1092. -/
def takeParked (thread : ThreadId) : ℕ → List Attach → List Attach × List Attach
  | 0, parked => ([], parked)
  | _ + 1, [] => ([], [])
  | fuel + 1, attach :: rest =>
    if attach.binding.handle.thread = thread then
      let (retry, kept) := takeParked thread fuel (swapIn rest)
      (attach :: retry, kept)
    else
      let (retry, kept) := takeParked thread fuel rest
      (retry, attach :: kept)

/-- SOURCE: driver.rs:1079-1092. -/
def retryParked (thread : ThreadId) : ProjectEventDriver :=
  let (retry, kept) := takeParked thread driver.parked.length driver.parked
  retry.foldl (fun driver attach => (driver.attach crates attach).1) { driver with parked := kept }

/-- Clear the slot of a thread if it holds this coordinator. SOURCE: thread.rs:363-374. -/
def clearCoordinatorIf (thread : ThreadId) (pointer : ℕ) : ProjectEventDriver :=
  if driver.slots thread = some pointer then
    { driver with slots := Function.update driver.slots thread none }
  else driver

/-- SOURCE: driver.rs:1015-1034. -/
def detach (parentFile : ℕ → ThreadId → ParentFile) (thread : ThreadId) (reply : ℕ) :
    ProjectEventDriver :=
  match driver.slots thread with
  | none => (driver.send reply .done).startDeferred parentFile
  | some pointer => match driver.coordinators[pointer]? with
    | none => driver
    | some coordinator => match coordinator.requestDetach reply with
      | some detaching =>
        { driver with coordinators := driver.coordinators.set pointer detaching }
      | none =>
        (((driver.clearCoordinatorIf thread pointer).send reply .done).retryParked crates
          thread).startDeferred parentFile

/-- SOURCE: driver.rs:495-497. -/
def isTeardownExit (quiesced : Bool) (reason : ForwarderExitReason) : Bool :=
  quiesced && reason = .streamEndedWithoutTurn

/-- SOURCE: driver.rs:1036-1077. -/
def ownerExited (parentFile : ℕ → ThreadId → ParentFile) (owner : RunningOwner)
    (reason : ForwarderExitReason) : ProjectEventDriver :=
  match driver.coordinators[owner.coordinator]? with
  | none => driver
  | some coordinator =>
    let (coordinator, outcome) := coordinator.ownerExited reason
    let driver :=
      { driver with coordinators := driver.coordinators.set owner.coordinator coordinator }
    let driver := match outcome with
      | .detached waiters =>
        let driver := driver.clearCoordinatorIf owner.thread owner.coordinator
        let driver := waiters.foldl (fun sender waiter => send sender waiter .done) driver
        (driver.retryParked crates owner.thread).observe (.ownerExited owner.thread reason .detached)
      | .clearFailed =>
        if driver.slots owner.thread = some owner.coordinator then
          (driver.clearCoordinatorIf owner.thread owner.coordinator).observe
            (.ownerExited owner.thread reason
              (if isTeardownExit driver.quiesced reason then .teardownExit else .failedRemoved))
        else driver
      | .retainFailed => driver.observe (.ownerExited owner.thread reason .retained)
    driver.startDeferred parentFile

/-! ## Steps -/

/-- What happens next: a command or a discovery is taken, the admission in flight returns, an owner
exits, or, outside the driver, a thread becomes known, an orphan's coordinator is classified, or
the harness goes away. -/
inductive Choice where
  | command (command : DriverCommand) (parentFile : ℕ → ThreadId → ParentFile)
  | discovery (record : ThreadDiscovered)
  | admissionFinished (result : Except HarnessError (Option Admitted))
      (parentFile : ℕ → ThreadId → ParentFile)
  | ownerExited (index : ℕ) (reason : ForwarderExitReason)
      (parentFile : ℕ → ThreadId → ParentFile)
  | interned (thread : ThreadId) (project : ProjectId)
  | classified (thread : ThreadId)
  | harnessGone

/-- SOURCE: driver.rs:517-541. -/
def handleCommand (parentFile : ℕ → ThreadId → ParentFile) (command : DriverCommand) :
    ProjectEventDriver :=
  let serial := driver.handled.length
  let driver := { driver with handled := driver.handled ++ [command] }
  match command with
  | .attach binding classification =>
    (driver.attach crates ⟨binding, classification, some serial⟩).1.startDeferred parentFile
  | .detach thread => driver.detach crates parentFile thread serial
  | .link link waited => driver.beginLink (parentFile 0) ⟨link, serial, waited⟩ 0
  | .quiesce => { driver with quiesced := true }.send serial .done
  | .resume => ({ driver with quiesced := false }.send serial .done).startDeferred parentFile

/-- An orphan's coordinator becomes a sub-agent's. SOURCE: thread.rs:134-147. -/
def classifyCoordinator (thread : ThreadId) : ProjectEventDriver :=
  match driver.slots thread with
  | none => driver
  | some pointer =>
    { driver with
      coordinators := driver.coordinators.modify pointer fun coordinator =>
        if coordinator.classification = .orphan then
          { coordinator with classification := .subagent }
        else coordinator }

/-- One turn of the driver's loop. A branch whose guard does not hold is not taken.
SOURCE: driver.rs:514-561. -/
def step : Choice → ProjectEventDriver
  | .command command parentFile =>
    if driver.admission.isNone then driver.handleCommand crates parentFile command else driver
  | .discovery record =>
    if !driver.quiesced && driver.admission.isNone then driver.beginDiscovery record 0 else driver
  | .admissionFinished result parentFile => driver.finishAdmission crates parentFile result
  | .ownerExited index reason parentFile =>
    match driver.owners[index]? with
    | none => driver
    | some owner =>
      { driver with owners := driver.owners.eraseIdx index }.ownerExited crates parentFile owner
        reason
  | .interned thread project =>
    match driver.authorities thread with
    | some _ => driver
    | none => { driver with authorities := Function.update driver.authorities thread (some project) }
  | .classified thread => driver.classifyCoordinator thread
  | .harnessGone => { driver with harnessAlive := false }

/-- A new driver, in a registry whose threads may be known already. SOURCE: driver.rs:459-473. -/
def new (projectId : ProjectId) (harnessName : String)
    (authorities : ThreadId → Option ProjectId) : ProjectEventDriver where
  projectId := projectId
  harnessName := harnessName
  harnessAlive := true
  owners := []
  parked := []
  admission := none
  deferred := []
  quiesced := false
  authorities := authorities
  slots := fun _ => none
  coordinators := []
  replies := []
  observed := []
  handled := []

end ProjectEventDriver

end Giskard
