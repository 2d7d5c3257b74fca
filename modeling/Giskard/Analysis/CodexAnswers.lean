import Mathlib
import Giskard.Model.CodexTransport
import Giskard.Analysis.EventLogReaders

/-!
# Every answer reaches its own caller

The part of the transport that correlates answers with requests is told apart as a desk: the map
of the waiters, the futures with their channels, and the waiters that a stopping task has yet to
tell. A step of the transport is at most one step of the desk. The numbers of the futures differ, a
waiter in the map belongs to a future that still waits, and a future that waits is in the map, is
about to be told, or has its answer.
-/

set_option autoImplicit false

namespace Giskard.Codex

open Foundation (IndexMap Schedule.run Schedule.run_preserves)

variable {V N R : Type}

/-! ## Futures -/

namespace RequestFuture

/-- The id that a future waits for an answer to. -/
def awaits : RequestFuture V → Option RequestId
  | .registered id _ _ => some id
  | .queued id => some id
  | _ => none

/-- A future that has not registered. -/
def Early : RequestFuture V → Prop
  | .fresh => True
  | .numbered _ _ _ => True
  | _ => False

/-- A future that is over. -/
def Over : RequestFuture V → Prop
  | .returned _ => True
  | .dropped => True
  | _ => False

theorem early_or (future : RequestFuture V) :
    future.Early ∨ (∃ id, future.awaits = some id) ∨ future.Over := by
  cases future with
  | fresh => exact Or.inl trivial
  | numbered => exact Or.inl trivial
  | registered id => exact Or.inr (Or.inl ⟨id, rfl⟩)
  | queued id => exact Or.inr (Or.inl ⟨id, rfl⟩)
  | returned => exact Or.inr (Or.inr trivial)
  | dropped => exact Or.inr (Or.inr trivial)

theorem awaits_of_over {future : RequestFuture V} (ended : future.Over) : future.awaits = none := by
  cases future <;> first | rfl | cases ended

theorem awaits_of_early {future : RequestFuture V} (early : future.Early) :
    future.awaits = none := by
  cases future <;> first | rfl | cases early

theorem late_of_over {future : RequestFuture V} (ended : future.Over) : ¬ future.Early := by
  intro early
  cases future with
  | returned => exact early
  | dropped => exact early
  | _ => exact ended

end RequestFuture

/-- A line with the response to an id. -/
def IsResponse (codec : Codec V N R) (read : Read) (id : RequestId) (value : V) : Prop :=
  ∃ bytes text, read = .buffer bytes text ∧ bytes ≤ codexMaxFrameBytes ∧
    codec.decode (String.ofList (trimLineEnding text)) = .ok (.response id value)

/-- An answer is handed over only for a response. -/
theorem isResponse_of_act {codec : Codec V N R} {read : Read} {id : RequestId} {value : V}
    (delivers : act codec read = .deliver id (.ok value)) : IsResponse codec read id value := by
  unfold act at delivers
  split at delivers
  · cases delivers
  · cases delivers
  · next bytes text =>
    split at delivers
    · cases delivers
    · next small =>
      unfold actLine at delivers
      split at delivers
      · cases delivers
      · split at delivers
        · next envelope decoded =>
          refine ⟨bytes, text, rfl, not_lt.1 small, ?_⟩
          rw [decoded]
          unfold actEnvelope at delivers
          split at delivers
          · cases delivers
            rfl
          · cases delivers
          · split at delivers <;> cases delivers
          · split at delivers <;> cases delivers
        · split at delivers <;> cases delivers

/-! ## The desk -/

/-- The correlation of answers with requests. -/
structure Desk (V : Type) where
  nextId : ℤ
  waiters : IndexMap RequestId ℕ
  futures : ℕ → RequestFuture V
  replies : ℕ → Reply V
  pending : Set ℕ
  reads : List Read
  registrations : ℕ → Option Registered

namespace Desk

def setFuture (desk : Desk V) (future : ℕ) (phase : RequestFuture V) : Desk V :=
  { desk with futures := Function.update desk.futures future phase }

def setReply (desk : Desk V) (future : ℕ) (reply : Reply V) : Desk V :=
  { desk with replies := Function.update desk.replies future reply }

def removeWaiter (desk : Desk V) (id : RequestId) : Desk V :=
  match desk.waiters.get? id with
  | none => desk
  | some future =>
    { desk with waiters := desk.waiters.shiftRemove id }.setReply future .hungUp

/-- One step. -/
inductive Step (codec : Codec V N R) (desk : Desk V) : Desk V → Prop where
  | skip : Step codec desk desk
  | begin (future : ℕ) (method : String) (params : V) (fresh : desk.futures future = .fresh) :
      Step codec desk ({ desk with nextId := desk.nextId + 1 }.setFuture future
        (.numbered (.integer desk.nextId) method params))
  | register (future : ℕ) (id : RequestId) (method : String) (params : V)
      (numbered : desk.futures future = .numbered id method params) :
      Step codec desk ({ desk.removeWaiter id with
        waiters := (desk.removeWaiter id).waiters.insert id future
        registrations :=
          Function.update desk.registrations future (some ⟨id, desk.reads.length⟩)
        }.setFuture future (.registered id method params))
  | queue (future : ℕ) (id : RequestId) (awaits : (desk.futures future).awaits = some id) :
      Step codec desk (desk.setFuture future (.queued id))
  | leave (future : ℕ) (id : RequestId) (phase : RequestFuture V)
      (awaits : (desk.futures future).awaits = some id) (ended : phase.Over)
      (fails : ∀ value, phase ≠ .returned (.ok value)) :
      Step codec desk ((desk.removeWaiter id).setFuture future phase)
  | receive (future : ℕ) (id : RequestId) (answer : Answer V)
      (awaits : (desk.futures future).awaits = some id)
      (sent : desk.replies future = .sent answer) :
      Step codec desk (desk.setFuture future (.returned answer))
  | forgo (future : ℕ) (fresh : desk.futures future = .fresh) :
      Step codec desk (desk.setFuture future .dropped)
  | read (read : Read) : Step codec desk { desk with reads := desk.reads ++ [read] }
  | deliver (read : Read) (id : RequestId) (future : ℕ) (answer : Answer V)
      (waits : desk.waiters.get? id = some future) (delivers : act codec read = .deliver id answer) :
      Step codec desk ({ desk with
        waiters := desk.waiters.shiftRemove id
        reads := desk.reads ++ [read] }.setReply future (.sent answer))
  | take : Step codec desk { desk with
      waiters := .empty
      pending := { future | future ∈ desk.pending ∨ future ∈ desk.waiters.values } }
  | tell (future : ℕ) (error : HarnessError) (pending : Set ℕ) (due : future ∈ desk.pending)
      (fewer : pending ⊆ desk.pending)
      (others : ∀ other ∈ desk.pending, other ≠ future → other ∈ pending) :
      Step codec desk ({ desk with pending := pending }.setReply future (.sent (.error error)))

end Desk

/-! ## Steps of the transport -/

namespace Transport

/-- Those whom a stopping task is telling. -/
def Telling (transport : Transport V N R) (task : Task) (future : ℕ) : Prop :=
  ∃ message waiters, transport.sweep? task = some (.telling message waiters) ∧ future ∈ waiters

def desk (transport : Transport V N R) : Desk V where
  nextId := transport.nextId
  waiters := transport.waiters
  futures := transport.futures
  replies := transport.replies
  pending := { future | ∃ task, transport.Telling task future }
  reads := transport.reads
  registrations := transport.registrations

theorem desk_removeWaiter (transport : Transport V N R) (id : RequestId) :
    (transport.removeWaiter id).desk = transport.desk.removeWaiter id := by
  unfold removeWaiter Desk.removeWaiter
  change _ = match transport.waiters.get? id with | none => _ | some future => _
  cases transport.waiters.get? id <;> rfl

theorem desk_setFuture (transport : Transport V N R) (future : ℕ) (phase : RequestFuture V) :
    (transport.setFuture future phase).desk = transport.desk.setFuture future phase := rfl

theorem telling_setSweep (transport : Transport V N R) (task : Task) (sweep : Sweep) (other : Task)
    (future : ℕ) : (transport.setSweep task sweep).Telling other future ↔
      if other = task then ∃ message waiters, sweep = .telling message waiters ∧ future ∈ waiters
      else transport.Telling other future := by
  cases task <;> cases other <;> simp [Telling, setSweep, sweep?]

theorem step_abandon {codec : Codec V N R} (transport : Transport V N R) {future : ℕ}
    {id : RequestId} (awaits : (transport.futures future).awaits = some id)
    (error : HarnessError) :
    Desk.Step codec transport.desk (transport.abandon future id error).desk := by
  unfold abandon
  rw [desk_setFuture, desk_removeWaiter]
  exact .leave future id _ awaits trivial fun _ same => by cases same

theorem step_register {codec : Codec V N R} {transport : Transport V N R} {future : ℕ}
    {id : RequestId} {method : String} {params : V}
    (numbered : transport.futures future = .numbered id method params) :
    Desk.Step codec transport.desk (transport.register future id method params).desk := by
  have step : Desk.Step codec transport.desk _ := .register future id method params numbered
  rw [← desk_removeWaiter] at step
  have kept : (transport.removeWaiter id).reads = transport.reads ∧
      (transport.removeWaiter id).registrations = transport.registrations := by
    unfold removeWaiter
    cases transport.waiters.get? id <;> exact ⟨rfl, rfl⟩
  rw [show transport.desk.reads = (transport.removeWaiter id).reads from kept.1.symm,
    show transport.desk.registrations = (transport.removeWaiter id).registrations from
      kept.2.symm] at step
  exact step

theorem step_enqueue {codec : Codec V N R} {transport next : Transport V N R} {future : ℕ}
    {id : RequestId} {method : String} {params : V}
    (registered : transport.futures future = .registered id method params)
    (step : transport.enqueue codec future id method params = some next) :
    Desk.Step codec transport.desk next.desk := by
  have awaits : (transport.futures future).awaits = some id := by
    rw [registered]
    rfl
  unfold enqueue at step
  split at step
  · cases step
    exact step_abandon transport awaits _
  · split at step
    · cases step
      exact step_abandon transport awaits _
    · split at step
      · cases step
        exact .queue future id awaits
      · cases step

theorem step_receive {codec : Codec V N R} {transport next : Transport V N R} {future : ℕ}
    {id : RequestId} (queued : transport.futures future = .queued id)
    (step : transport.receive future id = some next) :
    Desk.Step codec transport.desk next.desk := by
  have awaits : (transport.futures future).awaits = some id := by
    rw [queued]
    rfl
  unfold receive at step
  split at step
  · cases step
  · next answer sent =>
    cases step
    exact .receive future id answer awaits sent
  · cases step
    exact step_abandon transport awaits _

theorem step_drop {codec : Codec V N R} {transport next : Transport V N R} {future : ℕ}
    (step : transport.drop future = some next) :
    Desk.Step codec transport.desk next.desk := by
  have leaves {id : RequestId} (awaits : (transport.futures future).awaits = some id) :
      Desk.Step codec transport.desk
        ((transport.removeWaiter id).setFuture future .dropped).desk := by
    rw [desk_setFuture, desk_removeWaiter]
    exact .leave future id _ awaits trivial fun _ same => by cases same
  unfold drop at step
  split at step
  · next fresh =>
    cases step
    exact .forgo future fresh
  · next id _ _ registered =>
    cases step
    apply leaves
    rw [registered]
    rfl
  · next id queued =>
    cases step
    apply leaves
    rw [queued]
    rfl
  · cases step

theorem step_read (codec : Codec V N R) {transport : Transport V N R}
    (reading : transport.reader = .reading) (read : Read) :
    Desk.Step codec transport.desk
      ({ transport.perform (act codec read) with
        reads := transport.reads ++ [read] } : Transport V N R).desk := by
  cases acts : act codec read with
  | skip => exact .read read
  | append item => exact .read read
  | stop item message =>
    have same : ({ transport.perform (.stop item message) with
        reads := transport.reads ++ [read] } : Transport V N R).desk =
          { transport.desk with reads := transport.desk.reads ++ [read] } := by
      have telling (future : ℕ) : (∃ task, Telling { transport.append item with
          reader := .failing (.due message) } task future) ↔
            ∃ task, transport.Telling task future := by
        constructor
        · rintro ⟨_ | _, telling⟩
          · obtain ⟨_, _, same, _⟩ := telling
            cases same
          · exact ⟨.writer, telling⟩
        · rintro ⟨_ | _, telling⟩
          · obtain ⟨_, _, same, _⟩ := telling
            unfold sweep? at same
            rw [reading] at same
            cases same
          · exact ⟨.writer, telling⟩
      have pending := Set.ext telling
      unfold desk
      exact congrArg (fun pending => Desk.mk transport.nextId transport.waiters transport.futures
        transport.replies pending (transport.reads ++ [read]) transport.registrations) pending
    rw [same]
    exact .read read
  | deliver id answer =>
    unfold perform deliverResponse
    dsimp only
    cases waits : transport.waiters.get? id with
    | none => exact .read read
    | some future => exact .deliver read id future answer waits acts

theorem step_take {codec : Codec V N R} {transport next : Transport V N R} {task : Task}
    (step : transport.take task = some next) : Desk.Step codec transport.desk next.desk := by
  unfold take at step
  split at step
  · next message due =>
    cases step
    have pending : { future | ∃ other, (({ transport with waiters := .empty } :
        Transport V N R).setSweep task
          (.telling message transport.waiters.values)).Telling other future } =
            { future | future ∈ transport.desk.pending ∨ future ∈ transport.waiters.values } := by
      ext future
      simp only [Set.mem_ofPred_eq, telling_setSweep]
      constructor
      · rintro ⟨other, telling⟩
        split at telling
        · obtain ⟨_, _, same, inside⟩ := telling
          cases same
          exact Or.inr inside
        · exact Or.inl ⟨other, telling⟩
      · rintro (⟨other, telling⟩ | inside)
        · refine ⟨other, ?_⟩
          rw [if_neg]
          · exact telling
          · rintro rfl
            obtain ⟨_, _, same, _⟩ := telling
            rw [due] at same
            cases same
        · refine ⟨task, ?_⟩
          rw [if_pos rfl]
          exact ⟨_, _, rfl, inside⟩
    have same : (({ transport with waiters := .empty } : Transport V N R).setSweep task
        (.telling message transport.waiters.values)).desk = { transport.desk with
          waiters := .empty
          pending := { future | future ∈ transport.desk.pending ∨
            future ∈ transport.waiters.values } } := by
      rw [← pending]
      cases task <;> rfl
    rw [same]
    exact .take
  · cases step

theorem step_tell {codec : Codec V N R} {transport next : Transport V N R} {task : Task}
    {future : ℕ} (step : transport.tell task future = some next) :
    Desk.Step codec transport.desk next.desk := by
  unfold tell at step
  split at step
  · next message waiters telling =>
    split at step
    · next inside =>
      cases step
      have due : future ∈ transport.desk.pending := ⟨task, message, waiters, telling, inside⟩
      have others : ∀ other ∈ transport.desk.pending, other ≠ future →
          other ∈ ((transport.setReply future (.sent (.error (.transport message)))).setSweep task
            (.telling message (waiters.erase future))).desk.pending := by
        rintro other ⟨party, told⟩ ne
        refine ⟨party, (telling_setSweep _ _ _ _ _).2 ?_⟩
        split
        · next same =>
          obtain ⟨_, _, here, there⟩ := told
          rw [same, telling] at here
          cases here
          exact ⟨_, _, rfl, (List.mem_erase_of_ne ne).2 there⟩
        · exact told
      have fewer : ((transport.setReply future (.sent (.error (.transport message)))).setSweep task
          (.telling message (waiters.erase future))).desk.pending ⊆ transport.desk.pending := by
        rintro other ⟨party, told⟩
        refine ⟨party, ?_⟩
        rw [telling_setSweep] at told
        split at told
        · next same =>
          obtain ⟨_, _, here, there⟩ := told
          cases here
          rw [same]
          exact ⟨message, waiters, telling, List.mem_of_mem_erase there⟩
        · exact told
      have step := @Desk.Step.tell _ _ _ codec _ future (.transport message) _ due fewer others
      cases task <;> exact step
    · cases step
  · cases step

theorem not_telling {transport : Transport V N R} {task : Task} {future : ℕ}
    (idle : ∀ message waiters, transport.sweep? task = some (.telling message waiters) →
      waiters = []) : ¬ transport.Telling task future := by
  rintro ⟨message, waiters, telling, inside⟩
  rw [idle message waiters telling] at inside
  cases inside

theorem step_skip {codec : Codec V N R} {transport next : Transport V N R}
    (rest : { next.desk with pending := transport.desk.pending } = transport.desk)
    (telling : ∀ task future, next.Telling task future ↔ transport.Telling task future) :
    Desk.Step codec transport.desk next.desk := by
  have pending : next.desk.pending = transport.desk.pending := by
    ext future
    exact exists_congr fun task => telling task future
  have same : next.desk = transport.desk := by
    rw [← rest, ← pending]
  rw [same]
  exact .skip

theorem telling_idle {transport next : Transport V N R} (task : Task)
    (before : ∀ message waiters, transport.sweep? task = some (.telling message waiters) →
      waiters = [])
    (after : ∀ message waiters, next.sweep? task = some (.telling message waiters) → waiters = [])
    (rest : ∀ other, other ≠ task → next.sweep? other = transport.sweep? other)
    (other : Task) (future : ℕ) :
    next.Telling other future ↔ transport.Telling other future := by
  by_cases same : other = task
  · rw [same]
    exact iff_of_false (not_telling after) (not_telling before)
  · unfold Telling
    rw [rest other same]

theorem step_close {codec : Codec V N R} {transport next : Transport V N R}
    (step : transport.step? codec .close = some next) :
    Desk.Step codec transport.desk next.desk := by
  unfold step? at step
  dsimp only at step
  split at step
  · next message telling =>
    cases step
    refine step_skip rfl (telling_idle .reader ?_ ?_ ?_)
    · intro message' waiters there
      unfold sweep? at there
      rw [telling] at there
      cases there
      rfl
    · intro message' waiters there
      cases there
    · intro other ne
      cases other with
      | reader => exact absurd rfl ne
      | writer => rfl
  · cases step

/-- The writer's other steps: it had nobody to tell, and has nobody yet. -/
theorem step_writer {codec : Codec V N R} {transport : Transport V N R} {writer : Writer}
    {queue : List Frame} {stdin : List String}
    (before : ∀ message waiters, transport.writer = .failing (.telling message waiters) →
      waiters = [])
    (after : ∀ message waiters, writer = .failing (.telling message waiters) → waiters = []) :
    Desk.Step codec transport.desk
      ({ transport with writer := writer, queue := queue, stdin := stdin } :
        Transport V N R).desk := by
  refine step_skip rfl (telling_idle .writer ?_ ?_ ?_)
  · intro message waiters there
    unfold sweep? at there
    dsimp only at there
    split at there
    · next sweep failing =>
      cases there
      exact before message waiters failing
    · cases there
  · intro message waiters there
    unfold sweep? at there
    dsimp only at there
    split at there
    · next sweep =>
      cases there
      exact after message waiters rfl
    · cases there
  · intro other ne
    cases other with
    | reader => rfl
    | writer => exact absurd rfl ne

/-- A step of the transport is one of the desk. -/
theorem step_desk (codec : Codec V N R) {transport next : Transport V N R} {choice : Choice V}
    (step : transport.step? codec choice = some next) :
    Desk.Step codec transport.desk next.desk := by
  cases choice with
  | begin future method params =>
    unfold step? at step
    dsimp only at step
    split at step
    · next fresh =>
      cases step
      exact .begin future method params fresh
    · cases step
  | register future =>
    unfold step? at step
    dsimp only at step
    split at step
    · next id method params numbered =>
      cases step
      exact step_register numbered
    · cases step
  | enqueue future =>
    unfold step? at step
    dsimp only at step
    split at step
    · next registered => exact step_enqueue registered step
    · cases step
  | receive future =>
    unfold step? at step
    dsimp only at step
    split at step
    · next queued => exact step_receive queued step
    · cases step
  | drop future => exact step_drop step
  | read read =>
    unfold step? at step
    dsimp only at step
    split at step
    · next reading =>
      cases step
      exact step_read codec reading read
    · cases step
  | take task => exact step_take step
  | tell task future => exact step_tell step
  | close => exact step_close step
  | recv =>
    unfold step? at step
    dsimp only at step
    split at step
    · next receiving _ =>
      cases step
      refine step_writer ?_ fun _ _ there => by cases there
      intro _ _ there
      rw [receiving] at there
      cases there
    · cases step
  | wrote =>
    unfold step? at step
    dsimp only at step
    split at step
    · next writing =>
      cases step
      refine step_writer ?_ fun _ _ there => by cases there
      intro _ _ there
      rw [writing] at there
      cases there
    · cases step
  | writeFailed error =>
    unfold step? at step
    dsimp only at step
    split at step
    · next writing =>
      cases step
      refine step_writer ?_ fun _ _ there => by cases there
      intro _ _ there
      rw [writing] at there
      cases there
    · cases step
  | finish =>
    unfold step? at step
    dsimp only at step
    split at step
    · next telling =>
      cases step
      refine step_writer ?_ fun _ _ there => by cases there
      intro _ _ there
      rw [telling] at there
      cases there
      rfl
    · cases step
  | offer frame =>
    unfold step? at step
    dsimp only at step
    split at step
    · cases step
      exact .skip
    · cases step
  | next =>
    cases step
    exact .skip

end Transport

/-! ## The account of the desk -/

namespace Desk

/-- The id that a future has got. -/
def idOf (desk : Desk V) (future : ℕ) : Option RequestId :=
  match desk.registrations future with
  | some registered => some registered.id
  | none =>
    match desk.futures future with
    | .numbered id _ _ => some id
    | _ => none

/-- A response to a future's id was read after it registered. -/
def Heard (codec : Codec V N R) (desk : Desk V) (future : ℕ) (value : V) : Prop :=
  ∃ registered, desk.registrations future = some registered ∧
    ∃ index ≥ registered.since, ∃ read, desk.reads[index]? = some read ∧
      IsResponse codec read registered.id value

/-- The account of the numbers. -/
structure Numbered (desk : Desk V) : Prop where
  below : ∀ future id, desk.idOf future = some id →
    ∃ value, id = .integer value ∧ value < desk.nextId
  apart : ∀ first second id, desk.idOf first = some id → desk.idOf second = some id →
    first = second
  entered : ∀ future id, (desk.futures future).awaits = some id →
    ∃ since ≤ desk.reads.length, desk.registrations future = some ⟨id, since⟩
  early : ∀ future, (desk.futures future).Early → desk.registrations future = none

/-- The account of the map and of the answers. -/
structure Matched (codec : Codec V N R) (desk : Desk V) : Prop where
  early : ∀ future, (desk.futures future).Early → desk.replies future = .empty
  waits : ∀ id future, desk.waiters.get? id = some future →
    (desk.futures future).awaits = some id ∧ desk.replies future = .empty
  due : ∀ future ∈ desk.pending,
    ¬ (desk.futures future).Early ∧ ∀ id, desk.waiters.get? id ≠ some future
  live : ∀ future id, (desk.futures future).awaits = some id →
    desk.waiters.get? id = some future ∨ (∃ answer, desk.replies future = .sent answer) ∨
      future ∈ desk.pending
  heard : ∀ future value, desk.replies future = .sent (.ok value) ∨
    desk.futures future = .returned (.ok value) → Heard codec desk future value

structure Sound (codec : Codec V N R) (desk : Desk V) : Prop where
  numbers : Numbered desk
  matched : Matched codec desk

variable {codec : Codec V N R} {desk : Desk V} {future : ℕ} {id : RequestId}

theorem setFuture_self (phase : RequestFuture V) :
    (desk.setFuture future phase).futures future = phase := Function.update_self ..

theorem setFuture_of_ne {other : ℕ} (ne : other ≠ future) (phase : RequestFuture V) :
    (desk.setFuture future phase).futures other = desk.futures other :=
  Function.update_of_ne ne ..

/-! ### The numbers -/

namespace Numbered

variable (numbers : Numbered desk)

include numbers

theorem idOf_awaits (awaits : (desk.futures future).awaits = some id) :
    desk.idOf future = some id := by
  obtain ⟨since, _, registered⟩ := numbers.entered future id awaits
  unfold idOf
  rw [registered]

theorem idOf_numbered {method : String} {params : V}
    (numbered : desk.futures future = .numbered id method params) :
    desk.idOf future = some id := by
  have early : (desk.futures future).Early := by
    rw [numbered]
    trivial
  unfold idOf
  rw [numbers.early future early, numbered]

theorem read (read : Read) : Numbered { desk with reads := desk.reads ++ [read] } where
  below := numbers.below
  apart := numbers.apart
  entered future id awaits := by
    obtain ⟨since, before, registered⟩ := numbers.entered future id awaits
    refine ⟨since, before.trans ?_, registered⟩
    rw [List.length_append]
    exact Nat.le_add_right _ _
  early := numbers.early

/-- A future goes on, with the id it has. -/
theorem move {phase : RequestFuture V} (late : ¬ phase.Early)
    (kept : ∀ id, phase.awaits = some id → (desk.futures future).awaits = some id) :
    Numbered (desk.setFuture future phase) := by
  have ids (other : ℕ) (id : RequestId)
      (known : (desk.setFuture future phase).idOf other = some id) :
      desk.idOf other = some id := by
    by_cases same : other = future
    · rw [same] at known ⊢
      unfold idOf at known ⊢
      change (match desk.registrations future with | some _ => _ | none => _) = _ at known
      cases registered : desk.registrations future with
      | some registration =>
        rw [registered] at known
        exact known
      | none =>
        rw [registered, setFuture_self] at known
        cases phase with
        | numbered => exact absurd trivial late
        | _ => cases known
    · unfold idOf at known ⊢
      rw [setFuture_of_ne same] at known
      exact known
  refine ⟨?_, ?_, ?_, ?_⟩
  · exact fun other id known => numbers.below other id (ids other id known)
  · exact fun first second id one two =>
      numbers.apart first second id (ids first id one) (ids second id two)
  · intro other id awaits
    by_cases same : other = future
    · rw [same, setFuture_self] at awaits
      rw [same]
      exact numbers.entered future id (kept id awaits)
    · rw [setFuture_of_ne same] at awaits
      exact numbers.entered other id awaits
  · intro other early
    by_cases same : other = future
    · rw [same, setFuture_self] at early
      exact absurd early late
    · rw [setFuture_of_ne same] at early
      exact numbers.early other early

theorem begin (method : String) (params : V) (fresh : desk.futures future = .fresh) :
    Numbered ({ desk with nextId := desk.nextId + 1 }.setFuture future
      (.numbered (.integer desk.nextId) method params)) := by
  have unregistered : desk.registrations future = none := by
    apply numbers.early
    rw [fresh]
    trivial
  have ids (other : ℕ) (id : RequestId) : ({ desk with nextId := desk.nextId + 1 }.setFuture future
      (.numbered (.integer desk.nextId) method params)).idOf other = some id ↔
        if other = future then id = .integer desk.nextId else desk.idOf other = some id := by
    split
    · next same =>
      rw [same]
      unfold idOf
      rw [setFuture_self]
      change (match desk.registrations future with | some _ => _ | none => _) = _ ↔ _
      rw [unregistered, Option.some_inj, eq_comm]
    · next ne =>
      unfold idOf
      rw [setFuture_of_ne ne]
      rfl
  refine ⟨?_, ?_, ?_, ?_⟩
  · intro other id known
    rw [ids] at known
    split at known
    · exact ⟨desk.nextId, known, lt_add_one _⟩
    · obtain ⟨value, same, less⟩ := numbers.below other id known
      exact ⟨value, same, less.trans (lt_add_one _)⟩
  · intro first second id one two
    have new {other : ℕ} (known : desk.idOf other = some (.integer desk.nextId)) : False := by
      obtain ⟨value, same, less⟩ := numbers.below other _ known
      cases same
      exact lt_irrefl _ less
    rw [ids] at one two
    split at one <;> split at two
    · next first second => rw [first, second]
    · exact (new (one ▸ two)).elim
    · exact (new (two ▸ one)).elim
    · exact numbers.apart first second id one two
  · intro other id awaits
    by_cases same : other = future
    · rw [same, setFuture_self] at awaits
      cases awaits
    · rw [setFuture_of_ne same] at awaits
      exact numbers.entered other id awaits
  · intro other early
    by_cases same : other = future
    · rw [same]
      exact unregistered
    · rw [setFuture_of_ne same] at early
      exact numbers.early other early

theorem register {method : String} {params : V}
    (numbered : desk.futures future = .numbered id method params) :
    Numbered ({ desk with
      registrations := Function.update desk.registrations future (some ⟨id, desk.reads.length⟩)
      }.setFuture future (.registered id method params)) := by
  have mine := numbers.idOf_numbered numbered
  have ids (other : ℕ) : ({ desk with
      registrations := Function.update desk.registrations future (some ⟨id, desk.reads.length⟩)
      }.setFuture future (.registered id method params)).idOf other = desk.idOf other := by
    by_cases same : other = future
    · rw [same, mine]
      unfold idOf
      change (match Function.update desk.registrations future _ future with
        | some _ => _ | none => _) = _
      rw [Function.update_self]
    · unfold idOf
      rw [setFuture_of_ne same]
      change (match Function.update desk.registrations future _ other with
        | some _ => _ | none => _) = _
      rw [Function.update_of_ne same]
  refine ⟨?_, ?_, ?_, ?_⟩
  · intro other id known
    rw [ids] at known
    exact numbers.below other id known
  · intro first second id one two
    rw [ids] at one two
    exact numbers.apart first second id one two
  · intro other id awaits
    by_cases same : other = future
    · rw [same, setFuture_self] at awaits
      cases awaits
      rw [same]
      exact ⟨desk.reads.length, le_rfl, Function.update_self ..⟩
    · rw [setFuture_of_ne same] at awaits
      obtain ⟨since, before, registered⟩ := numbers.entered other id awaits
      exact ⟨since, before, (Function.update_of_ne same ..).trans registered⟩
  · intro other early
    by_cases same : other = future
    · rw [same, setFuture_self] at early
      cases early
    · rw [setFuture_of_ne same] at early
      exact (Function.update_of_ne same ..).trans (numbers.early other early)

end Numbered

/-! ### The answers -/

theorem Heard.read {value : V} (heard : Heard codec desk future value) (read : Read) :
    Heard codec { desk with reads := desk.reads ++ [read] } future value := by
  obtain ⟨registered, known, index, later, line, there, response⟩ := heard
  refine ⟨registered, known, index, later, line, ?_, response⟩
  exact List.getElem?_append_left (List.getElem?_eq_some_iff.1 there).1 ▸ there

namespace Matched

variable (matched : Matched codec desk)

include matched

theorem read (read : Read) : Matched codec { desk with reads := desk.reads ++ [read] } :=
  ⟨matched.early, matched.waits, matched.due, matched.live,
    fun future value known => (matched.heard future value known).read read⟩

/-- A future goes on. -/
theorem move {phase : RequestFuture V} (early : phase.Early → (desk.futures future).Early)
    (entry : ∀ id, desk.waiters.get? id = some future → phase.awaits = some id)
    (kept : ∀ id, phase.awaits = some id → (desk.futures future).awaits = some id)
    (heard : ∀ value, phase = .returned (.ok value) → Heard codec desk future value) :
    Matched codec (desk.setFuture future phase) := by
  refine ⟨?_, ?_, ?_, ?_, ?_⟩
  · intro other first
    by_cases same : other = future
    · rw [same, setFuture_self] at first
      rw [same]
      exact matched.early future (early first)
    · rw [setFuture_of_ne same] at first
      exact matched.early other first
  · intro id other waits
    have before := matched.waits id other waits
    by_cases same : other = future
    · rw [same, setFuture_self]
      rw [same] at waits before
      exact ⟨entry id waits, before.2⟩
    · rw [setFuture_of_ne same]
      exact before
  · intro other inside
    have before := matched.due other inside
    by_cases same : other = future
    · rw [same, setFuture_self]
      rw [same] at before
      exact ⟨fun first => before.1 (early first), before.2⟩
    · rw [setFuture_of_ne same]
      exact before
  · intro other id awaits
    by_cases same : other = future
    · rw [same, setFuture_self] at awaits
      rw [same]
      exact matched.live future id (kept id awaits)
    · rw [setFuture_of_ne same] at awaits
      exact matched.live other id awaits
  · rintro other value (sent | returned)
    · exact matched.heard other value (Or.inl sent)
    · by_cases same : other = future
      · rw [same, setFuture_self] at returned
        rw [same]
        exact heard value returned
      · rw [setFuture_of_ne same] at returned
        exact matched.heard other value (Or.inr returned)

theorem take : Matched codec { desk with
    waiters := .empty
    pending := { future | future ∈ desk.pending ∨ future ∈ desk.waiters.values } } := by
  refine ⟨matched.early, ?_, ?_, ?_, matched.heard⟩
  · intro id future waits
    cases waits
  · rintro future (before | waits)
    · exact ⟨(matched.due future before).1, fun _ waits => by cases waits⟩
    · obtain ⟨id, waits⟩ := IndexMap.mem_values_iff.1 waits
      refine ⟨?_, fun _ waits => by cases waits⟩
      intro early
      have awaits := (matched.waits id future waits).1
      rw [RequestFuture.awaits_of_early early] at awaits
      cases awaits
  · intro future id awaits
    rcases matched.live future id awaits with waits | sent | before
    · exact Or.inr (Or.inr (Or.inr (IndexMap.mem_values_iff.2 ⟨id, waits⟩)))
    · exact Or.inr (Or.inl sent)
    · exact Or.inr (Or.inr (Or.inl before))

theorem tell {error : HarnessError} {pending : Set ℕ} (due : future ∈ desk.pending)
    (fewer : pending ⊆ desk.pending)
    (others : ∀ other ∈ desk.pending, other ≠ future → other ∈ pending) :
    Matched codec ({ desk with pending := pending }.setReply future (.sent (.error error))) := by
  have reply {other : ℕ} (ne : other ≠ future) :
      ({ desk with pending := pending }.setReply future (.sent (.error error))).replies other =
        desk.replies other := Function.update_of_ne ne ..
  have told : ({ desk with pending := pending }.setReply future
      (.sent (.error error))).replies future = .sent (.error error) := Function.update_self ..
  obtain ⟨late, out⟩ := matched.due future due
  refine ⟨?_, ?_, fun other inside => matched.due other (fewer inside), ?_, ?_⟩
  · intro other early
    have ne : other ≠ future := by
      rintro rfl
      exact late early
    rw [reply ne]
    exact matched.early other early
  · intro id other waits
    have ne : other ≠ future := by
      rintro rfl
      exact out id waits
    rw [reply ne]
    exact matched.waits id other waits
  · intro other id awaits
    by_cases same : other = future
    · rw [same]
      exact Or.inr (Or.inl ⟨_, told⟩)
    · rcases matched.live other id awaits with waits | sent | before
      · exact Or.inl waits
      · exact Or.inr (Or.inl (by rwa [reply same]))
      · exact Or.inr (Or.inr (others other before same))
  · rintro other value (sent | returned)
    · by_cases same : other = future
      · rw [same, told] at sent
        cases sent
      · rw [reply same] at sent
        exact matched.heard other value (Or.inl sent)
    · exact matched.heard other value (Or.inr returned)

end Matched

namespace Sound

variable (sound : Sound codec desk)

include sound

theorem own {other : ℕ} (mine : desk.idOf future = some id)
    (waits : desk.waiters.get? id = some other) : other = future :=
  sound.numbers.apart other future id
    (sound.numbers.idOf_awaits (sound.matched.waits id other waits).1) mine

theorem waits_or (awaits : (desk.futures future).awaits = some id) :
    desk.waiters.get? id = none ∨ desk.waiters.get? id = some future := by
  cases waits : desk.waiters.get? id with
  | none => exact Or.inl rfl
  | some other =>
    rw [sound.own (sound.numbers.idOf_awaits awaits) waits]
    exact Or.inr rfl

theorem removeWaiter_spec (awaits : (desk.futures future).awaits = some id) :
    ∃ reply, (reply = desk.replies future ∨ reply = .hungUp) ∧
      desk.removeWaiter id = { desk with
        waiters := desk.waiters.shiftRemove id
        replies := Function.update desk.replies future reply } := by
  unfold removeWaiter
  rcases sound.waits_or awaits with waits | waits <;> rw [waits]
  · refine ⟨desk.replies future, Or.inl rfl, ?_⟩
    rw [IndexMap.shiftRemove_of_absent (IndexMap.get?_eq_none.1 waits), Function.update_eq_self]
  · exact ⟨.hungUp, Or.inr rfl, rfl⟩

theorem absent {method : String} {params : V}
    (numbered : desk.futures future = .numbered id method params) :
    desk.waiters.get? id = none := by
  cases waits : desk.waiters.get? id with
  | none => rfl
  | some other =>
    have awaits := (sound.matched.waits id other waits).1
    rw [sound.own (sound.numbers.idOf_numbered numbered) waits, numbered] at awaits
    cases awaits

theorem waits_apart (awaits : (desk.futures future).awaits = some id) {other : ℕ}
    {id' : RequestId} (ne : other ≠ future) (waits : (desk.futures other).awaits = some id') :
    id' ≠ id := by
  rintro rfl
  exact ne (sound.numbers.apart other future id' (sound.numbers.idOf_awaits waits)
    (sound.numbers.idOf_awaits awaits))

theorem begin (method : String) (params : V) (fresh : desk.futures future = .fresh) :
    Sound codec ({ desk with nextId := desk.nextId + 1 }.setFuture future
      (.numbered (.integer desk.nextId) method params)) := by
  have matched : Matched codec { desk with nextId := desk.nextId + 1 } :=
    ⟨sound.matched.early, sound.matched.waits, sound.matched.due, sound.matched.live,
      sound.matched.heard⟩
  refine ⟨sound.numbers.begin method params fresh, matched.move ?_ ?_ ?_ ?_⟩
  · intro _
    rw [show ({ desk with nextId := desk.nextId + 1 } : Desk V).futures future = .fresh from fresh]
    trivial
  · intro id waits
    have awaits := (sound.matched.waits id future waits).1
    rw [fresh] at awaits
    cases awaits
  · intro id awaits
    cases awaits
  · intro value same
    cases same

theorem register {method : String} {params : V}
    (numbered : desk.futures future = .numbered id method params) :
    Sound codec ({ desk.removeWaiter id with
      waiters := (desk.removeWaiter id).waiters.insert id future
      registrations :=
        Function.update desk.registrations future (some ⟨id, desk.reads.length⟩)
      }.setFuture future (.registered id method params)) := by
  have absent := sound.absent numbered
  have first : (desk.futures future).Early := by
    rw [numbered]
    trivial
  have silent := sound.matched.early future first
  have alone : desk.removeWaiter id = desk := by
    unfold removeWaiter
    rw [absent]
  rw [alone]
  refine ⟨?_, ?_, ?_, ?_, ?_, ?_⟩
  · have numbers := sound.numbers.register numbered
    exact ⟨numbers.below, numbers.apart, numbers.entered, numbers.early⟩
  · intro other early
    by_cases same : other = future
    · rw [same]
      exact silent
    · rw [setFuture_of_ne same] at early
      exact sound.matched.early other early
  · intro id' other waits
    change (desk.waiters.insert id future).get? id' = some other at waits
    rw [IndexMap.get?_insert] at waits
    split at waits
    · next same =>
      cases waits
      rw [setFuture_self, same]
      exact ⟨rfl, silent⟩
    · have before := sound.matched.waits id' other waits
      have ne : other ≠ future := by
        rintro rfl
        rw [RequestFuture.awaits_of_early first] at before
        cases before.1
      rw [setFuture_of_ne ne]
      exact before
  · intro other inside
    obtain ⟨late, out⟩ := sound.matched.due other inside
    have ne : other ≠ future := by
      rintro rfl
      exact late first
    rw [setFuture_of_ne ne]
    refine ⟨late, ?_⟩
    intro id' waits
    change (desk.waiters.insert id future).get? id' = some other at waits
    rw [IndexMap.get?_insert] at waits
    split at waits
    · cases waits
      exact ne rfl
    · exact out id' waits
  · intro other id' awaits
    change (desk.waiters.insert id future).get? id' = some other ∨ _
    rw [IndexMap.get?_insert]
    by_cases same : other = future
    · rw [same, setFuture_self] at awaits
      cases awaits
      rw [if_pos rfl, same]
      exact Or.inl rfl
    · rw [setFuture_of_ne same] at awaits
      rcases sound.matched.live other id' awaits with waits | rest
      · rw [if_neg]
        · exact Or.inl waits
        · rintro rfl
          rw [absent] at waits
          cases waits
      · exact Or.inr rest
  · intro other value known
    have ne : other ≠ future := by
      rintro rfl
      rcases known with sent | returned
      · change desk.replies other = _ at sent
        rw [silent] at sent
        cases sent
      · rw [setFuture_self] at returned
        cases returned
    rw [setFuture_of_ne ne] at known
    obtain ⟨registered, registers, heard⟩ := sound.matched.heard other value known
    exact ⟨registered, (Function.update_of_ne ne ..).trans registers, heard⟩

theorem leave {phase : RequestFuture V} (awaits : (desk.futures future).awaits = some id)
    (ended : phase.Over) (fails : ∀ value, phase ≠ .returned (.ok value)) :
    Sound codec ((desk.removeWaiter id).setFuture future phase) := by
  obtain ⟨reply, replied, removed⟩ := sound.removeWaiter_spec awaits
  have late := RequestFuture.late_of_over ended
  rw [removed]
  refine ⟨?_, ?_, ?_, ?_, ?_, ?_⟩
  · have numbers : Numbered (desk.setFuture future phase) := sound.numbers.move late fun id' waits => by
      rw [RequestFuture.awaits_of_over ended] at waits
      cases waits
    exact ⟨numbers.below, numbers.apart, numbers.entered, numbers.early⟩
  · intro other early
    by_cases same : other = future
    · rw [same, setFuture_self] at early
      exact absurd early late
    · rw [setFuture_of_ne same] at early
      exact (Function.update_of_ne same ..).trans (sound.matched.early other early)
  · intro id' other waits
    change (desk.waiters.shiftRemove id).get? id' = some other at waits
    rw [IndexMap.get?_shiftRemove] at waits
    split at waits
    · cases waits
    · next ne =>
      have before := sound.matched.waits id' other waits
      have apart : other ≠ future := by
        rintro rfl
        rw [awaits] at before
        exact ne (Option.some.inj before.1).symm
      rw [setFuture_of_ne apart]
      exact ⟨before.1, (Function.update_of_ne apart ..).trans before.2⟩
  · intro other inside
    obtain ⟨before, out⟩ := sound.matched.due other inside
    refine ⟨?_, fun id' waits => out id' (IndexMap.get?_of_shiftRemove waits)⟩
    by_cases same : other = future
    · rw [same, setFuture_self]
      exact late
    · rw [setFuture_of_ne same]
      exact before
  · intro other id' waits
    have ne : other ≠ future := by
      rintro rfl
      rw [setFuture_self, RequestFuture.awaits_of_over ended] at waits
      cases waits
    rw [setFuture_of_ne ne] at waits
    change (desk.waiters.shiftRemove id).get? id' = some other ∨
      (∃ answer, Function.update desk.replies future reply other = .sent answer) ∨ _
    rw [IndexMap.get?_shiftRemove, if_neg (sound.waits_apart awaits ne waits),
      Function.update_of_ne ne]
    exact sound.matched.live other id' waits
  · rintro other value (sent | returned)
    · change Function.update desk.replies future reply other = _ at sent
      by_cases same : other = future
      · rw [same, Function.update_self] at sent
        rw [same]
        rcases replied with before | hung
        · exact sound.matched.heard future value (Or.inl (before ▸ sent))
        · rw [hung] at sent
          cases sent
      · rw [Function.update_of_ne same] at sent
        exact sound.matched.heard other value (Or.inl sent)
    · by_cases same : other = future
      · rw [same, setFuture_self] at returned
        exact absurd returned (fails value)
      · rw [setFuture_of_ne same] at returned
        exact sound.matched.heard other value (Or.inr returned)

theorem deliver {read : Read} {answer : Answer V} (waits : desk.waiters.get? id = some future)
    (delivers : act codec read = .deliver id answer) :
    Sound codec ({ desk with
      waiters := desk.waiters.shiftRemove id
      reads := desk.reads ++ [read] }.setReply future (.sent answer)) := by
  obtain ⟨awaits, silent⟩ := sound.matched.waits id future waits
  have numbers := sound.numbers.read read
  have matched := sound.matched.read read
  have late : ¬ (desk.futures future).Early := by
    intro early
    rw [RequestFuture.awaits_of_early early] at awaits
    cases awaits
  refine ⟨⟨numbers.below, numbers.apart, numbers.entered, numbers.early⟩, ?_, ?_, ?_, ?_, ?_⟩
  · intro other early
    have ne : other ≠ future := by
      rintro rfl
      exact late early
    exact (Function.update_of_ne ne ..).trans (matched.early other early)
  · intro id' other waits'
    change (desk.waiters.shiftRemove id).get? id' = some other at waits'
    rw [IndexMap.get?_shiftRemove] at waits'
    split at waits'
    · cases waits'
    · next other_id =>
      have before := sound.matched.waits id' other waits'
      have ne : other ≠ future := by
        rintro rfl
        rw [awaits] at before
        exact other_id (Option.some.inj before.1).symm
      exact ⟨before.1, (Function.update_of_ne ne ..).trans before.2⟩
  · intro other inside
    obtain ⟨before, out⟩ := sound.matched.due other inside
    exact ⟨before, fun id' waits' => out id' (IndexMap.get?_of_shiftRemove waits')⟩
  · intro other id' waits'
    change (desk.futures other).awaits = some id' at waits'
    change (desk.waiters.shiftRemove id).get? id' = some other ∨
      (∃ given, Function.update desk.replies future (.sent answer) other = .sent given) ∨ _
    by_cases same : other = future
    · rw [same, Function.update_self]
      exact Or.inr (Or.inl ⟨answer, rfl⟩)
    · rw [IndexMap.get?_shiftRemove, if_neg (sound.waits_apart awaits same waits'),
        Function.update_of_ne same]
      exact sound.matched.live other id' waits'
  · rintro other value (sent | returned)
    · change Function.update desk.replies future (.sent answer) other = _ at sent
      by_cases same : other = future
      · rw [same, Function.update_self] at sent
        cases sent
        rw [same]
        obtain ⟨since, before, registered⟩ := sound.numbers.entered future id awaits
        refine ⟨_, registered, desk.reads.length, before, read, ?_, isResponse_of_act delivers⟩
        exact List.getElem?_concat_length
      · rw [Function.update_of_ne same] at sent
        exact matched.heard other value (Or.inl sent)
    · exact matched.heard other value (Or.inr returned)

end Sound

theorem Step.sound {next : Desk V} (step : Step codec desk next) (sound : Sound codec desk) :
    Sound codec next := by
  cases step with
  | skip => exact sound
  | begin future method params fresh => exact sound.begin method params fresh
  | register future id method params numbered => exact sound.register numbered
  | queue future id awaits =>
    have kept (id' : RequestId) (same : (RequestFuture.queued id : RequestFuture V).awaits =
        some id') : (desk.futures future).awaits = some id' := by
      cases same
      exact awaits
    refine ⟨sound.numbers.move not_false kept, sound.matched.move False.elim ?_ kept ?_⟩
    · intro id' waits
      rw [← (sound.matched.waits id' future waits).1, awaits]
      rfl
    · intro value same
      cases same
  | leave future id phase awaits ended fails => exact sound.leave awaits ended fails
  | receive future id answer awaits sent =>
    have ended : (RequestFuture.returned answer).Over := trivial
    refine ⟨sound.numbers.move (RequestFuture.late_of_over ended) (fun _ same => by cases same),
      sound.matched.move False.elim ?_ (fun _ same => by cases same) ?_⟩
    · intro id' waits
      have silent := (sound.matched.waits id' future waits).2
      rw [sent] at silent
      cases silent
    · intro value same
      cases same
      exact sound.matched.heard future value (Or.inl sent)
  | forgo future fresh =>
    have ended : (RequestFuture.dropped : RequestFuture V).Over := trivial
    refine ⟨sound.numbers.move (RequestFuture.late_of_over ended) (fun _ same => by cases same),
      sound.matched.move False.elim ?_ (fun _ same => by cases same)
        (fun _ same => by cases same)⟩
    intro id waits
    have awaits := (sound.matched.waits id future waits).1
    rw [fresh] at awaits
    cases awaits
  | read read => exact ⟨sound.numbers.read read, sound.matched.read read⟩
  | deliver read id future answer waits delivers => exact sound.deliver waits delivers
  | take =>
    have numbers := sound.numbers
    exact ⟨⟨numbers.below, numbers.apart, numbers.entered, numbers.early⟩, sound.matched.take⟩
  | tell future error pending due fewer others =>
    have numbers := sound.numbers
    exact ⟨⟨numbers.below, numbers.apart, numbers.entered, numbers.early⟩,
      sound.matched.tell due fewer others⟩

end Desk

/-! ## Runs -/

/-- A future that is over stays as it is. -/
theorem Desk.Step.over_kept {codec : Codec V N R} {desk next : Desk V}
    (step : Desk.Step codec desk next) {future : ℕ} (ended : (desk.futures future).Over) :
    next.futures future = desk.futures future := by
  have apart {other : ℕ} (going : ¬ (desk.futures other).Over) : future ≠ other := by
    rintro rfl
    exact going ended
  have waiting {other : ℕ} {id : RequestId} (awaits : (desk.futures other).awaits = some id) :
      ¬ (desk.futures other).Over := by
    intro ended
    rw [RequestFuture.awaits_of_over ended] at awaits
    cases awaits
  have removed (id : RequestId) : (desk.removeWaiter id).futures = desk.futures := by
    unfold Desk.removeWaiter
    cases desk.waiters.get? id <;> rfl
  cases step with
  | begin other _ _ fresh => exact Desk.setFuture_of_ne (apart (by rw [fresh]; exact id)) _
  | register other id _ _ numbered =>
    rw [Desk.setFuture_of_ne (apart (by rw [numbered]; exact fun no => no))]
    exact congrFun (removed id) future
  | queue other _ awaits => exact Desk.setFuture_of_ne (apart (waiting awaits)) _
  | leave other id _ awaits _ _ =>
    rw [Desk.setFuture_of_ne (apart (waiting awaits))]
    exact congrFun (removed id) future
  | receive other _ _ awaits _ => exact Desk.setFuture_of_ne (apart (waiting awaits)) _
  | forgo other fresh => exact Desk.setFuture_of_ne (apart (by rw [fresh]; exact id)) _
  | _ => rfl

namespace Transport

variable {codec : Codec V N R} {transport : Transport V N R}

/-- A run of the transport from its start. -/
def run (codec : Codec V N R) (schedule : List (Choice V)) : Transport V N R :=
  Schedule.run (step codec) new schedule

theorem desk_step (codec : Codec V N R) (transport : Transport V N R) (choice : Choice V) :
    Desk.Step codec transport.desk (transport.step codec choice).desk := by
  unfold step
  cases taken : transport.step? codec choice with
  | none => exact .skip
  | some next => exact step_desk codec taken

theorem sound_new (codec : Codec V N R) : Desk.Sound codec (new : Transport V N R).desk where
  numbers :=
    { below := fun _ _ known => by cases known
      apart := fun _ _ _ known => by cases known
      entered := fun _ _ awaits => by cases awaits
      early := fun _ _ => rfl }
  matched :=
    { early := fun _ _ => rfl
      waits := fun _ _ waits => by cases waits
      due := by
        rintro future ⟨_ | _, message, waiters, telling, _⟩ <;> cases telling
      live := fun _ _ awaits => by cases awaits
      heard := by
        rintro future value (sent | returned)
        · cases sent
        · cases returned }

theorem sound_run (codec : Codec V N R) (schedule : List (Choice V)) :
    Desk.Sound codec (run codec schedule).desk :=
  @Schedule.run_preserves _ _ (step codec) (fun transport => Desk.Sound codec transport.desk) _
    (sound_new codec) (fun transport choice sound => (desk_step codec transport choice).sound sound)
    schedule

theorem over_kept {future : ℕ} (ended : (transport.futures future).Over)
    (schedule : List (Choice V)) :
    (Schedule.run (step codec) transport schedule).futures future = transport.futures future := by
  refine @Schedule.run_preserves _ _ (step codec)
    (fun later => later.futures future = transport.futures future) transport rfl ?_ schedule
  intro later choice same
  rw [← same]
  apply (desk_step codec later choice).over_kept
  change (later.futures future).Over
  rw [same]
  exact ended

/-! ## The inbox -/

/-- What a line adds to the inbox. -/
def item (codec : Codec V N R) (read : Read) : Option (InboxItem N R) :=
  match act codec read with
  | .append item => some item
  | .stop item _ => some item
  | _ => none

/-- What the lines that were read add to the inbox. -/
def items (codec : Codec V N R) (transport : Transport V N R) : List (InboxItem N R) :=
  transport.reads.filterMap (item codec)

/-- The inbox is a log to which the items were appended, and its reader got what it yielded. -/
structure Logged (codec : Codec V N R) (transport : Transport V N R)
    (log : LogRun (InboxItem N R)) : Prop where
  aligned : LogRun.Aligned log
  inbox : log.log = transport.inbox
  items : log.appended = transport.items codec
  received : log.results 0 = transport.received
  first : log.start 0 = 0 ∧ log.createdGap 0 = 0 ∧ 0 < log.log.state.nextReader
  closed : transport.reader ≠ .stopped → transport.inbox.state.closed = false

theorem trim_kept {T : Type} (state : LogState T) :
    state.trim.nextReader = state.nextReader ∧ state.trim.closed = state.closed := by
  unfold LogState.trim
  split <;> exact ⟨rfl, rfl⟩

/-- What a poll of the log's first reader leaves as it is. -/
theorem poll_kept {T : Type} (log : LogRun T) (id : ℕ) :
    (log.poll id).log = { log.log with state := (log.log.state.pollReader id).1 } ∧
      (log.poll id).appended = log.appended ∧
      (log.poll id).results id = log.results id ++ (log.log.state.pollReader id).2.toList ∧
      (log.poll id).start = log.start ∧ (log.poll id).createdGap = log.createdGap ∧
      (log.poll id).log.state.nextReader = log.log.state.nextReader ∧
      (log.poll id).log.state.closed = log.log.state.closed := by
  have parts : (log.poll id).log = { log.log with state := (log.log.state.pollReader id).1 } ∧
      (log.poll id).appended = log.appended ∧
      (log.poll id).results id = log.results id ++ (log.log.state.pollReader id).2.toList ∧
      (log.poll id).start = log.start ∧ (log.poll id).createdGap = log.createdGap := by
    unfold LogRun.poll
    dsimp only
    split
    · exact ⟨rfl, rfl, Function.update_self .., rfl, rfl⟩
    · split <;> exact ⟨rfl, rfl, Function.update_self .., rfl, rfl⟩
    · exact ⟨rfl, rfl, Function.update_self .., rfl, rfl⟩
  have state : (log.poll id).log.state.nextReader = log.log.state.nextReader ∧
      (log.poll id).log.state.closed = log.log.state.closed := by
    have polled := LogRun.poll_cases log id
    generalize log.poll id = next at polled
    cases polled with
    | event cursor => exact trim_kept _
    | _ => exact ⟨rfl, rfl⟩
  exact ⟨parts.1, parts.2.1, parts.2.2.1, parts.2.2.2.1, parts.2.2.2.2, state⟩

theorem append_kept {T : Type} (log : LogRun T) (event : T)
    (closed : log.log.state.closed = false) :
    (log.append event).log =
        { log.log with state := (log.log.state.append log.log.limit event).1 } ∧
      (log.append event).appended = log.appended ++ [event] ∧
      (log.append event).results = log.results ∧ (log.append event).start = log.start ∧
      (log.append event).createdGap = log.createdGap ∧
      (log.append event).log.state.nextReader = log.log.state.nextReader ∧
      (log.append event).log.state.closed = false := by
  have parts : (log.append event).appended = log.appended ++ [event] ∧
      (log.append event).log.state.nextReader = log.log.state.nextReader ∧
      (log.append event).log.state.closed = false := by
    rcases LogRun.append_cases log event with ⟨shut, _⟩ | ⟨_, same⟩ | same
    · rw [closed] at shut
      cases shut
    · rw [same]
      exact ⟨rfl, rfl, closed⟩
    · rw [same]
      exact ⟨rfl, rfl, closed⟩
  exact ⟨rfl, parts.1, rfl, rfl, rfl, parts.2⟩

namespace Logged

variable {log : LogRun (InboxItem N R)}

theorem same {next : Transport V N R} (logged : Logged codec transport log)
    (inbox : next.inbox = transport.inbox) (reads : next.reads = transport.reads)
    (received : next.received = transport.received)
    (reader : next.reader ≠ .stopped → transport.reader ≠ .stopped) :
    Logged codec next log where
  aligned := logged.aligned
  inbox := logged.inbox.trans inbox.symm
  items := by
    rw [logged.items]
    unfold Transport.items
    rw [reads]
  received := logged.received.trans received.symm
  first := logged.first
  closed going := by
    rw [inbox]
    exact logged.closed (reader going)

theorem ignored {next : Transport V N R} {read : Read} (logged : Logged codec transport log)
    (nothing : item codec read = none) (inbox : next.inbox = transport.inbox)
    (reads : next.reads = transport.reads ++ [read])
    (received : next.received = transport.received)
    (reader : next.reader = transport.reader) : Logged codec next log where
  aligned := logged.aligned
  inbox := logged.inbox.trans inbox.symm
  items := by
    rw [logged.items]
    unfold Transport.items
    rw [reads, List.filterMap_append, List.filterMap_cons, nothing]
    exact (List.append_nil _).symm
  received := logged.received.trans received.symm
  first := logged.first
  closed going := by
    rw [inbox]
    exact logged.closed (reader ▸ going)

/-- A line with an item for the inbox. -/
theorem appended {next : Transport V N R} {read : Read} {added : InboxItem N R}
    (logged : Logged codec transport log) (reading : transport.reader = .reading)
    (adds : item codec read = some added) (inbox : next.inbox = (transport.append added).inbox)
    (reads : next.reads = transport.reads ++ [read])
    (received : next.received = transport.received) : Logged codec next (log.append added) := by
  have shut : log.log.state.closed = false := by
    rw [logged.inbox]
    apply logged.closed
    rw [reading]
    exact Reader.noConfusion
  obtain ⟨state, items, results, start, gap, readers, closed⟩ := append_kept log added shut
  have same : (log.append added).log = next.inbox := by
    rw [state, inbox, logged.inbox]
    rfl
  refine ⟨logged.aligned.append added, same, ?_, ?_, ?_, ?_⟩
  · rw [items, logged.items]
    unfold Transport.items
    rw [reads, List.filterMap_append, List.filterMap_cons, adds]
    rfl
  · rw [results, received]
    exact logged.received
  · rw [start, gap, readers]
    exact logged.first
  · intro _
    rw [← same]
    exact closed

theorem polled (logged : Logged codec transport log) :
    Logged codec ({ transport with
      inbox := { transport.inbox with state := (transport.inbox.state.pollReader 0).1 }
      received := transport.received ++ (transport.inbox.state.pollReader 0).2.toList } :
        Transport V N R) (log.poll 0) := by
  obtain ⟨state, items, results, start, gap, readers, closed⟩ := poll_kept log 0
  refine ⟨logged.aligned.poll 0, ?_, items.trans logged.items, ?_, ?_, ?_⟩
  · rw [state, logged.inbox]
  · rw [results, logged.received, logged.inbox]
  · rw [start, gap, readers]
    exact logged.first
  · intro going
    have same : (log.poll 0).log.state.closed = log.log.state.closed := closed
    rw [state, logged.inbox] at same
    exact same.trans (logged.closed going)

theorem shut (logged : Logged codec transport log) :
    Logged codec ({ transport with
      reader := .stopped
      inbox := { transport.inbox with state := transport.inbox.state.close } } :
        Transport V N R) (log.step .close) := by
  refine ⟨logged.aligned.step .close, ?_, logged.items, logged.received, logged.first, ?_⟩
  · change { log.log with state := log.log.state.close } = _
    rw [logged.inbox]
  · exact fun going => absurd rfl going

end Logged

/-- What the operations besides the reader's leave as it is. -/
structure Aside (transport next : Transport V N R) : Prop where
  inbox : next.inbox = transport.inbox
  reads : next.reads = transport.reads
  received : next.received = transport.received
  reader : next.reader ≠ .stopped → transport.reader ≠ .stopped

theorem aside_removeWaiter (transport : Transport V N R) (id : RequestId) :
    Aside transport (transport.removeWaiter id) := by
  unfold removeWaiter
  cases transport.waiters.get? id <;> exact ⟨rfl, rfl, rfl, fun going => going⟩

theorem aside_abandon (transport : Transport V N R) (future : ℕ) (id : RequestId)
    (error : HarnessError) : Aside transport (transport.abandon future id error) := by
  have removed := aside_removeWaiter transport id
  exact ⟨removed.inbox, removed.reads, removed.received, removed.reader⟩

theorem aside_setSweep {transport next : Transport V N R} {task : Task} {sweep old : Sweep}
    (sweeps : transport.sweep? task = some old) (inbox : next.inbox = transport.inbox)
    (reads : next.reads = transport.reads) (received : next.received = transport.received)
    (reader : next.reader = transport.reader) : Aside transport (next.setSweep task sweep) := by
  cases task with
  | reader =>
    refine ⟨inbox, reads, received, ?_⟩
    intro _ stopped
    unfold sweep? at sweeps
    rw [stopped] at sweeps
    cases sweeps
  | writer => exact ⟨inbox, reads, received, fun going => reader ▸ going⟩

theorem aside_take {next : Transport V N R} {task : Task}
    (step : transport.take task = some next) : Aside transport next := by
  unfold take at step
  split at step
  · next due =>
    cases step
    exact aside_setSweep due rfl rfl rfl rfl
  · cases step

theorem aside_tell {next : Transport V N R} {task : Task} {future : ℕ}
    (step : transport.tell task future = some next) : Aside transport next := by
  unfold tell at step
  split at step
  · next telling =>
    split at step
    · cases step
      exact aside_setSweep telling rfl rfl rfl rfl
    · cases step
  · cases step

theorem logged_aside {next : Transport V N R} {log : LogRun (InboxItem N R)}
    (logged : Logged codec transport log) (aside : Aside transport next) :
    Logged codec next log :=
  logged.same aside.inbox aside.reads aside.received aside.reader

theorem aside_enqueue {next : Transport V N R} {future : ℕ} {id : RequestId} {method : String}
    {params : V} (step : transport.enqueue codec future id method params = some next) :
    Aside transport next := by
  unfold enqueue at step
  split at step
  · cases step
    exact aside_abandon _ _ _ _
  · split at step
    · cases step
      exact aside_abandon _ _ _ _
    · split at step
      · cases step
        exact ⟨rfl, rfl, rfl, fun going => going⟩
      · cases step

theorem aside_receive {next : Transport V N R} {future : ℕ} {id : RequestId}
    (step : transport.receive future id = some next) : Aside transport next := by
  unfold receive at step
  split at step
  · cases step
  · cases step
    exact ⟨rfl, rfl, rfl, fun going => going⟩
  · cases step
    exact aside_abandon _ _ _ _

theorem aside_drop {next : Transport V N R} {future : ℕ}
    (step : transport.drop future = some next) : Aside transport next := by
  have removed (id : RequestId) :
      Aside transport ((transport.removeWaiter id).setFuture future .dropped) := by
    have aside := aside_removeWaiter transport id
    exact ⟨aside.inbox, aside.reads, aside.received, aside.reader⟩
  unfold drop at step
  split at step
  · cases step
    exact ⟨rfl, rfl, rfl, fun going => going⟩
  · cases step
    exact removed _
  · cases step
    exact removed _
  · cases step

theorem logged_read {log : LogRun (InboxItem N R)} (logged : Logged codec transport log)
    (reading : transport.reader = .reading) (read : Read) :
    ∃ log, Logged codec ({ transport.perform (act codec read) with
      reads := transport.reads ++ [read] } : Transport V N R) log := by
  cases acts : act codec read with
  | skip => exact ⟨log, logged.ignored (by unfold item; rw [acts]) rfl rfl rfl rfl⟩
  | deliver id answer =>
    have nothing : item codec read = none := by
      unfold item
      rw [acts]
    refine ⟨log, logged.ignored nothing ?_ rfl ?_ ?_⟩
    all_goals
      unfold perform deliverResponse
      dsimp only
      cases transport.waiters.get? id <;> rfl
  | append added =>
    exact ⟨_, logged.appended reading (by unfold item; rw [acts]) rfl rfl rfl⟩
  | stop added message =>
    exact ⟨_, logged.appended reading (by unfold item; rw [acts]) rfl rfl rfl⟩

/-- A step of the transport is at most one operation on its inbox. -/
theorem logged_step {next : Transport V N R} {choice : Choice V} {log : LogRun (InboxItem N R)}
    (logged : Logged codec transport log) (step : transport.step? codec choice = some next) :
    ∃ log, Logged codec next log := by
  have still (aside : Aside transport next) : ∃ log, Logged codec next log :=
    ⟨log, logged_aside logged aside⟩
  unfold step? at step
  cases choice with
  | drop future => exact still (aside_drop step)
  | take task => exact still (aside_take step)
  | tell task future => exact still (aside_tell step)
  | next =>
    cases step
    exact ⟨_, logged.polled⟩
  | read read =>
    dsimp only at step
    split at step
    · next reading =>
      cases step
      exact logged_read logged reading read
    · cases step
  | close =>
    dsimp only at step
    split at step
    · cases step
      exact ⟨_, logged.shut⟩
    · cases step
  | register future =>
    dsimp only at step
    split at step
    · next id _ _ _ =>
      cases step
      have removed := aside_removeWaiter transport id
      exact still ⟨removed.inbox, removed.reads, removed.received, removed.reader⟩
    · cases step
  | enqueue future =>
    dsimp only at step
    split at step
    · exact still (aside_enqueue step)
    · cases step
  | receive future =>
    dsimp only at step
    split at step
    · exact still (aside_receive step)
    · cases step
  | _ =>
    dsimp only at step
    split at step
    · cases step
      exact still ⟨rfl, rfl, rfl, fun going => going⟩
    · cases step

theorem logged_new (codec : Codec V N R) : ∃ log, Logged codec (new : Transport V N R) log := by
  refine ⟨(LogRun.new codexInboxRetainLimit).reader, ?_, rfl, rfl, rfl, ⟨rfl, rfl, Nat.zero_lt_one⟩,
    fun _ => rfl⟩
  exact (LogRun.aligned_new codexInboxRetainLimit).reader

theorem logged_run (codec : Codec V N R) (schedule : List (Choice V)) :
    ∃ log, Logged codec (run codec schedule) log := by
  refine @Schedule.run_preserves _ _ (step codec)
    (fun transport => ∃ log, Logged codec transport log) _ (logged_new codec) ?_ schedule
  rintro transport choice ⟨log, logged⟩
  unfold step
  cases taken : transport.step? codec choice with
  | none => exact ⟨log, logged⟩
  | some next => exact logged_step logged taken

/-- What the transport's callers and the inbox's reader can rely on: a future that is over stays as
it is, a result is that of a response to its own id that was read after it registered, a response
without a waiter changes nothing, the inbox gets what the lines say in their order, and no future
that is over has a waiter. -/
structure Delivers (codec : Codec V N R) (transport : Transport V N R) : Prop where
  once : ∀ future, (transport.futures future).Over → ∀ schedule,
    (Schedule.run (step codec) transport schedule).futures future = transport.futures future
  own : ∀ future value, transport.futures future = .returned (.ok value) →
    ∃ registered, transport.registrations future = some registered ∧
      ∃ index ≥ registered.since, ∃ read, transport.reads[index]? = some read ∧
        IsResponse codec read registered.id value
  apart : ∀ first second one two, transport.registrations first = some one →
    transport.registrations second = some two → one.id = two.id → first = second
  stray : ∀ read id answer, act codec read = .deliver id answer →
    transport.waiters.get? id = none → transport.reader = .reading →
      transport.step codec (.read read) = { transport with reads := transport.reads ++ [read] }
  retained : transport.inbox.state.base ≤ (transport.items codec).length ∧
    transport.inbox.state.entries = (transport.items codec).drop transport.inbox.state.base
  received : ∃ position, LogRun.Covers (transport.items codec) 0 transport.received position
  gone : ∀ id future, transport.waiters.get? id = some future → ¬ (transport.futures future).Over

/-- In every run of any number of requests, of the writer and of the reader over any stream. -/
theorem delivers_run (codec : Codec V N R) (schedule : List (Choice V)) :
    Delivers codec (run codec schedule) := by
  have sound := sound_run codec schedule
  obtain ⟨log, logged⟩ := logged_run codec schedule
  refine ⟨fun _ ended => over_kept ended, ?_, ?_, ?_, ?_, ?_, ?_⟩
  · exact fun future value returned => sound.matched.heard future value (Or.inr returned)
  · intro first second one two registers registers' same
    apply sound.numbers.apart first second one.id
    · unfold Desk.idOf
      rw [show (run codec schedule).desk.registrations first = some one from registers]
    · unfold Desk.idOf
      rw [show (run codec schedule).desk.registrations second = some two from registers', same]
  · intro read id answer delivers absent reading
    unfold step step?
    dsimp only
    rw [if_pos reading, delivers]
    unfold perform deliverResponse
    dsimp only
    rw [absent]
    rfl
  · rw [← logged.inbox, ← logged.items]
    exact ⟨logged.aligned.base, logged.aligned.entries⟩
  · obtain ⟨position, covers⟩ := logged.aligned.readers 0 logged.first.2.2
    rw [logged.first.1, logged.first.2.1, logged.items, logged.received] at covers
    exact ⟨position, covers⟩
  · intro id future waits ended
    have awaits : ((run codec schedule).futures future).awaits = some id :=
      (sound.matched.waits id future waits).1
    rw [RequestFuture.awaits_of_over ended] at awaits
    cases awaits

end Transport

end Giskard.Codex
