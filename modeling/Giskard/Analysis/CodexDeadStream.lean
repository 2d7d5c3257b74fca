import Mathlib
import Giskard.Analysis.CodexAnswers

/-!
# Requests on a dead stream

When the reader stops it fails the waiters that it finds, once. Nothing fails a request that
registers later, unless the writer has stopped and the request's frame is refused. So as long as
every request registers before the reader takes the waiters, or after the writer has stopped, the
map is empty when nothing but a timeout can happen any more.
-/

set_option autoImplicit false

namespace Giskard.Codex

open Foundation (IndexMap Schedule.Meets Schedule.run_invariant)

variable {V N R : Type}

/-- The reader has taken the waiters. -/
def Reader.Done : Reader → Prop
  | .failing (.telling _ _) => True
  | .stopped => True
  | _ => False

/-- A step of the reader, of the writer or of a request that has begun, but no timeout. -/
def Choice.Moves : Choice V → Prop
  | .begin _ _ _ => False
  | .drop _ => False
  | .offer _ => False
  | .next => False
  | _ => True

namespace Transport

variable {codec : Codec V N R} {transport next : Transport V N R}

/-- Nothing happens but timeouts, new requests, other frames and reads of the inbox. -/
def Quiet (codec : Codec V N R) (transport : Transport V N R) : Prop :=
  ∀ choice, Choice.Moves choice → transport.step? codec choice = none

/-- A request registers before the reader takes the waiters, or after the writer has stopped. -/
def Timely (transport : Transport V N R) : Choice V → Prop
  | .register _ => transport.reader.Done → transport.writer = .stopped
  | _ => True

/-- Once the reader has taken the waiters, those in the map have yet to queue their frames, and
nobody takes frames any more. -/
def Cleared (transport : Transport V N R) : Prop :=
  transport.reader.Done → ∀ id future, transport.waiters.get? id = some future →
    transport.writer = .stopped ∧
      ∃ method params, transport.futures future = .registered id method params

/-! ## The map after the sweep -/

namespace Cleared

variable (cleared : Cleared transport)

include cleared

theorem kept (reader : next.reader.Done → transport.reader.Done)
    (writer : next.writer = transport.writer ∨ transport.writer ≠ .stopped)
    (entries : ∀ id future, next.waiters.get? id = some future →
      transport.waiters.get? id = some future ∧
        ∀ method params, transport.futures future = .registered id method params →
          next.futures future = transport.futures future) : Cleared next := by
  intro done id future waits
  obtain ⟨before, moves⟩ := entries id future waits
  obtain ⟨stopped, method, params, registered⟩ := cleared (reader done) id future before
  rcases writer with same | going
  · rw [same, moves method params registered]
    exact ⟨stopped, method, params, registered⟩
  · exact absurd stopped going

theorem same (reader : next.reader.Done → transport.reader.Done)
    (writer : next.writer = transport.writer ∨ transport.writer ≠ .stopped)
    (waiters : next.waiters = transport.waiters) (futures : next.futures = transport.futures) :
    Cleared next := by
  refine cleared.kept reader writer ?_
  intro id future waits
  rw [waiters] at waits
  refine ⟨waits, ?_⟩
  intro _ _ _
  rw [futures]

theorem setFuture {future : ℕ} (phase : RequestFuture V)
    (other : ∀ id method params, transport.futures future ≠ .registered id method params) :
    Cleared (transport.setFuture future phase) := by
  refine cleared.kept (fun done => done) (Or.inl rfl) ?_
  intro id waiter waits
  refine ⟨waits, ?_⟩
  intro method params registered
  refine Function.update_of_ne ?_ ..
  rintro rfl
  exact other id method params registered

theorem removeWaiter (id : RequestId) : Cleared (transport.removeWaiter id) := by
  unfold Transport.removeWaiter
  cases found : transport.waiters.get? id with
  | none => exact cleared
  | some future =>
    refine cleared.kept (fun done => done) (Or.inl rfl) ?_
    intro other waiter waits
    exact ⟨IndexMap.get?_of_shiftRemove waits, fun _ _ _ => rfl⟩

/-- A future gives up its waiter. -/
theorem leave {future : ℕ} {id : RequestId}
    (awaits : (transport.futures future).awaits = some id) (phase : RequestFuture V) :
    Cleared ((transport.removeWaiter id).setFuture future phase) := by
  refine (cleared.removeWaiter id).kept (fun done => done) (Or.inl rfl) ?_
  intro other waiter waits
  refine ⟨waits, ?_⟩
  intro method params registered
  refine Function.update_of_ne ?_ ..
  rintro rfl
  have same : other = id := by
    have before : (transport.removeWaiter id).futures waiter = transport.futures waiter := by
      unfold Transport.removeWaiter
      cases transport.waiters.get? id <;> rfl
    rw [before] at registered
    rw [registered] at awaits
    exact Option.some.inj awaits
  rw [same] at waits
  change (transport.removeWaiter id).waiters.get? id = some waiter at waits
  unfold Transport.removeWaiter at waits
  cases found : transport.waiters.get? id with
  | none =>
    rw [found] at waits
    dsimp only at waits
    rw [found] at waits
    cases waits
  | some other =>
    rw [found] at waits
    change (transport.waiters.shiftRemove id).get? id = some waiter at waits
    rw [IndexMap.get?_shiftRemove, if_pos rfl] at waits
    cases waits

theorem register {future : ℕ} {id : RequestId} {method : String} {params : V}
    (numbered : transport.futures future = .numbered id method params)
    (timely : transport.reader.Done → transport.writer = .stopped) :
    Cleared (transport.register future id method params) := by
  have removed := cleared.removeWaiter id
  have kept : (transport.removeWaiter id).reader = transport.reader ∧
      (transport.removeWaiter id).writer = transport.writer ∧
        (transport.removeWaiter id).futures = transport.futures := by
    unfold Transport.removeWaiter
    cases transport.waiters.get? id <;> exact ⟨rfl, rfl, rfl⟩
  intro done other waiter waits
  change (transport.removeWaiter id).reader.Done at done
  change ((transport.removeWaiter id).waiters.insert id future).get? other = some waiter at waits
  change (transport.removeWaiter id).writer = .stopped ∧ ∃ method' params',
    Function.update (transport.removeWaiter id).futures future (.registered id method params)
      waiter = .registered other method' params'
  rw [IndexMap.get?_insert] at waits
  split at waits
  · next same =>
    cases waits
    rw [same, Function.update_self, kept.2.1]
    exact ⟨timely (kept.1 ▸ done), method, params, rfl⟩
  · obtain ⟨stopped, method', params', registered⟩ := removed done other waiter waits
    refine ⟨stopped, method', params', ?_⟩
    rw [Function.update_of_ne]
    · exact registered
    · rintro rfl
      rw [kept.2.2, numbered] at registered
      cases registered

theorem enqueue {future : ℕ} {id : RequestId} {method : String} {params : V}
    (registered : transport.futures future = .registered id method params)
    (step : transport.enqueue codec future id method params = some next) : Cleared next := by
  have awaits : (transport.futures future).awaits = some id := by
    rw [registered]
    rfl
  unfold Transport.enqueue at step
  split at step
  · cases step
    exact cleared.leave awaits _
  · split at step
    · cases step
      exact cleared.leave awaits _
    · next going =>
      split at step
      · cases step
        intro done other waiter waits
        exact absurd (cleared done other waiter waits).1 going
      · cases step

theorem receive {future : ℕ} {id : RequestId}
    (queued : transport.futures future = .queued id)
    (step : transport.receive future id = some next) : Cleared next := by
  unfold Transport.receive at step
  split at step
  · cases step
  · cases step
    apply cleared.setFuture
    intro other method params registered
    rw [queued] at registered
    cases registered
  · cases step
    apply cleared.leave
    rw [queued]
    rfl

theorem drop {future : ℕ} (step : transport.drop future = some next) : Cleared next := by
  unfold Transport.drop at step
  split at step
  · next fresh =>
    cases step
    apply cleared.setFuture
    intro other method params registered
    rw [fresh] at registered
    cases registered
  · next registered =>
    cases step
    apply cleared.leave
    rw [registered]
    rfl
  · next queued =>
    cases step
    apply cleared.leave
    rw [queued]
    rfl
  · cases step

theorem take {task : Task} (step : transport.take task = some next) : Cleared next := by
  unfold Transport.take at step
  split at step
  · cases step
    intro _ id future waits
    cases task <;> cases waits
  · cases step

theorem tell {task : Task} {future : ℕ} (step : transport.tell task future = some next) :
    Cleared next := by
  unfold Transport.tell at step
  split at step
  · next message waiters telling =>
    split at step
    · cases step
      unfold sweep? at telling
      cases task with
      | reader =>
        dsimp only at telling
        split at telling
        · next failing =>
          cases telling
          refine cleared.same (fun _ => ?_) (Or.inl rfl) rfl rfl
          rw [failing]
          trivial
        · cases telling
      | writer =>
        dsimp only at telling
        split at telling
        · next failing =>
          refine cleared.same (fun done => done) (Or.inr ?_) rfl rfl
          rw [failing]
          exact Writer.noConfusion
        · cases telling
    · cases step
  · cases step

theorem read (reading : transport.reader = .reading) (read : Read) :
    Cleared ({ transport.perform (act codec read) with
      reads := transport.reads ++ [read] } : Transport V N R) := by
  intro done
  refine absurd done ?_
  cases act codec read with
  | deliver id answer =>
    unfold perform deliverResponse
    dsimp only
    cases transport.waiters.get? id with
    | none =>
      rw [reading]
      exact fun no => no
    | some future =>
      change ¬ transport.reader.Done
      rw [reading]
      exact fun no => no
  | stop item message => exact fun no => no
  | _ =>
    change ¬ transport.reader.Done
    rw [reading]
    exact fun no => no

theorem step {choice : Choice V} (timely : Timely transport choice)
    (step : transport.step? codec choice = some next) : Cleared next := by
  unfold step? at step
  cases choice with
  | drop future => exact cleared.drop step
  | take task => exact cleared.take step
  | tell task future => exact cleared.tell step
  | next =>
    cases step
    exact cleared
  | read read =>
    dsimp only at step
    split at step
    · next reading =>
      cases step
      exact cleared.read reading read
    · cases step
  | begin future method params =>
    dsimp only at step
    split at step
    · next fresh =>
      cases step
      have cleared : Cleared { transport with nextId := transport.nextId + 1 } := cleared
      apply cleared.setFuture
      intro other method params registered
      have registered : transport.futures future = _ := registered
      rw [fresh] at registered
      cases registered
    · cases step
  | register future =>
    dsimp only at step
    split at step
    · next numbered =>
      cases step
      exact cleared.register numbered timely
    · cases step
  | enqueue future =>
    dsimp only at step
    split at step
    · next registered => exact cleared.enqueue registered step
    · cases step
  | receive future =>
    dsimp only at step
    split at step
    · next queued => exact cleared.receive queued step
    · cases step
  | close =>
    dsimp only at step
    split at step
    · next failing =>
      cases step
      refine cleared.same (fun _ => ?_) (Or.inl rfl) rfl rfl
      rw [failing]
      trivial
    · cases step
  | recv =>
    dsimp only at step
    split at step
    · next receiving _ =>
      cases step
      refine cleared.same (fun done => done) (Or.inr ?_) rfl rfl
      rw [receiving]
      exact Writer.noConfusion
    · cases step
  | offer frame =>
    dsimp only at step
    split at step
    · cases step
      exact cleared
    · cases step
  | _ =>
    dsimp only at step
    split at step
    · next writer =>
      cases step
      refine cleared.same (fun done => done) (Or.inr ?_) rfl rfl
      rw [writer]
      exact Writer.noConfusion
    · cases step

end Cleared

theorem cleared_run (codec : Codec V N R) {schedule : List (Choice V)}
    (timely : Schedule.Meets (step codec) Timely new schedule) :
    Cleared (run codec schedule) := by
  refine @Schedule.run_invariant _ _ (Transport.step codec) Timely Cleared new schedule ?_ timely ?_
  · intro done
    exact absurd done fun no => no
  · intro transport choice cleared met
    unfold Transport.step
    cases taken : transport.step? codec choice with
    | none => exact cleared
    | some next => exact cleared.step met taken

/-! ## Nobody waits -/

/-- Where nothing moves, the queue has room for a frame or the writer has stopped. -/
theorem Quiet.room (quiet : Quiet codec transport) :
    transport.writer = .stopped ∨ transport.queue = [] := by
  cases writer : transport.writer with
  | stopped => exact Or.inl rfl
  | receiving =>
    have still := quiet .recv trivial
    unfold step? at still
    dsimp only at still
    rw [writer] at still
    cases queue : transport.queue with
    | nil => exact Or.inr rfl
    | cons frame queue' =>
      rw [queue] at still
      cases still
  | writing frame =>
    have still := quiet .wrote trivial
    unfold step? at still
    dsimp only at still
    rw [writer] at still
    cases still
  | failing sweep =>
    have sweeps : transport.sweep? .writer = some sweep := by
      unfold sweep?
      rw [writer]
    cases sweep with
    | due message =>
      have still := quiet (.take .writer) trivial
      unfold step? take at still
      dsimp only at still
      rw [sweeps] at still
      cases still
    | telling message waiters =>
      cases waiters with
      | nil =>
        have still := quiet .finish trivial
        unfold step? at still
        dsimp only at still
        rw [writer] at still
        cases still
      | cons future waiters =>
        have still := quiet (.tell .writer future) trivial
        unfold step? tell at still
        dsimp only at still
        rw [sweeps] at still
        dsimp only at still
        rw [if_pos List.mem_cons_self] at still
        cases still

theorem Quiet.not_registered (quiet : Quiet codec transport) {future : ℕ} {id : RequestId}
    {method : String} {params : V} :
    transport.futures future ≠ .registered id method params := by
  intro registered
  have still := quiet (.enqueue future) trivial
  unfold step? at still
  dsimp only at still
  rw [registered] at still
  dsimp only at still
  unfold enqueue at still
  split at still
  · cases still
  · split at still
    · cases still
    · next going =>
      split at still
      · cases still
      · next full =>
        rw [quiet.room.resolve_left going] at full
        exact full (by decide)

theorem Quiet.told (quiet : Quiet codec transport) {task : Task} {future : ℕ} :
    ¬ transport.Telling task future := by
  rintro ⟨message, waiters, telling, inside⟩
  have still := quiet (.tell task future) trivial
  unfold step? tell at still
  dsimp only at still
  rw [telling] at still
  dsimp only at still
  rw [if_pos inside] at still
  cases still

theorem Quiet.unanswered (quiet : Quiet codec transport) {future : ℕ} {id : RequestId}
    (queued : transport.futures future = .queued id) (answer : Answer V) :
    transport.replies future ≠ .sent answer := by
  intro sent
  have still := quiet (.receive future) trivial
  unfold step? receive at still
  dsimp only at still
  rw [queued] at still
  dsimp only at still
  rw [sent] at still
  cases still

/-- In every run in which each request registers in time: when the reader has stopped and nothing
but a timeout can happen any more, nobody waits, and each request that registered is over. -/
theorem stopped_stream_keeps_nobody (codec : Codec V N R) (schedule : List (Choice V))
    (timely : Schedule.Meets (step codec) Timely new schedule)
    (stopped : (run codec schedule).reader = .stopped)
    (quiet : Quiet codec (run codec schedule)) :
    (run codec schedule).waiters.entries = [] ∧
      ∀ future registered, (run codec schedule).registrations future = some registered →
        ((run codec schedule).futures future).Over := by
  have done : (run codec schedule).reader.Done := by
    rw [stopped]
    trivial
  have absent (id : RequestId) (future : ℕ) :
      (run codec schedule).waiters.get? id ≠ some future := by
    intro waits
    obtain ⟨_, method, params, registered⟩ := cleared_run codec timely done id future waits
    exact quiet.not_registered registered
  refine ⟨List.eq_nil_iff_forall_not_mem.2 ?_, ?_⟩
  · rintro ⟨id, future⟩ inside
    exact absent id future (IndexMap.get?_eq_some.2 inside)
  · intro future registered registers
    have sound := sound_run codec schedule
    rcases ((run codec schedule).futures future).early_or with early | ⟨id, awaits⟩ | ended
    · have none : (run codec schedule).registrations future = none :=
        sound.numbers.early future early
      rw [registers] at none
      cases none
    · rcases sound.matched.live future id awaits with waits | ⟨answer, sent⟩ | ⟨task, told⟩
      · exact absurd waits (absent id future)
      · cases phase : (run codec schedule).futures future with
        | registered id method params => exact absurd phase quiet.not_registered
        | queued id => exact absurd sent (quiet.unanswered phase answer)
        | _ =>
          rw [phase] at awaits
          cases awaits
      · exact absurd told quiet.told
    · exact ended

/-! ## A request before the end of the stream, and one after it -/

/-- The crates on a stream that only ends. -/
def sampleCodec : Codec Unit String String where
  decode := fun _ => .error "expected value at line 1 column 1"
  notification := fun method _ => .ok method
  request := fun method _ => .ok method
  encode := fun _ _ _ =>
    .ok "\x7b\"id\":1,\"method\":\"thread/list\",\"params\":null\x7d"
  quoted := fun text => text

/-- Where the futures are over, or wait without an answer, and the tasks have nothing to do. -/
theorem quiet_of {transport : Transport Unit String String}
    (stopped : transport.reader = .stopped) (receiving : transport.writer = .receiving)
    (empty : transport.queue = [])
    (still : ∀ future, transport.futures future = .fresh ∨ (transport.futures future).Over ∨
      (∃ id, transport.futures future = .queued id) ∧ transport.replies future = .empty) :
    Quiet sampleCodec transport := by
  intro choice moves
  cases choice with
  | begin => exact moves.elim
  | drop => exact moves.elim
  | offer => exact moves.elim
  | next => exact moves.elim
  | take task =>
    unfold step? take sweep?
    cases task <;> dsimp only <;> simp only [stopped, receiving]
  | tell task future =>
    unfold step? tell sweep?
    cases task <;> dsimp only <;> simp only [stopped, receiving]
  | register future =>
    unfold step?
    rcases still future with fresh | ended | ⟨⟨id, queued⟩, _⟩
    · simp only [fresh]
    · cases phase : transport.futures future <;> first | simp only [phase] | skip
      rw [phase] at ended
      exact ended.elim
    · simp only [queued]
  | enqueue future =>
    unfold step?
    rcases still future with fresh | ended | ⟨⟨id, queued⟩, _⟩
    · simp only [fresh]
    · cases phase : transport.futures future <;> first | simp only [phase] | skip
      rw [phase] at ended
      exact ended.elim
    · simp only [queued]
  | receive future =>
    unfold step? receive
    rcases still future with fresh | ended | ⟨⟨id, queued⟩, silent⟩
    · simp only [fresh]
    · cases phase : transport.futures future <;> first | simp only [phase] | skip
      rw [phase] at ended
      exact ended.elim
    · simp only [queued, silent]
  | read read =>
    unfold step?
    simp [stopped]
  | _ =>
    unfold step?
    simp only [stopped, receiving, empty]

/-- A request whose stream ends. -/
def sampleInTime : List (Choice Unit) :=
  [.begin 0 "thread/list" (), .register 0, .enqueue 0, .recv, .wrote, .read .eof, .take .reader,
    .tell .reader 0, .close, .receive 0]

/-- A request after the end of its stream. -/
def sampleLate : List (Choice Unit) :=
  [.read .eof, .take .reader, .close, .begin 0 "thread/list" (), .register 0, .enqueue 0, .recv,
    .wrote]

theorem sampleInTime_quiet : Quiet sampleCodec (run sampleCodec sampleInTime) := by
  refine quiet_of rfl rfl rfl ?_
  intro future
  by_cases zero : future = 0
  · rw [zero]
    exact Or.inr (Or.inl trivial)
  · refine Or.inl ?_
    change Function.update (Function.update (Function.update (Function.update (fun _ => _) 0 _) 0 _)
      0 _) 0 _ future = _
    simp only [Function.update_of_ne zero]
    rfl

theorem sampleLate_quiet : Quiet sampleCodec (run sampleCodec sampleLate) := by
  refine quiet_of rfl rfl rfl ?_
  intro future
  by_cases zero : future = 0
  · rw [zero]
    exact Or.inr (Or.inr ⟨⟨.integer 1, rfl⟩, rfl⟩)
  · refine Or.inl ?_
    change Function.update (Function.update (Function.update (fun _ => _) 0 _) 0 _) 0 _ future = _
    simp only [Function.update_of_ne zero]
    rfl

/-- The request in time is told. -/
theorem stopped_stream_sample : (run sampleCodec sampleInTime).waiters.entries = [] ∧
    ∀ future registered, (run sampleCodec sampleInTime).registrations future = some registered →
      ((run sampleCodec sampleInTime).futures future).Over :=
  stopped_stream_keeps_nobody sampleCodec sampleInTime
    ⟨trivial, fun done => done.elim, trivial, trivial, trivial, trivial, trivial, trivial, trivial,
      trivial, trivial⟩ rfl sampleInTime_quiet

/-- The late request waits on. -/
theorem stopped_stream_keeps_a_waiter : (run sampleCodec sampleLate).reader = .stopped ∧
    Quiet sampleCodec (run sampleCodec sampleLate) ∧
      (run sampleCodec sampleLate).waiters.entries ≠ [] :=
  ⟨rfl, sampleLate_quiet, by decide⟩

end Transport

end Giskard.Codex
