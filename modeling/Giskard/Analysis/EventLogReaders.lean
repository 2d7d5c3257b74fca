import Mathlib
import Giskard.Foundation.Schedule
import Giskard.Model.EventLog

/-!
# Readers of the event log

Any number of readers of one log, created, polled and dropped in any order. Beside the log, a run
keeps what was appended and what each reader received, and for every counter of evictions the
positions that it counts.

What is retained is what was appended from the base on, so that the results of a reader are the
appended events from its start on, with a gap in place of what it skipped. An eviction that nobody
received stays with a reader that lags behind it, with the pending gap of a reader, or with the
counter that the next reader takes over. Only a reader that is dropped while others live can lose
one.

SOURCE: crates/giskard-harness/src/event_log.rs.
-/

set_option autoImplicit false

namespace Giskard

open Foundation

variable {T : Type}

/-! ## Trimming -/

namespace LogState

theorem trimTo_eq (minCursor base : ℕ) (entries : List T) :
    trimTo minCursor base entries =
      (base + min (minCursor - base) entries.length, entries.drop (minCursor - base)) := by
  induction entries generalizing base with
  | nil => simp [trimTo]
  | cons event entries ih =>
    unfold trimTo
    split
    · next below =>
      have step : minCursor - base = minCursor - (base + 1) + 1 := by omega
      rw [ih, step, List.drop_succ_cons, List.length_cons, Nat.add_min_add_right]
      congr 1
      omega
    · next above =>
      have step : minCursor - base = 0 := by omega
      rw [step, Nat.zero_min, Nat.add_zero, List.drop_zero]

/-- What trimming leaves: readers and counters as they are, and the entries from a later base on.
Some reader is at the new base or behind it. -/
theorem trim_spec (state : LogState T) :
    ∃ dropped, dropped ≤ state.entries.length ∧
      state.trim = { state with
        base := state.base + dropped
        entries := state.entries.drop dropped } ∧
      ((∀ id cursor, state.cursors.get? id = some cursor →
          cursor.next ≤ state.base + state.entries.length) →
        state.cursors.entries ≠ [] →
        ∃ id cursor, state.cursors.get? id = some cursor ∧ cursor.next ≤ state.base + dropped) := by
  unfold trim
  cases least : (state.cursors.values.map Cursor.next).min? with
  | none =>
    refine ⟨0, Nat.zero_le _, rfl, ?_⟩
    intro _ some_
    rw [List.min?_eq_none_iff, IndexMap.values, List.map_eq_nil_iff, List.map_eq_nil_iff] at least
    exact absurd least some_
  | some minCursor =>
    obtain ⟨member, -⟩ := List.min?_eq_some_iff.1 least
    obtain ⟨cursor, value, rfl⟩ := List.mem_map.1 member
    obtain ⟨id, found⟩ := IndexMap.mem_values_iff.1 value
    refine ⟨min (cursor.next - state.base) state.entries.length, Nat.min_le_right _ _, ?_, ?_⟩
    · dsimp only
      rw [trimTo_eq]
      dsimp only
      congr 1
      rcases Nat.le_total (cursor.next - state.base) state.entries.length with few | many
      · rw [Nat.min_eq_left few]
      · rw [Nat.min_eq_right many, List.drop_length, List.drop_eq_nil_of_le many]
    · intro inside _
      have bound := inside id cursor found
      exact ⟨id, cursor, found, by omega⟩

theorem pollReader_closed {state : LogState T} {id : ℕ}
    (closed : (state.pollReader id).2 = some (.error .closed)) :
    ∃ cursor, state.cursors.get? id = some cursor ∧ state.closed = true ∧
      state.base + state.entries.length ≤ cursor.next := by
  unfold pollReader at closed
  cases found : state.cursors.get? id with
  | none => simp [found] at closed
  | some cursor =>
    simp only [found] at closed
    split at closed
    · cases closed
    · split at closed
      · cases closed
      · next caught =>
        cases there : state.entries[cursor.next - state.base]? with
        | some event => simp [there] at closed
        | none =>
          simp only [there, Option.ite_none_right_eq_some] at closed
          have above := List.getElem?_eq_none_iff.1 there
          exact ⟨cursor, rfl, closed.1, by omega⟩

end LogState

/-! ## Runs -/

/-- The next operation on a log. -/
inductive LogChoice (T : Type) where
  | append (event : T)
  | close
  | reader
  | poll (id : ℕ)
  | drop (id : ℕ)

/-- A log, what was appended to it and what its readers received. The positions that the cap
evicted, that a reader received and that a returned gap counts are kept, and those that the
unreported evictions and the pending gaps count. -/
structure LogRun (T : Type) where
  log : EventLog T
  appended : List T
  results : ℕ → List (Except EventStreamError T)
  start : ℕ → ℕ
  createdGap : ℕ → ℕ
  evicted : List ℕ
  received : List ℕ
  counted : List ℕ
  unreported : List ℕ
  pending : ℕ → List ℕ

namespace LogRun

def new (limit : ℕ) : LogRun T where
  log := .withLimit limit
  appended := []
  results := fun _ => []
  start := fun _ => 0
  createdGap := fun _ => 0
  evicted := []
  received := []
  counted := []
  unreported := []
  pending := fun _ => []

/-- The positions that a cursor lags behind. -/
def lag (base : ℕ) (cursor : Cursor) : List ℕ := List.range' cursor.next (base - cursor.next)

theorem mem_lag {base position : ℕ} {cursor : Cursor} :
    position ∈ lag base cursor ↔ cursor.next ≤ position ∧ position < base := by
  rw [lag, List.mem_range'_1]
  omega

def append (run : LogRun T) (event : T) : LogRun T :=
  let state := run.log.state
  let next := state.append run.log.limit event
  { run with
    log := { run.log with state := next.1 }
    appended := if next.2 then run.appended ++ [event] else run.appended
    evicted := if state.base < next.1.base then run.evicted ++ [state.base] else run.evicted
    unreported :=
      if state.base < next.1.base ∧ state.cursors.entries.isEmpty then
        run.unreported ++ [state.base]
      else run.unreported }

def reader (run : LogRun T) : LogRun T :=
  let state := run.log.state
  let next := state.reader
  { run with
    log := { run.log with state := next.1 }
    start := Function.update run.start next.2 state.base
    createdGap := Function.update run.createdGap next.2 state.unreportedEvictions
    pending := Function.update run.pending next.2 run.unreported
    unreported := [] }

def poll (run : LogRun T) (id : ℕ) : LogRun T :=
  let state := run.log.state
  let next := state.pollReader id
  let polled := { run with
    log := { run.log with state := next.1 }
    results := Function.update run.results id (run.results id ++ next.2.toList) }
  match state.cursors.get? id, next.2 with
  | some cursor, some (.ok _) => { polled with received := run.received ++ [cursor.next] }
  | some cursor, some (.error (.gap _)) =>
    if 0 < cursor.pendingGap then
      { polled with
        counted := run.counted ++ run.pending id
        pending := Function.update run.pending id [] }
    else { polled with counted := run.counted ++ lag state.base cursor }
  | _, _ => polled

def drop (run : LogRun T) (id : ℕ) : LogRun T :=
  let state := run.log.state
  let dropped := { run with log := { run.log with state := state.dropReader id } }
  match state.cursors.get? id with
  | none => dropped
  | some cursor =>
    if (state.cursors.shiftRemove id).entries.isEmpty then
      { dropped with
        unreported := run.unreported ++ (run.pending id ++ lag state.base cursor) }
    else dropped

def step (run : LogRun T) : LogChoice T → LogRun T
  | .append event => run.append event
  | .close => { run with log := { run.log with state := run.log.state.close } }
  | .reader => run.reader
  | .poll id => run.poll id
  | .drop id => run.drop id

/-! ## What a reader received -/

/-- A result, with a gap as the positions that it skips. -/
def shown : Except EventStreamError T → List (Option T)
  | .ok event => [some event]
  | .error (.gap dropped) => List.replicate dropped none
  | .error .closed => []

/-- What a reader received, without the gap that was pending when it was created. -/
def seen (createdGap : ℕ) (results : List (Except EventStreamError T)) :
    List (Except EventStreamError T) :=
  if 0 < createdGap then results.tail else results

/-- Some results are the appended events from a start up to a position, with gaps for the ones
that are skipped. -/
structure Covers (appended : List T) (start : ℕ) (results : List (Except EventStreamError T))
    (position : ℕ) : Prop where
  length : start + (results.flatMap shown).length = position
  inside : position ≤ appended.length
  events : ∀ k event, (results.flatMap shown)[k]? = some (some event) →
    appended[start + k]? = some event

theorem Covers.nil {appended : List T} {start : ℕ} (inside : start ≤ appended.length) :
    Covers appended start [] start := by
  refine ⟨rfl, inside, ?_⟩
  intro k event there
  cases there

theorem Covers.append {appended : List T} {start position : ℕ}
    {results : List (Except EventStreamError T)} (covers : Covers appended start results position)
    (event : T) : Covers (appended ++ [event]) start results position := by
  refine ⟨covers.length, ?_, ?_⟩
  · have inside := covers.inside
    rw [List.length_append]
    omega
  · intro k event' there
    have earlier := covers.events k event' there
    rw [List.getElem?_append_left (List.getElem?_eq_some_iff.1 earlier).1, earlier]

theorem Covers.concat {appended : List T} {start position next : ℕ}
    {results : List (Except EventStreamError T)} {result : Except EventStreamError T}
    (covers : Covers appended start results position)
    (length : position + (shown result).length = next) (inside : next ≤ appended.length)
    (event : ∀ event, result = .ok event → appended[position]? = some event) :
    Covers appended start (results ++ [result]) next := by
  have whole : (results ++ [result]).flatMap shown = results.flatMap shown ++ shown result := by
    simp
  refine ⟨?_, inside, ?_⟩
  · rw [whole, List.length_append, ← length, ← covers.length, Nat.add_assoc]
  · intro k event' there
    rw [whole] at there
    by_cases before : k < (results.flatMap shown).length
    · rw [List.getElem?_append_left before] at there
      exact covers.events k event' there
    · rw [List.getElem?_append_right (Nat.le_of_not_lt before)] at there
      cases result with
      | ok found =>
        have here : k = (results.flatMap shown).length := by
          have bound := (List.getElem?_eq_some_iff.1 there).1
          simp only [shown, List.length_singleton] at bound
          omega
        rw [here, Nat.sub_self] at there
        simp only [shown, List.getElem?_cons_zero, Option.some.injEq] at there
        rw [here, covers.length, event found rfl, there]
      | error error =>
        have absent : some event' ∉ shown (.error error : Except EventStreamError T) := by
          cases error with
          | closed => simp [shown]
          | gap dropped => simp [shown]
        exact absurd (List.mem_of_getElem? there) absent

/-! ## The cases of the operations -/

section Cases

variable (run : LogRun T)

/-- The run with another state of its log. -/
def withState (state : LogState T) : LogRun T := { run with log := { run.log with state := state } }

/-- What appending an event can do. -/
theorem append_cases (event : T) :
    (run.log.state.closed = true ∧ run.append event = run) ∨
    (run.log.state.entries.length + 1 ≤ run.log.limit ∧
      run.append event = { run.withState
          { run.log.state with entries := run.log.state.entries ++ [event] } with
        appended := run.appended ++ [event] }) ∨
    run.append event = { run.withState { run.log.state with
          entries := (run.log.state.entries ++ [event]).tail
          base := run.log.state.base + 1
          unreportedEvictions :=
            if run.log.state.cursors.entries.isEmpty then run.log.state.unreportedEvictions + 1
            else run.log.state.unreportedEvictions
          overflowed := true } with
        appended := run.appended ++ [event]
        evicted := run.evicted ++ [run.log.state.base]
        unreported :=
          if run.log.state.cursors.entries.isEmpty then run.unreported ++ [run.log.state.base]
          else run.unreported } := by
  unfold append LogState.append withState
  cases closed : run.log.state.closed with
  | true =>
    left
    simp [closed]
  | false =>
    right
    by_cases many : run.log.limit ≤ run.log.state.entries.length
    · right
      simp [closed, many]
    · left
      refine ⟨by omega, ?_⟩
      simp [closed, many]

/-- What polling a reader can do. -/
inductive Polled (id : ℕ) : LogRun T → Prop where
  | idle : Polled id run
  | closed (cursor : Cursor) (found : run.log.state.cursors.get? id = some cursor)
      (reported : cursor.pendingGap = 0) (caught : run.log.state.base ≤ cursor.next)
      (nothing : run.log.state.entries[cursor.next - run.log.state.base]? = none)
      (shut : run.log.state.closed = true) :
      Polled id { run with
        results := Function.update run.results id (run.results id ++ [.error .closed]) }
  | pending (cursor : Cursor) (found : run.log.state.cursors.get? id = some cursor)
      (some_ : 0 < cursor.pendingGap) :
      Polled id { run.withState { run.log.state with
          cursors := run.log.state.cursors.insert id { cursor with pendingGap := 0 } } with
        results := Function.update run.results id
          (run.results id ++ [.error (.gap cursor.pendingGap)])
        counted := run.counted ++ run.pending id
        pending := Function.update run.pending id [] }
  | behind (cursor : Cursor) (found : run.log.state.cursors.get? id = some cursor)
      (reported : cursor.pendingGap = 0) (below : cursor.next < run.log.state.base) :
      Polled id { run.withState { run.log.state with
          cursors := run.log.state.cursors.insert id
            { cursor with next := run.log.state.base } } with
        results := Function.update run.results id
          (run.results id ++ [.error (.gap (run.log.state.base - cursor.next))])
        counted := run.counted ++ lag run.log.state.base cursor }
  | event (cursor : Cursor) (found : run.log.state.cursors.get? id = some cursor)
      (reported : cursor.pendingGap = 0) (caught : run.log.state.base ≤ cursor.next) (event : T)
      (there : run.log.state.entries[cursor.next - run.log.state.base]? = some event) :
      Polled id { run.withState (LogState.trim { run.log.state with
          cursors := run.log.state.cursors.insert id
            { cursor with next := cursor.next + 1 } }) with
        results := Function.update run.results id (run.results id ++ [.ok event])
        received := run.received ++ [cursor.next] }

theorem poll_cases (id : ℕ) : Polled run id (run.poll id) := by
  have same : { run with results := Function.update run.results id (run.results id ++ []) } =
      run := by
    rw [List.append_nil, Function.update_eq_self]
  cases found : run.log.state.cursors.get? id with
  | none =>
    have polled : run.log.state.pollReader id = (run.log.state, none) := by
      simp [LogState.pollReader, found]
    simp only [poll, polled, found, Option.toList_none]
    rw [same]
    exact .idle
  | some cursor =>
    by_cases some_ : 0 < cursor.pendingGap
    · simp only [poll, LogState.pollReader, found, if_pos some_, Option.toList_some]
      exact .pending cursor found some_
    · have reported : cursor.pendingGap = 0 := by omega
      by_cases below : cursor.next < run.log.state.base
      · simp only [poll, LogState.pollReader, found, if_neg some_, if_pos below, Option.toList_some]
        exact .behind cursor found reported below
      · have caught : run.log.state.base ≤ cursor.next := by omega
        cases there : run.log.state.entries[cursor.next - run.log.state.base]? with
        | some event =>
          simp only [poll, LogState.pollReader, found, if_neg some_, if_neg below, there,
            Option.toList_some]
          exact .event cursor found reported caught event there
        | none =>
          cases shut : run.log.state.closed with
          | true =>
            simp only [poll, LogState.pollReader, found, if_neg some_, if_neg below, there, shut,
              if_true, Option.toList_some]
            exact .closed cursor found reported caught there shut
          | false =>
            have polled : run.log.state.pollReader id = (run.log.state, none) := by
              simp [LogState.pollReader, found, some_, below, there, shut]
            simp only [poll, polled, found, Option.toList_none]
            rw [same]
            exact .idle

/-- What dropping a reader can do. -/
theorem drop_cases (id : ℕ) :
    (run.log.state.cursors.get? id = none ∧ run.drop id = run.withState run.log.state.trim) ∨
    ∃ cursor, run.log.state.cursors.get? id = some cursor ∧
      (((run.log.state.cursors.shiftRemove id).entries = [] ∧
        run.drop id = { run.withState (LogState.trim { run.log.state with
            cursors := run.log.state.cursors.shiftRemove id
            unreportedEvictions := run.log.state.unreportedEvictions +
              (cursor.pendingGap + (run.log.state.base - cursor.next)) }) with
          unreported :=
            run.unreported ++ (run.pending id ++ lag run.log.state.base cursor) }) ∨
      ((run.log.state.cursors.shiftRemove id).entries ≠ [] ∧
        run.drop id = run.withState (LogState.trim { run.log.state with
          cursors := run.log.state.cursors.shiftRemove id }))) := by
  cases found : run.log.state.cursors.get? id with
  | none =>
    left
    simp [drop, LogState.dropReader, withState, found]
  | some cursor =>
    right
    refine ⟨cursor, rfl, ?_⟩
    by_cases last : (run.log.state.cursors.shiftRemove id).entries = []
    · left
      refine ⟨last, ?_⟩
      simp [drop, LogState.dropReader, withState, found, last]
    · right
      refine ⟨last, ?_⟩
      simp [drop, LogState.dropReader, withState, found, last]

end Cases

/-! ## Readers in order -/

/-- What a live reader has received, up to its cursor. -/
structure Reads (appended : List T) (start createdGap : ℕ)
    (results : List (Except EventStreamError T)) (cursor : Cursor) : Prop where
  covers : Covers appended start (seen createdGap results) cursor.next
  pending : (cursor.pendingGap = 0 ∧ (createdGap = 0 ∨ results ≠ [])) ∨
    (0 < cursor.pendingGap ∧ createdGap = cursor.pendingGap ∧ results = [])

/-- The log has what was appended from its base on, and every reader received a run of it. -/
structure Aligned (run : LogRun T) : Prop where
  base : run.log.state.base ≤ run.appended.length
  entries : run.log.state.entries = run.appended.drop run.log.state.base
  limit : run.log.state.entries.length ≤ run.log.limit
  born : ∀ id cursor, run.log.state.cursors.get? id = some cursor → id < run.log.state.nextReader
  unborn : ∀ id, run.log.state.nextReader ≤ id → run.results id = []
  live : ∀ id cursor, run.log.state.cursors.get? id = some cursor →
    Reads run.appended (run.start id) (run.createdGap id) (run.results id) cursor
  readers : ∀ id < run.log.state.nextReader, ∃ position,
    Covers run.appended (run.start id) (seen (run.createdGap id) (run.results id)) position
  first : ∀ id, 0 < run.createdGap id → run.results id = [] ∨
    ∃ rest, run.results id = .error (.gap (run.createdGap id)) :: rest

section Steps

variable {run : LogRun T}

theorem Aligned.length (aligned : Aligned run) :
    run.log.state.base + run.log.state.entries.length = run.appended.length := by
  have base := aligned.base
  rw [aligned.entries, List.length_drop]
  omega

theorem Aligned.appendOpen (aligned : Aligned run) (event : T) :
    (∀ id cursor, run.log.state.cursors.get? id = some cursor →
      Reads (run.appended ++ [event]) (run.start id) (run.createdGap id) (run.results id)
        cursor) ∧
    ∀ id < run.log.state.nextReader, ∃ position,
      Covers (run.appended ++ [event]) (run.start id)
        (seen (run.createdGap id) (run.results id)) position := by
  refine ⟨?_, ?_⟩
  · intro id cursor found
    have reads := aligned.live id cursor found
    exact ⟨reads.covers.append event, reads.pending⟩
  · intro id born
    obtain ⟨position, covers⟩ := aligned.readers id born
    exact ⟨position, covers.append event⟩

theorem Aligned.append (aligned : Aligned run) (event : T) : Aligned (run.append event) := by
  have base := aligned.base
  have whole : run.log.state.entries ++ [event] =
      (run.appended ++ [event]).drop run.log.state.base := by
    rw [List.drop_append_of_le_length base, aligned.entries]
  obtain ⟨live, readers⟩ := aligned.appendOpen event
  rcases append_cases run event with ⟨-, same⟩ | ⟨few, same⟩ | same
  · rw [same]
    exact aligned
  · rw [same]
    refine ⟨?_, whole, ?_, aligned.born, aligned.unborn, live, readers, aligned.first⟩
    · simp only [withState, List.length_append]
      omega
    · simpa [withState] using few
  · rw [same]
    refine ⟨?_, ?_, ?_, aligned.born, aligned.unborn, live, readers, aligned.first⟩
    · simp only [withState, List.length_append, List.length_singleton]
      omega
    · simp only [withState]
      rw [whole, List.tail_drop]
    · simpa [withState] using aligned.limit

theorem Aligned.trim {state : LogState T} (aligned : Aligned (run.withState state)) :
    Aligned (run.withState state.trim) := by
  obtain ⟨dropped, bound, trimmed, -⟩ := state.trim_spec
  have length := aligned.length
  simp only [withState] at length
  rw [trimmed]
  refine ⟨?_, ?_, ?_, aligned.born, aligned.unborn, aligned.live, aligned.readers, aligned.first⟩
  · simp only [withState]
    omega
  · have entries := aligned.entries
    simp only [withState] at entries ⊢
    rw [entries, List.drop_drop]
  · have limit := aligned.limit
    simp only [withState, List.length_drop] at limit ⊢
    omega

theorem Aligned.reader (aligned : Aligned run) : Aligned run.reader := by
  unfold LogRun.reader LogState.reader
  have old {id : ℕ} (before : id < run.log.state.nextReader) : id ≠ run.log.state.nextReader :=
    Nat.ne_of_lt before
  have unread := aligned.unborn run.log.state.nextReader le_rfl
  have fresh : Covers run.appended run.log.state.base [] run.log.state.base :=
    .nil aligned.base
  refine ⟨aligned.base, aligned.entries, aligned.limit, ?_, ?_, ?_, ?_, ?_⟩
  · intro id cursor found
    dsimp only at found ⊢
    rw [IndexMap.get?_insert] at found
    split at found
    · next same =>
      rw [same]
      exact Nat.lt_succ_self _
    · exact (aligned.born id cursor found).trans (Nat.lt_succ_self _)
  · intro id above
    exact aligned.unborn id (Nat.le_of_succ_le above)
  · intro id cursor found
    dsimp only at found
    rw [IndexMap.get?_insert] at found
    split at found
    · next same =>
      subst same
      cases found
      refine ⟨?_, ?_⟩
      · simp only [seen, Function.update_self, unread, List.tail_nil, ite_self]
        exact fresh
      · simp only [Function.update_self, unread]
        rcases Nat.eq_zero_or_pos run.log.state.unreportedEvictions with none_ | some_
        · exact .inl ⟨none_, .inl none_⟩
        · exact .inr ⟨some_, trivial, trivial⟩
    · have reads := aligned.live id cursor found
      have other := old (aligned.born id cursor found)
      refine ⟨?_, ?_⟩
      · simpa only [seen, Function.update_of_ne other] using reads.covers
      · simpa only [Function.update_of_ne other] using reads.pending
  · intro id below
    dsimp only at below
    rcases Nat.lt_succ_iff_lt_or_eq.1 below with before | same
    · obtain ⟨position, covers⟩ := aligned.readers id before
      refine ⟨position, ?_⟩
      simpa only [seen, Function.update_of_ne (old before)] using covers
    · subst same
      refine ⟨run.log.state.base, ?_⟩
      simp only [seen, Function.update_self, unread, List.tail_nil, ite_self]
      exact fresh
  · intro id some_
    dsimp only at some_ ⊢
    by_cases same : id = run.log.state.nextReader
    · subst same
      exact .inl unread
    · rw [Function.update_of_ne same] at some_ ⊢
      exact aligned.first id some_

/-- A reader that receives one more result and moves its cursor. -/
theorem Aligned.receive (aligned : Aligned run) {id : ℕ} {cursor next : Cursor}
    {result : Except EventStreamError T} (found : run.log.state.cursors.get? id = some cursor)
    (reads : Reads run.appended (run.start id) (run.createdGap id) (run.results id ++ [result]) next)
    (first : 0 < run.createdGap id → run.results id = [] →
      result = .error (.gap (run.createdGap id))) :
    Aligned { run.withState { run.log.state with
        cursors := run.log.state.cursors.insert id next } with
      results := Function.update run.results id (run.results id ++ [result]) } := by
  have born := aligned.born id cursor found
  refine ⟨aligned.base, aligned.entries, aligned.limit, ?_, ?_, ?_, ?_, ?_⟩
  · intro other cursor' found'
    simp only [withState, IndexMap.get?_insert] at found' ⊢
    split at found'
    · next same =>
      rw [same]
      exact born
    · exact aligned.born other cursor' found'
  · intro other above
    have different : other ≠ id := Nat.ne_of_gt (born.trans_le above)
    dsimp only
    rw [Function.update_of_ne different]
    exact aligned.unborn other above
  · intro other cursor' found'
    simp only [withState, IndexMap.get?_insert] at found' ⊢
    split at found'
    · next same =>
      subst same
      cases found'
      rw [Function.update_self]
      exact reads
    · next different =>
      rw [Function.update_of_ne different]
      exact aligned.live other cursor' found'
  · intro other below
    dsimp only
    by_cases same : other = id
    · subst same
      rw [Function.update_self]
      exact ⟨_, reads.covers⟩
    · rw [Function.update_of_ne same]
      exact aligned.readers other below
  · intro other some_
    dsimp only
    by_cases same : other = id
    · subst same
      rw [Function.update_self]
      right
      rcases aligned.first other some_ with none_ | ⟨rest, before⟩
      · exact ⟨[], by rw [none_, first some_ none_]; rfl⟩
      · exact ⟨rest ++ [result], by rw [before]; rfl⟩
    · rw [Function.update_of_ne same]
      exact aligned.first other some_

theorem seen_concat {createdGap : ℕ} {results : List (Except EventStreamError T)}
    (reported : createdGap = 0 ∨ results ≠ []) (result : Except EventStreamError T) :
    seen createdGap (results ++ [result]) = seen createdGap results ++ [result] := by
  unfold seen
  split
  · next some_ =>
    rcases reported with none_ | received
    · omega
    · rw [List.tail_append_of_ne_nil received]
  · rfl

theorem Aligned.advance (aligned : Aligned run) {id : ℕ} {cursor : Cursor}
    {result : Except EventStreamError T} {next : ℕ}
    (found : run.log.state.cursors.get? id = some cursor) (reported : cursor.pendingGap = 0)
    (length : cursor.next + (shown result).length = next) (inside : next ≤ run.appended.length)
    (event : ∀ event, result = .ok event → run.appended[cursor.next]? = some event) :
    Aligned { run.withState { run.log.state with
        cursors := run.log.state.cursors.insert id { cursor with next := next } } with
      results := Function.update run.results id (run.results id ++ [result]) } := by
  have reads := aligned.live id cursor found
  rcases reads.pending with ⟨-, quiet⟩ | ⟨some_, -⟩
  · refine aligned.receive found ⟨?_, ?_⟩ ?_
    · rw [seen_concat quiet]
      exact reads.covers.concat length inside event
    · exact .inl ⟨reported, .inr (by simp)⟩
    · intro some_ none_
      rcases quiet with zero | received
      · omega
      · exact absurd none_ received
  · omega

theorem Aligned.poll (aligned : Aligned run) (id : ℕ) : Aligned (run.poll id) := by
  have total := aligned.length
  have stay {cursor : Cursor} (found : run.log.state.cursors.get? id = some cursor) :
      run.log.state.cursors.insert id cursor = run.log.state.cursors :=
    IndexMap.insert_of_get? found
  have polled := poll_cases run id
  generalize run.poll id = next at polled ⊢
  cases polled with
  | idle => exact aligned
  | closed cursor found reported caught nothing shut =>
    have covers := (aligned.live id cursor found).covers
    have closed := @Aligned.advance _ run aligned id cursor (.error .closed) cursor.next found
      reported rfl covers.inside (fun _ wrong => by cases wrong)
    rw [stay found] at closed
    exact closed
  | pending cursor found some_ =>
    have reads := aligned.live id cursor found
    rcases reads.pending with ⟨none_, -⟩ | ⟨-, created, unread⟩
    · omega
    · have gap := @Aligned.receive _ run aligned id cursor { cursor with pendingGap := 0 }
        (.error (.gap cursor.pendingGap)) found ⟨by
          have covers := reads.covers
          unfold seen at covers ⊢
          rw [created, if_pos some_, unread] at covers ⊢
          exact covers, .inl ⟨rfl, .inr (by simp)⟩⟩ (fun _ _ => by rw [created])
      exact ⟨gap.base, gap.entries, gap.limit, gap.born, gap.unborn, gap.live, gap.readers,
        gap.first⟩
  | behind cursor found reported below =>
    have gap := @Aligned.advance _ run aligned id cursor
      (.error (.gap (run.log.state.base - cursor.next))) run.log.state.base found reported
      (by simp only [shown, List.length_replicate]; omega) aligned.base
      (fun _ wrong => by cases wrong)
    exact ⟨gap.base, gap.entries, gap.limit, gap.born, gap.unborn, gap.live, gap.readers,
      gap.first⟩
  | event cursor found reported caught event there =>
    have bound := (List.getElem?_eq_some_iff.1 there).1
    have received : run.appended[cursor.next]? = some event := by
      rw [aligned.entries, List.getElem?_drop, Nat.add_sub_cancel' caught] at there
      exact there
    have read := @Aligned.advance _ run aligned id cursor (.ok event) (cursor.next + 1) found
      reported rfl (by omega) (fun _ same => by cases same; exact received)
    have trimmed := @Aligned.trim _ { run with
      results := Function.update run.results id (run.results id ++ [.ok event]) } _ read
    exact ⟨trimmed.base, trimmed.entries, trimmed.limit, trimmed.born, trimmed.unborn,
      trimmed.live, trimmed.readers, trimmed.first⟩

theorem Aligned.remove (aligned : Aligned run) (id evictions : ℕ) :
    Aligned (run.withState { run.log.state with
      cursors := run.log.state.cursors.shiftRemove id
      unreportedEvictions := evictions }) :=
  ⟨aligned.base, aligned.entries, aligned.limit,
    fun other cursor found => aligned.born other cursor (IndexMap.get?_of_shiftRemove found),
    aligned.unborn,
    fun other cursor found => aligned.live other cursor (IndexMap.get?_of_shiftRemove found),
    aligned.readers, aligned.first⟩

theorem Aligned.drop (aligned : Aligned run) (id : ℕ) : Aligned (run.drop id) := by
  have removed (evictions : ℕ) := aligned.remove id evictions
  rcases drop_cases run id with ⟨-, same⟩ | ⟨cursor, -, ⟨-, same⟩ | ⟨-, same⟩⟩
  · rw [same]
    exact @Aligned.trim _ run run.log.state aligned
  · rw [same]
    have trimmed := (removed (run.log.state.unreportedEvictions +
      (cursor.pendingGap + (run.log.state.base - cursor.next)))).trim
    exact ⟨trimmed.base, trimmed.entries, trimmed.limit, trimmed.born, trimmed.unborn,
      trimmed.live, trimmed.readers, trimmed.first⟩
  · rw [same]
    exact (removed run.log.state.unreportedEvictions).trim

theorem Aligned.step (aligned : Aligned run) (choice : LogChoice T) :
    Aligned (run.step choice) := by
  cases choice with
  | append event => exact aligned.append event
  | close =>
    exact ⟨aligned.base, aligned.entries, aligned.limit, aligned.born, aligned.unborn,
      aligned.live, aligned.readers, aligned.first⟩
  | reader => exact aligned.reader
  | poll id => exact aligned.poll id
  | drop id => exact aligned.drop id

end Steps

theorem aligned_new (limit : ℕ) : Aligned (new limit : LogRun T) where
  base := Nat.zero_le _
  entries := rfl
  limit := Nat.zero_le _
  born := by
    intro id cursor found
    cases found
  unborn := fun _ _ => rfl
  live := by
    intro id cursor found
    cases found
  readers := by
    intro id below
    cases below
  first := fun _ some_ => by cases some_

theorem aligned_run (limit : ℕ) (schedule : List (LogChoice T)) :
    Aligned (Schedule.run step (new limit) schedule) :=
  Schedule.run_preserves (aligned_new limit) (fun _ choice aligned => aligned.step choice) schedule

theorem step_limit (run : LogRun T) (choice : LogChoice T) :
    (run.step choice).log.limit = run.log.limit := by
  cases choice with
  | poll id =>
    change (run.poll id).log.limit = run.log.limit
    have polled := poll_cases run id
    generalize run.poll id = next at polled ⊢
    cases polled <;> rfl
  | drop id =>
    change (run.drop id).log.limit = run.log.limit
    rcases drop_cases run id with ⟨-, same⟩ | ⟨cursor, -, ⟨-, same⟩ | ⟨-, same⟩⟩ <;>
      rw [same] <;> rfl
  | _ => rfl

theorem limit_run (limit : ℕ) (schedule : List (LogChoice T)) :
    (Schedule.run step (new limit) schedule : LogRun T).log.limit = max limit 1 :=
  @Schedule.run_preserves _ _ step (fun run => run.log.limit = max limit 1) _ rfl
    (fun run choice same => (step_limit run choice).trans same) schedule

/-- In every run of any number of readers the log retains the appended events from its base on,
within its limit. What a reader received after the gap that was pending when it was created is the
run of appended events from the base at its creation on. A reader learns that the log is closed
only when it is, and when the reader has everything. -/
theorem readers_in_order (limit : ℕ) (schedule : List (LogChoice T)) :
    let run := Schedule.run step (new limit) schedule
    run.log.state.entries = run.appended.drop run.log.state.base ∧
    run.log.state.base ≤ run.appended.length ∧
    run.log.state.entries.length ≤ max limit 1 ∧
    (∀ id < run.log.state.nextReader,
      (0 < run.createdGap id → run.results id = [] ∨
        ∃ rest, run.results id = .error (.gap (run.createdGap id)) :: rest) ∧
      ∃ position, Covers run.appended (run.start id)
        (seen (run.createdGap id) (run.results id)) position) ∧
    ∀ id, (run.log.state.pollReader id).2 = some (.error .closed) →
      run.log.state.closed = true ∧ Covers run.appended (run.start id)
        (seen (run.createdGap id) (run.results id)) run.appended.length := by
  intro run
  have aligned : Aligned run := aligned_run limit schedule
  refine ⟨aligned.entries, aligned.base, ?_, ?_, ?_⟩
  · have bound := aligned.limit
    rw [limit_run] at bound
    exact bound
  · intro id below
    exact ⟨aligned.first id, aligned.readers id below⟩
  · intro id closed
    obtain ⟨cursor, found, shut, nothing⟩ := LogState.pollReader_closed closed
    have covers := (aligned.live id cursor found).covers
    have total := aligned.length
    have inside := covers.inside
    have caught : cursor.next = run.appended.length := by omega
    rw [caught] at covers
    exact ⟨shut, covers⟩

/-! ## Retention -/

/-- Some reader has yet to receive the oldest event. -/
def Awaited (state : LogState T) : Prop :=
  state.cursors.entries ≠ [] →
    ∃ id cursor, state.cursors.get? id = some cursor ∧ cursor.next ≤ state.base

theorem awaited_trim {state : LogState T}
    (inside : ∀ id cursor, state.cursors.get? id = some cursor →
      cursor.next ≤ state.base + state.entries.length) : Awaited state.trim := by
  obtain ⟨dropped, -, trimmed, awaited⟩ := state.trim_spec
  rw [trimmed]
  exact awaited inside

theorem Aligned.inside {run : LogRun T} (aligned : Aligned run) {id : ℕ} {cursor : Cursor}
    (found : run.log.state.cursors.get? id = some cursor) :
    cursor.next ≤ run.log.state.base + run.log.state.entries.length :=
  (aligned.live id cursor found).covers.inside.trans_eq aligned.length.symm

theorem Awaited.poll {run : LogRun T} (aligned : Aligned run) (awaited : Awaited run.log.state)
    (id : ℕ) : Awaited (run.poll id).log.state := by
  have polled := poll_cases run id
  generalize run.poll id = next at polled ⊢
  cases polled with
  | idle => exact awaited
  | closed => exact awaited
  | pending cursor found =>
    intro _
    obtain ⟨other, old, there, behind⟩ := awaited fun none_ => by
      rw [IndexMap.get?_eq_some, none_] at found
      cases found
    by_cases same : other = id
    · obtain rfl := Option.some.inj ((same ▸ there).symm.trans found)
      exact ⟨id, _, IndexMap.get?_insert_self _ _ _, behind⟩
    · exact ⟨other, old, (IndexMap.get?_insert _ _ _ _).trans ((if_neg same).trans there), behind⟩
  | behind => exact fun _ => ⟨id, _, IndexMap.get?_insert_self _ _ _, le_rfl⟩
  | event cursor found reported caught event there =>
    refine awaited_trim fun other next stored => ?_
    rw [IndexMap.get?_insert] at stored
    split at stored
    · obtain rfl := Option.some.inj stored
      have inside := (List.getElem?_eq_some_iff.1 there).1
      dsimp only
      omega
    · exact aligned.inside stored

theorem Awaited.step {run : LogRun T} (aligned : Aligned run) (awaited : Awaited run.log.state)
    (choice : LogChoice T) : Awaited (run.step choice).log.state := by
  cases choice with
  | append event =>
    change Awaited (run.append event).log.state
    rcases append_cases run event with ⟨-, same⟩ | ⟨-, same⟩ | same
    · rw [same]
      exact awaited
    · rw [same]
      exact awaited
    · rw [same]
      intro some_
      obtain ⟨id, cursor, found, behind⟩ := awaited some_
      exact ⟨id, cursor, found, behind.trans (Nat.le_succ _)⟩
  | close => exact awaited
  | reader => exact fun _ => ⟨_, _, IndexMap.get?_insert_self _ _ _, le_rfl⟩
  | poll id => exact awaited.poll aligned id
  | drop id =>
    change Awaited (run.drop id).log.state
    rcases drop_cases run id with ⟨-, same⟩ | ⟨cursor, -, ⟨-, same⟩ | ⟨-, same⟩⟩
    · rw [same]
      exact awaited_trim fun _ _ => aligned.inside
    · rw [same]
      exact awaited_trim fun _ _ found => aligned.inside (IndexMap.get?_of_shiftRemove found)
    · rw [same]
      exact awaited_trim fun _ _ found => aligned.inside (IndexMap.get?_of_shiftRemove found)

/-- While a log has readers it retains nothing that all of them have received: each of its events
is still to be received by one of them. SOURCE: event_log.rs:110-270. -/
theorem retained_are_awaited (limit : ℕ) (schedule : List (LogChoice T)) :
    let run := Schedule.run step (new limit) schedule
    run.log.state.cursors.entries ≠ [] → ∀ index < run.log.state.entries.length,
      ∃ id cursor, run.log.state.cursors.get? id = some cursor ∧
        cursor.next ≤ run.log.state.base + index := by
  intro run some_ index _
  have kept : Aligned run ∧ Awaited run.log.state :=
    @Schedule.run_preserves _ _ step (fun run => Aligned run ∧ Awaited run.log.state) _
      ⟨aligned_new limit, fun some_ => (some_ rfl).elim⟩
      (fun run choice kept => ⟨kept.1.step choice, kept.2.step kept.1 choice⟩) schedule
  obtain ⟨id, cursor, found, behind⟩ := kept.2 some_
  exact ⟨id, cursor, found, behind.trans (Nat.le_add_right _ _)⟩

/-- Of two readers the one that has not polled keeps both events. -/
theorem retained_are_awaited_sample : ∃ id cursor,
    (Schedule.run step (new 8) [.reader, .reader, .append 'a', .append 'b', .poll 0,
      .poll 0]).log.state.cursors.get? id = some cursor ∧ cursor.next ≤ 0 :=
  retained_are_awaited 8 [.reader, .reader, .append 'a', .append 'b', .poll 0, .poll 0]
    (by decide) 0 (by decide)

/-! ## Evictions -/

/-- A position that a returned gap counts, that the next reader will report, or that a live reader
will report: with its pending gap, or because it lags behind. -/
def Known (run : LogRun T) (position : ℕ) : Prop :=
  position ∈ run.counted ∨ position ∈ run.unreported ∨
    ∃ id cursor, run.log.state.cursors.get? id = some cursor ∧
      (position ∈ run.pending id ∨ position ∈ lag run.log.state.base cursor)

/-- A reader is dropped with a deficit only as the last one, or when all it misses are positions
that another reader lags behind too. -/
def Sound (run : LogRun T) : LogChoice T → Prop
  | .drop id => ∀ cursor, run.log.state.cursors.get? id = some cursor →
      (run.log.state.cursors.shiftRemove id).entries = [] ∨
      (cursor.pendingGap = 0 ∧ (run.log.state.base ≤ cursor.next ∨
        ∃ other behind, other ≠ id ∧ run.log.state.cursors.get? other = some behind ∧
          behind.next ≤ cursor.next))
  | _ => True

/-- The counters count positions, and every eviction that nobody received is among them. -/
structure Accounted (run : LogRun T) : Prop where
  aligned : Aligned run
  behind : run.log.state.cursors.entries ≠ [] → ∃ id cursor,
    run.log.state.cursors.get? id = some cursor ∧ cursor.next ≤ run.log.state.base
  unreported : run.log.state.unreportedEvictions = run.unreported.length
  pending : ∀ id cursor, run.log.state.cursors.get? id = some cursor →
    cursor.pendingGap = (run.pending id).length
  known : ∀ position ∈ run.evicted, position ∉ run.received → Known run position

section Accounts

variable {run : LogRun T}

theorem Known.advance {state : LogState T} {position : ℕ}
    (known : Known (run.withState state) position) (dropped : ℕ) :
    Known (run.withState { state with
      base := state.base + dropped
      entries := state.entries.drop dropped }) position := by
  rcases known with counted | unreported | ⟨id, cursor, found, pending | behind⟩
  · exact .inl counted
  · exact .inr (.inl unreported)
  · exact .inr (.inr ⟨id, cursor, found, .inl pending⟩)
  · refine .inr (.inr ⟨id, cursor, found, .inr ?_⟩)
    rw [mem_lag] at behind ⊢
    exact ⟨behind.1, behind.2.trans_le (Nat.le_add_right _ _)⟩

theorem Accounted.trimmed {state : LogState T} (aligned : Aligned (run.withState state))
    (unreported : state.unreportedEvictions = run.unreported.length)
    (pending : ∀ id cursor, state.cursors.get? id = some cursor →
      cursor.pendingGap = (run.pending id).length)
    (known : ∀ position ∈ run.evicted, position ∉ run.received →
      Known (run.withState state) position) :
    Accounted (run.withState state.trim) := by
  have total := aligned.length
  obtain ⟨dropped, -, trimmed, behind⟩ := state.trim_spec
  have last := aligned.trim
  rw [trimmed] at last ⊢
  refine ⟨last, ?_, unreported, pending, ?_⟩
  · intro some_
    apply behind ?_ some_
    intro id cursor found
    have inside := (aligned.live id cursor found).covers.inside
    simp only [withState] at total inside
    omega
  · intro position member missed
    exact (known position member missed).advance dropped

theorem Accounted.append (accounted : Accounted run) (event : T) :
    Accounted (run.append event) := by
  have aligned := accounted.aligned.append event
  rcases append_cases run event with ⟨-, same⟩ | ⟨-, same⟩ | same
  · rw [same]
    exact accounted
  · rw [same] at aligned ⊢
    exact ⟨aligned, accounted.behind, accounted.unreported, accounted.pending, accounted.known⟩
  · rw [same] at aligned ⊢
    have unreported := accounted.unreported
    refine ⟨aligned, ?_, ?_, accounted.pending, ?_⟩
    · intro some_
      obtain ⟨id, cursor, found, behind⟩ := accounted.behind some_
      exact ⟨id, cursor, found, Nat.le_succ_of_le behind⟩
    · simp only [withState]
      split
      · rw [List.length_append, unreported, List.length_singleton]
      · exact unreported
    · intro position member missed
      rcases List.mem_append.1 member with old | new
      · rcases accounted.known position old missed with
          counted | unreported | ⟨id, cursor, found, pending | behind⟩
        · exact .inl counted
        · refine .inr (.inl ?_)
          dsimp only
          split
          · exact List.mem_append_left _ unreported
          · exact unreported
        · exact .inr (.inr ⟨id, cursor, found, .inl pending⟩)
        · refine .inr (.inr ⟨id, cursor, found, .inr ?_⟩)
          rw [mem_lag] at behind ⊢
          exact ⟨behind.1, Nat.lt_succ_of_lt behind.2⟩
      · rw [List.mem_singleton] at new
        subst new
        cases empty : run.log.state.cursors.entries with
        | nil =>
          refine .inr (.inl ?_)
          simp [empty]
        | cons first rest =>
          obtain ⟨id, cursor, found, behind⟩ := accounted.behind (by simp [empty])
          exact .inr (.inr ⟨id, cursor, found, .inr (mem_lag.2 ⟨behind, Nat.lt_succ_self _⟩)⟩)

theorem Accounted.reader (accounted : Accounted run) : Accounted run.reader := by
  have aligned := accounted.aligned.reader
  have old {id : ℕ} {cursor : Cursor} (found : run.log.state.cursors.get? id = some cursor) :
      id ≠ run.log.state.nextReader := Nat.ne_of_lt (accounted.aligned.born id cursor found)
  have newest : run.reader.log.state.cursors.get? run.log.state.nextReader =
      some ⟨run.log.state.base, run.log.state.unreportedEvictions⟩ :=
    IndexMap.get?_insert_self _ _ _
  refine ⟨aligned, ?_, rfl, ?_, ?_⟩
  · intro _
    exact ⟨_, _, newest, le_rfl⟩
  · intro id cursor found
    unfold LogRun.reader LogState.reader at found ⊢
    dsimp only at found ⊢
    rw [IndexMap.get?_insert] at found
    split at found
    · next same =>
      cases found
      rw [same, Function.update_self]
      exact accounted.unreported
    · next other =>
      rw [Function.update_of_ne other]
      exact accounted.pending id cursor found
  · intro position member missed
    rcases accounted.known position member missed with
      counted | unreported | ⟨id, cursor, found, reports⟩
    · exact .inl counted
    · refine .inr (.inr ⟨_, _, newest, .inl ?_⟩)
      unfold LogRun.reader LogState.reader
      dsimp only
      rw [Function.update_self]
      exact unreported
    · refine .inr (.inr ⟨id, cursor, ?_, ?_⟩)
      · unfold LogRun.reader LogState.reader
        dsimp only
        rw [IndexMap.get?_insert_of_ne _ (old found)]
        exact found
      · unfold LogRun.reader LogState.reader
        dsimp only
        rw [Function.update_of_ne (old found)]
        exact reports

/-- A cursor that moves: what is known without it stays known. -/
theorem Known.move {id : ℕ} {cursor next : Cursor} {position : ℕ}
    (known : Known run position) (found : run.log.state.cursors.get? id = some cursor)
    {results : ℕ → List (Except EventStreamError T)} {received counted : List ℕ}
    {pending : ℕ → List ℕ} (still : ∀ p ∈ run.counted, p ∈ counted)
    (others : ∀ other, other ≠ id → pending other = run.pending other)
    (mine : position ∈ run.pending id ∨ position ∈ lag run.log.state.base cursor →
      position ∈ counted ∨ position ∈ pending id ∨ position ∈ lag run.log.state.base next) :
    Known { run.withState { run.log.state with
        cursors := run.log.state.cursors.insert id next } with
      results := results
      received := received
      counted := counted
      pending := pending } position := by
  rcases known with old | unreported | ⟨other, cursor', found', reports⟩
  · exact .inl (still position old)
  · exact .inr (.inl unreported)
  · by_cases same : other = id
    · subst same
      rw [found, Option.some.injEq] at found'
      subst found'
      rcases mine reports with now | reports'
      · exact .inl now
      · exact .inr (.inr ⟨other, next, IndexMap.get?_insert_self _ _ _, reports'⟩)
    · refine .inr (.inr ⟨other, cursor', ?_, ?_⟩)
      · exact (IndexMap.get?_insert_of_ne _ same _).trans found'
      · dsimp only [withState]
        rw [others other same]
        exact reports

theorem Accounted.movedPending (accounted : Accounted run) {id : ℕ} {next : Cursor}
    {pending : ℕ → List ℕ} (others : ∀ other, other ≠ id → pending other = run.pending other)
    (mine : next.pendingGap = (pending id).length) (other : ℕ) (cursor : Cursor)
    (found : (run.log.state.cursors.insert id next).get? other = some cursor) :
    cursor.pendingGap = (pending other).length := by
  rw [IndexMap.get?_insert] at found
  split at found
  · next same =>
    cases found
    rw [same]
    exact mine
  · next different =>
    rw [others other different]
    exact accounted.pending other cursor found

theorem Accounted.poll (accounted : Accounted run) (id : ℕ) : Accounted (run.poll id) := by
  have aligned := accounted.aligned.poll id
  have polled := poll_cases run id
  generalize run.poll id = next at polled aligned ⊢
  cases polled with
  | idle => exact accounted
  | closed cursor found reported caught nothing shut =>
    exact ⟨aligned, accounted.behind, accounted.unreported, accounted.pending, accounted.known⟩
  | pending cursor found some_ =>
    have others : ∀ other, other ≠ id →
        Function.update run.pending id [] other = run.pending other :=
      fun other different => Function.update_of_ne different _ _
    refine ⟨aligned, ?_, accounted.unreported, ?_, ?_⟩
    · intro _
      obtain ⟨other, cursor', found', behind⟩ := accounted.behind (by
        intro empty
        rw [IndexMap.get?, empty] at found
        cases found)
      by_cases same : other = id
      · subst same
        rw [found, Option.some.injEq] at found'
        subst found'
        exact ⟨other, _, IndexMap.get?_insert_self _ _ _, behind⟩
      · exact ⟨other, cursor', (IndexMap.get?_insert_of_ne _ same _).trans found', behind⟩
    · exact @Accounted.movedPending _ run accounted id _ (Function.update run.pending id []) others
        (by rw [Function.update_self]; rfl)
    · intro position member missed
      refine (accounted.known position member missed).move found
        (fun p old => List.mem_append_left _ old) others ?_
      rintro (pending | behind)
      · exact .inl (List.mem_append_right _ pending)
      · exact .inr (.inr behind)
  | behind cursor found reported below =>
    refine ⟨aligned, ?_, accounted.unreported, ?_, ?_⟩
    · intro _
      exact ⟨id, _, IndexMap.get?_insert_self _ _ _, le_rfl⟩
    · exact accounted.movedPending (fun _ _ => rfl) (accounted.pending id cursor found)
    · intro position member missed
      refine (accounted.known position member missed).move found
        (fun p old => List.mem_append_left _ old) (fun _ _ => rfl) ?_
      rintro (pending | behind)
      · exact .inr (.inl pending)
      · exact .inl (List.mem_append_right _ behind)
  | event cursor found reported caught event there =>
    have bound := (List.getElem?_eq_some_iff.1 there).1
    have total := accounted.aligned.length
    have received : run.appended[cursor.next]? = some event := by
      rw [accounted.aligned.entries, List.getElem?_drop, Nat.add_sub_cancel' caught] at there
      exact there
    have read := @Aligned.advance _ run accounted.aligned id cursor (.ok event) (cursor.next + 1)
      found reported rfl (by omega) (fun _ same => by cases same; exact received)
    refine @Accounted.trimmed _ { run with
        results := Function.update run.results id (run.results id ++ [.ok event])
        received := run.received ++ [cursor.next] } _ ?_ accounted.unreported ?_ ?_
    · exact ⟨read.base, read.entries, read.limit, read.born, read.unborn, read.live, read.readers,
        read.first⟩
    · exact accounted.movedPending (fun _ _ => rfl) (accounted.pending id cursor found)
    · intro position member missed
      have before : position ∉ run.received :=
        fun old => missed (List.mem_append_left _ old)
      refine (accounted.known position member before).move found (fun p old => old)
        (fun _ _ => rfl) ?_
      rintro (pending | behind)
      · exact .inr (.inl pending)
      · rw [mem_lag] at behind
        omega

theorem Accounted.drop (accounted : Accounted run) {id : ℕ} (sound : Sound run (.drop id)) :
    Accounted (run.drop id) := by
  have removed (evictions : ℕ) := accounted.aligned.remove id evictions
  rcases drop_cases run id with ⟨-, same⟩ | ⟨cursor, found, ⟨last, same⟩ | ⟨more, same⟩⟩
  · rw [same]
    exact @Accounted.trimmed _ run _ accounted.aligned accounted.unreported accounted.pending
      accounted.known
  · rw [same]
    have aligned := removed (run.log.state.unreportedEvictions +
      (cursor.pendingGap + (run.log.state.base - cursor.next)))
    refine @Accounted.trimmed _ { run with
        unreported := run.unreported ++ (run.pending id ++ lag run.log.state.base cursor) } _
      ?_ ?_ ?_ ?_
    · exact ⟨aligned.base, aligned.entries, aligned.limit, aligned.born, aligned.unborn,
        aligned.live, aligned.readers, aligned.first⟩
    · simp only [List.length_append, lag, List.length_range']
      rw [accounted.unreported, accounted.pending id cursor found]
    · intro other cursor' found'
      exact accounted.pending other cursor' (IndexMap.get?_of_shiftRemove found')
    · intro position member missed
      rcases accounted.known position member missed with
        counted | unreported | ⟨other, cursor', found', reports⟩
      · exact .inl counted
      · exact .inr (.inl (List.mem_append_left _ unreported))
      · by_cases here : other = id
        · subst here
          rw [found, Option.some.injEq] at found'
          subst found'
          exact .inr (.inl (List.mem_append_right _ (List.mem_append.2 reports)))
        · have present : (run.log.state.cursors.shiftRemove id).get? other = some cursor' := by
            rw [IndexMap.get?_shiftRemove, if_neg here, found']
          rw [IndexMap.get?, last] at present
          cases present
  · rw [same]
    obtain ⟨none_, covered⟩ := (sound cursor found).resolve_left more
    have empty : run.pending id = [] := by
      rw [← List.length_eq_zero_iff, ← accounted.pending id cursor found, none_]
    refine @Accounted.trimmed _ run _ (removed _) accounted.unreported ?_ ?_
    · intro other cursor' found'
      exact accounted.pending other cursor' (IndexMap.get?_of_shiftRemove found')
    · intro position member missed
      have stay {other : ℕ} {cursor' : Cursor} (different : other ≠ id)
          (found' : run.log.state.cursors.get? other = some cursor')
          (reports : position ∈ run.pending other ∨
            position ∈ lag run.log.state.base cursor') :
          Known (run.withState { run.log.state with
            cursors := run.log.state.cursors.shiftRemove id }) position := by
        refine .inr (.inr ⟨other, cursor', ?_, reports⟩)
        exact (IndexMap.get?_shiftRemove _ _ _).trans ((if_neg different).trans found')
      rcases accounted.known position member missed with
        counted | unreported | ⟨other, cursor', found', reports⟩
      · exact .inl counted
      · exact .inr (.inl unreported)
      · by_cases here : other = id
        · subst here
          rw [found, Option.some.injEq] at found'
          subst found'
          rw [empty, mem_lag] at reports
          rcases reports with none' | behind
          · cases none'
          · rcases covered with caught | ⟨second, slower, different, found', further⟩
            · omega
            · exact stay different found' (.inr (mem_lag.2 ⟨further.trans behind.1, behind.2⟩))
        · exact stay here found' reports

theorem Accounted.step (accounted : Accounted run) {choice : LogChoice T}
    (sound : Sound run choice) : Accounted (run.step choice) := by
  cases choice with
  | append event => exact accounted.append event
  | close =>
    exact ⟨accounted.aligned.step .close, accounted.behind, accounted.unreported,
      accounted.pending, accounted.known⟩
  | reader => exact accounted.reader
  | poll id => exact accounted.poll id
  | drop id => exact accounted.drop sound

end Accounts

/-- In every run in which no reader takes a deficit with it that another reader does not have, the
eviction of an event that no reader received is known: it was reported in a gap, or a live reader
or the next one will report it. The counters of the log count exactly the positions that are kept
for them. -/
theorem evictions_known (limit : ℕ) (schedule : List (LogChoice T))
    (sound : Schedule.Meets step Sound (new limit) schedule) :
    let run := Schedule.run step (new limit) schedule
    (∀ position ∈ run.evicted, position ∉ run.received →
      position ∈ run.counted ∨ position ∈ run.unreported ∨
        ∃ id cursor, run.log.state.cursors.get? id = some cursor ∧
          (position ∈ run.pending id ∨
            cursor.next ≤ position ∧ position < run.log.state.base)) ∧
    run.log.state.unreportedEvictions = run.unreported.length ∧
    ∀ id cursor, run.log.state.cursors.get? id = some cursor →
      cursor.pendingGap = (run.pending id).length := by
  intro run
  have start : Accounted (new limit : LogRun T) := by
    refine ⟨aligned_new limit, ?_, rfl, ?_, ?_⟩
    · intro some_
      exact absurd rfl some_
    · intro id cursor found
      cases found
    · intro position member
      cases member
  have accounted : Accounted run :=
    Schedule.run_invariant start sound fun _ _ accounted condition => accounted.step condition
  refine ⟨?_, accounted.unreported, accounted.pending⟩
  intro position member missed
  rcases accounted.known position member missed with
    counted | unreported | ⟨id, cursor, found, reports⟩
  · exact .inl counted
  · exact .inr (.inl unreported)
  · rw [mem_lag] at reports
    exact .inr (.inr ⟨id, cursor, found, reports⟩)

/-- Two evictions without a reader, and a reader that is dropped before it reports them. -/
theorem evictions_known_sample :
    let run := Schedule.run step (new 1)
      [.append 'a', .append 'b', .append 'c', .reader, .drop 0]
    (∀ position ∈ run.evicted, position ∉ run.received →
      position ∈ run.counted ∨ position ∈ run.unreported ∨
        ∃ id cursor, run.log.state.cursors.get? id = some cursor ∧
          (position ∈ run.pending id ∨
            cursor.next ≤ position ∧ position < run.log.state.base)) ∧
    run.log.state.unreportedEvictions = run.unreported.length ∧
    ∀ id cursor, run.log.state.cursors.get? id = some cursor →
      cursor.pendingGap = (run.pending id).length :=
  evictions_known 1 [.append 'a', .append 'b', .append 'c', .reader, .drop 0]
    ⟨trivial, trivial, trivial, trivial, fun _ _ => .inl rfl, trivial⟩

/-- A reader takes over an eviction, a second reader is created, and the first is dropped: nobody
will report the eviction. -/
theorem evictions_silent :
    let run := Schedule.run step (new 1) [.append 'a', .append 'b', .reader, .reader, .drop 0]
    0 ∈ run.evicted ∧ 0 ∉ run.received ∧ 0 ∉ run.counted ∧ 0 ∉ run.unreported ∧
      ∀ id cursor, run.log.state.cursors.get? id = some cursor →
        0 ∉ run.pending id ∧ ¬ (cursor.next ≤ 0 ∧ 0 < run.log.state.base) := by
  refine ⟨by decide, by decide, by decide, by decide, ?_⟩
  intro id cursor found
  have member := IndexMap.get?_eq_some.1 found
  have live : (Schedule.run step (new 1)
      [.append 'a', .append 'b', .reader, .reader, .drop 0]).log.state.cursors.entries =
      [(1, ⟨1, 0⟩)] := by decide
  rw [live, List.mem_singleton] at member
  cases member
  exact ⟨by decide, by decide⟩

end LogRun

end Giskard
