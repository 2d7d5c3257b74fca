import Mathlib
import Giskard.Foundation.IndexMap

/-!
# The retained event log

The transport between a harness and the server. An appended event is kept until every reader has
consumed it; with no reader everything is kept. The retention cap evicts the oldest event, which a
reader learns as a gap. Each operation runs under one lock, so that it is one step here. Sequence
numbers are natural numbers, and the message that the log has overflowed is left out.

SOURCE: crates/giskard-harness/src/event_log.rs.
-/

set_option autoImplicit false

namespace Giskard

open Foundation

/-- SOURCE: event_log.rs:24. -/
def eventLogRetainLimit : ℕ := 16384

/-- Why a reader could not produce an event. SOURCE: event_log.rs:28-36. -/
inductive EventStreamError where
  | closed
  | gap (dropped : ℕ)
  deriving DecidableEq

/-- SOURCE: event_log.rs:52-55. -/
structure Cursor where
  next : ℕ
  pendingGap : ℕ
  deriving DecidableEq

/-- SOURCE: event_log.rs:38-50. -/
structure LogState (T : Type) where
  base : ℕ
  entries : List T
  cursors : IndexMap ℕ Cursor
  nextReader : ℕ
  unreportedEvictions : ℕ
  closed : Bool
  overflowed : Bool

/-- SOURCE: event_log.rs:58-62. -/
structure EventLog (T : Type) where
  state : LogState T
  limit : ℕ

variable {T : Type}

/-- SOURCE: event_log.rs:82-96. -/
def EventLog.withLimit (limit : ℕ) : EventLog T where
  state :=
    { base := 0
      entries := []
      cursors := .empty
      nextReader := 0
      unreportedEvictions := 0
      closed := false
      overflowed := false }
  limit := max limit 1

/-- SOURCE: event_log.rs:77-79. -/
def EventLog.new : EventLog T := .withLimit eventLogRetainLimit

namespace LogState

/-- Append one event, and evict the oldest when there are too many. SOURCE: event_log.rs:109-134. -/
def append (limit : ℕ) (state : LogState T) (event : T) : LogState T × Bool :=
  if state.closed then (state, false)
  else
    let entries := state.entries ++ [event]
    if entries.length > limit then
      ({ state with
        entries := entries.tail
        base := state.base + 1
        unreportedEvictions :=
          if state.cursors.entries.isEmpty then state.unreportedEvictions + 1
          else state.unreportedEvictions
        overflowed := true }, true)
    else ({ state with entries := entries }, true)

/-- SOURCE: event_log.rs:136-140. -/
def close (state : LogState T) : LogState T := { state with closed := true }

/-- A reader positioned at the oldest event no reader has consumed. SOURCE: event_log.rs:156-174. -/
def reader (state : LogState T) : LogState T × ℕ :=
  ({ state with
    nextReader := state.nextReader + 1
    unreportedEvictions := 0
    cursors := state.cursors.insert state.nextReader ⟨state.base, state.unreportedEvictions⟩ },
    state.nextReader)

/-- Drop the entries below a sequence number. SOURCE: event_log.rs:186-189. -/
def trimTo (minCursor : ℕ) : ℕ → List T → ℕ × List T
  | base, [] => (base, [])
  | base, event :: entries =>
    if base < minCursor then trimTo minCursor (base + 1) entries else (base, event :: entries)

/-- Drop what every reader has consumed. SOURCE: event_log.rs:183-191. -/
def trim (state : LogState T) : LogState T :=
  match (state.cursors.values.map Cursor.next).min? with
  | none => state
  | some minCursor =>
    let trimmed := trimTo minCursor state.base state.entries
    { state with base := trimmed.1, entries := trimmed.2 }

/-- Advance one reader; `none` means that nothing is available yet. SOURCE: event_log.rs:193-217. -/
def pollReader (state : LogState T) (id : ℕ) :
    LogState T × Option (Except EventStreamError T) :=
  match state.cursors.get? id with
  | none => (state, none)
  | some cursor =>
    if 0 < cursor.pendingGap then
      ({ state with cursors := state.cursors.insert id { cursor with pendingGap := 0 } },
        some (.error (.gap cursor.pendingGap)))
    else if cursor.next < state.base then
      ({ state with cursors := state.cursors.insert id { cursor with next := state.base } },
        some (.error (.gap (state.base - cursor.next))))
    else match state.entries[cursor.next - state.base]? with
      | some event =>
        (trim { state with
          cursors := state.cursors.insert id { cursor with next := cursor.next + 1 } },
          some (.ok event))
      | none => (state, if state.closed then some (.error .closed) else none)

/-- A reader goes away. SOURCE: event_log.rs:261-270. -/
def dropReader (state : LogState T) (id : ℕ) : LogState T :=
  match state.cursors.get? id with
  | none => trim state
  | some cursor =>
    let cursors := state.cursors.shiftRemove id
    let deficit := cursor.pendingGap + (state.base - cursor.next)
    trim { state with
      cursors := cursors
      unreportedEvictions :=
        if cursors.entries.isEmpty then state.unreportedEvictions + deficit
        else state.unreportedEvictions }

end LogState

end Giskard
