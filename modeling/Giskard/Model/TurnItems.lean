import Mathlib
import Giskard.Model.LiveTurn

/-!
# Pages of a turn's items

The event forwarder assembles the items of the turn it owns beside the reconnect buffer, and
writes them to the store when the turn completes. The endpoint that serves pages of a turn's
items asks the buffer while the turn is live and the store afterwards.

SOURCE: crates/giskard-server/src/registry/event_forwarder.rs:308-363,
crates/giskard-server/src/routes.rs:5190-5294.
-/

set_option autoImplicit false

namespace Giskard

/-- The current turn's completed items and their index. SOURCE: event_forwarder.rs:308-316. -/
structure CurrentTurnItems where
  items : List Item
  indexes : ItemId → Option ℕ

namespace CurrentTurnItems

/-- SOURCE: event_forwarder.rs:312. -/
def empty : CurrentTurnItems := ⟨[], fun _ => none⟩

/-- SOURCE: event_forwarder.rs:323-328. -/
def rebuildIndexes (buffer : CurrentTurnItems) : CurrentTurnItems :=
  let insert (indexes : ItemId → Option ℕ) (entry : Item × ℕ) : ItemId → Option ℕ :=
    Function.update indexes entry.1.id (some entry.2)
  { buffer with indexes := buffer.items.zipIdx.foldl insert fun _ => none }

/-- SOURCE: event_forwarder.rs:353-357. -/
def appendIndexed (buffer : CurrentTurnItems) (item : Item) : CurrentTurnItems :=
  { items := buffer.items ++ [item]
    indexes := Function.update buffer.indexes item.id (some buffer.items.length) }

/-- Replace an item in place, or append it; the flag tells of a stale index that was repaired.
SOURCE: event_forwarder.rs:330-351. -/
def upsert (buffer : CurrentTurnItems) (item : Item) : CurrentTurnItems × Bool :=
  match buffer.indexes item.id with
  | some idx =>
    if buffer.items[idx]?.any fun existing => existing.id = item.id then
      ({ buffer with items := buffer.items.set idx item }, false)
    else
      let buffer := buffer.rebuildIndexes
      match buffer.indexes item.id with
      | some repaired => ({ buffer with items := buffer.items.set repaired item }, true)
      | none => (buffer.appendIndexed item, true)
  | none => (buffer.appendIndexed item, false)

/-- SOURCE: event_forwarder.rs:359-362. -/
def take (buffer : CurrentTurnItems) : List Item × CurrentTurnItems := (buffer.items, empty)

end CurrentTurnItems

/-- The item lifecycle events of one turn, a completion with the descriptors prepared for it. -/
inductive ItemEvent where
  | started (start : ItemStart)
  | delta (itemId : ItemId) (delta : ItemDelta)
  | completed (item : Item) (commandOutput : Option CommandOutputDescriptor)
      (toolOutput : Option ToolOutputDescriptor)

/-- What the server holds of one turn: the reconnect buffer, the items assembled so far, and
the items written to the store. -/
structure TurnServer where
  runtime : LiveTurnState
  current : CurrentTurnItems
  persisted : Option (List Item)

/-- SOURCE: routes.rs:61. -/
def maxItemPageItems : ℕ := 100

/-- Why a page is not found. SOURCE: routes.rs:5262, 5273-5274, 5282. -/
inductive TurnItemsError where
  | unknownCursor
  | unknownTurn
  deriving DecidableEq

namespace TurnServer

/-- An item event, at the buffer and at the assembled items. SOURCE:
event_forwarder.rs:2108-2123, live.rs:556-597. -/
def applyEvent (server : TurnServer) (threadId : ThreadId) (turnId : TurnId) :
    ItemEvent → TurnServer
  | .started start =>
    { server with
      runtime := server.runtime.append threadId (.itemStarted threadId turnId start) }
  | .delta itemId delta =>
    { server with
      runtime := server.runtime.append threadId (.itemDelta threadId turnId itemId delta) }
  | .completed item commandOutput toolOutput =>
    { server with
      runtime := server.runtime.appendWithOutputs threadId (.itemCompleted threadId turnId item)
        commandOutput toolOutput
      current := (server.current.upsert item).1 }

/-- The turn is committed: its assembled items are persisted and the buffer is cleared. -/
def commit (server : TurnServer) (threadId : ThreadId) : TurnServer :=
  let (items, current) := server.current.take
  { runtime := server.runtime.clearTurn threadId
    current := current
    persisted := some items }

/-- One page of a turn's items, oldest first, for a thread the store knows. SOURCE:
routes.rs:5190-5294. -/
def turnItems (crates : Crates) (server : TurnServer) (threadId : ThreadId) (turnId : TurnId)
    (before : Option ItemId) (limit : ℕ) : Except TurnItemsError LiveItemsPage :=
  let limit := max 1 (min limit maxItemPageItems)
  let live := server.runtime.itemsPage crates threadId turnId before limit
  match live with
  | .page page => .ok page
  | .unknownCursor => .error .unknownCursor
  | .notLive => match server.persisted with
    | none => match live with
      | .page page => .ok page
      | .unknownCursor => .error .unknownCursor
      | .notLive => .error .unknownTurn
    | some items =>
      let stop := match before with
        | none => some items.length
        | some before => items.findIdx? fun item => item.id = before
      match stop with
      | none => .error .unknownCursor
      | some stop =>
        let start := stop - limit
        .ok
          { items := ((items.drop start).take (stop - start)).map (WireItem.fromPersistedItem crates)
            hasMore := decide (0 < start) }

end TurnServer

/-! ## A client's walk -/

/-- A walk back through a turn's items: the cursor of the next request, or none when the last
page has been read, and what the pages so far carried, oldest first. -/
structure PageWalk where
  cursor : Option ItemId
  items : List WireItem

/-- One request of a walk: the next cursor is the first item of the page while there is more. -/
def PageWalk.request (walk : PageWalk) (fetch : ItemId → Except TurnItemsError LiveItemsPage) :
    Except TurnItemsError PageWalk :=
  match walk.cursor with
  | none => .ok walk
  | some before => match fetch before with
    | .error failure => .error failure
    | .ok page => .ok
      { cursor := if page.hasMore then page.items.head?.map WireItem.id else none
        items := page.items ++ walk.items }

/-- What happens while a client walks: an event of the turn, its commit, or a page request. -/
inductive PageAction where
  | event (event : ItemEvent)
  | commit
  | request

/-- The server and the walk; a walk that was refused stays refused. -/
structure PageSession where
  server : TurnServer
  walk : Except TurnItemsError PageWalk

namespace PageSession

variable (crates : Crates) (threadId : ThreadId) (turnId : TurnId) (limit : ℕ)

/-- One action. -/
def step (session : PageSession) : PageAction → PageSession
  | .event event => { session with server := session.server.applyEvent threadId turnId event }
  | .commit => { session with server := session.server.commit threadId }
  | .request =>
    let fetch (before : ItemId) :=
      session.server.turnItems crates threadId turnId (some before) limit
    { session with walk := session.walk.bind fun walk => walk.request fetch }

/-- A run of actions. -/
def run (session : PageSession) (actions : List PageAction) : PageSession :=
  actions.foldl (step crates threadId turnId limit) session

end PageSession

end Giskard
