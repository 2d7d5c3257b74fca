import Mathlib
import Giskard.Foundation.IndexMap
import Giskard.Foundation.Schedule

/-!
# The hub's subscriptions

Connected clients, and for each thread the clients that its messages go to. The two maps have a lock
each: a subscribe call looks its client up under the one and inserts it under the other, and a
disconnect call removes its client from the one and then from the lists of the other. What runs
between the two is given by the schedule, and so is what each delivery answers to a message.

SOURCE: crates/giskard-server/src/hub.rs.
-/

set_option autoImplicit false

namespace Giskard.Hub

open Foundation

abbrev ClientId := ℕ

variable {τ δ : Type}

/-- SOURCE: hub.rs:46. -/
abbrev SubList (δ : Type) := List (ClientId × δ)

/-- A subscribe call that has found its client and has not inserted it yet. -/
structure Subscribing (τ δ : Type) where
  thread : τ
  client : ClientId
  delivery : δ

/-- SOURCE: hub.rs:48-60. The other fields are the calls between their two steps, the ids that any
call has named, and the clients whose disconnect has returned. -/
structure HubState (τ δ : Type) where
  clients : IndexMap ClientId δ
  subs : IndexMap τ (SubList δ)
  subscribing : List (Subscribing τ δ)
  disconnecting : List ClientId
  used : List ClientId
  disconnected : List ClientId

/-- SOURCE: hub.rs:63-69. -/
def HubState.new : HubState τ δ := ⟨.empty, .empty, [], [], [], []⟩

/-- What happens next. -/
inductive HubChoice (τ δ : Type) where
  | register (client : ClientId) (delivery : δ)
  | subscribe (thread : τ) (client : ClientId)
  /-- A subscribe call goes on. -/
  | insert (call : ℕ)
  | unsubscribe (thread : τ) (client : ClientId)
  | disconnect (client : ClientId)
  /-- A disconnect call goes on and returns. -/
  | purge (call : ℕ)
  /-- A message to a thread's list; a delivery is kept unless it is closed. -/
  | publish (thread : τ) (retained : ClientId × δ → Bool)
  /-- A message to all clients. -/
  | publishAll (retained : ClientId → δ → Bool)

/-- SOURCE: `Vec::retain` of the entries of other clients. -/
def withoutClient (client : ClientId) (list : SubList δ) : SubList δ :=
  list.filter fun entry => entry.1 ≠ client

section Maps

variable [DecidableEq τ] (subs : IndexMap τ (SubList δ))

/-- The second half of a subscribe call. SOURCE: hub.rs:101-109. -/
def insertClient (call : Subscribing τ δ) : IndexMap τ (SubList δ) :=
  let list := (subs.get? call.thread).getD []
  if list.any fun entry => entry.1 = call.client then subs
  else subs.insert call.thread (list ++ [(call.client, call.delivery)])

/-- SOURCE: hub.rs:112-120. -/
def unsubscribeClient (thread : τ) (client : ClientId) : IndexMap τ (SubList δ) :=
  match subs.get? thread with
  | none => subs
  | some list =>
    let list := withoutClient client list
    if list.isEmpty then subs.shiftRemove thread else subs.insert thread list

/-- The second half of a disconnect call. SOURCE: hub.rs:124-134. -/
def purgeClient (client : ClientId) : IndexMap τ (SubList δ) :=
  (subs.mapValues (withoutClient client)).retain fun _ list => !list.isEmpty

/-- SOURCE: hub.rs:138-166, 193-209. -/
def retainSubscribers (thread : τ) (retained : ClientId × δ → Bool) : IndexMap τ (SubList δ) :=
  match subs.get? thread with
  | none => subs
  | some list => subs.insert thread (list.filter retained)

end Maps

namespace HubState

variable [DecidableEq τ] (hub : HubState τ δ)

/-- A client with an id that no call has named before. SOURCE: hub.rs:71-83. -/
def register (client : ClientId) (delivery : δ) : HubState τ δ :=
  if client ∈ hub.used then hub
  else { hub with clients := hub.clients.insert client delivery, used := client :: hub.used }

/-- The first half of a subscribe call; it returns when there is no such client.
SOURCE: hub.rs:91-110. -/
def subscribe (thread : τ) (client : ClientId) : HubState τ δ :=
  let hub := { hub with used := client :: hub.used }
  match hub.clients.get? client with
  | none => hub
  | some delivery => { hub with subscribing := hub.subscribing ++ [⟨thread, client, delivery⟩] }

def insert (call : ℕ) : HubState τ δ :=
  match hub.subscribing[call]? with
  | none => hub
  | some subscribing =>
    { hub with
      subs := insertClient hub.subs subscribing
      subscribing := hub.subscribing.eraseIdx call }

def unsubscribe (thread : τ) (client : ClientId) : HubState τ δ :=
  { hub with
    subs := unsubscribeClient hub.subs thread client
    used := client :: hub.used }

/-- The first half of a disconnect call. SOURCE: hub.rs:122-136. -/
def disconnect (client : ClientId) : HubState τ δ :=
  { hub with
    clients := hub.clients.shiftRemove client
    disconnecting := hub.disconnecting ++ [client]
    used := client :: hub.used }

def purge (call : ℕ) : HubState τ δ :=
  match hub.disconnecting[call]? with
  | none => hub
  | some client =>
    { hub with
      subs := purgeClient hub.subs client
      disconnecting := hub.disconnecting.eraseIdx call
      disconnected := client :: hub.disconnected }

/-- One step of the hub. -/
def step : HubChoice τ δ → HubState τ δ
  | .register client delivery => hub.register client delivery
  | .subscribe thread client => hub.subscribe thread client
  | .insert call => hub.insert call
  | .unsubscribe thread client => hub.unsubscribe thread client
  | .disconnect client => hub.disconnect client
  | .purge call => hub.purge call
  | .publish thread retained => { hub with subs := retainSubscribers hub.subs thread retained }
  | .publishAll retained => { hub with clients := hub.clients.retain retained }

end HubState

end Giskard.Hub
