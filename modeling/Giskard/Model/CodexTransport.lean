import Mathlib
import Giskard.Foundation.IndexMap
import Giskard.Foundation.Schedule
import Giskard.Foundation.Text
import Giskard.Model.Admission
import Giskard.Model.Core
import Giskard.Model.EventLog

/-!
# The stdio transport of a Codex worker

One task reads the worker's stdout and one writes its stdin. A request registers a waiter under its
own id, queues its frame for the writer and awaits its answer; the reader hands each response to
the waiter of its id and appends everything else to the inbox. A task that stops fails the waiters
that it finds.

What takes a lock or ends in an await is one step here. The reader reads a line when it acts on
it, and then it is part of what was read. A future without a step so far is one that may still be
made. The written marks of the frames and what is logged are left out, as is the end of the
transport itself.

SOURCE: crates/giskard-harness-codex/src/transport.rs.
-/

set_option autoImplicit false

namespace Giskard.Codex

open Foundation (IndexMap byteLen retreat takeBytes isWhiteSpace)

/-- SOURCE: transport.rs:23-25, rpc.rs:15. -/
def writerQueueCapacity : ℕ := 64
def codexInboxRetainLimit : ℕ := 65536
def codexMaxFrameBytes : ℕ := 64 * 1024 * 1024
def nonJsonStdoutPreviewBytes : ℕ := 4 * 1024

inductive RequestId where
  | integer (value : ℤ)
  | string (value : String)
  deriving DecidableEq

/-- A decoded line. -/
inductive JsonRpcMessage (V : Type) where
  | response (id : RequestId) (result : V)
  | error (id : RequestId) (code : ℤ) (message : String)
  | notification (method : String) (params : Option V)
  | request (id : RequestId) (method : String) (params : Option V)

inductive ServerMessage (N R : Type) where
  | notification (notification : N)
  | request (id : RequestId) (request : R)
  deriving DecidableEq

/-- SOURCE: transport.rs:31-41. -/
inductive InboxItem (N R : Type) where
  | message (message : ServerMessage N R)
  | nonJson (parseError rawPreview : String) (rawBytes : ℕ)
  | fatal (message : String)
  | eof
  deriving DecidableEq

/-- What the transport calls of its crates: the two directions of the protocol's JSON, the typed
notifications and requests, and the quoted form of a text. -/
structure Codec (V N R : Type) where
  decode : String → Except String (JsonRpcMessage V)
  notification : String → Option V → Except String N
  request : String → Option V → Except String R
  encode : RequestId → String → V → Except String String
  quoted : String → String

abbrev Answer (V : Type) := Except HarnessError V

/-- SOURCE: transport.rs:43-48. -/
structure Frame where
  line : String
  deriving DecidableEq

/-- SOURCE: transport.rs:583-585. -/
def transportClosed : HarnessError := .transport "Codex transport closed"

/-! ## Lines -/

section Lines

variable {V N R : Type} (codec : Codec V N R)

/-- SOURCE: rpc.rs:17-23. -/
def boundedUtf8Preview (value : List Char) (maxBytes : ℕ) : String :=
  String.ofList (takeBytes value (retreat value (min (byteLen value) maxBytes)))

/-- SOURCE: transport.rs:563-572. -/
def serializeLine (text : Except String String) : Except HarnessError String :=
  match text with
  | .error error => .error (.protocol error)
  | .ok line =>
    if '\r' ∈ line.toList ∨ '\n' ∈ line.toList then
      .error (.protocol "raw app-server frame contains an embedded line break")
    else .ok line

/-- SOURCE: transport.rs:574-581. -/
def trimLineEnding (line : List Char) : List Char :=
  match line.reverse with
  | '\n' :: '\r' :: rest => rest.reverse
  | '\n' :: rest => rest.reverse
  | _ => line

/-- What the reader gets of the stream: its end, a failure, or the bytes up to the end of a line
or to the limit, as their number and their text. -/
inductive Read where
  | eof
  | failed (error : String)
  | buffer (bytes : ℕ) (text : List Char)
  deriving DecidableEq

/-- What the reader does: nothing, hand over an answer, append to the inbox, or append and stop. -/
inductive Action (V N R : Type) where
  | skip
  | deliver (id : RequestId) (answer : Answer V)
  | append (item : InboxItem N R)
  | stop (item : InboxItem N R) (message : String)

/-- SOURCE: transport.rs:525-532. -/
def fatalDecode (method : String) (line : List Char) (error : String) : InboxItem N R :=
  .fatal ("Codex JSON-RPC deserialization error for method " ++ method ++ ": " ++ error ++
    " (raw_bytes: " ++ toString (byteLen line) ++ ", raw_preview: " ++
    codec.quoted (boundedUtf8Preview line nonJsonStdoutPreviewBytes) ++ ")")

/-- SOURCE: transport.rs:451-492. -/
def actEnvelope (line : List Char) : JsonRpcMessage V → Action V N R
  | .response id result => .deliver id (.ok result)
  | .error id code message =>
    .deliver id (.error (.transport ("JSON-RPC error (" ++ toString code ++ "): " ++ message)))
  | .notification method params =>
    match codec.notification method params with
    | .ok notification => .append (.message (.notification notification))
    | .error error =>
      .stop (fatalDecode codec method line error) "Codex notification decode failed"
  | .request id method params =>
    match codec.request method params with
    | .ok request => .append (.message (.request id request))
    | .error error => .stop (fatalDecode codec method line error) "Codex request decode failed"

/-- SOURCE: transport.rs:428-450. -/
def actLine (line : List Char) : Action V N R :=
  if trimText line = [] then .skip
  else match codec.decode (String.ofList line) with
    | .ok envelope => actEnvelope codec line envelope
    | .error error =>
      if (line.dropWhile isWhiteSpace).head? = some '{' then
        .stop (fatalDecode codec "unknown" line error) "Codex stream contained malformed JSON-RPC"
      else
        .append (.nonJson error (boundedUtf8Preview line nonJsonStdoutPreviewBytes) (byteLen line))

/-- SOURCE: transport.rs:400-450. -/
def act : Read → Action V N R
  | .eof => .stop .eof "Codex stream closed"
  | .failed error =>
    .stop (.fatal ("failed to read Codex stdout: " ++ error)) "Codex stream read failed"
  | .buffer bytes text =>
    if codexMaxFrameBytes < bytes then
      .stop (.fatal ("Codex stdout frame exceeded " ++ toString codexMaxFrameBytes ++ " bytes"))
        "Codex stream produced an oversized frame"
    else actLine codec (trimLineEnding text)

end Lines

/-! ## The parties -/

/-- A request future: not made yet, with its id, registered, with its frame queued, and then
resolved or dropped. -/
inductive RequestFuture (V : Type) where
  | fresh
  | numbered (id : RequestId) (method : String) (params : V)
  | registered (id : RequestId) (method : String) (params : V)
  | queued (id : RequestId)
  | returned (answer : Answer V)
  | dropped

/-- The channel that a future's answer comes through. -/
inductive Reply (V : Type) where
  | empty
  | sent (answer : Answer V)
  | hungUp

/-- A task that fails the waiters: they are taken out at once and told one after the other. -/
inductive Sweep where
  | due (message : String)
  | telling (message : String) (waiters : List ℕ)
  deriving DecidableEq

/-- SOURCE: transport.rs:394-494. -/
inductive Reader where
  | reading
  | failing (sweep : Sweep)
  | stopped
  deriving DecidableEq

/-- SOURCE: transport.rs:496-523. -/
inductive Writer where
  | receiving
  | writing (frame : Frame)
  | failing (sweep : Sweep)
  | stopped
  deriving DecidableEq

/-- Where a future registered: its id, and how much had been read by then. -/
structure Registered where
  id : RequestId
  since : ℕ
  deriving DecidableEq

/-- The transport, the futures of its requests, what its pipes carried and what its inbox yielded,
and where each future registered. SOURCE: transport.rs:91-101. -/
structure Transport (V N R : Type) where
  nextId : ℤ
  waiters : IndexMap RequestId ℕ
  futures : ℕ → RequestFuture V
  replies : ℕ → Reply V
  queue : List Frame
  reader : Reader
  writer : Writer
  inbox : EventLog (InboxItem N R)
  stdin : List String
  reads : List Read
  received : List (Except EventStreamError (InboxItem N R))
  registrations : ℕ → Option Registered

inductive Task where
  | reader
  | writer
  deriving DecidableEq

/-- The next step of one of the parties. -/
inductive Choice (V : Type) where
  | begin (future : ℕ) (method : String) (params : V)
  | register (future : ℕ)
  | enqueue (future : ℕ)
  | receive (future : ℕ)
  | drop (future : ℕ)
  | read (read : Read)
  | take (task : Task)
  | tell (task : Task) (future : ℕ)
  | close
  | recv
  | wrote
  | writeFailed (error : String)
  | finish
  | offer (frame : Frame)
  | next

namespace Transport

variable {V N R : Type}

/-- SOURCE: transport.rs:130-163. -/
def new : Transport V N R where
  nextId := 1
  waiters := .empty
  futures := fun _ => .fresh
  replies := fun _ => .empty
  queue := []
  reader := .reading
  writer := .receiving
  inbox :=
    let log : EventLog (InboxItem N R) := .withLimit codexInboxRetainLimit
    { log with state := log.state.reader.1 }
  stdin := []
  reads := []
  received := []
  registrations := fun _ => none

def setFuture (transport : Transport V N R) (future : ℕ) (phase : RequestFuture V) :
    Transport V N R :=
  { transport with futures := Function.update transport.futures future phase }

def setReply (transport : Transport V N R) (future : ℕ) (reply : Reply V) : Transport V N R :=
  { transport with replies := Function.update transport.replies future reply }

/-- A waiter leaves the map and its sender is gone. -/
def removeWaiter (transport : Transport V N R) (id : RequestId) : Transport V N R :=
  match transport.waiters.get? id with
  | none => transport
  | some future =>
    { transport with waiters := transport.waiters.shiftRemove id }.setReply future .hungUp

/-- SOURCE: transport.rs:320-331. -/
def register (transport : Transport V N R) (future : ℕ) (id : RequestId) (method : String)
    (params : V) : Transport V N R :=
  let transport := transport.removeWaiter id
  { transport with
    waiters := transport.waiters.insert id future
    registrations :=
      Function.update transport.registrations future (some ⟨id, transport.reads.length⟩)
  }.setFuture future (.registered id method params)

/-- SOURCE: transport.rs:64-67. -/
def abandon (transport : Transport V N R) (future : ℕ) (id : RequestId) (error : HarnessError) :
    Transport V N R :=
  (transport.removeWaiter id).setFuture future (.returned (.error error))

/-- SOURCE: transport.rs:534-540. -/
def deliverResponse (transport : Transport V N R) (id : RequestId) (answer : Answer V) :
    Transport V N R :=
  match transport.waiters.get? id with
  | none => transport
  | some future =>
    { transport with waiters := transport.waiters.shiftRemove id }.setReply future (.sent answer)

def append (transport : Transport V N R) (item : InboxItem N R) : Transport V N R :=
  { transport with
    inbox :=
      { transport.inbox with
        state := (transport.inbox.state.append transport.inbox.limit item).1 } }

def perform (transport : Transport V N R) : Action V N R → Transport V N R
  | .skip => transport
  | .deliver id answer => transport.deliverResponse id answer
  | .append item => transport.append item
  | .stop item message => { transport.append item with reader := .failing (.due message) }

def sweep? (transport : Transport V N R) : Task → Option Sweep
  | .reader =>
    match transport.reader with
    | .failing sweep => some sweep
    | _ => none
  | .writer =>
    match transport.writer with
    | .failing sweep => some sweep
    | _ => none

def setSweep (transport : Transport V N R) (task : Task) (sweep : Sweep) : Transport V N R :=
  match task with
  | .reader => { transport with reader := .failing sweep }
  | .writer => { transport with writer := .failing sweep }

variable (codec : Codec V N R)

/-- The frame is queued once there is room for it. SOURCE: transport.rs:332-361. -/
def enqueue (transport : Transport V N R) (future : ℕ) (id : RequestId) (method : String)
    (params : V) : Option (Transport V N R) :=
  match serializeLine (codec.encode id method params) with
  | .error error => some (transport.abandon future id error)
  | .ok line =>
    if transport.writer = .stopped then some (transport.abandon future id transportClosed)
    else if transport.queue.length < writerQueueCapacity then
      some ({ transport with queue := transport.queue ++ [Frame.mk line] }.setFuture future
        (.queued id))
    else none

/-- SOURCE: transport.rs:362-371. -/
def receive (transport : Transport V N R) (future : ℕ) (id : RequestId) :
    Option (Transport V N R) :=
  match transport.replies future with
  | .empty => none
  | .sent answer => some (transport.setFuture future (.returned answer))
  | .hungUp => some (transport.abandon future id transportClosed)

/-- SOURCE: transport.rs:71-88. -/
def drop (transport : Transport V N R) (future : ℕ) : Option (Transport V N R) :=
  match transport.futures future with
  | .fresh => some (transport.setFuture future .dropped)
  | .registered id _ _ => some ((transport.removeWaiter id).setFuture future .dropped)
  | .queued id => some ((transport.removeWaiter id).setFuture future .dropped)
  | _ => none

/-- SOURCE: transport.rs:542-547. -/
def take (transport : Transport V N R) (task : Task) : Option (Transport V N R) :=
  match transport.sweep? task with
  | some (.due message) =>
    some ({ transport with waiters := .empty }.setSweep task
      (.telling message transport.waiters.values))
  | _ => none

def tell (transport : Transport V N R) (task : Task) (future : ℕ) : Option (Transport V N R) :=
  match transport.sweep? task with
  | some (.telling message waiters) =>
    if future ∈ waiters then
      some ((transport.setReply future (.sent (.error (.transport message)))).setSweep task
        (.telling message (waiters.erase future)))
    else none
  | _ => none

/-- A step, where it can be taken. -/
def step? (transport : Transport V N R) : Choice V → Option (Transport V N R)
  | .begin future method params =>
    match transport.futures future with
    | .fresh =>
      some ({ transport with nextId := transport.nextId + 1 }.setFuture future
        (.numbered (.integer transport.nextId) method params))
    | _ => none
  | .register future =>
    match transport.futures future with
    | .numbered id method params => some (transport.register future id method params)
    | _ => none
  | .enqueue future =>
    match transport.futures future with
    | .registered id method params => transport.enqueue codec future id method params
    | _ => none
  | .receive future =>
    match transport.futures future with
    | .queued id => transport.receive future id
    | _ => none
  | .drop future => transport.drop future
  | .read read =>
    if transport.reader = .reading then
      some { transport.perform (act codec read) with reads := transport.reads ++ [read] }
    else none
  | .take task => transport.take task
  | .tell task future => transport.tell task future
  | .close =>
    match transport.reader with
    | .failing (.telling _ []) =>
      some { transport with
        reader := .stopped
        inbox := { transport.inbox with state := transport.inbox.state.close } }
    | _ => none
  | .recv =>
    match transport.writer, transport.queue with
    | .receiving, frame :: queue => some { transport with writer := .writing frame, queue := queue }
    | _, _ => none
  | .wrote =>
    match transport.writer with
    | .writing frame =>
      some { transport with writer := .receiving, stdin := transport.stdin ++ [frame.line] }
    | _ => none
  | .writeFailed error =>
    match transport.writer with
    | .writing _ =>
      some { transport with writer := .failing (.due ("transport error: " ++ error)) }
    | _ => none
  | .finish =>
    match transport.writer with
    | .failing (.telling _ []) => some { transport with writer := .stopped, queue := [] }
    | _ => none
  | .offer frame =>
    if transport.writer ≠ .stopped ∧ transport.queue.length < writerQueueCapacity then
      some { transport with queue := transport.queue ++ [frame] }
    else none
  | .next =>
    let polled := transport.inbox.state.pollReader 0
    some { transport with
      inbox := { transport.inbox with state := polled.1 }
      received := transport.received ++ polled.2.toList }

/-- A choice that cannot be taken changes nothing. -/
def step (transport : Transport V N R) (choice : Choice V) : Transport V N R :=
  (transport.step? codec choice).getD transport

end Transport

end Giskard.Codex
