import Mathlib
import Giskard.Foundation.TextFile
import Giskard.Model.CommandOutput

/-!
# The command output route

The output of a command of a persisted turn is served from the runtime while a late completion is
being made durable, and from the persisted item else; the version of a persisted output is hashed
once and cached. A route call looks into the runtime at three points. A late completion puts its
copy into the runtime, appends the amendment, drops the copy and forgets the cached version.

Both are modelled step by step, so that a schedule can interleave any number of calls with
completions that are handled one after another. The runtime entry that holds the cache is there
throughout. The state counts the changes of the persisted item, and remembers for a read and for
the cached version after how many of them the item was read.

SOURCE: crates/giskard-server/src/routes.rs, crates/giskard-server/src/thread_runtime.rs,
crates/giskard-server/src/thread_runtime/outputs.rs,
crates/giskard-server/src/registry/event_forwarder.rs, crates/giskard-persist/src/store.rs.
-/

set_option autoImplicit false

namespace Giskard

open Foundation

/-! ## Outputs -/

/-- An output that is served. SOURCE: routes.rs:4857-4863, outputs.rs:14-21. -/
structure LoadedCommandOutput where
  output : String
  outputTruncated : Bool
  originalBytes : UInt64
  originalLines : UInt64
  version : String
  deriving DecidableEq

/-- A persisted output. SOURCE: store.rs `StoredCommandOutput`. -/
structure StoredCommandOutput where
  output : String
  outputTruncated : Bool
  originalBytes : UInt64
  originalLines : UInt64
  deriving DecidableEq

/-- SOURCE: outputs.rs:324-329. -/
def commandOutputVersion (crates : Crates) (output : String) : String :=
  "\"sha256_" ++ crates.sha256Hex (utf8 output.toList) ++ "\""

/-- The output of an item that the store serves: of a command that is not running.
SOURCE: store.rs:1757-1803. -/
def storedCommandOutput (item : Item) : Option StoredCommandOutput :=
  match item.payload with
  | .commandExecution _ _ _ output outputTruncated outputOriginalBytes outputOriginalLines _ status
      _ _ =>
    if status.any commandStatusIsRunning then none
    else match commandOutputDescriptor output outputTruncated outputOriginalBytes
        outputOriginalLines true with
      | .error _ => none
      | .ok descriptor =>
        some ⟨output, outputTruncated, descriptor.originalBytes, descriptor.originalLines⟩
  | _ => none

/-- The runtime copy of a completed command. SOURCE: outputs.rs:272-302. -/
def preparedCommandOutput (crates : Crates) (item : Item) : Option LoadedCommandOutput :=
  match item.payload with
  | .commandExecution _ _ _ output outputTruncated outputOriginalBytes outputOriginalLines _ status
      _ _ =>
    match commandOutputDescriptor output outputTruncated outputOriginalBytes outputOriginalLines
        true with
    | .error _ => none
    | .ok descriptor =>
      if status.any commandStatusIsRunning then none
      else some ⟨output, outputTruncated, descriptor.originalBytes, descriptor.originalLines,
        commandOutputVersion crates output⟩
  | _ => none

/-! ## Calls and completions -/

/-- A persisted output that a call has read, and after how many changes of the item. -/
structure OutputRead where
  output : StoredCommandOutput
  readAt : ℕ
  deriving DecidableEq

/-- Where a route call is. SOURCE: routes.rs:4865-4965. -/
inductive RouteCall where
  | start
  | missed
  | permitted
  | read (read : OutputRead)
  | missedAgain (read : OutputRead)
  | hashed (read : OutputRead) (version : String)
  | missedThrice (read : OutputRead) (version : String)
  | answered (answer : LoadedCommandOutput)
  | failed
  deriving DecidableEq

/-- What an amendment comes to; one that fails may have written its record before. -/
inductive AmendResult where
  | amended
  | unsupported
  | failed (wrote : Bool)
  deriving DecidableEq

/-- Where the late completion that is being handled is. SOURCE: event_forwarder.rs:1501-1570. -/
inductive LateCompletion where
  | idle
  | installed (item : Item)
  | amended
  | unsupported
  | dropped
  deriving DecidableEq

/-- The outputs of one command item of a persisted turn. -/
structure OutputState where
  runtime : Option LoadedCommandOutput
  persisted : Item
  cached : Option String
  completion : LateCompletion
  calls : ℕ → RouteCall
  changes : ℕ
  cachedAt : ℕ

/-- Whose step is next. -/
inductive OutputChoice where
  | call (call : ℕ)
  | install (item : Item)
  | append (result : AmendResult)
  | drop
  | forget
  deriving DecidableEq

/-- A persisted output as an answer. -/
def StoredCommandOutput.answer (stored : StoredCommandOutput) (version : String) :
    LoadedCommandOutput :=
  ⟨stored.output, stored.outputTruncated, stored.originalBytes, stored.originalLines, version⟩

namespace OutputState

variable (crates : Crates)

/-- The next step of a call, and the version cache after it. SOURCE: routes.rs:4886-4964. -/
def callStep (state : OutputState) : RouteCall → RouteCall × Option String × ℕ
  | .start => (match state.runtime with
      | some output => .answered output
      | none => .missed, state.cached, state.cachedAt)
  | .missed => (.permitted, state.cached, state.cachedAt)
  | .permitted => (match storedCommandOutput state.persisted with
      | some output => .read ⟨output, state.changes⟩
      | none => .failed, state.cached, state.cachedAt)
  | .read read => (match state.runtime with
      | some output => .answered output
      | none => .missedAgain read, state.cached, state.cachedAt)
  | .missedAgain read => (match state.cached with
      | some version => .answered (read.output.answer version)
      | none => .hashed read (commandOutputVersion crates read.output.output),
      state.cached, state.cachedAt)
  | .hashed read version => (match state.runtime with
      | some output => .answered output
      | none => .missedThrice read version, state.cached, state.cachedAt)
  | .missedThrice read version => match state.cached with
    | some other => (.answered (read.output.answer other), state.cached, state.cachedAt)
    | none => (.answered (read.output.answer version), some version, read.readAt)
  | .answered answer => (.answered answer, state.cached, state.cachedAt)
  | .failed => (.failed, state.cached, state.cachedAt)

/-- One step; a choice that does not fit the completion's place is none. -/
def step (state : OutputState) : OutputChoice → OutputState
  | .call i =>
    let next := state.callStep crates (state.calls i)
    { state with
      calls := Function.update state.calls i next.1
      cached := next.2.1
      cachedAt := next.2.2 }
  | .install item => match state.completion with
    | .idle => { state with
        runtime := preparedCommandOutput crates item
        completion := .installed item }
    | _ => state
  | .append result => match state.completion with
    | .installed item => match result with
      | .amended => { state with
          persisted := item
          changes := state.changes + 1
          completion := .amended }
      | .unsupported => { state with completion := .unsupported }
      | .failed true => { state with
          persisted := item
          changes := state.changes + 1
          completion := .idle }
      | .failed false => { state with completion := .idle }
    | _ => state
  | .drop => match state.completion with
    | .amended => { state with runtime := none, completion := .dropped }
    | .unsupported => { state with runtime := none, completion := .idle }
    | _ => state
  | .forget => match state.completion with
    | .dropped => { state with cached := none, completion := .idle }
    | _ => state

end OutputState

end Giskard
