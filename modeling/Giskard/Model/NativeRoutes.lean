import Mathlib
import Giskard.Foundation.IndexMap
import Giskard.Foundation.Schedule
import Giskard.Model.Admission

/-!
# The native thread routes of a Codex worker

A worker binds each native thread of its process to one thread of the project. The two maps are
the two directions of that binding; a counter numbers the bindings as they are established.

SOURCE: crates/giskard-harness-codex/src/native_routes.rs, native_ids.rs.
-/

set_option autoImplicit false

namespace Giskard

open Foundation (IndexMap)

/-- SOURCE: native_ids.rs:30-38. -/
structure NativeThreadId where
  text : String
  deriving DecidableEq

/-- SOURCE: native_ids.rs:52. -/
structure NativeRouteEpoch where
  value : UInt64
  deriving DecidableEq

/-- SOURCE: native_ids.rs:63-65. -/
def NativeRouteEpoch.checkedNext (epoch : NativeRouteEpoch) : Option NativeRouteEpoch :=
  if epoch.value = UInt64.ofNat (2 ^ 64 - 1) then none else some ⟨epoch.value + 1⟩

/-- SOURCE: native_routes.rs:8-14. -/
structure NativeRoute where
  threadId : ThreadId
  epoch : NativeRouteEpoch
  contextWindow : Option UInt32
  deriving DecidableEq

/-- SOURCE: native_routes.rs:16-35. -/
structure NativeThreadRoutes where
  byNative : IndexMap NativeThreadId NativeRoute
  nativeByThread : IndexMap ThreadId NativeThreadId
  nextEpoch : NativeRouteEpoch

/-- A native thread id without the white space around it. -/
def NativeThreadId.trimmed (text : String) : NativeThreadId :=
  ⟨String.ofList (trimText text.toList)⟩

/-- The call of an operation of the routes. -/
inductive NativeRouteCall where
  | claim (nativeThreadId : String) (threadId : ThreadId)
  | claimOrAdopt (nativeThreadId : String) (proposedThreadId : ThreadId)
  | replace (expectedNativeThreadId newNativeThreadId : String) (threadId : ThreadId)
  | setContextWindow (native : String) (thread : ThreadId) (value : Option UInt32)

namespace NativeThreadRoutes

/-- The routes of a worker that just started. -/
def default : NativeThreadRoutes := ⟨.empty, .empty, ⟨0⟩⟩

variable (crates : Crates) (routes : NativeThreadRoutes)

/-- SOURCE: native_routes.rs:44-82. -/
def claim (nativeThreadId : String) (threadId : ThreadId) :
    NativeThreadRoutes × Except HarnessError NativeRoute :=
  let native := NativeThreadId.trimmed nativeThreadId
  if native.text = "" then (routes, .error (.protocol "cannot claim an empty native thread id"))
  else match routes.byNative.get? native with
    | some existing =>
      if existing.threadId ≠ threadId then
        (routes, .error (.protocol (s!"native thread {native.text} is already bound to " ++
          s!"{crates.ulid.print existing.threadId.ulid}, not {crates.ulid.print threadId.ulid}")))
      else (routes, .ok existing)
    | none =>
      match routes.nativeByThread.get? threadId with
      | some existing =>
        (routes, .error (.protocol (s!"thread {crates.ulid.print threadId.ulid} is already bound " ++
          s!"to native thread {existing.text}, not {native.text}")))
      | none =>
        match routes.nextEpoch.checkedNext with
        | none => (routes, .error (.protocol "native route epoch space exhausted"))
        | some epoch =>
          (⟨routes.byNative.insert native ⟨threadId, epoch, none⟩,
            routes.nativeByThread.insert threadId native, epoch⟩, .ok ⟨threadId, epoch, none⟩)

/-- SOURCE: native_routes.rs:85-100. -/
def claimOrAdopt (nativeThreadId : String) (proposedThreadId : ThreadId) :
    NativeThreadRoutes × Except HarnessError NativeRoute :=
  let native := NativeThreadId.trimmed nativeThreadId
  if native.text = "" then (routes, .error (.protocol "cannot claim an empty native thread id"))
  else match routes.byNative.get? native with
    | some existing => (routes, .ok existing)
    | none => routes.claim crates native.text proposedThreadId

/-- SOURCE: native_routes.rs:103-158. -/
def replace (expectedNativeThreadId newNativeThreadId : String) (threadId : ThreadId) :
    NativeThreadRoutes × Except HarnessError NativeRoute :=
  let expected := NativeThreadId.trimmed expectedNativeThreadId
  let new := NativeThreadId.trimmed newNativeThreadId
  if expected.text = "" ∨ new.text = "" then
    (routes, .error (.protocol "cannot replace a route with an empty native thread id"))
  else match routes.byNative.get? expected with
    | none =>
      (routes, .error (.protocol (s!"native thread {expected.text} is not bound to thread " ++
        crates.ulid.print threadId.ulid)))
    | some expectedRoute =>
      if expectedRoute.threadId ≠ threadId then
        (routes, .error (.protocol (s!"native thread {expected.text} is already bound to " ++
          s!"{crates.ulid.print expectedRoute.threadId.ulid}, not " ++
          crates.ulid.print threadId.ulid)))
      else if routes.nativeByThread.get? threadId ≠ some expected then
        (routes, .error (.protocol (s!"thread {crates.ulid.print threadId.ulid} is not bound to " ++
          s!"expected native thread {expected.text}")))
      else match if new ≠ expected then routes.byNative.get? new else none with
        | some existing =>
          (routes, .error (.protocol (s!"native thread {new.text} is already bound to " ++
            s!"{crates.ulid.print existing.threadId.ulid}, not " ++
            crates.ulid.print threadId.ulid)))
        | none =>
          match routes.nextEpoch.checkedNext with
          | none => (routes, .error (.protocol "native route epoch space exhausted"))
          | some epoch =>
            (⟨(routes.byNative.shiftRemove expected).insert new ⟨threadId, epoch, none⟩,
              routes.nativeByThread.insert threadId new, epoch⟩, .ok ⟨threadId, epoch, none⟩)

/-- SOURCE: native_routes.rs:161-163. -/
def routeForNative (nativeThreadId : String) : Option NativeRoute :=
  routes.byNative.get? (.trimmed nativeThreadId)

/-- SOURCE: native_routes.rs:165-180. -/
def setContextWindow (native : String) (thread : ThreadId) (value : Option UInt32) :
    NativeThreadRoutes × Except HarnessError Unit :=
  match (routes.byNative.get? ⟨native⟩).filter fun route => route.threadId = thread with
  | none => (routes, .error (.protocol "Context configuration lost its native thread route"))
  | some route =>
    ({ routes with
      byNative := routes.byNative.insert ⟨native⟩ { route with contextWindow := value } }, .ok ())

/-- SOURCE: native_routes.rs:183-201. The error is the trimmed native id. -/
def resolve (nativeThreadId : String) (fallback : ThreadId) : Except NativeThreadId ThreadId :=
  let native := NativeThreadId.trimmed nativeThreadId
  if native.text = "" then .ok fallback
  else match routes.routeForNative native.text with
    | some route => .ok route.threadId
    | none => if routes.byNative.entries = [] then .ok fallback else .error native

/-- The state after a call, and its result; a change of the context window returns no route. -/
def call : NativeRouteCall → NativeThreadRoutes × Except HarnessError (Option NativeRoute)
  | .claim native thread => (routes.claim crates native thread).map id (·.map some)
  | .claimOrAdopt native thread => (routes.claimOrAdopt crates native thread).map id (·.map some)
  | .replace expected new thread =>
    (routes.replace crates expected new thread).map id (·.map some)
  | .setContextWindow native thread value =>
    (routes.setContextWindow native thread value).map id (·.map fun _ => none)

/-- The route that a call issues: one it returns that was not established before. -/
def issued (request : NativeRouteCall) : Option NativeRoute :=
  match (routes.call crates request).2 with
  | .ok (some route) => if route ∈ routes.byNative.values then none else some route
  | _ => none

/-- The state after some calls. -/
def calls (requests : List NativeRouteCall) : NativeThreadRoutes :=
  Foundation.Schedule.run (fun routes request => (routes.call crates request).1) routes requests

/-- The routes that some calls issue, in order. -/
def issuedBy : NativeThreadRoutes → List NativeRouteCall → List NativeRoute
  | _, [] => []
  | routes, request :: requests =>
    (routes.issued crates request).toList ++ issuedBy (routes.call crates request).1 requests

end NativeThreadRoutes

end Giskard
