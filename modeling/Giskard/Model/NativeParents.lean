import Mathlib
import Giskard.Foundation.Json
import Giskard.Model.NativeRoutes

/-!
# The native parentage a Codex worker attests

An item that links to a sub-agent says on whose native thread it was reported and which native
thread it is about. The mapper records the first parent it hears of for a native thread. Of an
item only what its link is made of is kept.

SOURCE: crates/giskard-harness-codex/src/mapping.rs.
-/

set_option autoImplicit false

namespace Giskard

open Foundation (IndexMap Json)

/-- SOURCE: mapping.rs:3124-3129. -/
def jsonDisplay : Json → String
  | .str text => text
  | value => String.ofList value.print

/-- The items that may carry a link. -/
inductive ThreadItem where
  | collabAgentToolCall (tool : Json) (receiverThreadIds : List String)
  | subAgentActivity (agentThreadId : String)
  | other

/-- The native thread that a tool call links to. SOURCE: mapping.rs:3141-3181. -/
def collabAgentLink (tool : Json) (receiverThreadIds : List String) : Option String :=
  let tool := jsonDisplay tool
  let receivers := (receiverThreadIds.map fun id => (NativeThreadId.trimmed id).text).filter
    fun id => id ≠ ""
  match receivers with
  | [] => none
  | harnessThreadId :: rest =>
    if tool = "wait" ∧ rest ≠ [] then none
    else if tool ∈ ["spawnAgent", "sendInput", "wait", "resumeAgent", "closeAgent"] then
      some harnessThreadId
    else none

namespace ThreadItem

/-- The link of an item that starts. SOURCE: mapping.rs:2798-2824. -/
def startLink : ThreadItem → Option String
  | .collabAgentToolCall tool receivers => collabAgentLink tool receivers
  | .subAgentActivity _ | .other => none

/-- The link of an item that completes. SOURCE: mapping.rs:2945-2972, 2984-3003, 3132-3139. -/
def completedLink : ThreadItem → Option String
  | .collabAgentToolCall tool receivers => collabAgentLink tool receivers
  | .subAgentActivity agentThreadId => some agentThreadId
  | .other => none

end ThreadItem

/-- `ItemStarted` and `ItemCompleted`, and between them the claims of native threads. -/
inductive ParentageStep where
  | itemStarted (item : ThreadItem) (threadId : String) (fallbackThread : ThreadId)
  | itemCompleted (item : ThreadItem) (threadId : String) (fallbackThread : ThreadId)
  | route (request : NativeRouteCall)

/-- SOURCE: mapping.rs:86-105. -/
structure NativeParentage where
  routes : NativeThreadRoutes
  nativeParents : IndexMap NativeThreadId NativeThreadId

namespace NativeParentage

/-- A mapper that has heard of no link. -/
def start : NativeParentage := ⟨.default, .empty⟩

variable (s : NativeParentage)

/-- SOURCE: mapping.rs:339-360. -/
def trackNativeParentage (parent child : String) : NativeParentage :=
  let parent := NativeThreadId.trimmed parent
  let child := NativeThreadId.trimmed child
  if parent.text = "" ∨ child.text = "" ∨ parent = child then s
  else if s.nativeParents.get? parent = some child then s
  else if s.nativeParents.get? child = none then
    { s with nativeParents := s.nativeParents.insert child parent }
  else s

/-- SOURCE: mapping.rs:363-368. -/
def nativeParent (harnessThreadId : String) : Option String :=
  (s.nativeParents.get? ⟨harnessThreadId⟩).map NativeThreadId.text

/-- The part of the item notifications that is about links. An item of an unknown native thread is
dropped. SOURCE: mapping.rs:552-608. -/
def onItem (link : Option String) (threadId : String) (fallbackThread : ThreadId) :
    NativeParentage :=
  match s.routes.resolve threadId fallbackThread with
  | .error _ => s
  | .ok _ =>
    match link with
    | some harnessThreadId => s.trackNativeParentage threadId harnessThreadId
    | none => s

def step (crates : Crates) (s : NativeParentage) : ParentageStep → NativeParentage
  | .itemStarted item threadId fallbackThread => s.onItem item.startLink threadId fallbackThread
  | .itemCompleted item threadId fallbackThread =>
    s.onItem item.completedLink threadId fallbackThread
  | .route request => { s with routes := (s.routes.call crates request).1 }

end NativeParentage

end Giskard
