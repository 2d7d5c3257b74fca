import Mathlib
import Giskard.Foundation.IndexMap
import Giskard.Foundation.Serde
import Giskard.Model.Core
import Giskard.Model.Requests

/-!
# The asks of a Claude Code child

What the CLI asks the user (a tool permission, a question, another control request), the map
of the asks that nothing has answered yet, and the control response that an answer becomes.

The map is a hash map in the source; here it keeps the order of insertion, which nothing below
depends on.

SOURCE: crates/giskard-harness-claude/src/session.rs.
-/

set_option autoImplicit false

namespace Giskard.Claude

open Foundation (Json IndexMap)

/-! ## Pending asks -/

/-- One ask the CLI published and nothing has answered yet. SOURCE: session.rs:210-228. -/
structure PendingAsk where
  thread : ThreadId
  owner : ThreadId
  requestId : String
  toolUseId : Option String
  toolName : Option String
  suggestions : List Json
  subtype : String
  input : Json
  deriving DecidableEq

/-- Which map a pending ask lives in. SOURCE: session.rs:230-235. -/
inductive AskKind where
  | approval
  | serverRequest
  deriving DecidableEq

/-- Approvals and server requests awaiting an answer. SOURCE: session.rs:249-264. -/
structure PendingRequests where
  approvals : IndexMap ApprovalId PendingAsk
  serverRequests : IndexMap ServerRequestId PendingAsk

namespace PendingRequests

variable (pending : PendingRequests)

/-- SOURCE: harness.rs:207. -/
def empty : PendingRequests := ⟨.empty, .empty⟩

/-- SOURCE: session.rs:267-269. -/
def insertApproval (id : ApprovalId) (ask : PendingAsk) : PendingRequests :=
  { pending with approvals := pending.approvals.insert id ask }

/-- SOURCE: session.rs:271-273. -/
def insertServerRequest (id : ServerRequestId) (ask : PendingAsk) : PendingRequests :=
  { pending with serverRequests := pending.serverRequests.insert id ask }

/-- SOURCE: session.rs:285-287. -/
def removeApproval (id : ApprovalId) : Option (PendingAsk × PendingRequests) :=
  (pending.approvals.get? id).map fun ask =>
    (ask, { pending with approvals := pending.approvals.shiftRemove id })

/-- SOURCE: session.rs:289-291. -/
def removeServerRequest (id : ServerRequestId) : Option (PendingAsk × PendingRequests) :=
  (pending.serverRequests.get? id).map fun ask =>
    (ask, { pending with serverRequests := pending.serverRequests.shiftRemove id })

/-- Whether an ask is `owner`'s and carries the CLI's `requestId`. -/
def isAsk (owner : ThreadId) (requestId : String) (ask : PendingAsk) : Bool :=
  ask.owner = owner && ask.requestId = requestId

/-- Remove the ask of `owner`'s child whose CLI request id is `requestId`, whichever map holds
it. SOURCE: session.rs:295-316. -/
def removeByRequestId (owner : ThreadId) (requestId : String) :
    Option (AskKind × PendingAsk × PendingRequests) :=
  match pending.approvals.entries.find? fun entry => isAsk owner requestId entry.2 with
  | some (id, ask) =>
    some (.approval, ask, { pending with approvals := pending.approvals.shiftRemove id })
  | none =>
    (pending.serverRequests.entries.find? fun entry => isAsk owner requestId entry.2).map
      fun entry => (.serverRequest, entry.2,
        { pending with serverRequests := pending.serverRequests.shiftRemove entry.1 })

/-- The asks, whichever map holds them. -/
def asks : List PendingAsk := pending.approvals.values ++ pending.serverRequests.values

/-- How many asks `owner`'s child published that nothing answered yet. SOURCE:
session.rs:319-325. -/
def countOwner (owner : ThreadId) : ℕ := pending.asks.countP fun ask => ask.owner = owner

/-- Drop every ask `owner`'s child published. SOURCE: session.rs:328-333. -/
def removeOwner (owner : ThreadId) : PendingRequests where
  approvals := pending.approvals.retain fun _ ask => ask.owner ≠ owner
  serverRequests := pending.serverRequests.retain fun _ ask => ask.owner ≠ owner

/-- Drop every ask published on one thread. SOURCE: session.rs:336-341. -/
def removeThread (thread : ThreadId) : PendingRequests where
  approvals := pending.approvals.retain fun _ ask => ask.thread ≠ thread
  serverRequests := pending.serverRequests.retain fun _ ask => ask.thread ≠ thread

end PendingRequests

/-! ## Answers -/

/-- What every deny written for `Decline` says. SOURCE: session.rs:42. -/
def declineMessage : String := "Declined by the user in Giskard"

/-- What the deny written for `Cancel` says. SOURCE: session.rs:44. -/
def cancelMessage : String := "Cancelled by the user in Giskard"

/-- Put a member into an object, in the place of one with its key. -/
def setMember (key : String) (value : Json) : Json → Json
  | .obj members => .obj (members.filter (fun member => member.1 ≠ key) ++ [(key, value)])
  | other => other

/-- The suggestions an `AcceptForSession` echoes: the CLI's own rules, their destination narrowed
to the session. SOURCE: session.rs:450-463. -/
def sessionRules (suggestions : List Json) : List Json :=
  (suggestions.filter fun suggestion =>
      (suggestion.get? "type").bind Json.asString = some "addRules").map
    (setMember "destination" (.str "session"))

/-- The `can_use_tool` answer for one decision, and how many rules it echoes. SOURCE:
session.rs:437-482. -/
def approvalResponse (ask : PendingAsk) : ApprovalDecision → Except HarnessError (Json × ℕ)
  | .accept => .ok (.obj [("behavior", .str "allow")], 0)
  | .acceptForSession =>
    let rules := sessionRules ask.suggestions
    if rules.isEmpty then .ok (.obj [("behavior", .str "allow")], 0)
    else
      .ok (.obj [("behavior", .str "allow"), ("updatedPermissions", .arr rules)], rules.length)
  | .decline => .ok (.obj [("behavior", .str "deny"), ("message", .str declineMessage)], 0)
  | .cancel =>
    .ok (.obj [("behavior", .str "deny"), ("message", .str cancelMessage),
      ("interrupt", .bool true)], 0)
  | .acceptWithExecPolicyAmendment _ =>
    .error (.unsupported
      "Claude Code has no exec-policy amendments; answer the approval another way")

/-- An index as `usize` reads it: one plus sign at most, then digits. -/
def parseIndex (text : String) : Option ℕ :=
  let digits := if text.toList.head? = some '+' then text.toList.tail else text.toList
  if digits.isEmpty || !digits.all Char.isDigit then none
  else
    let value := digits.foldl (fun value digit => 10 * value + (digit.toNat - '0'.toNat)) 0
    if value < 2 ^ 64 then some value else none

/-- The question text and the joined labels of one answer; no labels, no answer. SOURCE:
session.rs:534-548. -/
def questionAnswer (questions : List Json) (id : String) (answer : Json) :
    Option (Option (String × String)) := do
  let index ← parseIndex id
  let question ← questions[index]?
  let text ← (question.get? "question").bind Json.asString
  let labels ← (answer.get? "answers").bind (Json.asList Json.asString)
  if labels.isEmpty then some none else some (some (text, ", ".intercalate labels))

/-- The browser's answers keyed by question text. SOURCE: session.rs:531-550. -/
def askUserQuestionAnswers (questions value : Json) : Option Json :=
  match questions, value.get? "answers" with
  | .arr questions, some (.obj byId) => do
    let answers ← byId.mapM fun entry => questionAnswer questions entry.1 entry.2
    some (answers.reduceOption.foldl
      (fun collected entry => setMember entry.1 (.str entry.2) collected) (.obj []))
  | _, _ => none

/-- What a control response line carries besides its request id: its subtype and its body. -/
structure ControlResponse where
  subtype : String
  body : Json
  deriving DecidableEq

/-- SOURCE: session.rs:428-435. -/
def controlResponse (response : Json) : ControlResponse := ⟨"success", response⟩

/-- The control response answering one server request. SOURCE: session.rs:485-526. -/
def serverRequestResponse (ask : PendingAsk) :
    ServerRequestResponse → Except HarnessError ControlResponse
  | .result value =>
    if ask.subtype = "can_use_tool" then
      let questions := (ask.input.get? "questions").getD (.arr [])
      match askUserQuestionAnswers questions value with
      | some answers =>
        .ok (controlResponse (.obj [("behavior", .str "allow"),
          ("updatedInput", .obj [("questions", questions), ("answers", answers)])]))
      | none =>
        .error (.protocol ("server request " ++ ask.requestId ++
          " expects an answer of the form \x7b\"answers\": \x7b<question id>: " ++
          "\x7b\"answers\": [<label>]\x7d\x7d\x7d"))
    else .ok (controlResponse value)
  | .error _ message =>
    if ask.subtype = "can_use_tool" then
      .ok (controlResponse (.obj [("behavior", .str "deny"), ("message", .str message)]))
    else .ok ⟨"error", .str message⟩

end Giskard.Claude
