import Mathlib
import Giskard.Foundation.Schedule
import Giskard.Foundation.Withdrawals
import Giskard.Model.ClaudeSession

/-!
# Withdrawn asks stay unanswered

The asks of a child as an answer desk: an ask is pending in the façade's map, or its answer is
under way, in a respond call or in the child's queue. Every step of the façade and of the
supervisor is a number of steps of the desk, as long as two things do not happen: a turn starts,
which forgets the withdrawals, while the answer to a withdrawn ask is under way, and the façade
puts an ask back that was withdrawn meanwhile.
-/

set_option autoImplicit false

namespace Giskard.Claude

open Foundation (AnswerDesk IndexMap Json Schedule.run Schedule.Meets Schedule.meets_append)

/-! ## The desk of a session -/

/-- The ask a command answers. -/
def ChildCommand.askId : ChildCommand → Option String
  | .respondApproval _ ask _ _ | .respondServerRequest _ ask _ _ => some ask.requestId
  | _ => none

/-- The ask a line answers. -/
def StdinLine.responseId : StdinLine → Option String
  | .response requestId _ => some requestId
  | _ => none

/-- The request ids of the pending asks. -/
def PendingRequests.ids (pending : PendingRequests) : Multiset String :=
  pending.asks.map PendingAsk.requestId

/-- The part of a session that asks and answers go through. -/
structure AskView where
  thread : ThreadId
  pending : PendingRequests
  taken : List ChildCommand
  queue : List ChildCommand
  withdrawn : Finset String
  asked : Finset String
  cancelled : Finset String
  responses : List String

namespace AskView

/-- The answers under way. -/
def underWay (view : AskView) : Multiset String :=
  (view.taken ++ view.queue).filterMap ChildCommand.askId

def desk (view : AskView) : AnswerDesk String where
  pending := view.pending.ids
  underWay := view.underWay
  withdrawn := view.withdrawn
  asked := view.asked
  cancelled := view.cancelled
  responses := view.responses

end AskView

/-- An ask under its own id, owned by the child. -/
def PendingAsk.Filed (thread : ThreadId) (id : String) (ask : PendingAsk) : Prop :=
  ask.requestId = id ∧ ask.owner = thread

/-- A command that answers an ask names it by its own id. -/
def ChildCommand.Filed (thread : ThreadId) : ChildCommand → Prop
  | .respondApproval id ask _ _ => ask.Filed thread id.text
  | .respondServerRequest id ask _ _ => ask.Filed thread id.text
  | _ => True

/-- Every ask is filed under its own id. -/
structure AskView.Tidy (view : AskView) : Prop where
  approvals : ∀ id ask, view.pending.approvals.get? id = some ask → ask.Filed view.thread id.text
  serverRequests : ∀ id ask, view.pending.serverRequests.get? id = some ask →
    ask.Filed view.thread id.text
  commands : ∀ command ∈ view.taken ++ view.queue, command.Filed view.thread

namespace Session

/-- The response lines written, by the ask they answer. -/
def responses (s : Session) : List String := s.stdin.filterMap StdinLine.responseId

def asks (s : Session) : AskView where
  thread := s.thread
  pending := s.pending
  taken := s.taken
  queue := s.queue
  withdrawn := s.withdrawn
  asked := s.asked
  cancelled := s.cancelled
  responses := s.responses

end Session

/-! ## The pending map -/

namespace PendingRequests

variable {pending : PendingRequests} {ask : PendingAsk}

theorem mem_ids {id : String} :
    id ∈ pending.ids ↔ ∃ ask ∈ pending.asks, ask.requestId = id := by
  simp [ids]

theorem ids_insertApproval {id : ApprovalId} (absent : pending.approvals.get? id = none)
    (ask : PendingAsk) : (pending.insertApproval id ask).ids = ask.requestId ::ₘ pending.ids := by
  have values : (pending.approvals.insert id ask).values = pending.approvals.values ++ [ask] := by
    rw [IndexMap.values, IndexMap.entries_insert_of_absent (IndexMap.get?_eq_none.1 absent),
      List.map_append, IndexMap.values]
    rfl
  simp only [ids, asks, insertApproval, values, List.map_append]
  apply Multiset.coe_eq_coe.2
  simp

theorem ids_insertServerRequest {id : ServerRequestId}
    (absent : pending.serverRequests.get? id = none) (ask : PendingAsk) :
    (pending.insertServerRequest id ask).ids = ask.requestId ::ₘ pending.ids := by
  have values :
      (pending.serverRequests.insert id ask).values = pending.serverRequests.values ++ [ask] := by
    rw [IndexMap.values, IndexMap.entries_insert_of_absent (IndexMap.get?_eq_none.1 absent),
      List.map_append, IndexMap.values]
    rfl
  simp only [ids, asks, insertServerRequest, values, List.map_append]
  apply Multiset.coe_eq_coe.2
  rw [List.map_singleton, ← List.append_assoc]
  exact List.perm_append_singleton _ _

theorem ids_removeApproval {id : ApprovalId} (found : pending.approvals.get? id = some ask) :
    pending.ids =
      ask.requestId ::ₘ ({ pending with approvals := pending.approvals.shiftRemove id }).ids := by
  have moved := (IndexMap.values_perm_shiftRemove found).map PendingAsk.requestId
  apply Multiset.coe_eq_coe.2
  rw [asks, asks, List.map_append, List.map_append, ← List.cons_append]
  exact moved.append_right _

theorem ids_removeServerRequest {id : ServerRequestId}
    (found : pending.serverRequests.get? id = some ask) :
    pending.ids =
      ask.requestId ::ₘ
        ({ pending with serverRequests := pending.serverRequests.shiftRemove id }).ids := by
  have moved := (IndexMap.values_perm_shiftRemove found).map PendingAsk.requestId
  apply Multiset.coe_eq_coe.2
  rw [asks, asks, List.map_append, List.map_append]
  exact (moved.append_left _).trans List.perm_middle

theorem ids_retain_le (p : PendingAsk → Bool) :
    PendingRequests.ids ⟨pending.approvals.retain fun _ => p,
      pending.serverRequests.retain fun _ => p⟩ ≤ pending.ids := by
  have less {κ : Type} [DecidableEq κ] (map : IndexMap κ PendingAsk) :
      (map.retain fun _ => p).values.Sublist map.values := List.filter_sublist.map Prod.snd
  apply Multiset.coe_le.2
  exact (((less _).append (less _)).map _).subperm

end PendingRequests

/-! ## What leaves the asks alone -/

namespace Session

variable (s : Session)

@[simp] theorem asks_send (reply : Ticket) (answer : Answer) : (s.send reply answer).asks = s.asks := by
  unfold send
  split <;> rfl

@[simp] theorem asks_broken : s.broken.asks = s.asks := rfl

@[simp] theorem asks_append (event : AgentEvent) : (s.append event).asks = s.asks := by
  unfold append
  split <;> rfl

theorem asks_wrote {line : StdinLine} (other : line.responseId = none) :
    (s.wrote line).asks = s.asks := by
  simp [asks, responses, wrote, other]

theorem asks_wrote_response (requestId : String) (response : ControlResponse) :
    (s.wrote (.response requestId response)).asks =
      { s.asks with responses := s.responses ++ [requestId] } := by
  simp [asks, responses, wrote, StdinLine.responseId]

@[simp] theorem asks_newRequestId : s.newRequestId.2.asks = s.asks := rfl

@[simp] theorem asks_sendSetupRequest (setup : TurnSetup) (stage : SetupStage) :
    (s.sendSetupRequest setup stage).asks = s.asks := by
  unfold sendSetupRequest
  dsimp only
  split
  · simp
  · exact asks_wrote s.newRequestId.2 rfl

@[simp] theorem asks_failTurnSetup (setup : TurnSetup) (error : HarnessError) :
    (s.failTurnSetup setup error).asks = s.asks := asks_send s _ _

@[simp] theorem asks_beginTurnSetup (line : String) (turn : TurnId) (model : ModelRef)
    (settings : TurnSettings) (notice : Option String) (reply : Ticket) :
    (s.beginTurnSetup line turn model settings notice reply).asks = s.asks := by
  unfold beginTurnSetup
  split
  · rfl
  · split <;> simp

@[simp] theorem asks_abandonSetup (error : TurnSetup → HarnessError) :
    (s.abandonSetup error).asks = s.asks := by
  unfold abandonSetup
  split
  · rfl
  · exact asks_failTurnSetup _ _ _

@[simp] theorem asks_onSetupDeadline (waited : String) :
    (s.onSetupDeadline waited).asks = s.asks := asks_abandonSetup s _

@[simp] theorem asks_beginTurn (turn : TurnId) (notice : Option String) :
    (s.beginTurn turn notice).asks = s.asks := by
  unfold beginTurn
  cases notice with
  | none => exact asks_append _ _
  | some message => exact (asks_append _ _).trans (asks_append _ _)

@[simp] theorem asks_writeUser (line : String) (prompt : Prompt) (active : Option TurnId)
    (reply : Ticket) : (s.writeUser line prompt active reply).asks = s.asks := by
  unfold writeUser
  split
  · simp
  · rw [asks_send]
    exact asks_wrote s rfl

@[simp] theorem asks_takeOver (setup : TurnSetup) (effort : Option String) :
    (s.takeOver setup effort).asks = s.asks := rfl

@[simp] theorem asks_checkReadBack (setup : TurnSetup) (response : Json) :
    (s.checkReadBack setup response).1.asks = s.asks := by
  unfold checkReadBack
  dsimp only
  split
  · split <;> rfl
  · rfl

@[simp] theorem asks_setupStageDone (setup : TurnSetup) (response : Json) :
    (s.setupStageDone setup response).1.asks = s.asks := by
  unfold setupStageDone
  split
  · rfl
  · rfl
  · rfl
  · have same := asks_checkReadBack s setup response
    split <;> next there => rwa [there] at same

@[simp] theorem asks_writeControl (request : ControlRequest) (waiter : Waiter) (reply : Ticket) :
    (s.writeControl request waiter reply).asks = s.asks := by
  unfold writeControl
  dsimp only
  split
  · simp
  · exact asks_wrote s.newRequestId.2 rfl

@[simp] theorem asks_stopTask (thread : ThreadId) (reply : Ticket) :
    (s.stopTask thread reply).asks = s.asks := by
  unfold stopTask
  split <;> simp

@[simp] theorem asks_stopBackgroundCommand (taskId : String) (reply : Ticket) :
    (s.stopBackgroundCommand taskId reply).asks = s.asks := by
  unfold stopBackgroundCommand
  split <;> simp

@[simp] theorem asks_enterStopping (reply : Option Ticket) (reaped : Bool) :
    (s.enterStopping reply reaped).asks = s.asks := by
  unfold enterStopping
  split
  · rfl
  · dsimp only
    have same := asks_abandonSetup s fun _ => .transport "claude child is stopping"
    split
    · exact same
    · split
      · exact same
      · exact (asks_wrote _ rfl).trans same

@[simp] theorem asks_resolve (waiter : Waiter) (payload : Except HarnessError Json) :
    (s.resolve waiter payload).asks = s.asks := by
  unfold resolve
  split <;> simp

@[simp] theorem asks_onControlResponse (requestId : ControlId) (payload : ControlPayload) :
    (s.onControlResponse requestId payload).asks = s.asks := by
  unfold onControlResponse
  split
  · exact asks_resolve _ _ _
  · rfl

@[simp] theorem asks_afterLine : s.afterLine.asks = s.asks := by
  unfold afterLine
  split
  · split <;> rfl
  · rfl

@[simp] theorem asks_onDeadline (waited : String) : (s.onDeadline waited).asks = s.asks := by
  unfold onDeadline
  split
  · simp
  · rfl
  · rfl

end Session

/-! ## Steps of the desk -/

namespace AskView

/-- What is filed under its own id stays so, by steps of the desk. -/
def Advances (view next : AskView) : Prop :=
  view.Tidy → view.desk.Sound → next.Tidy ∧ AnswerDesk.Steps view.desk next.desk

variable {view next last : AskView}

theorem Advances.refl (view : AskView) : view.Advances view := fun tidy _ => ⟨tidy, .refl⟩

theorem Advances.of_eq (same : next = view) : view.Advances next := same ▸ Advances.refl view

theorem Advances.trans (first : view.Advances next) (second : next.Advances last) :
    view.Advances last := by
  intro tidy sound
  obtain ⟨tidy, steps⟩ := first tidy sound
  obtain ⟨tidier, more⟩ := second tidy (AnswerDesk.Steps.kept steps sound)
  exact ⟨tidier, steps.trans more⟩

/-- A view in which no withdrawal is remembered. -/
def forgets (view : AskView) : AskView := { view with withdrawn := ∅ }

/-- No answer under way is to a withdrawn ask. -/
def Covered (view : AskView) : Prop := ∀ id ∈ view.underWay, id ∉ view.withdrawn

theorem Covered.advances (covered : view.Covered) : view.Advances view.forgets := by
  intro tidy _
  exact ⟨⟨tidy.approvals, tidy.serverRequests, tidy.commands⟩,
    .single (AnswerDesk.Step.forget view.desk covered)⟩

theorem advances_drop {pending : PendingRequests} {taken queue : List ChildCommand}
    (fewer : pending.ids ≤ view.pending.ids)
    (approvals : ∀ id ask, pending.approvals.get? id = some ask →
      view.pending.approvals.get? id = some ask)
    (serverRequests : ∀ id ask, pending.serverRequests.get? id = some ask →
      view.pending.serverRequests.get? id = some ask)
    (lost : (taken ++ queue).Subperm (view.taken ++ view.queue)) :
    view.Advances { view with pending := pending, taken := taken, queue := queue } := by
  intro tidy _
  refine ⟨⟨?_, ?_, ?_⟩, .single (AnswerDesk.Step.drop view.desk _ _ fewer ?_)⟩
  · exact fun id ask found => tidy.approvals id ask (approvals id ask found)
  · exact fun id ask found => tidy.serverRequests id ask (serverRequests id ask found)
  · exact fun command there => tidy.commands command (lost.subset there)
  · obtain ⟨list, same, part⟩ := lost
    exact Multiset.coe_le.2 ⟨_, same.filterMap _, part.filterMap _⟩

theorem advances_commands {taken queue : List ChildCommand}
    (lost : (taken ++ queue).Subperm (view.taken ++ view.queue)) :
    view.Advances { view with taken := taken, queue := queue } :=
  advances_drop le_rfl (fun _ _ found => found) (fun _ _ found => found) lost

theorem advances_enqueue {command : ChildCommand} (other : command.askId = none) :
    view.Advances { view with queue := view.queue ++ [command] } := by
  intro tidy _
  have filed : command.Filed view.thread := by
    cases command with
    | respondApproval => cases other
    | respondServerRequest => cases other
    | _ => trivial
  have same : ({ view with queue := view.queue ++ [command] } : AskView).desk = view.desk := by
    simp [desk, underWay, other]
  refine ⟨⟨tidy.approvals, tidy.serverRequests, ?_⟩, same ▸ .refl⟩
  intro member there
  rw [← List.append_assoc, List.mem_append, List.mem_singleton] at there
  rcases there with there | rfl
  · exact tidy.commands member there
  · exact filed

theorem Tidy.approval_absent (tidy : view.Tidy) {id : ApprovalId}
    (absent : id.text ∉ view.pending.ids) : view.pending.approvals.get? id = none := by
  cases found : view.pending.approvals.get? id with
  | none => rfl
  | some ask =>
    refine absurd (PendingRequests.mem_ids.2 ⟨ask, ?_, (tidy.approvals id ask found).1⟩) absent
    exact List.mem_append_left _ (IndexMap.mem_values_iff.2 ⟨id, found⟩)

theorem Tidy.serverRequest_absent (tidy : view.Tidy) {id : ServerRequestId}
    (absent : id.text ∉ view.pending.ids) : view.pending.serverRequests.get? id = none := by
  cases found : view.pending.serverRequests.get? id with
  | none => rfl
  | some ask =>
    refine absurd (PendingRequests.mem_ids.2 ⟨ask, ?_, (tidy.serverRequests id ask found).1⟩)
      absent
    exact List.mem_append_right _ (IndexMap.mem_values_iff.2 ⟨id, found⟩)

theorem Tidy.insertApproval (tidy : view.Tidy) {id : ApprovalId} {ask : PendingAsk}
    (filed : ask.Filed view.thread id.text) :
    ({ view with pending := view.pending.insertApproval id ask } : AskView).Tidy := by
  refine ⟨?_, tidy.serverRequests, tidy.commands⟩
  intro other found there
  dsimp only [PendingRequests.insertApproval] at there
  rw [IndexMap.get?_insert] at there
  split at there
  · next same =>
    cases there
    rw [same]
    exact filed
  · exact tidy.approvals other found there

theorem Tidy.insertServerRequest (tidy : view.Tidy) {id : ServerRequestId} {ask : PendingAsk}
    (filed : ask.Filed view.thread id.text) :
    ({ view with pending := view.pending.insertServerRequest id ask } : AskView).Tidy := by
  refine ⟨tidy.approvals, ?_, tidy.commands⟩
  intro other found there
  dsimp only [PendingRequests.insertServerRequest] at there
  rw [IndexMap.get?_insert] at there
  split at there
  · next same =>
    cases there
    rw [same]
    exact filed
  · exact tidy.serverRequests other found there

theorem advances_askApproval {id : ApprovalId} {ask : PendingAsk}
    (filed : ask.Filed view.thread id.text) (new : ask.requestId ∉ view.asked)
    (live : ask.requestId ∉ view.cancelled) :
    view.Advances { view with
      asked := insert ask.requestId view.asked
      pending := view.pending.insertApproval id ask } := by
  intro tidy sound
  have absent : ask.requestId ∉ view.pending.ids :=
    fun there => new (sound.known _ (Multiset.mem_add.2 (Or.inl there)))
  have step := AnswerDesk.Step.ask view.desk ask.requestId new live
  have inserted := tidy.insertApproval filed
  refine ⟨⟨inserted.approvals, inserted.serverRequests, inserted.commands⟩, .single ?_⟩
  have ids := PendingRequests.ids_insertApproval (tidy.approval_absent (filed.1 ▸ absent)) ask
  unfold desk
  dsimp only
  rw [ids]
  exact step

theorem advances_askServerRequest {id : ServerRequestId} {ask : PendingAsk}
    (filed : ask.Filed view.thread id.text) (new : ask.requestId ∉ view.asked)
    (live : ask.requestId ∉ view.cancelled) :
    view.Advances { view with
      asked := insert ask.requestId view.asked
      pending := view.pending.insertServerRequest id ask } := by
  intro tidy sound
  have absent : ask.requestId ∉ view.pending.ids :=
    fun there => new (sound.known _ (Multiset.mem_add.2 (Or.inl there)))
  have step := AnswerDesk.Step.ask view.desk ask.requestId new live
  have inserted := tidy.insertServerRequest filed
  refine ⟨⟨inserted.approvals, inserted.serverRequests, inserted.commands⟩, .single ?_⟩
  have ids :=
    PendingRequests.ids_insertServerRequest (tidy.serverRequest_absent (filed.1 ▸ absent)) ask
  unfold desk
  dsimp only
  rw [ids]
  exact step

theorem underWay_of_perm {command : ChildCommand} {taken queue : List ChildCommand} {id : String}
    (perm : (view.taken ++ view.queue).Perm (command :: (taken ++ queue)))
    (asks : command.askId = some id) :
    view.desk.underWay =
      id ::ₘ ({ view with taken := taken, queue := queue } : AskView).underWay := by
  apply Multiset.coe_eq_coe.2
  have moved := perm.filterMap ChildCommand.askId
  rwa [List.filterMap_cons_some asks] at moved

theorem Tidy.fewer (tidy : view.Tidy) {command : ChildCommand} {taken queue : List ChildCommand}
    (perm : (view.taken ++ view.queue).Perm (command :: (taken ++ queue))) :
    ({ view with taken := taken, queue := queue } : AskView).Tidy :=
  ⟨tidy.approvals, tidy.serverRequests,
    fun other there => tidy.commands other (perm.symm.subset (List.mem_cons_of_mem _ there))⟩

theorem Tidy.filed (tidy : view.Tidy) {command : ChildCommand} {rest : List ChildCommand}
    (perm : (view.taken ++ view.queue).Perm (command :: rest)) : command.Filed view.thread :=
  tidy.commands command (perm.symm.subset List.mem_cons_self)

section Under

variable {command : ChildCommand} {taken queue : List ChildCommand} {requestId : String}
  (perm : (view.taken ++ view.queue).Perm (command :: (taken ++ queue)))

include perm

theorem advances_refuse (asks : command.askId = some requestId) :
    view.Advances { view with
      taken := taken
      queue := queue
      withdrawn := view.withdrawn.erase requestId } := by
  intro tidy _
  have fewer := tidy.fewer perm
  exact ⟨⟨fewer.approvals, fewer.serverRequests, fewer.commands⟩,
    .single (AnswerDesk.Step.refuse view.desk requestId _ (underWay_of_perm perm asks))⟩

theorem advances_answer (asks : command.askId = some requestId)
    (live : requestId ∉ view.withdrawn) :
    view.Advances { view with
      taken := taken
      queue := queue
      responses := view.responses ++ [requestId] } := by
  intro tidy _
  have fewer := tidy.fewer perm
  exact ⟨⟨fewer.approvals, fewer.serverRequests, fewer.commands⟩,
    .single (AnswerDesk.Step.answer view.desk requestId _ (underWay_of_perm perm asks) live)⟩

theorem absent_of_underWay (sound : view.desk.Sound) (asks : command.askId = some requestId) :
    requestId ∉ view.pending.ids := by
  intro there
  apply sound.apart there
  rw [underWay_of_perm perm asks]
  exact Multiset.mem_cons_self _ _

end Under

theorem advances_putBackApproval {id : ApprovalId} {ask : PendingAsk}
    {decision : ApprovalDecision} {reply : Ticket} {taken queue : List ChildCommand}
    (perm : (view.taken ++ view.queue).Perm
      (.respondApproval id ask decision reply :: (taken ++ queue)))
    (live : ask.requestId ∉ view.withdrawn) :
    view.Advances { view with
      taken := taken
      queue := queue
      pending := view.pending.insertApproval id ask } := by
  intro tidy sound
  have filed : ask.Filed view.thread id.text := tidy.filed perm
  have absent : ask.requestId ∉ view.pending.ids := absent_of_underWay perm sound rfl
  have step := AnswerDesk.Step.putBack view.desk ask.requestId _ (underWay_of_perm perm rfl) live
  refine ⟨(tidy.fewer perm).insertApproval filed, .single ?_⟩
  unfold desk
  dsimp only
  rw [PendingRequests.ids_insertApproval (tidy.approval_absent (filed.1 ▸ absent)) ask]
  exact step

theorem advances_putBackServerRequest {id : ServerRequestId} {ask : PendingAsk}
    {response : ServerRequestResponse} {reply : Ticket} {taken queue : List ChildCommand}
    (perm : (view.taken ++ view.queue).Perm
      (.respondServerRequest id ask response reply :: (taken ++ queue)))
    (live : ask.requestId ∉ view.withdrawn) :
    view.Advances { view with
      taken := taken
      queue := queue
      pending := view.pending.insertServerRequest id ask } := by
  intro tidy sound
  have filed : ask.Filed view.thread id.text := tidy.filed perm
  have absent : ask.requestId ∉ view.pending.ids := absent_of_underWay perm sound rfl
  have step := AnswerDesk.Step.putBack view.desk ask.requestId _ (underWay_of_perm perm rfl) live
  refine ⟨(tidy.fewer perm).insertServerRequest filed, .single ?_⟩
  unfold desk
  dsimp only
  rw [PendingRequests.ids_insertServerRequest (tidy.serverRequest_absent (filed.1 ▸ absent)) ask]
  exact step

theorem advances_deny {requestId : String} (new : requestId ∉ view.asked)
    (live : requestId ∉ view.cancelled) :
    view.Advances { view with
      asked := insert requestId view.asked
      responses := view.responses ++ [requestId] } := by
  intro tidy _
  exact ⟨⟨tidy.approvals, tidy.serverRequests, tidy.commands⟩,
    .single (AnswerDesk.Step.deny view.desk requestId new live)⟩

/-! ## Asks that leave the map -/

theorem Tidy.without {pending : PendingRequests} (tidy : view.Tidy)
    (approvals : ∀ id ask, pending.approvals.get? id = some ask →
      view.pending.approvals.get? id = some ask)
    (serverRequests : ∀ id ask, pending.serverRequests.get? id = some ask →
      view.pending.serverRequests.get? id = some ask) :
    ({ view with pending := pending } : AskView).Tidy :=
  ⟨fun id ask found => tidy.approvals id ask (approvals id ask found),
    fun id ask found => tidy.serverRequests id ask (serverRequests id ask found), tidy.commands⟩

theorem underWay_concat {command : ChildCommand} {id : String} (asks : command.askId = some id) :
    ({ view with taken := view.taken ++ [command] } : AskView).underWay =
      id ::ₘ view.underWay := by
  apply Multiset.coe_eq_coe.2
  dsimp only
  rw [List.append_assoc, List.filterMap_append, List.filterMap_append, List.filterMap_append,
    List.filterMap_cons_some asks, List.filterMap_nil, List.singleton_append]
  exact List.perm_middle

theorem advances_take {pending : PendingRequests} {command : ChildCommand} {requestId : String}
    (asks : command.askId = some requestId) (filed : view.Tidy → command.Filed view.thread)
    (ids : view.pending.ids = requestId ::ₘ pending.ids)
    (approvals : ∀ id ask, pending.approvals.get? id = some ask →
      view.pending.approvals.get? id = some ask)
    (serverRequests : ∀ id ask, pending.serverRequests.get? id = some ask →
      view.pending.serverRequests.get? id = some ask) :
    view.Advances { view with pending := pending, taken := view.taken ++ [command] } := by
  intro tidy _
  have without := tidy.without approvals serverRequests
  refine ⟨⟨without.approvals, without.serverRequests, ?_⟩, .single ?_⟩
  · intro other there
    dsimp only at there ⊢
    rw [List.append_assoc, List.mem_append, List.singleton_append, List.mem_cons] at there
    rcases there with there | rfl | there
    · exact tidy.commands other (List.mem_append_left _ there)
    · exact filed tidy
    · exact tidy.commands other (List.mem_append_right _ there)
  · have step := AnswerDesk.Step.take view.desk requestId pending.ids ids
    have way := @underWay_concat { view with pending := pending } _ _ asks
    unfold desk
    rw [way]
    exact step

theorem advances_withdrawPending {pending : PendingRequests} {requestId : String}
    (ids : view.pending.ids = requestId ::ₘ pending.ids)
    (approvals : ∀ id ask, pending.approvals.get? id = some ask →
      view.pending.approvals.get? id = some ask)
    (serverRequests : ∀ id ask, pending.serverRequests.get? id = some ask →
      view.pending.serverRequests.get? id = some ask) :
    view.Advances { view with
      cancelled := insert requestId view.cancelled
      pending := pending } := by
  intro tidy _
  have without := tidy.without approvals serverRequests
  exact ⟨⟨without.approvals, without.serverRequests, without.commands⟩,
    .single (AnswerDesk.Step.withdrawPending view.desk requestId pending.ids ids)⟩

theorem advances_withdraw {requestId : String}
    (absent : view.Tidy → requestId ∉ view.pending.ids) :
    view.Advances { view with
      cancelled := insert requestId view.cancelled
      withdrawn := insert requestId view.withdrawn } := by
  intro tidy _
  exact ⟨⟨tidy.approvals, tidy.serverRequests, tidy.commands⟩,
    .single (AnswerDesk.Step.withdraw view.desk requestId (absent tidy))⟩

end AskView

/-! ## The steps of the supervisor -/

namespace Session

/-- Whether a turn that is up may start: its caller waits, and no other turn runs. -/
def mayStart (s : Session) (reply : Ticket) : Prop :=
  reply ∉ s.closed ∧ s.mapper.activeTurn = none

/-- Whether a response to the hand-off's request is the last one, and the turn may start. -/
def startsTurn (s : Session) (setup : TurnSetup) (payload : ControlPayload) : Prop :=
  ∃ response final done, payload.controlOutcome = .ok response ∧
    ({ s with turnSetup := none }).setupStageDone setup response = (final, done, .ok none) ∧
    final.mayStart done.reply

variable {s : Session}

theorem asks_finishTurnSetup (s : Session) (setup : TurnSetup) :
    (s.finishTurnSetup setup).asks = s.asks ∨
      (s.mayStart setup.reply ∧ (s.finishTurnSetup setup).asks = s.asks.forgets) := by
  unfold finishTurnSetup
  split
  · exact Or.inl rfl
  · next waits =>
    cases busy : s.busy with
    | some error => exact Or.inl (asks_send s _ _)
    | none =>
      refine Or.inr ⟨⟨waits, by simpa [Session.busy] using busy⟩, ?_⟩
      dsimp only
      rw [asks_writeUser, asks_beginTurn]
      rfl

theorem asks_compact (s : Session) (turn : TurnId) (notice : Option String) (reply : Ticket) :
    (s.compact turn notice reply).asks = s.asks ∨
      (s.turnSetup = none ∧ s.mayStart reply ∧
        (s.compact turn notice reply).asks = s.asks.forgets) := by
  unfold compact
  split
  · exact Or.inl rfl
  · next waits =>
    cases busy : s.busy.or s.setupInFlight with
    | some error => exact Or.inl (asks_send s _ _)
    | none =>
      obtain ⟨quiet, none⟩ := Option.or_eq_none_iff.1 busy
      refine Or.inr ⟨by simpa [setupInFlight] using none,
        ⟨waits, by simpa [Session.busy] using quiet⟩, ?_⟩
      dsimp only
      rw [asks_writeUser, asks_beginTurn]
      rfl

theorem advances_onSetupResponse {setup : TurnSetup} {payload : ControlPayload}
    (covered : s.startsTurn setup payload → s.asks.Covered) :
    s.asks.Advances (s.onSetupResponse setup payload).asks := by
  unfold onSetupResponse
  dsimp only
  cases outcome : payload.controlOutcome with
  | error error => exact .of_eq (asks_failTurnSetup _ _ _)
  | ok response =>
    have same := asks_setupStageDone { s with turnSetup := none } setup response
    dsimp only
    cases result : ({ s with turnSetup := none }).setupStageDone setup response with
    | mk final rest =>
      obtain ⟨done, next⟩ := rest
      rw [result] at same
      have same : final.asks = s.asks := same
      rcases next with error | _ | stage
      · exact .of_eq ((asks_failTurnSetup _ _ _).trans same)
      · rcases asks_finishTurnSetup final done with kept | ⟨may, forgot⟩
        · exact .of_eq (kept.trans same)
        · have covered := covered ⟨response, final, done, outcome, result, may⟩
          dsimp only
          rw [forgot, same]
          exact covered.advances
      · exact .of_eq ((asks_sendSetupRequest _ _ _).trans same)

/-- A withdrawal finds its ask pending, or is remembered. -/
theorem advances_onCancelRequest (s : Session) (requestId : String) :
    s.asks.Advances (s.onCancelRequest requestId).asks := by
  unfold onCancelRequest PendingRequests.removeByRequestId
  dsimp only
  cases approval : s.pending.approvals.entries.find? fun entry =>
      PendingRequests.isAsk s.thread requestId entry.2 with
  | some entry =>
    obtain ⟨id, ask⟩ := entry
    have found := IndexMap.get?_eq_some.2 (List.mem_of_find?_eq_some approval)
    have named : ask.owner = s.thread ∧ ask.requestId = requestId := by
      simpa [PendingRequests.isAsk] using List.find?_some approval
    have ids := PendingRequests.ids_removeApproval found
    rw [named.2] at ids
    exact AskView.advances_withdrawPending ids
      (fun _ _ other => IndexMap.get?_of_shiftRemove other) fun _ _ other => other
  | none =>
    cases request : s.pending.serverRequests.entries.find? fun entry =>
        PendingRequests.isAsk s.thread requestId entry.2 with
    | some entry =>
      obtain ⟨id, ask⟩ := entry
      have found := IndexMap.get?_eq_some.2 (List.mem_of_find?_eq_some request)
      have named : ask.owner = s.thread ∧ ask.requestId = requestId := by
        simpa [PendingRequests.isAsk] using List.find?_some request
      have ids := PendingRequests.ids_removeServerRequest found
      rw [named.2] at ids
      rw [Option.map_some]
      dsimp only
      rw [asks_append]
      exact AskView.advances_withdrawPending ids (fun _ _ other => other)
        fun _ _ other => IndexMap.get?_of_shiftRemove other
    | none =>
      apply AskView.advances_withdraw
      intro tidy there
      obtain ⟨ask, pending, named⟩ := PendingRequests.mem_ids.1 there
      have absent {κ : Type} [DecidableEq κ] {map : IndexMap κ PendingAsk} {id : κ}
          (none : (map.entries.find? fun entry =>
            PendingRequests.isAsk s.thread requestId entry.2) = none)
          (found : map.get? id = some ask) (owned : ask.owner = s.thread) : False := by
        have other := List.find?_eq_none.1 none _ (IndexMap.get?_eq_some.1 found)
        simp [PendingRequests.isAsk, owned, named] at other
      rcases List.mem_append.1 pending with here | here
      · obtain ⟨id, found⟩ := IndexMap.mem_values_iff.1 here
        exact absent approval found (tidy.approvals id ask found).2
      · obtain ⟨id, found⟩ := IndexMap.mem_values_iff.1 here
        exact absent request found (tidy.serverRequests id ask found).2

/-! ## The commands -/

/-- A turn that a command starts at once, a compaction, finds no answer to a withdrawn ask under
way. -/
def CoveredCommand (s : Session) : ChildCommand → Prop
  | .compact _ _ reply =>
    s.phase = .serving → s.turnSetup = none → s.mayStart reply → s.asks.Covered
  | _ => True

section Popped

variable {command : ChildCommand} {queue : List ChildCommand} (there : s.queue = command :: queue)

include there

theorem perm_popped : (s.taken ++ s.queue).Perm (command :: (s.taken ++ queue)) := by
  rw [there]
  exact List.perm_middle

theorem advances_pop : s.asks.Advances ({ s with queue := queue } : Session).asks :=
  @AskView.advances_commands s.asks _ _
    (List.subperm_cons_self.trans (perm_popped there).symm.subperm)

end Popped

theorem asks_writeResponse (s : Session) (requestId : String) (response : ControlResponse)
    (reply : Ticket) :
    (s.writeResponse requestId response reply).asks = s.asks ∨
      (s.writeResponse requestId response reply).asks =
        { s.asks with responses := s.responses ++ [requestId] } := by
  unfold writeResponse
  split
  · exact Or.inl ((asks_broken _).trans (asks_send s _ _))
  · exact Or.inr ((asks_send _ _ _).trans (asks_wrote_response s _ _))

theorem advances_respondApproval {id : ApprovalId} {ask : PendingAsk}
    {decision : ApprovalDecision} {reply : Ticket} {queue : List ChildCommand}
    (there : s.queue = .respondApproval id ask decision reply :: queue) :
    s.asks.Advances
      (({ s with queue := queue } : Session).respondApproval id ask decision reply).asks := by
  have perm := perm_popped there
  unfold respondApproval
  dsimp only
  split
  · unfold refuseWithdrawn
    rw [asks_send]
    exact @AskView.advances_refuse s.asks _ _ _ _ perm rfl
  · next live =>
    split
    · exact @AskView.advances_putBackApproval s.asks _ _ _ _ _ _ perm live
    · split
      · rw [asks_send]
        exact @AskView.advances_putBackApproval s.asks _ _ _ _ _ _ perm live
      · rcases asks_writeResponse { s with queue := queue } ask.requestId _ reply with lost | written
        · rw [lost]
          exact advances_pop there
        · rw [written]
          exact @AskView.advances_answer s.asks _ _ _ _ perm rfl live

theorem advances_respondServerRequest {id : ServerRequestId} {ask : PendingAsk}
    {response : ServerRequestResponse} {reply : Ticket} {queue : List ChildCommand}
    (there : s.queue = .respondServerRequest id ask response reply :: queue) :
    s.asks.Advances
      (({ s with queue := queue } : Session).respondServerRequest id ask response reply).asks := by
  have perm := perm_popped there
  unfold respondServerRequest
  dsimp only
  split
  · unfold refuseWithdrawn
    rw [asks_send]
    have refused := @AskView.advances_refuse s.asks _ _ _ ask.requestId perm rfl
    unfold append
    split <;> exact refused
  · next live =>
    split
    · exact @AskView.advances_putBackServerRequest s.asks _ _ _ _ _ _ perm live
    · split
      · rw [asks_send]
        exact @AskView.advances_putBackServerRequest s.asks _ _ _ _ _ _ perm live
      · split
        · rw [asks_broken, asks_send]
          exact advances_pop there
        · rw [asks_send, asks_append, asks_wrote_response]
          exact @AskView.advances_answer s.asks _ _ _ _ perm rfl live

theorem advances_handleCommand {command : ChildCommand} {queue : List ChildCommand}
    (there : s.queue = command :: queue) (serving : s.phase = .serving)
    (covered : s.CoveredCommand command) :
    s.asks.Advances (({ s with queue := queue } : Session).handleCommand command).asks := by
  have pop := advances_pop there
  have alone {t : Session} (same : t.asks = ({ s with queue := queue } : Session).asks) :
      s.asks.Advances t.asks := same ▸ pop
  cases command with
  | startTurn line turn model settings notice reply =>
    exact alone (asks_beginTurnSetup _ _ _ _ _ _ _)
  | interrupt reply => exact alone (asks_writeControl _ _ _ _)
  | control request reply => exact alone (asks_writeControl _ _ _ _)
  | respondApproval id ask decision reply => exact advances_respondApproval there
  | respondServerRequest id ask response reply => exact advances_respondServerRequest there
  | stopTask thread reply => exact alone (asks_stopTask _ _ _)
  | stopBackgroundCommand taskId reply => exact alone (asks_stopBackgroundCommand _ _ _)
  | compact turn notice reply =>
    unfold handleCommand
    dsimp only
    rcases asks_compact { s with queue := queue } turn notice reply with same | ⟨none, may, forgot⟩
    · exact alone same
    · rw [forgot]
      have whole : ({ s with queue := queue } : Session).asks.underWay = s.asks.underWay := by
        simp only [AskView.underWay, asks, there, List.filterMap_append]
        rw [List.filterMap_cons_none rfl]
      have kept := covered serving none may
      have popped : ({ s with queue := queue } : Session).asks.Covered := by
        intro id way
        rw [whole] at way
        exact kept id way
      exact pop.trans popped.advances
  | stop reply => exact alone (asks_enterStopping _ _ _)

theorem advances_onCommand {command : ChildCommand} {queue : List ChildCommand}
    (there : s.queue = command :: queue) (covered : s.CoveredCommand command) :
    s.asks.Advances (({ s with queue := queue } : Session).onCommand command).asks := by
  have pop := advances_pop there
  unfold onCommand
  split
  · rw [asks_enterStopping]
    exact pop
  · unfold refuse
    rw [asks_send]
    exact pop
  · next _ serving => exact advances_handleCommand there serving covered

/-! ## The lines -/

/-- An ask comes under a request id that no ask or withdrawal has used. -/
def DistinctOutput (s : Session) : MapperOutput → Prop
  | .pendingApproval id requestId _ _ _ _ =>
    requestId = id.text ∧ requestId ∉ s.asked ∧ requestId ∉ s.cancelled
  | .pendingServerRequest id _ requestId _ _ =>
    requestId = id.text ∧ requestId ∉ s.asked ∧ requestId ∉ s.cancelled
  | .reply requestId _ => requestId ∉ s.asked ∧ requestId ∉ s.cancelled
  | _ => True

/-- A response that starts a turn finds no answer to a withdrawn ask under way. -/
def CoveredOutput (s : Session) : MapperOutput → Prop
  | .controlResponse requestId payload =>
    ∀ setup, s.turnSetup = some setup → setup.requestId = requestId →
      s.startsTurn setup payload → s.asks.Covered
  | _ => True

theorem advances_dispatch {output : MapperOutput} (distinct : s.DistinctOutput output)
    (covered : s.CoveredOutput output) : s.asks.Advances (s.dispatch output).asks := by
  unfold dispatch
  cases output with
  | event event => exact .of_eq (asks_append s event)
  | reply requestId response =>
    dsimp only
    split
    · exact .refl _
    · split
      · exact .refl _
      · have denied := @AskView.advances_deny s.asks _ distinct.1 distinct.2
        have written := asks_wrote_response s requestId (controlResponse response)
        have both : ({ s.wrote (.response requestId (controlResponse response)) with
            asked := insert requestId s.asked } : Session).asks =
              { s.asks with
                asked := insert requestId s.asked
                responses := s.responses ++ [requestId] } :=
          congrArg (fun view : AskView => { view with asked := insert requestId s.asked }) written
        rw [both]
        exact denied
  | controlResponse requestId payload =>
    dsimp only
    split
    · next setup current =>
      split
      · next same => exact advances_onSetupResponse (covered setup current same)
      · exact .of_eq (asks_onControlResponse s _ _)
    · exact .of_eq (asks_onControlResponse s _ _)
  | pendingApproval id requestId toolUseId toolName suggestions thread =>
    dsimp only
    split
    · exact .refl _
    · exact @AskView.advances_askApproval s.asks _ _ ⟨distinct.1, rfl⟩ distinct.2.1
        distinct.2.2
  | pendingServerRequest id thread requestId subtype input =>
    dsimp only
    split
    · exact .refl _
    · exact @AskView.advances_askServerRequest s.asks _ _ ⟨distinct.1, rfl⟩ distinct.2.1
        distinct.2.2
  | cancelRequest requestId => exact advances_onCancelRequest s requestId

theorem advances_dispatchAll {outputs : List MapperOutput}
    (distinct : AlongDispatch DistinctOutput s outputs)
    (covered : AlongDispatch CoveredOutput s outputs) :
    s.asks.Advances (s.dispatchAll outputs).asks := by
  induction outputs generalizing s with
  | nil => exact .refl _
  | cons output rest ih =>
    have first := advances_dispatch distinct.1 covered.1
    unfold dispatchAll
    dsimp only
    split
    · exact first
    · next runs =>
      have runs : (s.dispatch output).ending = none := by simpa using runs
      exact first.trans (ih (distinct.2 runs) (covered.2 runs))

/-! ## The façade and the child's exit -/

theorem advances_sendNow {command : ChildCommand} (other : command.askId = none) :
    s.asks.Advances (s.sendNow command).asks := by
  unfold sendNow
  split
  · exact .of_eq (asks_send _ _ _)
  · split
    · exact AskView.advances_enqueue other
    · exact .of_eq (asks_send _ _ _)

theorem advances_startTurn (s : Session) (line : String) (turn : TurnId) (mode : String)
    (model : Option ModelRef) (catalog : String → Option String) (notice : Option String) :
    s.asks.Advances (s.startTurn line turn mode model catalog notice).asks := by
  unfold startTurn newTicket
  dsimp only
  split
  · exact advances_sendNow (s := { s with
      nextTicket := s.nextTicket + 1
      handOffs := s.handOffs ++ [s.nextTicket] }) rfl
  · exact .refl _

theorem advances_call (s : Session) (request : Call) :
    s.asks.Advances (s.call request).asks := by
  have other (reply : Ticket) : (request.command reply).askId = none := by
    cases request <;> rfl
  have sent := advances_sendNow (s := { s with nextTicket := s.nextTicket + 1 })
    (other s.nextTicket)
  unfold call newTicket
  dsimp only
  split
  · exact sent
  · exact sent
  · split
    · exact sent
    · exact .refl _

theorem advances_takeApproval (s : Session) (id : ApprovalId) (decision : ApprovalDecision) :
    s.asks.Advances (s.takeApproval id decision).asks := by
  unfold takeApproval newTicket PendingRequests.removeApproval
  dsimp only
  cases found : s.pending.approvals.get? id with
  | none => exact .of_eq (asks_send _ _ _)
  | some ask =>
    exact @AskView.advances_take s.asks _ _ _ rfl
      (fun tidy => tidy.approvals id ask found) (PendingRequests.ids_removeApproval found)
      (fun _ _ other => IndexMap.get?_of_shiftRemove other) fun _ _ other => other

theorem advances_takeServerRequest (s : Session) (id : ServerRequestId)
    (response : ServerRequestResponse) :
    s.asks.Advances (s.takeServerRequest id response).asks := by
  unfold takeServerRequest newTicket PendingRequests.removeServerRequest
  dsimp only
  cases found : s.pending.serverRequests.get? id with
  | none => exact .of_eq (asks_send _ _ _)
  | some ask =>
    exact @AskView.advances_take s.asks _ _ _ rfl
      (fun tidy => tidy.serverRequests id ask found)
      (PendingRequests.ids_removeServerRequest found) (fun _ _ other => other)
      fun _ _ other => IndexMap.get?_of_shiftRemove other

/-- What a respond call puts back was not withdrawn. -/
def KeepsBack (s : Session) (command : ChildCommand) : Prop :=
  ∀ id ask amendment reply,
    command = .respondApproval id ask (.acceptWithExecPolicyAmendment amendment) reply →
      ask.requestId ∉ s.withdrawn

theorem advances_sendTaken {index : ℕ} {command : ChildCommand}
    (there : s.taken[index]? = some command) (live : s.KeepsBack command) :
    s.asks.Advances
      (({ s with taken := s.taken.eraseIdx index } : Session).sendTaken command).asks := by
  obtain ⟨inside, rfl⟩ := List.getElem?_eq_some_iff.1 there
  have rest := (List.getElem_cons_eraseIdx_perm inside).symm
  have perm : (s.asks.taken ++ s.asks.queue).Perm
      (s.taken[index] :: (s.taken.eraseIdx index ++ s.queue)) := rest.append_right s.queue
  have lost : s.asks.Advances ({ s with taken := s.taken.eraseIdx index } : Session).asks :=
    @AskView.advances_commands s.asks _ _
      (List.subperm_cons_self.trans perm.symm.subperm)
  unfold sendTaken
  split
  · next id ask amendment reply same =>
    rw [same] at perm
    rw [asks_send]
    exact @AskView.advances_putBackApproval s.asks _ _ _ _ _ _ perm
      (live id ask amendment reply same)
  · split
    · unfold sendNow
      split
      · rw [asks_send]
        exact lost
      · split
        · apply @AskView.advances_commands s.asks _ _
          refine List.Perm.subperm (List.Perm.trans ?_ perm.symm)
          dsimp only
          rw [← List.append_assoc]
          exact List.perm_append_singleton _ _
        · rw [asks_send]
          exact lost
    · rw [asks_send]
      exact lost

theorem asks_foldl {α : Type} {f : Session → α → Session}
    (same : ∀ s value, (f s value).asks = s.asks) (values : List α) (s : Session) :
    (values.foldl f s).asks = s.asks := by
  induction values generalizing s with
  | nil => rfl
  | cons value rest ih => rw [List.foldl_cons, ih, same]

@[simp] theorem asks_failInFlight (s : Session) : s.failInFlight.asks = s.asks := by
  unfold failInFlight
  split
  · exact asks_failTurnSetup _ _ _
  · rfl

@[simp] theorem asks_failWaiters (s : Session) : s.failWaiters.asks = s.asks :=
  asks_foldl (fun s (entry : ControlId × Waiter) => asks_resolve s entry.2 _) _ _

theorem asks_dropQueue (s : Session) : s.dropQueue.asks = { s.asks with queue := [] } :=
  asks_foldl (fun s (command : ChildCommand) => asks_send s command.reply _) _ _

theorem advances_dropQueue (s : Session) : s.asks.Advances s.dropQueue.asks := by
  rw [asks_dropQueue]
  apply AskView.advances_commands
  rw [List.append_nil]
  exact (List.sublist_append_left _ _).subperm

theorem advances_retain (s : Session) (p : PendingAsk → Bool) :
    s.asks.Advances { s.asks with
      pending := ⟨s.pending.approvals.retain fun _ => p,
        s.pending.serverRequests.retain fun _ => p⟩ } := by
  have kept {κ : Type} [DecidableEq κ] {map : IndexMap κ PendingAsk} {id : κ} {ask : PendingAsk}
      (found : (map.retain fun _ => p).get? id = some ask) : map.get? id = some ask := by
    rw [IndexMap.get?_retain, Option.filter_eq_some_iff] at found
    exact found.1
  exact @AskView.advances_drop s.asks _ _ _ (PendingRequests.ids_retain_le p)
    (fun _ _ found => kept found) (fun _ _ found => kept found) (List.Subperm.refl _)

theorem advances_onExit (s : Session) (ending : Ending) :
    s.asks.Advances (s.onExit ending).asks := by
  have dropped := advances_retain s fun ask => ask.owner ≠ s.thread
  have gone {t : Session} (same : t.asks = { s.asks with
      pending := s.pending.removeOwner s.thread }) : s.asks.Advances t.dropQueue.asks := by
    apply AskView.Advances.trans _ (advances_dropQueue t)
    rw [same]
    exact dropped
  have inFlight : s.failInFlight.asks = s.asks := asks_failInFlight s
  have removed : ({ s.failInFlight with
      pending := s.failInFlight.pending.removeOwner s.failInFlight.thread
      attached := false } : Session).asks =
        { s.asks with pending := s.pending.removeOwner s.thread } :=
    congrArg (fun view : AskView => { view with
      pending := view.pending.removeOwner view.thread }) inFlight
  unfold onExit
  dsimp only
  split
  · next replies reaped =>
    have stops (t : Session) :
        (replies.foldl (fun s reply => s.send reply .done) t).asks = t.asks :=
      asks_foldl (fun s reply => asks_send s reply .done) replies t
    split
    · apply AskView.Advances.trans _ (advances_dropQueue _)
      rw [stops, asks_failWaiters]
      exact .of_eq inFlight
    · apply gone
      rw [stops, asks_failWaiters]
      exact removed
  · apply gone
    rw [asks_failWaiters]
    exact removed
  · apply gone
    rw [asks_failWaiters]
    exact removed

theorem advances_onAbort (s : Session) : s.asks.Advances s.onAbort.asks := by
  unfold onAbort
  apply AskView.Advances.trans _ (advances_dropQueue _)
  rw [asks_failWaiters]
  exact .of_eq (asks_failInFlight s)

/-! ## Steps and runs -/

/-- The request ids of the asks are pairwise distinct. -/
def Distinct (s : Session) : Step → Prop
  | .line mapper outputs | .settle mapper outputs =>
    s.Running → AlongDispatch DistinctOutput { s with mapper := mapper } outputs
  | _ => True

/-- No withdrawal is lost: no turn starts while the answer to a withdrawn ask is under way, and
no ask is put back that was withdrawn. -/
def Remembers (s : Session) : Step → Prop
  | .line mapper outputs | .settle mapper outputs =>
    s.Running → AlongDispatch CoveredOutput { s with mapper := mapper } outputs
  | .command => s.Running → ∀ command queue, s.queue = command :: queue → s.CoveredCommand command
  | .reap =>
    s.Running → s.idle → s.attached →
      ∀ command queue, s.queue = command :: queue → s.CoveredCommand command
  | .sendTaken index => ∀ command, s.taken[index]? = some command → s.KeepsBack command
  | _ => True

theorem advances_reap (remembers : s.idle → s.attached → ∀ command queue,
    s.queue = command :: queue → s.CoveredCommand command) : s.asks.Advances s.reap.asks := by
  unfold reap
  split
  · next idle =>
    have idle := (Bool.and_eq_true_iff.1 idle).1
    split
    · next command queue attached there =>
      exact advances_onCommand there (remembers idle attached command queue there)
    · exact .of_eq (asks_enterStopping _ _ _)
    · exact .of_eq (asks_enterStopping _ _ _)
  · exact .refl _

theorem advances_loopStep {label : Step} (runs : s.Running) (distinct : s.Distinct label)
    (remembers : s.Remembers label) : s.asks.Advances (s.loopStep label).asks := by
  cases label with
  | line mapper outputs =>
    have dispatched : s.asks.Advances (({ s with mapper := mapper } : Session).dispatchAll
        outputs).asks := advances_dispatchAll (distinct runs) (remembers runs)
    unfold loopStep onLine
    dsimp only
    split
    · exact dispatched
    · rw [asks_afterLine]
      exact dispatched
  | settle mapper outputs => exact advances_dispatchAll (distinct runs) (remembers runs)
  | command =>
    unfold loopStep
    dsimp only
    split
    · next command queue there =>
      exact advances_onCommand there (remembers runs command queue there)
    · exact .refl _
  | channelClosed =>
    unfold loopStep
    dsimp only
    split
    · exact .refl _
    · exact .of_eq (asks_enterStopping _ _ _)
  | shutdown =>
    unfold loopStep
    dsimp only
    split
    · exact .refl _
    · exact .of_eq (asks_enterStopping _ _ _)
  | deadline waited => exact .of_eq (asks_onDeadline s waited)
  | reap => exact advances_reap (remembers runs)
  | _ => exact .refl _

theorem advances_step {label : Step} (distinct : s.Distinct label)
    (remembers : s.Remembers label) : s.asks.Advances (s.step label).asks := by
  have loop : s.asks.Advances
      (if s.exited || s.ending.isSome then s else s.loopStep label).asks := by
    split
    · exact .refl _
    · next runs =>
      have runs : s.Running := by simpa [Running] using runs
      exact advances_loopStep runs distinct remembers
  cases label with
  | startTurn line turn mode model catalog notice => exact advances_startTurn s _ _ _ _ _ _
  | takeApproval id decision => exact advances_takeApproval s id decision
  | takeServerRequest id response => exact advances_takeServerRequest s id response
  | sendTaken index =>
    unfold step
    dsimp only
    split
    · next command there => exact advances_sendTaken there (remembers command there)
    · exact .refl _
  | call request => exact advances_call s request
  | giveUp reply => exact .refl _
  | removeThread thread => exact advances_retain s fun ask => ask.thread ≠ thread
  | clearPending =>
    exact @AskView.advances_drop s.asks _ _ _ (Multiset.zero_le _)
      (fun id ask found => by cases found) (fun id ask found => by cases found)
      (List.Subperm.refl _)
  | detach => exact .refl _
  | stdinFails error => exact .refl _
  | exit =>
    unfold step
    dsimp only
    split
    · split
      · exact .refl _
      · exact advances_onExit s _
    · exact .refl _
  | abort =>
    unfold step
    dsimp only
    split
    · exact .refl _
    · exact advances_onAbort s
  | line mapper outputs => exact loop
  | settle mapper outputs => exact loop
  | command => exact loop
  | channelClosed => exact loop
  | shutdown => exact loop
  | deadline waited => exact loop
  | reap => exact loop
  | eof => exact loop
  | readError => exact loop

theorem advances_run {schedule : List Step} (distinct : Schedule.Meets step Distinct s schedule)
    (remembers : Schedule.Meets step Remembers s schedule) :
    s.asks.Advances (Schedule.run step s schedule).asks := by
  induction schedule generalizing s with
  | nil => exact .refl _
  | cons label rest ih =>
    exact (advances_step distinct.1 remembers.1).trans (ih distinct.2 remembers.2)

theorem tidy_spawn (thread : ThreadId) (mapper : MapperView) (model entryModel : ModelRef) :
    (spawn thread mapper model entryModel).asks.Tidy :=
  ⟨fun _ _ found => (by cases found), fun _ _ found => (by cases found),
    fun _ there => (by cases there)⟩

theorem sound_spawn (thread : ThreadId) (mapper : MapperView) (model entryModel : ModelRef) :
    (spawn thread mapper model entryModel).asks.desk.Sound where
  once := List.nodup_nil
  known _ there := by cases there
  dead _ there := by cases there
  remembered _ there := by cases there
  single := List.nodup_nil
  answered _ there := by cases there

/-- After a run, and any continuation of it: every ask has one response line at most, an ask that
the CLI withdrew during the first part gets none during the second, and no pending ask was
withdrawn or answered. -/
def WithdrawnUnanswered (start : Session) (before after : List Step) : Prop :=
  let s := Schedule.run step start before
  let t := Schedule.run step s after
  t.responses.Nodup ∧ (∀ id ∈ s.cancelled, t.responses.count id = s.responses.count id) ∧
    ∀ ask ∈ t.pending.asks, ask.requestId ∉ t.cancelled ∧ ask.requestId ∉ t.responses

/-- Withdrawn asks stay unanswered in the runs that lose no withdrawal. -/
theorem withdrawn_asks_unanswered (thread : ThreadId) (mapper : MapperView)
    (model entryModel : ModelRef) (before after : List Step)
    (distinct : Schedule.Meets step Distinct (spawn thread mapper model entryModel)
      (before ++ after))
    (remembers : Schedule.Meets step Remembers (spawn thread mapper model entryModel)
      (before ++ after)) :
    WithdrawnUnanswered (spawn thread mapper model entryModel) before after := by
  obtain ⟨distinct, later⟩ := Schedule.meets_append.1 distinct
  obtain ⟨remembers, still⟩ := Schedule.meets_append.1 remembers
  obtain ⟨tidy, first⟩ := advances_run distinct remembers (tidy_spawn thread mapper model entryModel)
    (sound_spawn thread mapper model entryModel)
  have sound := AnswerDesk.Steps.kept first (sound_spawn thread mapper model entryModel)
  obtain ⟨_, second⟩ := advances_run later still tidy sound
  have final := AnswerDesk.Steps.kept second sound
  refine ⟨final.single, ?_, ?_⟩
  · intro id gone
    exact (AnswerDesk.Steps.silent second sound gone).2
  · intro ask there
    have held := PendingRequests.mem_ids.2 ⟨ask, there, rfl⟩
    refine ⟨final.dead _ held, ?_⟩
    intro answered
    exact (final.answered _ answered).2 (Multiset.mem_add.2 (Or.inl held))

/-! ## Runs -/

/-- A mapper without turns, routes or tasks. -/
def quiet : MapperView where
  activeTurn := none
  activeTurnOf _ := none
  routeTaskId _ := .error .notARoute
  backgroundCommand _ := false
  hasRoutes := false
  hasTasks := false

def sampleModel : ModelRef := ⟨"anthropic", "sonnet", none⟩

def sampleStart : Session := spawn ⟨⟨1⟩⟩ quiet sampleModel sampleModel

/-- A sub-agent asks to run a command, the user's answer is sent, and the CLI withdraws the ask
before the answer is served. -/
def sampleWithdrawal : List Step :=
  [.line quiet [.pendingApproval ⟨"a"⟩ "a" none "Bash" [] ⟨⟨2⟩⟩], .takeApproval ⟨"a"⟩ .accept,
    .sendTaken 0, .line quiet [.cancelRequest "a"]]

theorem sample_withdrawal_unanswered :
    Schedule.Meets step Distinct sampleStart (sampleWithdrawal ++ [.command]) ∧
      Schedule.Meets step Remembers sampleStart (sampleWithdrawal ++ [.command]) ∧
      WithdrawnUnanswered sampleStart sampleWithdrawal [.command] := by
  have distinct : Schedule.Meets step Distinct sampleStart (sampleWithdrawal ++ [.command]) := by
    refine ⟨fun _ => ⟨⟨rfl, by decide, by decide⟩, fun _ => trivial⟩, trivial, trivial,
      fun _ => ⟨trivial, fun _ => trivial⟩, trivial, trivial⟩
  have remembers :
      Schedule.Meets step Remembers sampleStart (sampleWithdrawal ++ [.command]) := by
    refine ⟨fun _ => ⟨trivial, fun _ => trivial⟩, trivial, ?_, fun _ => ⟨trivial, fun _ => trivial⟩,
      ?_, trivial⟩
    · intro command there id ask amendment reply same
      cases there
      cases same
    · intro _ command queue there
      cases there
      trivial
  exact ⟨distinct, remembers, withdrawn_asks_unanswered _ _ _ _ _ _ distinct remembers⟩

/-- The settings of a turn are in flight when a sub-agent's ask is answered and withdrawn. -/
def sampleLostWithdrawal : List Step :=
  [.line quiet [.pendingApproval ⟨"a"⟩ "a" none "Bash" [] ⟨⟨2⟩⟩],
    .startTurn "hello" ⟨⟨3⟩⟩ "default" none (fun _ => none) none, .command,
    .takeApproval ⟨"a"⟩ .accept, .sendTaken 0, .line quiet [.cancelRequest "a"]]

/-- The turn starts, and the answer is served after it. -/
def sampleLateAnswer : List Step :=
  [.line quiet [.controlResponse 0 (.success .null)], .command]

theorem withdrawn_ask_answered :
    Schedule.Meets step Distinct sampleStart (sampleLostWithdrawal ++ sampleLateAnswer) ∧
      ¬ WithdrawnUnanswered sampleStart sampleLostWithdrawal sampleLateAnswer := by
  constructor
  · exact ⟨fun _ => ⟨⟨rfl, by decide, by decide⟩, fun _ => trivial⟩, trivial, trivial, trivial,
      trivial, fun _ => ⟨trivial, fun _ => trivial⟩, fun _ => ⟨trivial, fun _ => trivial⟩, trivial,
      trivial⟩
  · intro held
    have silent := held.2.1 "a" (by decide)
    revert silent
    decide

end Session

end Giskard.Claude
