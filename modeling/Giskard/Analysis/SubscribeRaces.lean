import Mathlib
import Giskard.Foundation.Schedule
import Giskard.Model.Subscribe
import Giskard.Analysis.HistoryPaging
import Giskard.Analysis.TokenAggregates
import Giskard.Analysis.PayloadAmendments

/-!
# Bootstraps that race with a turn

A bootstrap reads two stores one after the other and sends what it has read later, while the
forwarder moves the turn from the live buffer to the history and publishes its events. What the
browser ends with depends on where the forwarder was at the reads and at the send: the places of the
bootstrap say where, and the results below hold for every interleaving.

SOURCE: crates/giskard-server/src/ws.rs, registry/event_forwarder.rs.
-/

set_option autoImplicit false

namespace Giskard

open Foundation

/-! ## Events of the turn -/

/-- The events that a browser has after an entry of its queue: a snapshot replaces its live turn,
an event is folded into it. -/
def dequeue (known : List ℕ) : QueueEntry → List ℕ
  | .history _ => known
  | .snapshot covers _ => List.range covers
  | .event index _ => known ++ [index]

/-- The events that a browser has after its queue. -/
def clientEvents (queue : List QueueEntry) : List ℕ := queue.foldl dequeue []

theorem clientEvents_concat (queue : List QueueEntry) (last : QueueEntry) :
    clientEvents (queue ++ [last]) = dequeue (clientEvents queue) last := by
  unfold clientEvents
  rw [List.foldl_append, List.foldl_cons, List.foldl_nil]

/-- A runtime entry after the first events of a turn. -/
def entryAfter (script : TurnScript) (start : ThreadRuntimeEntry) (count : ℕ) :
    ThreadRuntimeEntry :=
  (script.events.take count).foldl
    (fun entry event => (entry.applyPreparedEvent script.thread event.1 true event.2).1) start

theorem entryAfter_succ {script : TurnScript} {start : ThreadRuntimeEntry} {count : ℕ}
    {event : AgentEvent × Option PreparedItemOutput} (there : script.events[count]? = some event) :
    entryAfter script start (count + 1) =
      ((entryAfter script start count).applyPreparedEvent script.thread event.1 true event.2).1 := by
  unfold entryAfter
  rw [List.take_add_one, there, Option.toList_some, List.foldl_append, List.foldl_cons,
    List.foldl_nil]

theorem transcriptEvent_visible (crates : Crates) {event : AgentEvent}
    (visible : isInternalEvent event = false) (userInput : Option UserInput) :
    ∃ wire, transcriptEvent crates event userInput = some wire := by
  unfold transcriptEvent
  rw [visible]
  cases event <;> exact ⟨_, rfl⟩

namespace ForwarderPlace

/-- The completed turn is in the history. -/
def hasAppended : ForwarderPlace → Bool
  | .appended | .settled | .published => true
  | _ => false

/-- The completed turn is out of the live buffer. -/
def hasSettled : ForwarderPlace → Bool
  | .settled | .published => true
  | _ => false

end ForwarderPlace

namespace Subscription

/-- A snapshot has the events that were applied when it was built. -/
structure Built (crates : Crates) (limits : BootstrapLimits) (script : TurnScript)
    (start : ThreadRuntimeEntry) (snapshot : Option LiveTurnSnapshot)
    (builtAt now : ForwarderPlace) : Prop where
  content : ∀ taken, snapshot = some taken →
    (entryAfter script start (builtAt.appliedCount script)).live.snapshot crates script.thread
      limits.tailItems = some taken
  earlier : builtAt.appliedCount script ≤ now.appliedCount script

/-- What a bootstrap has read and sent, and what the browser has since. -/
def Delivers (crates : Crates) (limits : BootstrapLimits) (script : TurnScript)
    (start : ThreadRuntimeEntry) (queue : List QueueEntry) (now : ForwarderPlace) :
    BootstrapPlace → Prop
  | .built _ snapshot _ builtAt => Built crates limits script start snapshot builtAt now
  | .sent _ snapshot _ builtAt => Built crates limits script start snapshot builtAt now
  | .enqueued _ snapshot _ builtAt sentAt =>
    Built crates limits script start snapshot builtAt now ∧
      sentAt.publishedCount script ≤ now.publishedCount script ∧
      (snapshot.isSome → clientEvents queue = List.range (builtAt.appliedCount script) ++
        List.range' (sentAt.publishedCount script)
          (now.publishedCount script - sentAt.publishedCount script))
  | _ => True

/-- The forwarder is inside its script, and the live buffer has what was applied. -/
structure Forwarded (script : TurnScript) (start : ThreadRuntimeEntry) (state : Subscription) :
    Prop where
  ready : ∀ next, state.forwarder = .ready next → next ≤ script.events.length
  applied : ∀ next, state.forwarder = .applied next → next < script.events.length
  entry : state.forwarder.hasSettled = false →
    state.entry = entryAfter script start (state.forwarder.appliedCount script)
  settled : state.forwarder.hasSettled = true → state.entry.live.turnOf script.thread = none

/-- The browser is registered before a bootstrap reads anything. -/
structure Delivered (crates : Crates) (limits : BootstrapLimits) (script : TurnScript)
    (start : ThreadRuntimeEntry) (state : Subscription) : Prop where
  forwarded : Forwarded script start state
  registered : state.registered = false → state.bootstrap = .start
  delivers : Delivers crates limits script start state.queue state.forwarder state.bootstrap

section Steps

variable {crates : Crates} {paths : ThreadPaths} {limits : BootstrapLimits} {script : TurnScript}
  {start : ThreadRuntimeEntry} {state : Subscription}

theorem turnOf_clearTurn (live : LiveTurnState) (thread : ThreadId) :
    (live.clearTurn thread).turnOf thread = none := by
  unfold LiveTurnState.clearTurn LiveTurnState.turnOf
  split
  · rfl
  · rfl

theorem settleCompletedTurn_live (entry : ThreadRuntimeEntry) (thread : ThreadId)
    (event : AgentEvent) :
    (entry.settleCompletedTurn thread event none).1.live.turnOf thread = none := by
  unfold ThreadRuntimeEntry.settleCompletedTurn
  exact turnOf_clearTurn _ thread

/-- What the forwarder does to its counts and the live buffer. -/
theorem Forwarded.forwarderStep (forwarded : Forwarded script start state) :
    Forwarded script start (forwarderStep crates script state) := by
  have settled := forwarded.settled
  have entry := forwarded.entry
  unfold Subscription.forwarderStep
  cases place : state.forwarder with
  | ready next =>
    rw [place] at entry
    have same := entry rfl
    dsimp only
    cases there : script.events[next]? with
    | some event =>
      refine ⟨?_, ?_, ?_, ?_⟩
      · intro other wrong
        cases wrong
      · intro other same'
        cases same'
        exact (List.getElem?_eq_some_iff.1 there).1
      · intro _
        dsimp only
        rw [same]
        exact (entryAfter_succ there).symm
      · intro wrong
        cases wrong
    | none =>
      have all : next = script.events.length :=
        le_antisymm (forwarded.ready next place) (List.getElem?_eq_none_iff.1 there)
      subst all
      dsimp only
      split <;>
        exact ⟨(fun _ wrong => by cases wrong), (fun _ wrong => by cases wrong), fun _ => same,
          (fun wrong => by cases wrong)⟩
  | applied next =>
    rw [place] at entry
    refine ⟨?_, ?_, ?_, ?_⟩
    · intro other same
      cases same
      exact forwarded.applied next place
    · intro other wrong
      cases wrong
    · intro _
      exact entry rfl
    · intro wrong
      cases wrong
  | appended =>
    refine ⟨(fun _ wrong => by cases wrong), (fun _ wrong => by cases wrong),
      (fun wrong => by cases wrong), ?_⟩
    intro _
    exact settleCompletedTurn_live _ _ _
  | settled =>
    rw [place] at settled
    exact ⟨(fun _ wrong => by cases wrong), (fun _ wrong => by cases wrong),
      (fun wrong => by cases wrong), fun _ => settled rfl⟩
  | published => exact forwarded
  | blocked error => exact forwarded

theorem Delivers.advance {queue more : List QueueEntry} {now later : ForwarderPlace}
    {place : BootstrapPlace} (delivers : Delivers crates limits script start queue now place)
    (applied : now.appliedCount script ≤ later.appliedCount script)
    (published : now.publishedCount script ≤ later.publishedCount script)
    (received : ∀ sent, sent ≤ now.publishedCount script → ∀ known,
      clientEvents queue = known ++ List.range' sent (now.publishedCount script - sent) →
      clientEvents (queue ++ more) =
        known ++ List.range' sent (later.publishedCount script - sent)) :
    Delivers crates limits script start (queue ++ more) later place := by
  cases place with
  | built delta snapshot readAt builtAt => exact ⟨delivers.content, delivers.earlier.trans applied⟩
  | sent delta snapshot readAt builtAt => exact ⟨delivers.content, delivers.earlier.trans applied⟩
  | enqueued delta snapshot readAt builtAt sentAt =>
    obtain ⟨built, earlier, events⟩ := delivers
    refine ⟨⟨built.content, built.earlier.trans applied⟩, earlier.trans published, ?_⟩
    intro some_
    exact received _ earlier _ (events some_)
  | _ => trivial

theorem Delivers.silent {queue : List QueueEntry} {now later : ForwarderPlace}
    {place : BootstrapPlace} (delivers : Delivers crates limits script start queue now place)
    (applied : now.appliedCount script ≤ later.appliedCount script)
    (published : now.publishedCount script = later.publishedCount script) :
    Delivers crates limits script start queue later place := by
  have same := @Delivers.advance crates limits script start queue [] now later place delivers applied
    published.le (fun sent _ known events => by rw [List.append_nil, events, published])
  rw [List.append_nil] at same
  exact same

theorem Delivered.forwarderStep (delivered : Delivered crates limits script start state)
    (visible : ∀ event ∈ script.events, isInternalEvent event.1 = false) :
    Delivered crates limits script start (forwarderStep crates script state) := by
  have forwarded := @Forwarded.forwarderStep crates script start state delivered.forwarded
  have delivers := delivered.delivers
  cases place : state.forwarder with
  | ready next =>
    rw [place] at delivers
    unfold Subscription.forwarderStep at forwarded ⊢
    rw [place] at forwarded ⊢
    dsimp only at forwarded ⊢
    cases there : script.events[next]? with
    | some event =>
      rw [there] at forwarded
      exact ⟨forwarded, delivered.registered, delivers.silent (Nat.le_succ next) rfl⟩
    | none =>
      have all : next = script.events.length :=
        le_antisymm (delivered.forwarded.ready next place) (List.getElem?_eq_none_iff.1 there)
      subst all
      rw [there] at forwarded
      dsimp only at forwarded ⊢
      generalize appendTurnUnlocked crates script.thread script.env state.files script.turn
        script.captured = outcome at forwarded ⊢
      obtain ⟨files, result⟩ := outcome
      cases result with
      | ok _ => exact ⟨forwarded, delivered.registered, delivers.silent le_rfl rfl⟩
      | error error => exact ⟨forwarded, delivered.registered, delivers.silent le_rfl rfl⟩
  | applied next =>
    rw [place] at delivers
    have inside := delivered.forwarded.applied next place
    have there := List.getElem?_eq_getElem inside
    obtain ⟨wire, shown⟩ := transcriptEvent_visible crates
      (visible _ (List.getElem_mem inside)) script.userInput
    unfold Subscription.forwarderStep at forwarded ⊢
    rw [place] at forwarded ⊢
    dsimp only at forwarded ⊢
    refine ⟨forwarded, delivered.registered, ?_⟩
    dsimp only
    cases listening : state.registered with
    | false =>
      rw [delivered.registered listening]
      trivial
    | true =>
      rw [if_pos rfl, there, Option.bind_some, shown]
      refine delivers.advance le_rfl (Nat.le_succ next) ?_
      intro sent before known events
      simp only [ForwarderPlace.publishedCount] at before events ⊢
      simp only [Option.map_some, Option.toList_some]
      rw [clientEvents_concat, events, dequeue, List.append_assoc, Nat.succ_sub before,
        List.range'_concat, Nat.one_mul, Nat.add_sub_cancel' before]
  | appended =>
    rw [place] at delivers
    unfold Subscription.forwarderStep at forwarded ⊢
    rw [place] at forwarded ⊢
    exact ⟨forwarded, delivered.registered, delivers.silent le_rfl rfl⟩
  | settled =>
    rw [place] at delivers
    unfold Subscription.forwarderStep at forwarded ⊢
    rw [place] at forwarded ⊢
    exact ⟨forwarded, delivered.registered, delivers.silent le_rfl rfl⟩
  | published =>
    unfold Subscription.forwarderStep
    rw [place]
    exact delivered
  | blocked error =>
    unfold Subscription.forwarderStep
    rw [place]
    exact delivered

theorem Forwarded.same {next : Subscription} (forwarded : Forwarded script start state)
    (forwarder : next.forwarder = state.forwarder) (entry : next.entry = state.entry) :
    Forwarded script start next :=
  ⟨by rw [forwarder]; exact forwarded.ready, by rw [forwarder]; exact forwarded.applied,
    by rw [forwarder, entry]; exact forwarded.entry,
    by rw [forwarder, entry]; exact forwarded.settled⟩

theorem Delivered.bootstrapStep (delivered : Delivered crates limits script start state)
    (moveFault : TurnId → Bool) :
    Delivered crates limits script start
      (bootstrapStep crates paths limits script moveFault state) := by
  have delivers := delivered.delivers
  have listening (begun : state.bootstrap ≠ .start) {place : BootstrapPlace} :
      state.registered = false → place = .start :=
    fun silent => absurd (delivered.registered silent) begun
  unfold Subscription.bootstrapStep
  cases place : state.bootstrap with
  | start => exact ⟨delivered.forwarded.same rfl rfl, (fun silent => by cases silent), trivial⟩
  | registered =>
    have begun : state.bootstrap ≠ .start := by rw [place]; exact fun wrong => by cases wrong
    dsimp only
    split
    · exact ⟨delivered.forwarded.same rfl rfl, listening begun, trivial⟩
    · exact ⟨delivered.forwarded.same rfl rfl, listening begun, trivial⟩
  | loaded delta readAt =>
    have begun : state.bootstrap ≠ .start := by rw [place]; exact fun wrong => by cases wrong
    refine ⟨delivered.forwarded.same rfl rfl, listening begun, ?_, le_rfl⟩
    intro taken shown
    cases settled : state.forwarder.hasSettled with
    | false => rw [← delivered.forwarded.entry settled, shown]
    | true =>
      rw [LiveTurnState.snapshot, delivered.forwarded.settled settled] at shown
      cases shown
  | built delta snapshot readAt builtAt =>
    rw [place] at delivers
    have begun : state.bootstrap ≠ .start := by rw [place]; exact fun wrong => by cases wrong
    exact ⟨delivered.forwarded.same rfl rfl, listening begun, delivers⟩
  | sent delta snapshot readAt builtAt =>
    rw [place] at delivers
    have begun : state.bootstrap ≠ .start := by rw [place]; exact fun wrong => by cases wrong
    refine ⟨delivered.forwarded.same rfl rfl, listening begun, delivers, le_rfl, ?_⟩
    intro some_
    obtain ⟨taken, rfl⟩ := Option.isSome_iff_exists.1 some_
    rw [Nat.sub_self, List.range'_zero, List.append_nil]
    exact clientEvents_concat _ _
  | enqueued delta snapshot readAt builtAt sentAt => exact delivered
  | failed error => exact delivered

end Steps

/-- No step has been taken; the events of the turn that are left are to come. -/
structure Fresh (state : Subscription) : Prop where
  registered : state.registered = false
  queue : state.queue = []
  forwarder : state.forwarder = .ready 0
  bootstrap : state.bootstrap = .start

theorem Fresh.delivered {crates : Crates} {limits : BootstrapLimits} {script : TurnScript}
    {state : Subscription} (fresh : Fresh state) :
    Delivered crates limits script state.entry state := by
  refine ⟨⟨?_, ?_, ?_, ?_⟩, fun _ => fresh.bootstrap, by rw [fresh.bootstrap]; trivial⟩
  · rw [fresh.forwarder]
    intro next same
    cases same
    exact Nat.zero_le _
  · rw [fresh.forwarder]
    intro next wrong
    cases wrong
  · rw [fresh.forwarder]
    intro _
    rfl
  · rw [fresh.forwarder]
    intro wrong
    cases wrong

theorem delivered_run {crates : Crates} (paths : ThreadPaths) {limits : BootstrapLimits}
    {script : TurnScript} {start : Subscription} (fresh : Fresh start)
    (visible : ∀ event ∈ script.events, isInternalEvent event.1 = false)
    (schedule : List SubscribeChoice) :
    Delivered crates limits script start.entry
      (Schedule.run (step crates paths limits script) start schedule) :=
  Schedule.run_preserves fresh.delivered (fun _ choice delivered => match choice with
    | .bootstrap moveFault => delivered.bootstrapStep moveFault
    | .forwarder => delivered.forwarderStep visible) schedule

/-- The snapshot that a browser is sent has exactly the events that were applied when it was built.
When everything applied was published, the browser ends with every event of the turn if and only if
no event that was applied after the snapshot was built had been published when the snapshot was
put into the queue. -/
theorem subscriber_events (crates : Crates) (paths : ThreadPaths) (limits : BootstrapLimits)
    (script : TurnScript) (start : Subscription) (schedule : List SubscribeChoice)
    (fresh : Fresh start) (visible : ∀ event ∈ script.events, isInternalEvent event.1 = false)
    (delta : HistoryDelta) (snapshot : LiveTurnSnapshot)
    (readAt builtAt sentAt : ForwarderPlace)
    (enqueued : (Schedule.run (step crates paths limits script) start schedule).bootstrap =
      .enqueued delta (some snapshot) readAt builtAt sentAt)
    (idle : ∀ next,
      (Schedule.run (step crates paths limits script) start schedule).forwarder ≠ .applied next) :
    let final := Schedule.run (step crates paths limits script) start schedule
    (entryAfter script start.entry (builtAt.appliedCount script)).live.snapshot crates
      script.thread limits.tailItems = some snapshot ∧
    ((∀ index < final.forwarder.appliedCount script, index ∈ clientEvents final.queue) ↔
      sentAt.publishedCount script ≤ builtAt.appliedCount script) := by
  intro final
  have delivered : Delivered crates limits script start.entry final :=
    delivered_run paths fresh visible schedule
  have delivers := delivered.delivers
  rw [enqueued] at delivers
  obtain ⟨built, earlier, events⟩ := delivers
  have known := events rfl
  have published : final.forwarder.publishedCount script = final.forwarder.appliedCount script := by
    cases place : final.forwarder with
    | applied next => exact absurd place (idle next)
    | _ => rfl
  refine ⟨built.content snapshot rfl, ?_⟩
  rw [known, ← published]
  constructor
  · intro all
    by_contra late
    have missing := all (builtAt.appliedCount script) (by omega)
    rw [List.mem_append, List.mem_range, List.mem_range'_1] at missing
    omega
  · intro inTime index below
    rw [List.mem_append, List.mem_range, List.mem_range'_1]
    omega

end Subscription

/-! ## The completing turn -/

section Pages

variable {crates : Crates} {paths : ThreadPaths} {moveFault : TurnId → Bool}
  {records : List TurnRecord} {limit : ℕ} {files : ThreadDirectory}

theorem pageRecords_absent {turn : TurnId} (cursor : ℕ) (absent : files.turns turn = none)
    (turns : List Turn) (attempted : ℕ) :
    (pageRecords crates paths moveFault records limit cursor files turns attempted).1.turns turn =
      none := by
  induction cursor generalizing files turns attempted with
  | zero => exact absent
  | succ cursor ih =>
    unfold pageRecords
    split
    · split
      · exact absent
      · next record _ =>
        apply ih
        unfold assembleTurnRecord
        dsimp only
        by_cases same : turn = record.turnId
        · subst same
          rw [Function.update_self, absent]
          rfl
        · rw [Function.update_of_ne same, absent]
    · exact absent

/-- The newest page has only turns of the index, and the last one when it can be read. -/
theorem loadHistory_newest (positive : 0 < limit)
    (loaded : loadTurnRecords crates (paths.history crates) files.history = .ok records) :
    ∃ page hasMore,
      (loadHistory crates paths moveFault files none limit).2 = .ok (page, hasMore) ∧
      SameTurns crates paths files (loadHistory crates paths moveFault files none limit).1 ∧
      (∀ turn ∈ page, ∃ record ∈ records, turn.id = record.turnId) ∧
      ∀ earlier last turn, records = earlier ++ [last] →
        files.turn? crates paths last = some turn → turn ∈ page := by
  have distinct := loadTurnRecords_distinct loaded
  obtain ⟨same, start, page⟩ := @pageRecords_spec crates paths moveFault records limit
    records.length files [] 0 le_rfl (fun full => absurd full (Nat.not_le_of_lt positive))
  unfold loadHistory loadHistoryPageRecords pageEnd
  rw [loaded]
  dsimp only
  refine ⟨_, _, rfl, same, ?_, ?_⟩
  · intro turn member
    have all : turn ∈ files.readable crates paths records := by
      have turns := page.turns
      rw [List.take_length, List.reverse_nil, List.append_nil] at turns
      rw [turns]
      exact List.mem_append_right _ member
    obtain ⟨record, listed, read⟩ := List.mem_filterMap.1 all
    exact ⟨record, listed, turn?_id read⟩
  · rintro earlier last turn rfl read
    have all : turn ∈ files.readable crates paths (earlier ++ [last]) :=
      List.mem_filterMap.2 ⟨last, List.mem_append_right _ (List.mem_singleton_self _), read⟩
    have turns := page.turns
    rw [List.take_length, List.reverse_nil, List.append_nil] at turns
    rw [turns] at all
    rcases List.mem_append.1 all with before | here
    · exfalso
      -- The page would start after the last record, and a page that starts there has a turn.
      have last_id := turn?_id read
      obtain ⟨record, listed, read'⟩ := List.mem_filterMap.1 before
      have record_id := turn?_id read'
      rw [List.map_append, List.nodup_append] at distinct
      have later : start = (earlier ++ [last]).length := by
        refine le_antisymm page.start_le ?_
        by_contra short
        rw [Nat.not_le, List.length_append, List.length_singleton, Nat.lt_succ_iff] at short
        rw [List.take_append_of_le_length short] at listed
        refine distinct.2.2 record.turnId (List.mem_map_of_mem (List.mem_of_mem_take listed))
          last.turnId (List.mem_map_of_mem (List.mem_singleton_self _)) ?_
        rw [← last_id, record_id]
      obtain ⟨record', turn', rest, there, -⟩ := page.first (by rw [later]; simp)
      rw [later, List.getElem?_length] at there
      cases there
    · exact here

theorem loadHistory_empty
    (loaded : loadTurnRecords crates (paths.history crates) files.history = .ok records) :
    ∃ hasMore, loadHistory crates paths moveFault files none 0 = (files, .ok ([], hasMore)) := by
  unfold loadHistory loadHistoryPageRecords pageEnd
  rw [loaded]
  dsimp only
  cases records.length with
  | zero => exact ⟨_, rfl⟩
  | succ count => exact ⟨_, rfl⟩

end Pages

section Live

theorem LiveTurn.modifyEntry_turnId (turn : LiveTurn) (thread : ThreadId) (turnId : TurnId)
    (itemId : ItemId) (change : LiveItemEntry → LiveItemEntry) :
    (turn.modifyEntry thread turnId itemId change).turnId = turn.turnId := by
  have kept : (turn.entryFor thread turnId itemId).1.turnId = turn.turnId := by
    unfold LiveTurn.entryFor LiveTurn.pushEntry
    repeat' split
    all_goals rfl
  exact kept

theorem LiveTurn.appendEvent_turnId {turn : LiveTurn} {event : AgentEvent} {turnId : TurnId}
    (same : turn.turnId = turnId)
    (started : ∀ thread other, event = .turnStarted thread other → other = turnId)
    (commandOutput : Option CommandOutputDescriptor) (toolOutput : Option ToolOutputDescriptor) :
    (turn.appendEvent event commandOutput toolOutput).turnId = turnId := by
  cases event with
  | turnStarted thread other => exact started thread other rfl
  | itemStarted thread other item =>
    unfold LiveTurn.appendEvent LiveTurn.startItem
    dsimp only
    split
    · exact same
    · rw [LiveTurn.modifyEntry_turnId, same]
  | itemDelta thread other item delta =>
    unfold LiveTurn.appendEvent
    rw [LiveTurn.modifyEntry_turnId, same]
  | itemCompleted thread other item =>
    have kept : (turn.storeOutputs item commandOutput toolOutput).1.turnId = turn.turnId := by
      unfold LiveTurn.storeOutputs
      split <;> rfl
    unfold LiveTurn.appendEvent LiveTurn.completeItem
    dsimp only
    rw [LiveTurn.modifyEntry_turnId, kept, same]
  | _ => exact same

/-- The event that reaches the live turn. -/
def liveEventOf (event : AgentEvent × Option PreparedItemOutput) : AgentEvent :=
  (event.2.bind (·.liveEvent)).getD event.1

/-- The live turn of a thread has an id. -/
def LiveFor (live : LiveTurnState) (thread : ThreadId) (turnId : TurnId) : Prop :=
  ∃ turn, live.turnOf thread = some turn ∧ turn.turnId = turnId

theorem LiveFor.applyPreparedEvent {entry : ThreadRuntimeEntry} {thread : ThreadId}
    {turnId : TurnId} (live : LiveFor entry.live thread turnId)
    (event : AgentEvent × Option PreparedItemOutput)
    (started : ∀ thread other, liveEventOf event = .turnStarted thread other → other = turnId) :
    LiveFor (entry.applyPreparedEvent thread event.1 true event.2).1.live thread turnId := by
  obtain ⟨turn, current, same⟩ := live
  have mine : entry.live.threadId = some thread := by
    by_contra other
    rw [LiveTurnState.turnOf, if_neg other] at current
    cases current
  have kept : (entry.applyEventLocked thread event.1 false).1.live = entry.live := rfl
  have changed : (entry.applyPreparedEvent thread event.1 true event.2).1.live =
      entry.live.appendWithOutputs thread (liveEventOf event)
        (event.2.bind (·.commandDescriptor)) (event.2.bind (·.toolDescriptor)) := by
    unfold ThreadRuntimeEntry.applyPreparedEvent
    dsimp only
    rw [kept, LiveTurnState.isActive, current]
    rfl
  rw [changed, LiveFor, LiveTurnState.appendWithOutputs, LiveTurnState.modifyTurn, if_pos mine]
  rw [LiveTurnState.turnOf, if_pos mine] at current
  refine ⟨_, ?_, LiveTurn.appendEvent_turnId same started (event.2.bind (·.commandDescriptor))
    (event.2.bind (·.toolDescriptor))⟩
  rw [LiveTurnState.turnOf, if_pos mine, current]
  rfl

theorem snapshot_turnId {crates : Crates} {live : LiveTurnState} {thread : ThreadId}
    {turnId : TurnId} (current : LiveFor live thread turnId) (tailItems : ℕ) :
    ∃ snapshot, live.snapshot crates thread tailItems = some snapshot ∧
      snapshot.turnId = turnId := by
  obtain ⟨turn, there, same⟩ := current
  refine ⟨LiveTurnState.snapshotTurn crates thread turn tailItems, ?_, same⟩
  rw [LiveTurnState.snapshot, there]
  rfl

end Live

namespace Subscription

/-- A turn that is live, is not in the history, and will be committed. -/
structure Completing (crates : Crates) (script : TurnScript) (projected : Turn)
    (written : List TurnRecord) (state : Subscription) : Prop where
  index : IndexState crates state.files.history written
  ends : EndsLine state.files.history
  absent : ∀ record ∈ written, record.turnId ≠ script.turn.id
  payload : state.files.turns script.turn.id = none
  committed : CommittedTurn crates script.turn script.captured projected
  env : script.env = ⟨none, none, none⟩
  live : LiveFor state.entry.live script.thread script.turn.id
  started : ∀ event ∈ script.events, ∀ thread other,
    liveEventOf event = .turnStarted thread other → other = script.turn.id

/-- Where the turn is in the files. -/
def Stored (crates : Crates) (paths : ThreadPaths) (script : TurnScript)
    (written : List TurnRecord) (files : ThreadDirectory) : Bool → Prop
  | false => IndexState crates files.history written ∧ EndsLine files.history ∧
      files.turns script.turn.id = none
  | true => loadTurnRecords crates (paths.history crates) files.history =
        .ok (written.foldl addRecord [] ++ [TurnRecord.fromTurn script.turn]) ∧
      ∃ turn, files.turn? crates paths (TurnRecord.fromTurn script.turn) = some turn

/-- The turn is in a page. -/
def InPage (script : TurnScript) (delta : HistoryDelta) : Prop :=
  ∃ turn ∈ delta.turns, turn.id = script.turn.id

/-- The turn is in a snapshot. -/
def InSnapshot (script : TurnScript) (snapshot : Option LiveTurnSnapshot) : Prop :=
  ∃ taken, snapshot = some taken ∧ taken.turnId = script.turn.id

/-- What a bootstrap has read, by where the forwarder was. -/
def Reads (limits : BootstrapLimits) (script : TurnScript) : BootstrapPlace → Prop
  | .loaded delta readAt =>
    InPage script delta ↔ 0 < limits.initialTurns ∧ readAt.hasAppended = true
  | .built delta snapshot readAt builtAt | .sent delta snapshot readAt builtAt
  | .enqueued delta snapshot readAt builtAt _ =>
    (InPage script delta ↔ 0 < limits.initialTurns ∧ readAt.hasAppended = true) ∧
      (InSnapshot script snapshot ↔ builtAt.hasSettled = false)
  | _ => True

/-- The turn is in the stores that the forwarder has left it in. -/
structure Handed (crates : Crates) (paths : ThreadPaths) (limits : BootstrapLimits)
    (script : TurnScript) (written : List TurnRecord) (state : Subscription) : Prop where
  stored : Stored crates paths script written state.files state.forwarder.hasAppended
  live : state.forwarder.hasSettled = false → LiveFor state.entry.live script.thread script.turn.id
  settled : state.forwarder.hasSettled = true → state.entry.live.turnOf script.thread = none
  reads : Reads limits script state.bootstrap

section Handover

variable {crates : Crates} {paths : ThreadPaths} {limits : BootstrapLimits} {script : TurnScript}
  {projected : Turn} {written : List TurnRecord} {files : ThreadDirectory} {state : Subscription}

theorem absent_foldl (absent : ∀ record ∈ written, record.turnId ≠ script.turn.id) :
    ∀ record ∈ written.foldl addRecord [], record.turnId ≠ script.turn.id := by
  have fold (records : List TurnRecord) : ∀ start : List TurnRecord,
      (∀ record ∈ start, record.turnId ≠ script.turn.id) →
      (∀ record ∈ records, record.turnId ≠ script.turn.id) →
      ∀ record ∈ records.foldl addRecord start, record.turnId ≠ script.turn.id := by
    induction records with
    | nil => exact fun start fresh _ => fresh
    | cons first rest ih =>
      intro start fresh others
      refine ih _ ?_ fun record member => others record (List.mem_cons_of_mem _ member)
      intro record member
      unfold addRecord at member
      split at member
      · exact fresh record member
      · rcases List.mem_append.1 member with old | new
        · exact fresh record old
        · rw [List.mem_singleton] at new
          subst new
          exact others record List.mem_cons_self
  exact fold written [] (fun record member => by cases member) absent

/-- The append puts the turn into the index and its payload beside it. -/
theorem Stored.append (stored : Stored crates paths script written files false)
    (absent : ∀ record ∈ written, record.turnId ≠ script.turn.id)
    (committed : CommittedTurn crates script.turn script.captured projected)
    (env : script.env = ⟨none, none, none⟩) :
    ∃ next, appendTurnUnlocked crates script.thread script.env files script.turn script.captured =
        (next, .ok ()) ∧ Stored crates paths script written next true := by
  obtain ⟨index, ends, payload⟩ := stored
  obtain ⟨bytes, diffs, wrote, listed, amended⟩ := @CommittedTurn.state crates
    (paths.turnPayload crates script.turn.id) _ _ _ committed
  obtain ⟨content, read, -⟩ := amended.read (fun item member => by
      rw [List.append_nil] at member
      exact ⟨committed.valid item member, committed.inline item member⟩)
    (fun entry member => committed.diffs _ (listed entry member)) false
  have appended : appendTurnUnlocked crates script.thread script.env files script.turn
      script.captured =
      (⟨files.metadata, appendIndex crates script.thread files.history ⟨script.turn, none⟩,
        Function.update files.turns script.turn.id (some bytes)⟩, .ok ()) := by
    unfold appendTurnUnlocked writePayload
    rw [payload, wrote, env]
  refine ⟨_, appended, ?_, ?_⟩
  · have full := @IndexState.full crates script.thread _ _ index script.turn ends
    rw [full.read (appendIndex_endsLine _ _), List.foldl_append, List.foldl_cons, List.foldl_nil,
      addRecord_fresh]
    intro member
    obtain ⟨record, listed', same⟩ := List.mem_map.1 member
    exact absent_foldl absent record listed' same
  · unfold ThreadDirectory.turn?
    dsimp only
    refine ⟨(TurnRecord.fromTurn script.turn).intoTurn content, ?_⟩
    have id : (TurnRecord.fromTurn script.turn).turnId = script.turn.id := rfl
    rw [id, Function.update_self, read]

/-- What the newest page shows of the turn, and that reading it changes nothing. -/
theorem Stored.load {appended : Bool} (stored : Stored crates paths script written files appended)
    (absent : ∀ record ∈ written, record.turnId ≠ script.turn.id) (moveFault : TurnId → Bool) :
    ∃ next delta, bootstrapHistory crates paths moveFault files none limits = (next, .ok delta) ∧
      Stored crates paths script written next appended ∧
      (InPage script delta ↔ 0 < limits.initialTurns ∧ appended = true) := by
  have shape {page : List Turn} {hasMore : Bool}
      (read : (loadHistory crates paths moveFault files none limits.initialTurns).2 =
        .ok (page, hasMore)) :
      bootstrapHistory crates paths moveFault files none limits =
        ((loadHistory crates paths moveFault files none limits.initialTurns).1,
          .ok ⟨page, true, some hasMore⟩) := by
    unfold bootstrapHistory
    dsimp only
    generalize loadHistory crates paths moveFault files none limits.initialTurns = outcome at read ⊢
    obtain ⟨next, result⟩ := outcome
    dsimp only at read
    subst read
    rfl
  rcases Nat.eq_zero_or_pos limits.initialTurns with zero | positive
  · have nothing {records : List TurnRecord}
        (loaded : loadTurnRecords crates (paths.history crates) files.history = .ok records) :
        ∃ delta, bootstrapHistory crates paths moveFault files none limits = (files, .ok delta) ∧
          ¬ InPage script delta := by
      obtain ⟨hasMore, read⟩ := @loadHistory_empty crates paths moveFault records files loaded
      rw [← zero] at read
      refine ⟨⟨[], true, some hasMore⟩, ?_, ?_⟩
      · rw [@shape [] hasMore (by rw [read]), read]
      · rintro ⟨turn, member, -⟩
        cases member
    cases appended with
    | false =>
      obtain ⟨delta, read, empty⟩ := nothing (stored.1.read stored.2.1 (paths.history crates))
      exact ⟨files, delta, read, stored, fun shown => absurd shown empty,
        fun wrong => by omega⟩
    | true =>
      obtain ⟨delta, read, empty⟩ := nothing stored.1
      exact ⟨files, delta, read, stored, fun shown => absurd shown empty,
        fun wrong => by omega⟩
  cases appended with
  | false =>
    obtain ⟨index, ends, payload⟩ := stored
    have loaded := index.read ends (paths.history crates)
    obtain ⟨page, hasMore, read, same, listed, -⟩ :=
      @loadHistory_newest crates paths moveFault _ limits.initialTurns files positive loaded
    refine ⟨_, _, shape read, ⟨?_, ?_, ?_⟩, ?_⟩
    · rw [same.history]
      exact index
    · rw [same.history]
      exact ends
    · unfold loadHistory
      rw [loaded]
      exact pageRecords_absent _ payload [] 0
    · constructor
      · rintro ⟨turn, member, id⟩
        obtain ⟨record, there, same'⟩ := listed turn member
        exact absurd (same'.symm.trans id) (absent_foldl absent record there)
      · rintro ⟨-, wrong⟩
        cases wrong
  | true =>
    obtain ⟨loaded, turn, read'⟩ := stored
    obtain ⟨page, hasMore, read, same, -, last⟩ :=
      @loadHistory_newest crates paths moveFault _ limits.initialTurns files positive loaded
    refine ⟨_, _, shape read, ⟨?_, turn, ?_⟩, ?_⟩
    · rw [same.history]
      exact loaded
    · rw [same.turns]
      exact read'
    · constructor
      · intro _
        exact ⟨positive, rfl⟩
      · intro _
        exact ⟨turn, last _ _ turn rfl read', turn?_id read'⟩

theorem Handed.forwarderStep (handed : Handed crates paths limits script written state)
    (absent : ∀ record ∈ written, record.turnId ≠ script.turn.id)
    (committed : CommittedTurn crates script.turn script.captured projected)
    (env : script.env = ⟨none, none, none⟩)
    (started : ∀ event ∈ script.events, ∀ thread other,
      liveEventOf event = .turnStarted thread other → other = script.turn.id) :
    Handed crates paths limits script written (Subscription.forwarderStep crates script state) := by
  have stored := handed.stored
  have live := handed.live
  have settled := handed.settled
  unfold Subscription.forwarderStep
  cases place : state.forwarder with
  | ready next =>
    rw [place] at stored live
    dsimp only
    cases there : script.events[next]? with
    | some event =>
      refine ⟨stored, ?_, (fun wrong => by cases wrong), handed.reads⟩
      intro _
      exact (live rfl).applyPreparedEvent event (started event (List.mem_of_getElem? there))
    | none =>
      obtain ⟨files, appended, stored'⟩ := stored.append absent committed env
      dsimp only
      rw [appended]
      exact ⟨stored', fun _ => live rfl, (fun wrong => by cases wrong), handed.reads⟩
  | applied next =>
    rw [place] at stored live
    exact ⟨stored, fun _ => live rfl, (fun wrong => by cases wrong), handed.reads⟩
  | appended =>
    rw [place] at stored
    exact ⟨stored, (fun wrong => by cases wrong), fun _ => settleCompletedTurn_live _ _ _,
      handed.reads⟩
  | settled =>
    rw [place] at stored settled
    exact ⟨stored, (fun wrong => by cases wrong), fun _ => settled rfl, handed.reads⟩
  | published => exact handed
  | blocked error => exact handed

theorem Handed.bootstrapStep (handed : Handed crates paths limits script written state)
    (absent : ∀ record ∈ written, record.turnId ≠ script.turn.id) (moveFault : TurnId → Bool) :
    Handed crates paths limits script written
      (Subscription.bootstrapStep crates paths limits script moveFault state) := by
  have reads := handed.reads
  unfold Subscription.bootstrapStep
  cases place : state.bootstrap with
  | start => exact ⟨handed.stored, handed.live, handed.settled, trivial⟩
  | registered =>
    obtain ⟨files, delta, loaded, stored, page⟩ :=
      @Stored.load crates paths limits script written state.files _ handed.stored absent moveFault
    dsimp only
    rw [loaded]
    exact ⟨stored, handed.live, handed.settled, page⟩
  | loaded delta readAt =>
    rw [place] at reads
    refine ⟨handed.stored, handed.live, handed.settled, reads, ?_⟩
    constructor
    · rintro ⟨taken, shown, -⟩
      by_contra settled
      rw [Bool.not_eq_false] at settled
      rw [LiveTurnState.snapshot, handed.settled settled] at shown
      cases shown
    · intro settled
      exact snapshot_turnId (handed.live settled) limits.tailItems
  | built delta snapshot readAt builtAt =>
    rw [place] at reads
    exact ⟨handed.stored, handed.live, handed.settled, reads⟩
  | sent delta snapshot readAt builtAt =>
    rw [place] at reads
    exact ⟨handed.stored, handed.live, handed.settled, reads⟩
  | enqueued delta snapshot readAt builtAt sentAt => exact handed
  | failed error => exact handed

end Handover

/-- What a bootstrap enqueues has the completing turn, in its page or in its snapshot, if and only
if it read a page with room after the append, or the snapshot before the settling. -/
theorem completing_turn_shown (crates : Crates) (paths : ThreadPaths) (limits : BootstrapLimits)
    (script : TurnScript) (projected : Turn) (written : List TurnRecord) (start : Subscription)
    (schedule : List SubscribeChoice) (fresh : Fresh start)
    (completing : Completing crates script projected written start)
    (delta : HistoryDelta) (snapshot : Option LiveTurnSnapshot)
    (readAt builtAt sentAt : ForwarderPlace)
    (enqueued : (Schedule.run (step crates paths limits script) start schedule).bootstrap =
      .enqueued delta snapshot readAt builtAt sentAt) :
    ((∃ turn ∈ delta.turns, turn.id = script.turn.id) ∨
      ∃ taken, snapshot = some taken ∧ taken.turnId = script.turn.id) ↔
    (0 < limits.initialTurns ∧ readAt.hasAppended = true) ∨ builtAt.hasSettled = false := by
  have first : Handed crates paths limits script written start := by
    have forwarder := fresh.forwarder
    refine ⟨?_, fun _ => completing.live, ?_, by rw [fresh.bootstrap]; trivial⟩
    · rw [forwarder]
      exact ⟨completing.index, completing.ends, completing.payload⟩
    · rw [forwarder]
      intro wrong
      cases wrong
  have handed : Handed crates paths limits script written
      (Schedule.run (step crates paths limits script) start schedule) :=
    Schedule.run_preserves first (fun _ choice handed => match choice with
      | .bootstrap moveFault => handed.bootstrapStep completing.absent moveFault
      | .forwarder => handed.forwarderStep completing.absent completing.committed completing.env
          completing.started) schedule
  have reads := handed.reads
  rw [enqueued] at reads
  obtain ⟨page, live⟩ := reads
  change InPage script delta ∨ InSnapshot script snapshot ↔ _
  rw [page, live]

/-! ## Samples -/

/-- A turn with one event to come. -/
def sampleScript : TurnScript where
  thread := ⟨⟨1⟩⟩
  userInput := none
  events := [(.notice ⟨⟨1⟩⟩ (some sampleAmendedTurn.id) "a", none)]
  turn := sampleAmendedTurn
  captured := []
  env := ⟨none, none, none⟩

/-- A thread without history whose first turn is live. -/
def sampleSubscription : Subscription where
  files := ⟨none, none, fun _ => none⟩
  entry := { ThreadRuntimeEntry.empty with
    live := LiveTurnState.empty.replaceTurnWithUserInput ⟨⟨1⟩⟩ sampleAmendedTurn.id none }
  registered := false
  queue := []
  forwarder := .ready 0
  bootstrap := .start

def sampleLimits : BootstrapLimits := ⟨5, 100⟩

def sampleThreadPaths : ThreadPaths := ⟨"threads", ⟨⟨1⟩⟩, .directory⟩

theorem sampleSubscription_fresh : Fresh sampleSubscription := ⟨rfl, rfl, rfl, rfl⟩

theorem sampleSubscription_completing :
    Completing Crates.reference sampleScript sampleAmendedTurn [] sampleSubscription where
  index := ⟨[], [], .nil, rfl, fun _ => ⟨rfl, rfl⟩⟩
  ends := .inl rfl
  absent := by
    intro record member
    cases member
  payload := rfl
  committed := sampleAmendedTurn_committed
  env := rfl
  live := ⟨_, rfl, rfl⟩
  started := by
    intro event member thread other same
    rw [sampleScript, List.mem_singleton] at member
    subst member
    cases same

/-- The steps of a bootstrap, some of which come before those of the forwarder. -/
def sampleSchedule (before during after : ℕ) : List SubscribeChoice :=
  List.replicate before (.bootstrap fun _ => false) ++ List.replicate during .forwarder ++
    List.replicate after (.bootstrap fun _ => false)

/-- The event is applied and published before the snapshot is built. -/
theorem subscriber_events_sample :
    ∃ delta snapshot readAt builtAt sentAt,
      let final := Schedule.run (step Crates.reference sampleThreadPaths sampleLimits sampleScript)
        sampleSubscription (sampleSchedule 2 2 3)
      final.bootstrap = .enqueued delta (some snapshot) readAt builtAt sentAt ∧
      (entryAfter sampleScript sampleSubscription.entry
        (builtAt.appliedCount sampleScript)).live.snapshot Crates.reference sampleScript.thread
        sampleLimits.tailItems = some snapshot ∧
      ((∀ index < final.forwarder.appliedCount sampleScript,
          index ∈ clientEvents final.queue) ↔
        sentAt.publishedCount sampleScript ≤ builtAt.appliedCount sampleScript) :=
  ⟨_, _, _, _, _, rfl, subscriber_events Crates.reference sampleThreadPaths sampleLimits sampleScript
    sampleSubscription (sampleSchedule 2 2 3) sampleSubscription_fresh
    (fun event member => by
      rw [sampleScript, List.mem_singleton] at member
      subst member
      rfl)
    _ _ _ _ _ rfl (fun next wrong => by cases wrong)⟩

/-- The event is applied and published between the building of the snapshot and its sending: the
browser ends without it. -/
theorem subscriber_events_lost :
    let final := Schedule.run (step Crates.reference sampleThreadPaths sampleLimits sampleScript)
      sampleSubscription (sampleSchedule 3 2 2)
    (∃ delta snapshot readAt builtAt sentAt,
      final.bootstrap = .enqueued delta (some snapshot) readAt builtAt sentAt) ∧
    final.forwarder.appliedCount sampleScript = 1 ∧ 0 ∉ clientEvents final.queue := by
  refine ⟨⟨_, _, _, _, _, rfl⟩, rfl, ?_⟩
  intro member
  cases member

/-- The turn is appended and settled between two reads of a bootstrap: it is in neither. -/
theorem completing_turn_hidden :
    ∃ delta readAt builtAt sentAt,
      (Schedule.run (step Crates.reference sampleThreadPaths sampleLimits sampleScript)
        sampleSubscription (sampleSchedule 2 4 3)).bootstrap =
          .enqueued delta none readAt builtAt sentAt ∧
      delta.turns = [] :=
  ⟨_, _, _, _, rfl, rfl⟩

/-- A bootstrap before the turn completes. -/
theorem completing_turn_shown_sample :
    ∃ delta snapshot readAt builtAt sentAt,
      (Schedule.run (step Crates.reference sampleThreadPaths sampleLimits sampleScript)
        sampleSubscription (sampleSchedule 3 4 2)).bootstrap =
          .enqueued delta snapshot readAt builtAt sentAt ∧
      (((∃ turn ∈ delta.turns, turn.id = sampleScript.turn.id) ∨
        ∃ taken, snapshot = some taken ∧ taken.turnId = sampleScript.turn.id) ↔
      (0 < sampleLimits.initialTurns ∧ readAt.hasAppended = true) ∨
        builtAt.hasSettled = false) :=
  ⟨_, _, _, _, _, rfl, completing_turn_shown Crates.reference sampleThreadPaths sampleLimits sampleScript
    sampleAmendedTurn [] sampleSubscription (sampleSchedule 3 4 2) sampleSubscription_fresh
    sampleSubscription_completing _ _ _ _ _ rfl⟩

end Subscription

end Giskard
