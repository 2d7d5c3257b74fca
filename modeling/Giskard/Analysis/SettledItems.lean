import Mathlib
import Giskard.Analysis.LiveReload

/-!
# Running tasks and settled items

The list of running tasks and the reconnect buffer both read the status of an item's latest
completion. They use two predicates for tool calls: a status of pending is running for the buffer
and not for the list.
-/

set_option autoImplicit false

namespace Giskard

open Foundation

namespace Analysis

variable {crates : Crates} {records : TurnRecords} {thread : ThreadId} {turnId : TurnId}
  {id : ItemId} {item : Item} {event : AgentEvent} {events : List (Int64 × AgentEvent)}

/-! ## Runs of a turn -/

/-- The records after events of a turn, each at a time of the clock. -/
def afterEvents (crates : Crates) (records : TurnRecords) (events : List (Int64 × AgentEvent)) :
    TurnRecords :=
  events.foldl (fun records entry => records.applyPreparedEvent crates entry.1 entry.2) records

/-- A run of one turn that has not completed, in which no command or tool call starts after it has
completed. -/
structure TurnRun (turnId : TurnId) (events : List (Int64 × AgentEvent)) : Prop where
  started : ∀ entry ∈ events, ∀ thread turn start,
    entry.2 = .itemStarted thread turn start → turn = turnId
  completed : ∀ entry ∈ events, ∀ thread turn item,
    entry.2 = .itemCompleted thread turn item → turn = turnId
  goesOn : ∀ entry ∈ events, ∀ thread turn usage status,
    entry.2 ≠ .turnCompleted thread turn usage status
  startsFirst : ∀ front entry back, events = front ++ entry :: back →
    ∀ thread turn start, entry.2 = .itemStarted thread turn start →
      start.command.isSome ∨ start.tool.isSome →
      ∀ earlier ∈ front, ¬LiveTurn.Completes start.id earlier.2

/-- Every completion of an item is one of a command or a tool call. -/
def TaskItem (events : List (Int64 × AgentEvent)) (id : ItemId) : Prop :=
  ∀ entry ∈ events, ∀ thread turn item, entry.2 = .itemCompleted thread turn item →
    item.id = id → (completedTask item).isSome

/-- A tool call whose status is pending. -/
def PendingTool : ItemPayload → Prop
  | .toolCall _ _ _ _ _ status _ _ _ =>
    ∃ value ∈ status, normalizedCommandStatus value = "pending"
  | _ => False

/-- An item that has completed is settled in the reconnect buffer just when it is not listed. -/
def TrackersAgree (records : TurnRecords) (turnId : TurnId) (id : ItemId) : Prop :=
  ∀ entry, records.live.item id = some entry → entry.completed.isSome →
    (entry.isSettled = true ↔ records.tasks.tasks.get? (turnId, id) = none)

/-! ## Statuses -/

/-- Whether the reconnect buffer takes an item for settled. -/
def settles (item : Item) : Bool :=
  LiveItemEntry.isSettled ⟨item.id, ⟨⟨0⟩⟩, ⟨⟨0⟩⟩, none, some item, [], []⟩

/-- Whether the completion of a task leaves it running. -/
def listed (completed : CompletedTask) : Bool := completed.status.any commandStatusIsRunning

theorem toolStatusIsRunning_iff (status : String) :
    toolStatusIsRunning status = true ↔
      commandStatusIsRunning status = true ∨ normalizedCommandStatus status = "pending" := by
  unfold toolStatusIsRunning commandStatusIsRunning
  rw [List.contains_cons, Bool.or_eq_true, beq_iff_eq, or_comm]

theorem commandStatusIsRunning_pending {status : String}
    (pending : normalizedCommandStatus status = "pending") :
    commandStatusIsRunning status = false := by
  unfold commandStatusIsRunning
  rw [pending]
  decide +kernel

/-- For a command or a tool call, settled and listed exclude each other just when it is not a
pending tool call. -/
theorem settles_iff {completed : CompletedTask} (task : completedTask item = some completed) :
    (settles item = true ↔ listed completed = false) ↔ ¬PendingTool item.payload := by
  obtain ⟨itemId, harnessItemId, payload, createdAt⟩ := item
  cases payload with
  | commandExecution command description cwd output truncated bytes lines exitCode status =>
    cases task
    refine iff_of_true ?_ not_false
    change (!status.any commandStatusIsRunning) = true ↔ status.any commandStatusIsRunning = false
    rw [Bool.not_eq_true']
  | toolCall name description input output server status =>
    cases task
    change ((!status.any toolStatusIsRunning) = true ↔ status.any commandStatusIsRunning = false) ↔
      ¬∃ value ∈ status, normalizedCommandStatus value = "pending"
    cases status with
    | none =>
      refine iff_of_true ⟨fun _ => rfl, fun _ => rfl⟩ ?_
      rintro ⟨_, member, -⟩
      cases member
    | some status =>
      have classes := toolStatusIsRunning_iff status
      rw [Option.any_some, Option.any_some, Bool.not_eq_true']
      by_cases pending : normalizedCommandStatus status = "pending"
      · refine iff_of_false ?_ (not_not.2 ⟨status, rfl, pending⟩)
        rw [commandStatusIsRunning_pending pending, classes.2 (.inr pending)]
        exact fun same => Bool.noConfusion (same.2 rfl)
      · rw [or_iff_left pending, ← Bool.eq_iff_iff] at classes
        rw [classes]
        refine iff_of_true Iff.rfl ?_
        rintro ⟨value, member, same⟩
        cases member
        exact pending same
  | _ => cases task

/-! ## One event -/

theorem insertTask_get? (tasks : IndexMap (TurnId × ItemId) RunningTask)
    (key other : TurnId × ItemId) (task : RunningTask) :
    (RunningTaskState.insertTask tasks key task).1.get? other =
      if other = key then some task else tasks.get? other :=
  tasks.get?_insert key other task

/-- A completion of a task lists it or not. -/
theorem get?_itemCompleted {completed : CompletedTask} (nowMs : Int64)
    (tasks : IndexMap (TurnId × ItemId) RunningTask) (task : completedTask item = some completed) :
    ((RunningTaskState.applyEventInner nowMs tasks (.itemCompleted thread turnId item)).1.get?
      (turnId, item.id)).isSome = listed completed := by
  unfold RunningTaskState.applyEventInner listed
  dsimp only
  rw [task]
  dsimp only
  cases completed.status with
  | none =>
    change ((tasks.shiftRemove (turnId, item.id)).get? (turnId, item.id)).isSome = false
    rw [IndexMap.get?_shiftRemove, if_pos rfl]
    rfl
  | some status =>
    dsimp only
    rw [Option.any_some]
    cases running : commandStatusIsRunning status with
    | false =>
      rw [if_pos (by decide)]
      change ((tasks.shiftRemove (turnId, item.id)).get? (turnId, item.id)).isSome = false
      rw [IndexMap.get?_shiftRemove, if_pos rfl]
      rfl
    | true =>
      rw [if_neg (by decide), insertTask_get?, if_pos rfl]
      rfl

/-- An event that neither completes nor starts a task of an item leaves the item's entry alone. -/
theorem get?_applyEventInner (nowMs : Int64) (tasks : IndexMap (TurnId × ItemId) RunningTask)
    (goesOn : ¬LiveTurn.Completes id event)
    (open_ : ∀ thread turn usage status, event ≠ .turnCompleted thread turn usage status)
    (fresh : ∀ thread turn start, event = .itemStarted thread turn start →
      start.command.isSome ∨ start.tool.isSome → start.id ≠ id) :
    (RunningTaskState.applyEventInner nowMs tasks event).1.get? (turnId, id) =
      tasks.get? (turnId, id) := by
  cases event with
  | itemStarted thread turn start =>
    unfold RunningTaskState.applyEventInner
    dsimp only
    cases begun : startedTask nowMs thread turn start with
    | none => rfl
    | some task =>
      have described : start.command.isSome ∨ start.tool.isSome := by
        unfold startedTask at begun
        split at begun
        · next command => exact .inl (by rw [command]; rfl)
        · next tool => exact .inr (by rw [tool]; rfl)
        · cases begun
      dsimp only
      rw [insertTask_get?, if_neg]
      exact fun same => fresh thread turn start rfl described (Prod.ext_iff.1 same).2.symm
  | itemCompleted thread turn item =>
    have apart : (turnId, id) ≠ (turn, item.id) :=
      fun same => goesOn (Prod.ext_iff.1 same).2.symm
    unfold RunningTaskState.applyEventInner
    dsimp only
    cases completedTask item with
    | none => rfl
    | some completed =>
      dsimp only
      cases completed.status with
      | none =>
        change (tasks.shiftRemove (turn, item.id)).get? (turnId, id) = _
        rw [IndexMap.get?_shiftRemove, if_neg apart]
      | some status =>
        dsimp only
        split
        · change (tasks.shiftRemove (turn, item.id)).get? (turnId, id) = _
          rw [IndexMap.get?_shiftRemove, if_neg apart]
        · rw [insertTask_get?, if_neg apart]
  | turnCompleted thread turn usage status => exact absurd rfl (open_ thread turn usage status)
  | _ => rfl

theorem completes_prepared (event : AgentEvent) :
    LiveTurn.Completes id (((prepareItemOutputs crates event).bind fun prepared =>
      prepared.liveEvent).getD event) → LiveTurn.Completes id event := by
  cases event with
  | itemCompleted thread turn item =>
    obtain ⟨itemId, harnessItemId, payload, createdAt⟩ := item
    cases payload with
    | commandExecution command description cwd output truncated bytes lines =>
      unfold prepareItemOutputs
      dsimp only
      cases commandOutputDescriptor output truncated bytes lines true <;> exact fun same => same
    | _ => exact fun same => same
  | _ => exact fun same => same

theorem settles_stored (live : LiveTurn) (item : Item) (tool : Option ToolOutputDescriptor) :
    settles (live.storeOutputs (liveItem item) (liveCommand item) tool).2 = settles item := by
  obtain ⟨itemId, harnessItemId, payload, createdAt⟩ := item
  cases payload with
  | commandExecution command description cwd output truncated bytes lines exitCode status =>
    unfold liveItem LiveTurn.storeOutputs
    dsimp only
    cases liveCommand _ <;> rfl
  | _ => rfl

/-! ## Runs -/

/-- The item that an event completes, if it is this one. -/
def completionOf (id : ItemId) : AgentEvent → Option Item
  | .itemCompleted _ _ item => if item.id = id then some item else none
  | _ => none

/-- The last completion of an item in a run. -/
def lastOf (events : List (Int64 × AgentEvent)) (id : ItemId) : Option Item :=
  (events.filterMap fun entry => completionOf id entry.2).getLast?

/-- What the records have of an item, by its last completion. -/
def Tracked (records : TurnRecords) (turnId : TurnId) (id : ItemId) : Option Item → Prop
  | none => records.live.completedOf id = none
  | some item =>
    (∃ stored, records.live.completedOf id = some stored ∧ settles stored = settles item) ∧
      ∃ completed, completedTask item = some completed ∧
        (records.tasks.tasks.get? (turnId, id)).isSome = listed completed

theorem completionOf_eq_some :
    completionOf id event = some item ↔
      ∃ thread turn, event = .itemCompleted thread turn item ∧ item.id = id := by
  constructor
  · intro found
    cases event with
    | itemCompleted thread turn other =>
      dsimp only [completionOf] at found
      split at found
      · next same =>
        cases found
        exact ⟨thread, turn, rfl, same⟩
      · cases found
    | _ => cases found
  · rintro ⟨thread, turn, rfl, same⟩
    exact if_pos same

theorem completionOf_eq_none : completionOf id event = none ↔ ¬LiveTurn.Completes id event := by
  cases event with
  | itemCompleted thread turn other =>
    dsimp only [completionOf, LiveTurn.Completes]
    split
    · next same => exact iff_of_false (fun found => nomatch found) (not_not.2 same)
    · next apart => exact iff_of_true rfl apart
  | _ => exact iff_of_true rfl not_false

theorem lastOf_concat (entry : Int64 × AgentEvent) :
    lastOf (events ++ [entry]) id = (completionOf id entry.2).or (lastOf events id) := by
  unfold lastOf
  rw [List.filterMap_append, List.filterMap_cons, List.filterMap_nil]
  cases completionOf id entry.2 with
  | none => rw [List.append_nil, Option.none_or]
  | some item => rw [List.getLast?_concat, Option.some_or]

theorem lastOf_eq_some (found : lastOf events id = some item) :
    ∃ entry ∈ events, ∃ thread turn, entry.2 = .itemCompleted thread turn item ∧ item.id = id := by
  obtain ⟨entry, member, completion⟩ := List.mem_filterMap.1 (List.mem_of_getLast? found)
  exact ⟨entry, member, completionOf_eq_some.1 completion⟩

/-- The records of an item say whether its last completion was a pending tool call. -/
theorem trackersAgree_iff {last : Option Item} (tracked : Tracked records turnId id last) :
    TrackersAgree records turnId id ↔ ∀ item, last = some item → ¬PendingTool item.payload := by
  cases last with
  | none =>
    refine iff_of_true ?_ fun _ found => nomatch found
    intro entry found completed
    have nothing : entry.completed = none := by
      have absent : records.live.completedOf id = none := tracked
      unfold LiveTurn.completedOf at absent
      rwa [found, Option.bind_some] at absent
    rw [nothing] at completed
    cases completed
  | some item =>
    obtain ⟨⟨stored, kept, same⟩, completed, task, there⟩ := tracked
    unfold LiveTurn.completedOf at kept
    obtain ⟨entry, found, holds⟩ := Option.bind_eq_some_iff.1 kept
    have settled : entry.isSettled = settles item := by
      rw [← same]
      unfold settles LiveItemEntry.isSettled
      rw [holds]
    have agree : TrackersAgree records turnId id ↔ (settles item = true ↔ listed completed = false) := by
      unfold TrackersAgree
      rw [← settled, ← there, Option.isSome_eq_false_iff, Option.isNone_iff_eq_none]
      constructor
      · intro all
        exact all entry found (by rw [holds]; rfl)
      · intro one entry' found' _
        cases found.symm.trans found'
        exact one
    rw [agree, settles_iff task]
    constructor
    · rintro quiet _ ⟨⟩
      exact quiet
    · intro all
      exact all item rfl

theorem TurnRun.front {front back : List (Int64 × AgentEvent)}
    (run : TurnRun turnId (front ++ back)) : TurnRun turnId front where
  started entry member := run.started entry (List.mem_append_left _ member)
  completed entry member := run.completed entry (List.mem_append_left _ member)
  goesOn entry member := run.goesOn entry (List.mem_append_left _ member)
  startsFirst first entry rest same :=
    run.startsFirst first entry (rest ++ back) (by rw [same, List.append_assoc, List.cons_append])

theorem valid_afterEvents (valid : records.live.Valid) (events : List (Int64 × AgentEvent)) :
    (afterEvents crates records events).live.Valid := by
  induction events generalizing records with
  | nil => exact valid
  | cons entry events ih => exact ih (LiveTurn.valid_appendEvent valid _ _ _)

/-- One more event of a run. -/
theorem tracked_step {entry : Int64 × AgentEvent} (valid : records.live.Valid)
    (run : TurnRun turnId (events ++ [entry])) (task : TaskItem (events ++ [entry]) id)
    (tracked : Tracked records turnId id (lastOf events id)) :
    Tracked (records.applyPreparedEvent crates entry.1 entry.2) turnId id
      (lastOf (events ++ [entry]) id) := by
  obtain ⟨nowMs, event⟩ := entry
  have last : (nowMs, event) ∈ events ++ [(nowMs, event)] :=
    List.mem_append_right _ List.mem_cons_self
  rw [lastOf_concat]
  cases completion : completionOf id event with
  | some item =>
    obtain ⟨thread, turn, rfl, rfl⟩ := completionOf_eq_some.1 completion
    obtain rfl := run.completed _ last thread turn item rfl
    obtain ⟨completed, isTask⟩ :=
      Option.isSome_iff_exists.1 (task _ last thread turn item rfl rfl)
    refine ⟨?_, completed, isTask, get?_itemCompleted nowMs records.tasks.tasks isTask⟩
    have named : (liveItem item).id = item.id := by
      unfold liveItem
      split <;> rfl
    refine ⟨_, ?_, settles_stored records.live item
      ((keptTool crates item).map RuntimeToolOutput.descriptor)⟩
    rw [applyPreparedEvent_live, ← named, LiveTurn.completedOf_completeItem valid]
  | none =>
    have goesOn := completionOf_eq_none.1 completion
    have live : (records.applyPreparedEvent crates nowMs event).live.completedOf id =
        records.live.completedOf id :=
      LiveTurn.completedOf_appendEvent valid fun same => goesOn (completes_prepared event same)
    rw [Option.none_or]
    cases found : lastOf events id with
    | none =>
      rw [found] at tracked
      exact live.trans tracked
    | some item =>
      rw [found] at tracked
      obtain ⟨stored, completed, isTask, there⟩ := tracked
      refine ⟨by rw [live]; exact stored, completed, isTask, ?_⟩
      rw [← there]
      congr 1
      apply get?_applyEventInner nowMs records.tasks.tasks goesOn
      · exact fun thread turn usage status => run.goesOn _ last thread turn usage status
      · -- The item has completed before, so nothing starts it now.
        intro thread turn start same described named
        obtain ⟨earlier, member, _, _, completes, itemId⟩ := lastOf_eq_some found
        apply run.startsFirst events _ [] rfl thread turn start same described earlier member
        rw [completes]
        exact itemId.trans named.symm

theorem tracked_afterEvents (valid : records.live.Valid)
    (fresh : records.live.completedOf id = none) (run : TurnRun turnId events)
    (task : TaskItem events id) :
    Tracked (afterEvents crates records events) turnId id (lastOf events id) := by
  induction events using List.reverseRecOn with
  | nil => exact fresh
  | append_singleton events entry ih =>
    have before := ih run.front fun entry member =>
      task entry (List.mem_append_left _ member)
    unfold afterEvents
    rw [List.foldl_concat]
    exact tracked_step (valid_afterEvents valid events) run task before

/-- In a run of a turn that has not completed, after every event the commands and tool calls that
have completed are settled in the reconnect buffer just when they are not listed as running, exactly
if none of them completes as a tool call with a pending status. SOURCE: tasks.rs:29-205,
live.rs:340-362. -/
theorem trackers_agree_iff (crates : Crates) (turnId : TurnId) (userInput : Option UserInput)
    (outputs : ItemOutputState) (tasks : RunningTaskState) (events : List (Int64 × AgentEvent))
    (run : TurnRun turnId events) :
    (∀ done, done <+: events → ∀ id, TaskItem events id →
      TrackersAgree (afterEvents crates ⟨outputs, tasks, LiveTurn.new turnId userInput⟩ done)
        turnId id) ↔
      ∀ entry ∈ events, ∀ thread turn item, entry.2 = .itemCompleted thread turn item →
        TaskItem events item.id → ¬PendingTool item.payload := by
  have valid := LiveTurn.valid_new turnId userInput
  have tracked (done rest : List (Int64 × AgentEvent)) (whole : done ++ rest = events) (id : ItemId)
      (task : TaskItem events id) :
      Tracked (afterEvents crates ⟨outputs, tasks, LiveTurn.new turnId userInput⟩ done) turnId id
        (lastOf done id) := by
    subst whole
    exact tracked_afterEvents valid rfl run.front fun entry member =>
      task entry (List.mem_append_left _ member)
  constructor
  · intro agree entry member thread turn item completion task
    obtain ⟨front, back, rfl⟩ := List.append_of_mem member
    have whole : front ++ [entry] ++ back = front ++ entry :: back := by
      rw [List.append_assoc, List.singleton_append]
    have mine := tracked (front ++ [entry]) back whole item.id task
    refine (trackersAgree_iff mine).1 (agree _ ⟨back, whole⟩ item.id task) item ?_
    rw [lastOf_concat, completionOf_eq_some.2 ⟨thread, turn, completion, rfl⟩, Option.some_or]
  · rintro quiet done ⟨rest, whole⟩ id task
    apply (trackersAgree_iff (tracked done rest whole id task)).2
    intro item found
    obtain ⟨entry, member, thread, turn, completion, rfl⟩ := lastOf_eq_some found
    exact quiet entry (whole ▸ List.mem_append_left _ member) thread turn item completion task

/-- A tool call that completes with a status. -/
def sampleTool (status : String) : Item where
  id := ⟨⟨7⟩⟩
  harnessItemId := "h"
  payload := .toolCall "fetch" none .null none none (some status) none none none
  createdAt := ⟨0, 0⟩

/-- The completion of one tool call. -/
def sampleToolRun (status : String) : List (Int64 × AgentEvent) :=
  [(0, .itemCompleted sampleThread sampleTurn (sampleTool status))]

theorem turnRun_sampleToolRun (status : String) : TurnRun sampleTurn (sampleToolRun status) where
  started entry member := by
    rw [List.mem_singleton.1 member]
    rintro _ _ _ ⟨⟩
  completed entry member := by
    rw [List.mem_singleton.1 member]
    rintro _ _ _ ⟨⟩
    rfl
  goesOn entry member := by
    rw [List.mem_singleton.1 member]
    rintro _ _ _ _ ⟨⟩
  startsFirst front entry back same := by
    have member : entry ∈ sampleToolRun status := by
      rw [same]
      exact List.mem_append_right _ List.mem_cons_self
    rw [List.mem_singleton.1 member]
    rintro _ _ _ ⟨⟩

theorem trackers_agree_iff_sample :
    (∀ done, done <+: sampleToolRun "completed" → ∀ id, TaskItem (sampleToolRun "completed") id →
      TrackersAgree (afterEvents Crates.reference ⟨ItemOutputState.empty, RunningTaskState.empty,
        LiveTurn.new sampleTurn none⟩ done) sampleTurn id) ↔
      ∀ entry ∈ sampleToolRun "completed", ∀ thread turn item,
        entry.2 = .itemCompleted thread turn item →
        TaskItem (sampleToolRun "completed") item.id → ¬PendingTool item.payload :=
  trackers_agree_iff Crates.reference sampleTurn none ItemOutputState.empty RunningTaskState.empty
    (sampleToolRun "completed") (turnRun_sampleToolRun "completed")

/-- A tool call that completes with the status pending is not settled and not listed. -/
theorem pending_tool_is_lost :
    ¬TrackersAgree (afterEvents Crates.reference ⟨ItemOutputState.empty, RunningTaskState.empty,
      LiveTurn.new sampleTurn none⟩ (sampleToolRun "pending")) sampleTurn
        (sampleTool "pending").id := by
  have task : TaskItem (sampleToolRun "pending") (sampleTool "pending").id := by
    intro entry member thread turn item same _
    rw [List.mem_singleton.1 member] at same
    cases same
    rfl
  have tracked := @tracked_afterEvents Crates.reference ⟨ItemOutputState.empty,
    RunningTaskState.empty, LiveTurn.new sampleTurn none⟩ sampleTurn (sampleTool "pending").id
    (sampleToolRun "pending") (LiveTurn.valid_new sampleTurn none) rfl
    (turnRun_sampleToolRun "pending") task
  intro agree
  refine (trackersAgree_iff tracked).1 agree (sampleTool "pending") rfl ⟨"pending", rfl, ?_⟩
  decide +kernel

end Analysis

end Giskard
