import Mathlib
import Giskard.Foundation.IndexMap
import Giskard.Model.ItemOutputs

/-!
# The running tasks of a thread

The commands and tool calls that the browser lists as running. A start with a running status adds a
task, a completion with a running status keeps it, and every other completion of a command or a tool
call removes it.

`TurnRecords` puts the three records side by side that the runtime keeps of a turn's items: the
outputs, the running tasks and the reconnect buffer. They take the same events.

The map of tasks is one in insertion order. A time of the clock comes with each event.

SOURCE: crates/giskard-server/src/thread_runtime/tasks.rs, crates/giskard-server/src/thread_runtime.rs,
crates/giskard-proto/src/lib.rs:280-317.
-/

set_option autoImplicit false

namespace Giskard

open Foundation

/-- SOURCE: lib.rs:284-288. -/
inductive TaskKind where
  | command
  | tool
  deriving DecidableEq

/-- SOURCE: lib.rs:293-317. -/
structure RunningTask where
  kind : TaskKind
  threadId : ThreadId
  turnId : TurnId
  itemId : ItemId
  harnessItemId : String
  command : String
  description : Option String
  cwd : String
  server : Option String
  status : String
  processId : Option String
  startedAtMs : Int64
  afterTurn : Bool
  terminating : Bool
  deriving DecidableEq

/-- What a completion says of a task. SOURCE: tasks.rs:292-300. -/
structure CompletedTask where
  kind : TaskKind
  command : String
  description : Option String
  cwd : String
  server : Option String
  status : Option String
  processId : Option String

/-- SOURCE: tasks.rs:12-16. -/
structure RunningTaskState where
  tasks : IndexMap (TurnId × ItemId) RunningTask
  revision : UInt64

/-- The task of a start, if its status is running. SOURCE: tasks.rs:39-91. -/
def startedTask (nowMs : Int64) (thread : ThreadId) (turn : TurnId) (item : ItemStart) :
    Option RunningTask :=
  match item.command, item.tool with
  | some command, _ =>
    let status := command.status.getD "in_progress"
    if !commandStatusIsRunning status then none
    else some
      { kind := .command
        threadId := thread
        turnId := turn
        itemId := item.id
        harnessItemId := item.harnessItemId
        command := command.command
        description := command.description
        cwd := command.cwd
        server := none
        status := status
        processId := command.processId
        startedAtMs := command.startedAtMs.getD nowMs
        afterTurn := false
        terminating := false }
  | none, some tool =>
    let status := tool.status.getD "in_progress"
    if !commandStatusIsRunning status then none
    else some
      { kind := .tool
        threadId := thread
        turnId := turn
        itemId := item.id
        harnessItemId := item.harnessItemId
        command := tool.name
        description := tool.description
        cwd := ""
        server := tool.server
        status := status
        processId := none
        startedAtMs := tool.startedAtMs.getD nowMs
        afterTurn := false
        terminating := false }
  | none, none => none

/-- SOURCE: tasks.rs:92-124. -/
def completedTask (item : Item) : Option CompletedTask :=
  match item.payload with
  | .commandExecution command description cwd _ _ _ _ _ status processId _ =>
    some ⟨.command, command, description, cwd, none, status, processId⟩
  | .toolCall name description _ _ server status _ _ _ =>
    some ⟨.tool, name, description, "", server, status, none⟩
  | _ => none

/-- A task that goes on, with what its entry says already. SOURCE: tasks.rs:136-171. -/
def CompletedTask.resume (completed : CompletedTask) (nowMs : Int64) (thread : ThreadId)
    (turn : TurnId) (item : Item) (status : String) (old : Option RunningTask) : RunningTask :=
  { kind := completed.kind
    threadId := thread
    turnId := turn
    itemId := item.id
    harnessItemId := item.harnessItemId
    command := completed.command
    description := completed.description.or (old.bind RunningTask.description)
    cwd := completed.cwd
    server := completed.server
    status := status
    processId := completed.processId
    startedAtMs := (old.map RunningTask.startedAtMs).getD nowMs
    afterTurn := (old.map RunningTask.afterTurn).getD false
    terminating := (old.map RunningTask.terminating).getD false }

namespace RunningTaskState

def empty : RunningTaskState := ⟨IndexMap.empty, 0⟩

/-- Insert a task, and whether it differs from the one that was there. -/
def insertTask (tasks : IndexMap (TurnId × ItemId) RunningTask) (key : TurnId × ItemId)
    (task : RunningTask) : IndexMap (TurnId × ItemId) RunningTask × Bool :=
  (tasks.insert key task, decide (tasks.get? key ≠ some task))

/-- Remove a task, and whether there was one. -/
def removeTask (tasks : IndexMap (TurnId × ItemId) RunningTask) (key : TurnId × ItemId) :
    IndexMap (TurnId × ItemId) RunningTask × Bool :=
  (tasks.shiftRemove key, (tasks.get? key).isSome)

/-- A running tool call of a turn. SOURCE: tasks.rs:178-183. -/
def endsWithTurn (thread : ThreadId) (turn : TurnId) (task : RunningTask) : Bool :=
  decide (task.threadId = thread) && decide (task.turnId = turn) && decide (task.kind = .tool) &&
    commandStatusIsRunning task.status

/-- A running command of a turn that is not marked yet. SOURCE: tasks.rs:190-197. -/
def outlivesTurn (thread : ThreadId) (turn : TurnId) (task : RunningTask) : Bool :=
  decide (task.threadId = thread) && decide (task.turnId = turn) &&
    decide (task.kind = .command) && commandStatusIsRunning task.status && !task.afterTurn

/-- SOURCE: tasks.rs:37-205. -/
def applyEventInner (nowMs : Int64) (tasks : IndexMap (TurnId × ItemId) RunningTask) :
    AgentEvent → IndexMap (TurnId × ItemId) RunningTask × Bool
  | .itemStarted thread turn item => match startedTask nowMs thread turn item with
    | some task => insertTask tasks (turn, item.id) task
    | none => (tasks, false)
  | .itemCompleted thread turn item => match completedTask item with
    | none => (tasks, false)
    | some completed => match completed.status with
      | none => removeTask tasks (turn, item.id)
      | some status =>
        if !commandStatusIsRunning status then removeTask tasks (turn, item.id)
        else insertTask tasks (turn, item.id)
          (completed.resume nowMs thread turn item status (tasks.get? (turn, item.id)))
  | .turnCompleted thread turn _ _ =>
    let kept := tasks.retain fun _ task => !endsWithTurn thread turn task
    let marked := kept.mapValues fun task =>
      if outlivesTurn thread turn task then { task with afterTurn := true } else task
    (marked, tasks.values.any (endsWithTurn thread turn) || kept.values.any (outlivesTurn thread turn))
  | _ => (tasks, false)

/-- SOURCE: tasks.rs:29-35. -/
def applyEvent (state : RunningTaskState) (nowMs : Int64) (event : AgentEvent) :
    RunningTaskState × Bool :=
  let (tasks, changed) := applyEventInner nowMs state.tasks event
  (⟨tasks, if changed then saturatingSucc state.revision else state.revision⟩, changed)

/-- SOURCE: tasks.rs:236-246. -/
def getByItem (state : RunningTaskState) (threadId : ThreadId) (turnId : TurnId)
    (itemId : ItemId) : Option RunningTask :=
  (state.tasks.get? (turnId, itemId)).filter fun task => task.threadId = threadId

end RunningTaskState

/-- The records of the items of a live turn. SOURCE: thread_runtime.rs:856-936. -/
structure TurnRecords where
  outputs : ItemOutputState
  tasks : RunningTaskState
  live : LiveTurn

/-- The turn's event reaches the outputs and the tasks, and the reconnect buffer with what was
prepared of it. SOURCE: thread_runtime.rs:856-936. -/
def TurnRecords.applyPreparedEvent (crates : Crates) (nowMs : Int64) (records : TurnRecords)
    (event : AgentEvent) : TurnRecords :=
  let prepared := prepareItemOutputs crates event
  { outputs := records.outputs.applyEvent crates event prepared
    tasks := (records.tasks.applyEvent nowMs event).1
    live := records.live.appendEvent
      ((prepared.bind fun prepared => prepared.liveEvent).getD event)
      (prepared.bind fun prepared => prepared.commandDescriptor)
      (prepared.bind fun prepared => prepared.toolDescriptor) }

end Giskard
