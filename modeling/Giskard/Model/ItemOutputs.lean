import Mathlib
import Giskard.Model.EventForwarder
import Giskard.Model.OutputRoute

/-!
# The live outputs of a thread

The runtime keeps the command and tool outputs of the completed items of its turns. A completed item
arrives as it is, or with what `prepareItemOutputs` has projected of it outside the lock. The two
paths classify an item on their own.

The map is a function. Printing a JSON value cannot fail, so the branches for a failed
serialization are left out, and so are log lines.

SOURCE: crates/giskard-server/src/thread_runtime/outputs.rs.
-/

set_option autoImplicit false

namespace Giskard

open Foundation

/-- SOURCE: outputs.rs:14-21. -/
abbrev RuntimeCommandOutput := LoadedCommandOutput

/-- SOURCE: outputs.rs:23-27. -/
structure RuntimeToolOutput where
  bytes : List UInt8
  descriptor : ToolOutputDescriptor
  deriving DecidableEq

/-- SOURCE: outputs.rs:29-34. -/
structure ItemOutputs where
  command : Option RuntimeCommandOutput
  tool : Option RuntimeToolOutput
  deriving DecidableEq

/-- SOURCE: outputs.rs:37-39. -/
def ItemOutputs.isEmpty (outputs : ItemOutputs) : Bool :=
  outputs.command.isNone && outputs.tool.isNone

/-- What is prepared of an item, with the outputs that the runtime keeps. SOURCE:
outputs.rs:42-51. -/
structure PreparedOutputs extends PreparedItemOutput where
  turnId : TurnId
  itemId : ItemId
  commandRuntime : Option RuntimeCommandOutput
  toolRuntime : Option RuntimeToolOutput
  commandItem : Bool

/-- SOURCE: outputs.rs:63-66. -/
structure ItemOutputState where
  items : TurnId × ItemId → Option ItemOutputs

/-- A tool's output as the runtime keeps it. SOURCE: item.rs:264-280. -/
def runtimeToolOutput (crates : Crates) (output : Json) : RuntimeToolOutput :=
  ⟨output.print.flatMap String.utf8EncodeChar, serializeToolOutput crates output⟩

namespace ItemOutputState

def empty : ItemOutputState := ⟨fun _ => none⟩

/-- The entry of a key, an empty one if there is none. -/
def entry (state : ItemOutputState) (key : TurnId × ItemId) : ItemOutputs :=
  (state.items key).getD ⟨none, none⟩

/-- Write an entry; an empty one is removed. -/
def write (state : ItemOutputState) (key : TurnId × ItemId) (outputs : ItemOutputs) :
    ItemOutputState :=
  ⟨Function.update state.items key (if outputs.isEmpty then none else some outputs)⟩

/-- SOURCE: outputs.rs:69-75. -/
def setCommand (state : ItemOutputState) (key : TurnId × ItemId)
    (output : Option RuntimeCommandOutput) : ItemOutputState :=
  state.write key { state.entry key with command := output }

/-- SOURCE: outputs.rs:77-83. -/
def setTool (state : ItemOutputState) (key : TurnId × ItemId)
    (output : Option RuntimeToolOutput) : ItemOutputState :=
  state.write key { state.entry key with tool := output }

/-- SOURCE: outputs.rs:85-93. -/
def commandOutput (state : ItemOutputState) (turnId : TurnId) (itemId : ItemId) :
    Option RuntimeCommandOutput :=
  (state.items (turnId, itemId)).bind ItemOutputs.command

/-- SOURCE: outputs.rs:95-103. -/
def toolOutput (state : ItemOutputState) (turnId : TurnId) (itemId : ItemId) :
    Option RuntimeToolOutput :=
  (state.items (turnId, itemId)).bind ItemOutputs.tool

/-- SOURCE: outputs.rs:105-120. -/
def applyPrepared (state : ItemOutputState) (prepared : PreparedOutputs) : ItemOutputState :=
  let key := (prepared.turnId, prepared.itemId)
  (state.setCommand key prepared.commandRuntime).setTool key prepared.toolRuntime

variable (crates : Crates)

/-- SOURCE: outputs.rs:135-177. -/
def updateCommandOutputAuthority (state : ItemOutputState) (turnId : TurnId) (item : Item) :
    ItemOutputState :=
  match item.payload with
  | .commandExecution _ _ _ output outputTruncated outputOriginalBytes outputOriginalLines _ status
      _ _ =>
    if status.any commandStatusIsRunning then state.setCommand (turnId, item.id) none
    else match commandOutputDescriptor output outputTruncated outputOriginalBytes
        outputOriginalLines true with
      | .error _ => state.setCommand (turnId, item.id) none
      | .ok descriptor => state.setCommand (turnId, item.id) (some
          { output := output
            outputTruncated := outputTruncated
            originalBytes := descriptor.originalBytes
            originalLines := descriptor.originalLines
            version := commandOutputVersion crates output })
  | _ => state.setCommand (turnId, item.id) none

/-- SOURCE: outputs.rs:179-220. -/
def updateToolOutputAuthority (state : ItemOutputState) (turnId : TurnId) (item : Item) :
    ItemOutputState :=
  let key := (turnId, item.id)
  match item.payload with
  | .toolCall _ _ _ output _ status _ _ _ =>
    if status.any toolStatusIsRunning then state.setTool key none
    else match output with
      | none => state.setTool key none
      | some output => state.setTool key (some (runtimeToolOutput crates output))
  | _ => state.setTool key none

/-- SOURCE: outputs.rs:122-133. -/
def applyCompletedItem (state : ItemOutputState) (turnId : TurnId) (item : Item) :
    ItemOutputState :=
  (state.updateCommandOutputAuthority crates turnId item).updateToolOutputAuthority crates turnId
    item

/-- SOURCE: outputs.rs:222-225. -/
def clearTurn (state : ItemOutputState) (turnId : TurnId) : ItemOutputState :=
  ⟨fun key => if key.1 = turnId then none else state.items key⟩

/-- What an event does to the outputs, with what was prepared of it. SOURCE:
thread_runtime.rs:925-935. -/
def applyEvent (state : ItemOutputState) (event : AgentEvent)
    (prepared : Option PreparedOutputs) : ItemOutputState :=
  match event with
  | .itemCompleted _ turn item => match prepared with
    | some prepared => state.applyPrepared prepared
    | none => state.applyCompletedItem crates turn item
  | _ => state

end ItemOutputState

/-- SOURCE: outputs.rs:233-322. -/
def prepareItemOutputs (crates : Crates) : AgentEvent → Option PreparedOutputs
  | .itemCompleted thread turn item => match item.payload with
    | .toolCall name description input output server status metadata subagent error =>
      let terminal := !status.any toolStatusIsRunning
      let prepared := (output.filter fun _ => terminal).map (runtimeToolOutput crates)
      let live := ItemPayload.toolCall name description input none server status metadata subagent
        error
      some
        { turnId := turn
          itemId := item.id
          commandRuntime := none
          commandDescriptor := none
          toolRuntime := prepared
          toolDescriptor := prepared.map RuntimeToolOutput.descriptor
          commandItem := false
          liveEvent := some (.itemCompleted thread turn { item with payload := live }) }
    | .commandExecution command description cwd output outputTruncated outputOriginalBytes
        outputOriginalLines exitCode status processId durationMs =>
      match commandOutputDescriptor output outputTruncated outputOriginalBytes
          outputOriginalLines true with
      | .ok descriptor =>
        let runtime : RuntimeCommandOutput :=
          { output := output
            outputTruncated := outputTruncated
            originalBytes := descriptor.originalBytes
            originalLines := descriptor.originalLines
            version := commandOutputVersion crates output }
        let live := ItemPayload.commandExecution command description cwd descriptor.preview
          outputTruncated outputOriginalBytes outputOriginalLines exitCode status processId
          durationMs
        some
          { turnId := turn
            itemId := item.id
            commandRuntime := if status.any commandStatusIsRunning then none else some runtime
            commandDescriptor := some descriptor
            toolRuntime := none
            toolDescriptor := none
            commandItem := true
            liveEvent := some (.itemCompleted thread turn { item with payload := live }) }
      | .error _ => some
        { turnId := turn
          itemId := item.id
          commandRuntime := none
          commandDescriptor := none
          toolRuntime := none
          toolDescriptor := none
          commandItem := true
          liveEvent := some (.itemCompleted thread turn item) }
    | _ => none
  | _ => none

end Giskard
