import Mathlib
import Giskard.Model.ItemOutputs

/-!
# Prepared and plain outputs

What the runtime keeps of a completed item depends on its payload alone: the output of a command
that is not running and whose counts are complete, the output of a tool call that is not running.
Both paths write the two slots of the item, so they agree because they classify alike.
-/

set_option autoImplicit false

namespace Giskard

open Foundation

namespace Analysis

variable {crates : Crates} {state : ItemOutputState} {key other : TurnId × ItemId}

/-! ## One entry -/

theorem entry_write (outputs : ItemOutputs) :
    (state.write key outputs).entry other = if other = key then outputs else state.entry other := by
  unfold ItemOutputState.entry ItemOutputState.write
  dsimp only
  by_cases same : other = key
  · subst same
    rw [Function.update_self, if_pos rfl]
    obtain ⟨command, tool⟩ := outputs
    cases command with
    | some output => rfl
    | none => cases tool <;> rfl
  · rw [Function.update_of_ne same, if_neg same]

theorem commandOutput_eq (turnId : TurnId) (id : ItemId) :
    state.commandOutput turnId id = (state.entry (turnId, id)).command := by
  unfold ItemOutputState.commandOutput ItemOutputState.entry
  cases state.items (turnId, id) <;> rfl

theorem toolOutput_eq (turnId : TurnId) (id : ItemId) :
    state.toolOutput turnId id = (state.entry (turnId, id)).tool := by
  unfold ItemOutputState.toolOutput ItemOutputState.entry
  cases state.items (turnId, id) <;> rfl

theorem entry_setTool_setCommand (command : Option RuntimeCommandOutput)
    (tool : Option RuntimeToolOutput) :
    ((state.setCommand key command).setTool key tool).entry other =
      if other = key then ⟨command, tool⟩ else state.entry other := by
  unfold ItemOutputState.setTool ItemOutputState.setCommand
  rw [entry_write, entry_write, entry_write, if_pos rfl]
  split <;> rfl

/-! ## What is kept of an item -/

/-- The tool output that is kept of an item. -/
def keptTool (crates : Crates) (item : Item) : Option RuntimeToolOutput :=
  match item.payload with
  | .toolCall _ _ _ output _ status _ _ _ =>
    if status.any toolStatusIsRunning then none else output.map (runtimeToolOutput crates)
  | _ => none

/-- A command that is not running, with the counts that a truncated output needs. -/
def HasCommandOutput : ItemPayload → Prop
  | .commandExecution _ _ _ _ outputTruncated outputOriginalBytes outputOriginalLines _ status _ _ =>
    (∀ value ∈ status, commandStatusIsRunning value = false) ∧
      (outputTruncated = true → outputOriginalBytes.isSome ∧ outputOriginalLines.isSome)
  | _ => False

/-- A tool call that is not running, with an output. -/
def HasToolOutput : ItemPayload → Prop
  | .toolCall _ _ _ output _ status _ _ _ =>
    (∀ value ∈ status, toolStatusIsRunning value = false) ∧ output.isSome
  | _ => False

theorem any_eq_false_iff {status : Option String} {isRunning : String → Bool} :
    status.any isRunning = false ↔ ∀ value ∈ status, isRunning value = false := by
  cases status <;> simp

theorem validateCommandOutputMetadata_iff {outputTruncated : Bool}
    {outputOriginalBytes outputOriginalLines : Option UInt64} :
    validateCommandOutputMetadata outputTruncated outputOriginalBytes outputOriginalLines = .ok () ↔
      (outputTruncated = true → outputOriginalBytes.isSome ∧ outputOriginalLines.isSome) := by
  cases outputTruncated <;> cases outputOriginalBytes <;> cases outputOriginalLines <;>
    simp [validateCommandOutputMetadata]

theorem commandOutputDescriptor_isOk_iff {output : String} {outputTruncated : Bool}
    {outputOriginalBytes outputOriginalLines : Option UInt64} {available : Bool} :
    (∃ descriptor, commandOutputDescriptor output outputTruncated outputOriginalBytes
        outputOriginalLines available = .ok descriptor) ↔
      (outputTruncated = true → outputOriginalBytes.isSome ∧ outputOriginalLines.isSome) := by
  rw [← validateCommandOutputMetadata_iff]
  unfold commandOutputDescriptor
  cases valid : validateCommandOutputMetadata outputTruncated outputOriginalBytes
      outputOriginalLines with
  | error e => exact iff_of_false (fun ⟨_, same⟩ => nomatch same) (fun same => nomatch same)
  | ok _ => exact iff_of_true ⟨_, rfl⟩ rfl

theorem preparedCommandOutput_isSome_iff (item : Item) :
    (preparedCommandOutput crates item).isSome ↔ HasCommandOutput item.payload := by
  unfold preparedCommandOutput HasCommandOutput
  cases item.payload with
  | commandExecution command description cwd output truncated bytes lines exitCode status =>
    dsimp only
    rw [← any_eq_false_iff, ← @commandOutputDescriptor_isOk_iff output truncated bytes lines true]
    cases commandOutputDescriptor output truncated bytes lines true with
    | error e => exact iff_of_false (fun none => nomatch none) (fun ⟨_, _, same⟩ => nomatch same)
    | ok descriptor =>
      cases status.any commandStatusIsRunning with
      | true => exact iff_of_false (fun none => nomatch none) (fun ⟨running, _⟩ => nomatch running)
      | false => exact iff_of_true rfl ⟨rfl, descriptor, rfl⟩
  | _ => exact iff_of_false (fun none => nomatch none) id

theorem keptTool_isSome_iff (item : Item) :
    (keptTool crates item).isSome ↔ HasToolOutput item.payload := by
  unfold keptTool HasToolOutput
  cases item.payload with
  | toolCall name description input output server status =>
    dsimp only
    rw [← any_eq_false_iff]
    cases status.any toolStatusIsRunning with
    | true => exact iff_of_false (fun none => nomatch none) (fun ⟨running, _⟩ => nomatch running)
    | false =>
      rw [if_neg Bool.false_ne_true, Option.isSome_map]
      exact ⟨fun some_ => ⟨rfl, some_⟩, And.right⟩
  | _ => exact iff_of_false (fun none => nomatch none) id

/-! ## The two paths -/

theorem applyCompletedItem_eq (turnId : TurnId) (item : Item) :
    state.applyCompletedItem crates turnId item =
      (state.setCommand (turnId, item.id) (preparedCommandOutput crates item)).setTool (turnId, item.id)
        (keptTool crates item) := by
  have command : state.updateCommandOutputAuthority crates turnId item =
      state.setCommand (turnId, item.id) (preparedCommandOutput crates item) := by
    unfold ItemOutputState.updateCommandOutputAuthority preparedCommandOutput
    cases item.payload with
    | commandExecution command description cwd output truncated bytes lines exitCode status =>
      dsimp only
      cases commandOutputDescriptor output truncated bytes lines true with
      | error e => split <;> rfl
      | ok descriptor => split <;> rfl
    | _ => rfl
  have tool (state : ItemOutputState) : state.updateToolOutputAuthority crates turnId item =
      state.setTool (turnId, item.id) (keptTool crates item) := by
    unfold ItemOutputState.updateToolOutputAuthority keptTool
    cases item.payload with
    | toolCall name description input output server status =>
      dsimp only
      cases output <;> split <;> rfl
    | _ => rfl
  unfold ItemOutputState.applyCompletedItem
  rw [command, tool]

/-- What is prepared of an item is what is kept of it. -/
theorem prepareItemOutputs_runtime {thread : ThreadId} {turnId : TurnId} {item : Item}
    {prepared : PreparedOutputs}
    (done : prepareItemOutputs crates (.itemCompleted thread turnId item) = some prepared) :
    prepared.turnId = turnId ∧ prepared.itemId = item.id ∧
      prepared.commandRuntime = preparedCommandOutput crates item ∧
      prepared.toolRuntime = keptTool crates item := by
  unfold prepareItemOutputs at done
  unfold preparedCommandOutput keptTool
  dsimp only at done
  cases payload : item.payload with
  | commandExecution command description cwd output truncated bytes lines exitCode status =>
    rw [payload] at done
    dsimp only at done
    cases found : commandOutputDescriptor output truncated bytes lines true with
    | error e =>
      rw [found] at done
      cases done
      refine ⟨rfl, rfl, ?_, rfl⟩
      dsimp only
      rw [found]
    | ok descriptor =>
      rw [found] at done
      cases done
      refine ⟨rfl, rfl, ?_, rfl⟩
      dsimp only
      rw [found]
  | toolCall name description input output server status =>
    rw [payload] at done
    cases done
    refine ⟨rfl, rfl, rfl, ?_⟩
    dsimp only
    cases output <;> cases status.any toolStatusIsRunning <;> rfl
  | _ =>
    rw [payload] at done
    cases done

theorem applyEvent_itemCompleted (thread : ThreadId) (turnId : TurnId) (item : Item) :
    state.applyEvent crates (.itemCompleted thread turnId item)
        (prepareItemOutputs crates (.itemCompleted thread turnId item)) =
      (state.setCommand (turnId, item.id) (preparedCommandOutput crates item)).setTool (turnId, item.id)
        (keptTool crates item) := by
  unfold ItemOutputState.applyEvent
  cases done : prepareItemOutputs crates (.itemCompleted thread turnId item) with
  | none => exact applyCompletedItem_eq turnId item
  | some prepared =>
    obtain ⟨turn, id, command, tool⟩ := prepareItemOutputs_runtime done
    dsimp only
    unfold ItemOutputState.applyPrepared
    rw [turn, id, command, tool]

/-- Whatever the outputs were, an item's completion leaves the same outputs with and without
preparation, and then the item has a command output just when it is a command that is not running
and has complete counts, and a tool output just when it is a tool call that is not running and has
an output. SOURCE: outputs.rs:105-322, thread_runtime.rs:925-935. -/
theorem prepared_outputs_agree (crates : Crates) (state : ItemOutputState) (thread : ThreadId)
    (turnId : TurnId) (item : Item) :
    state.applyEvent crates (.itemCompleted thread turnId item)
        (prepareItemOutputs crates (.itemCompleted thread turnId item)) =
      state.applyCompletedItem crates turnId item ∧
    (((state.applyCompletedItem crates turnId item).commandOutput turnId item.id).isSome ↔
      HasCommandOutput item.payload) ∧
    (((state.applyCompletedItem crates turnId item).toolOutput turnId item.id).isSome ↔
      HasToolOutput item.payload) := by
  refine ⟨?_, ?_, ?_⟩
  · rw [applyEvent_itemCompleted, applyCompletedItem_eq]
  · rw [commandOutput_eq, applyCompletedItem_eq, entry_setTool_setCommand, if_pos rfl,
      preparedCommandOutput_isSome_iff]
  · rw [toolOutput_eq, applyCompletedItem_eq, entry_setTool_setCommand, if_pos rfl,
      keptTool_isSome_iff]

end Analysis

end Giskard
