import Mathlib
import Giskard.Analysis.ItemOutputs
import Giskard.Analysis.LiveItems
import Giskard.Analysis.OutputPreviews
import Giskard.Model.RunningTasks

/-!
# An item live and after a reload

The live turn stores a completion without its output, keeps the output's descriptor beside it and
joins the two when the browser asks; a persisted item is projected as a whole. Both say the same of
every item except a command that completes while it is still running: its descriptor is prepared as
if the output could be fetched.
-/

set_option autoImplicit false

namespace Giskard

open Foundation

namespace Analysis

variable {crates : Crates} {turn : LiveTurn} {thread threadId : ThreadId} {turnId : TurnId}
  {id other : ItemId} {item last : Item} {wire : WireItem}

/-! ## What is served of an item -/

/-- An item's latest completion as a live turn serves it. -/
def servedItem (crates : Crates) (turn : LiveTurn) (id : ItemId) : Option WireItem :=
  (turn.item id).bind fun entry => entry.wireCompleted crates turn

/-- The command output that a wire item describes. -/
def describedCommand (wire : WireItem) : Option CommandOutputDescriptor :=
  match wire.payload with
  | .commandExecution _ _ _ output _ _ _ _ => some output
  | _ => none

/-- The tool output that a wire item describes. -/
def describedTool (wire : WireItem) : Option ToolOutputDescriptor :=
  match wire.payload with
  | .toolCall _ _ _ output _ _ _ _ _ => output
  | _ => none

/-- Snapshots and pages of a live turn serve an item as this one. -/
structure Serves (crates : Crates) (threadId : ThreadId) (turn : LiveTurn) (id : ItemId)
    (wire : WireItem) : Prop where
  entry : servedItem crates turn id = some wire
  snapshot : ∀ tailItems thread turnId item,
    .itemCompleted thread turnId item ∈
      (LiveTurnState.snapshotTurn crates threadId turn tailItems).accumulated →
    item.id = id → item = wire
  page : ∀ turnId before limit page,
    LiveTurnState.itemsPage crates ⟨some threadId, some turn⟩ threadId turnId before limit =
      .page page →
    ∀ item ∈ page.items, item.id = id → item = wire

/-- A completed item looks the same live and after a reload, and its descriptors say which outputs
the runtime has. -/
structure MatchesReload (crates : Crates) (threadId : ThreadId) (turnId : TurnId)
    (records : TurnRecords) (last : Item) : Prop where
  served : Serves crates threadId records.live last.id (WireItem.fromPersistedItem crates last)
  command : ((describedCommand (WireItem.fromPersistedItem crates last)).any fun descriptor =>
      descriptor.outputAvailable) = (records.outputs.commandOutput turnId last.id).isSome
  tool : ((describedTool (WireItem.fromPersistedItem crates last)).map fun descriptor =>
      descriptor.version) = (records.outputs.toolOutput turnId last.id).map fun output =>
        output.descriptor.version

theorem item_id (valid : turn.Valid) {entry : LiveItemEntry} (found : turn.item id = some entry) :
    ∃ slot : ℕ, turn.entries[slot]? = some (LiveEntry.item entry) ∧ entry.id = id := by
  unfold LiveTurn.item at found
  obtain ⟨slot, slots, at_⟩ := Option.bind_eq_some_iff.1 found
  obtain ⟨entry', at', here, same⟩ := valid.itemAt_of_slots slots
  rw [at'] at at_
  cases at_
  exact ⟨slot, here, same⟩

theorem item_of_mem (valid : turn.Valid) {entry : LiveItemEntry} {index : ℕ}
    (here : turn.entries[index]? = some (LiveEntry.item entry)) : turn.item entry.id = some entry := by
  unfold LiveTurn.item LiveTurn.itemAt
  rw [valid.slots_of_mem here, Option.bind_some, here]
  rfl

/-- Whatever carries an item carries what its entry serves. -/
theorem serves_of_entry (valid : turn.Valid) (served : servedItem crates turn id = some wire) :
    Serves crates threadId turn id wire := by
  obtain ⟨entry, found, completed⟩ := Option.bind_eq_some_iff.1 served
  obtain ⟨index, here, same⟩ := item_id valid found
  refine ⟨served, ?_, ?_⟩
  · intro tailItems thread turnId item member named
    have inside : WireAgentEvent.itemCompleted thread turnId item ∈
        (LiveTurnState.snapshotTurn crates threadId turn tailItems).accumulated.filter
          fun event => event.itemId = some entry.id := by
      rw [List.mem_filter, decide_eq_true_eq, same, ← named]
      exact ⟨member, rfl⟩
    rw [LiveTurn.snapshotTurn_filter valid threadId tailItems here] at inside
    split at inside
    · unfold LiveItemEntry.expand at inside
      rw [completed, Option.map_some, List.mem_append, List.mem_append] at inside
      rcases inside with (start | completion) | delta
      · obtain ⟨core, kept, sent⟩ := Option.bind_eq_some_iff.1 (Option.mem_toList.1 start)
        obtain ⟨_, -, rfl⟩ := Option.map_eq_some_iff.1 kept
        cases sent
      · rw [Option.toList_some, List.mem_singleton] at completion
        cases completion
        rfl
      · obtain ⟨_, -, sent⟩ := List.mem_filterMap.1 delta
        cases sent
    · cases inside
  · intro turnId before limit page paged item member named
    unfold LiveTurnState.itemsPage at paged
    split at paged
    · cases paged
    · next live found' =>
      obtain ⟨current, -⟩ := Option.filter_eq_some_iff.1 found'
      have at_ : live = turn := by
        unfold LiveTurnState.turnOf at current
        rw [if_pos rfl] at current
        exact (Option.some.inj current).symm
      subst at_
      dsimp only at paged
      split at paged
      · cases paged
      · cases paged
        rw [List.mem_reverse] at member
        obtain ⟨entry', inside, sent⟩ := List.mem_filterMap.1 member
        have settled := List.mem_of_mem_take inside
        unfold LiveTurnState.settledBefore at settled
        obtain ⟨⟨index', entry''⟩, there, rfl⟩ := List.mem_map.1 settled
        rw [List.mem_reverse] at there
        have at_ := LiveTurn.mem_indexedItems.1 (List.mem_filter.1 there).1
        have entryValid := valid.entryValid (List.mem_of_getElem? at_)
        have identifier := LiveItemEntry.wireCompleted_id entryValid sent
        have again := item_of_mem valid at_
        rw [← identifier, named, found] at again
        cases again
        rw [completed] at sent
        exact (Option.some.inj sent).symm

/-! ## A completion in the live turn -/

theorem modifyEntry_descriptors (change : LiveItemEntry → LiveItemEntry) :
    (turn.modifyEntry thread turnId id change).commandOutputDescriptors =
        turn.commandOutputDescriptors ∧
      (turn.modifyEntry thread turnId id change).toolOutputDescriptors =
        turn.toolOutputDescriptors := by
  unfold LiveTurn.modifyEntry LiveTurn.entryFor LiveTurn.pushEntry
  split
  next turn' slot entry found =>
  split at found
  · split at found
    · cases found
      exact ⟨rfl, rfl⟩
    · cases found
      exact ⟨rfl, rfl⟩
  · cases found
    exact ⟨rfl, rfl⟩

theorem storeOutputs_toolOutputDescriptors (commandOutput : Option CommandOutputDescriptor)
    (toolOutput : Option ToolOutputDescriptor) (apart : other ≠ item.id) :
    (turn.storeOutputs item commandOutput toolOutput).1.toolOutputDescriptors other =
      turn.toolOutputDescriptors other := by
  unfold LiveTurn.storeOutputs
  split
  · rfl
  · exact Function.update_of_ne apart _ _
  · rfl

/-- After a completion its item is served from what was stored, and the others as before. -/
theorem servedItem_completeItem (valid : turn.Valid)
    (commandOutput : Option CommandOutputDescriptor) (toolOutput : Option ToolOutputDescriptor) :
    servedItem crates (turn.completeItem thread turnId item commandOutput toolOutput) other =
      if other = item.id then
        some (WireItem.fromItemWithOutputs crates
          (turn.storeOutputs item commandOutput toolOutput).2
          ((turn.storeOutputs item commandOutput toolOutput).1.commandOutputDescriptors item.id)
          ((turn.storeOutputs item commandOutput toolOutput).1.toolOutputDescriptors
            item.id)).withReasoningPreview
      else servedItem crates turn other := by
  obtain ⟨-, -, -, -, -, same⟩ := turn.storeOutputs_spec item commandOutput toolOutput
  have descriptors : (turn.completeItem thread turnId item commandOutput
      toolOutput).commandOutputDescriptors =
        (turn.storeOutputs item commandOutput toolOutput).1.commandOutputDescriptors ∧
      (turn.completeItem thread turnId item commandOutput toolOutput).toolOutputDescriptors =
        (turn.storeOutputs item commandOutput toolOutput).1.toolOutputDescriptors := by
    unfold LiveTurn.completeItem
    exact modifyEntry_descriptors _
  unfold servedItem
  rw [LiveTurn.item_completeItem valid]
  split
  · have named : ((turn.item item.id).getD (turn.freshEntry thread turnId item.id)).id =
        item.id := by
      cases found : turn.item item.id with
      | none => exact LiveTurn.freshEntry_id turn thread turnId item.id
      | some entry =>
        obtain ⟨-, -, entry_id⟩ := item_id valid found
        exact entry_id
    rw [Option.bind_some]
    unfold LiveItemEntry.wireCompleted
    dsimp only
    rw [named, descriptors.1, descriptors.2, Option.map_some]
  · next apart =>
    cases found : turn.item other with
    | none => rfl
    | some entry =>
      obtain ⟨-, -, entry_id⟩ := item_id valid found
      rw [Option.bind_some, Option.bind_some]
      unfold LiveItemEntry.wireCompleted
      rw [entry_id, descriptors.1, descriptors.2,
        LiveTurn.storeOutputs_commandOutputDescriptors turn item commandOutput toolOutput apart,
        storeOutputs_toolOutputDescriptors commandOutput toolOutput apart]

/-! ## A prepared completion -/

theorem commandOutputDescriptor_fromDurable {output : String} {truncated available : Bool}
    {bytes lines : Option UInt64} {descriptor : CommandOutputDescriptor}
    (built : commandOutputDescriptor output truncated bytes lines available = .ok descriptor) :
    descriptor = CommandOutputDescriptor.fromDurable output truncated
      (resolveCommandOutputCounts output truncated bytes lines).1
      (resolveCommandOutputCounts output truncated bytes lines).2 available := by
  unfold commandOutputDescriptor at built
  cases valid : validateCommandOutputMetadata truncated bytes lines with
  | error e =>
    rw [valid] at built
    cases built
  | ok _ =>
    rw [valid] at built
    have same := Except.ok.inj built
    rw [← same]
    unfold Giskard.descriptor CommandOutputDescriptor.fromDurable
    dsimp only
    rw [commandOutputTailPreview_flag]
    rfl

/-- An item as the live turn serves it: a command's output is described as one that is there. -/
def shownItem (crates : Crates) (item : Item) : WireItem :=
  match item.payload with
  | .commandExecution command description cwd output outputTruncated outputOriginalBytes
      outputOriginalLines exitCode status processId durationMs =>
    let counts := resolveCommandOutputCounts output outputTruncated outputOriginalBytes
      outputOriginalLines
    { id := item.id
      harnessItemId := item.harnessItemId
      payload := .commandExecution command description cwd
        (CommandOutputDescriptor.fromDurable output outputTruncated counts.1 counts.2 true)
        exitCode status processId durationMs
      createdAt := item.createdAt }
  | _ => WireItem.fromPersistedItem crates item

/-- The counts of a truncated command output are there. -/
def HasCounts : ItemPayload → Prop
  | .commandExecution _ _ _ _ outputTruncated outputOriginalBytes outputOriginalLines _ _ _ _ =>
    outputTruncated = true → outputOriginalBytes.isSome ∧ outputOriginalLines.isSome
  | _ => True

/-- A command whose status is one of a running command. -/
def RunningCommand : ItemPayload → Prop
  | .commandExecution _ _ _ _ _ _ _ _ status _ _ => status.any commandStatusIsRunning = true
  | _ => False

/-- The descriptor that is prepared of a command's output. -/
def liveCommand (item : Item) : Option CommandOutputDescriptor :=
  match item.payload with
  | .commandExecution _ _ _ output outputTruncated outputOriginalBytes outputOriginalLines _ _ _ _ =>
    (commandOutputDescriptor output outputTruncated outputOriginalBytes outputOriginalLines
      true).toOption
  | _ => none

/-- An item with its output taken out. -/
def liveItem (item : Item) : Item :=
  match item.payload with
  | .toolCall name description input _ server status metadata subagent error =>
    { item with
      payload := .toolCall name description input none server status metadata subagent error }
  | .commandExecution command description cwd output outputTruncated outputOriginalBytes
      outputOriginalLines exitCode status processId durationMs =>
    { item with
      payload := .commandExecution command description cwd
        (((liveCommand item).map CommandOutputDescriptor.preview).getD output) outputTruncated
        outputOriginalBytes outputOriginalLines exitCode status processId durationMs }
  | _ => item

theorem applyPreparedEvent_live (records : TurnRecords) (nowMs : Int64) (item : Item) :
    (records.applyPreparedEvent crates nowMs (.itemCompleted thread turnId item)).live =
      records.live.completeItem thread turnId (liveItem item) (liveCommand item)
        ((keptTool crates item).map RuntimeToolOutput.descriptor) := by
  obtain ⟨id, harnessItemId, payload, createdAt⟩ := item
  cases payload with
  | commandExecution command description cwd output truncated bytes lines exitCode status processId
      durationMs =>
    unfold TurnRecords.applyPreparedEvent prepareItemOutputs liveItem liveCommand keptTool
    dsimp only
    cases commandOutputDescriptor output truncated bytes lines true <;> rfl
  | toolCall name description input output server status metadata subagent error =>
    unfold TurnRecords.applyPreparedEvent prepareItemOutputs liveItem liveCommand keptTool
    dsimp only
    cases output <;> cases status.any toolStatusIsRunning <;> rfl
  | _ => rfl

/-- After a prepared completion its item is served as shown, and the others as before. -/
theorem servedItem_applyPreparedEvent {records : TurnRecords} (valid : records.live.Valid)
    (nowMs : Int64) (counts : HasCounts item.payload) :
    servedItem crates
        (records.applyPreparedEvent crates nowMs (.itemCompleted thread turnId item)).live other =
      if other = item.id then some (shownItem crates item)
      else servedItem crates records.live other := by
  have same : (liveItem item).id = item.id := by
    unfold liveItem
    split <;> rfl
  rw [applyPreparedEvent_live, servedItem_completeItem valid, same]
  congr 2
  obtain ⟨id, harnessItemId, payload, createdAt⟩ := item
  cases payload with
  | commandExecution command description cwd output truncated bytes lines exitCode status =>
    obtain ⟨descriptor, built⟩ := (@commandOutputDescriptor_isOk_iff output truncated bytes lines
      true).2 counts
    unfold liveItem liveCommand LiveTurn.storeOutputs
    dsimp only
    rw [built]
    dsimp only [Except.toOption]
    rw [Function.update_self, commandOutputDescriptor_fromDurable built]
    rfl
  | toolCall name description input output server status metadata subagent error =>
    unfold liveItem liveCommand LiveTurn.storeOutputs keptTool shownItem
    dsimp only
    rw [Function.update_self]
    unfold WireItem.fromPersistedItem Item.toWire ItemPayload.toWire
    dsimp only
    cases output <;> cases status with
    | none => rfl
    | some status =>
      cases running : toolStatusIsRunning status <;> simp [running] <;> rfl
  | _ =>
    -- A descriptor of an earlier completion may still be there; only commands look at it.
    change (WireItem.fromItemWithOutputs crates _ (records.live.commandOutputDescriptors id)
      (records.live.toolOutputDescriptors id)).withReasoningPreview = _
    cases records.live.commandOutputDescriptors id <;> rfl

/-! ## Live and persisted -/

theorem describedCommand_fromPersistedItem (counts : HasCounts item.payload) :
    ((describedCommand (WireItem.fromPersistedItem crates item)).any fun descriptor =>
      descriptor.outputAvailable) = (preparedCommandOutput crates item).isSome := by
  rw [Bool.eq_iff_iff, preparedCommandOutput_isSome_iff]
  obtain ⟨id, harnessItemId, payload, createdAt⟩ := item
  cases payload with
  | commandExecution command description cwd output truncated bytes lines exitCode status =>
    change status.all (fun value => !commandStatusIsRunning value) = true ↔ _ ∧ _
    have complete : truncated = true → bytes.isSome ∧ lines.isSome := counts
    rw [and_iff_left complete]
    cases status <;> simp
  | reasoning text =>
    refine iff_of_false ?_ not_false
    unfold WireItem.fromPersistedItem WireItem.withReasoningPreview Item.toWire ItemPayload.toWire
    dsimp only
    split <;> exact Bool.false_ne_true
  | _ => exact iff_of_false Bool.false_ne_true not_false

theorem describedTool_fromPersistedItem (item : Item) :
    describedTool (WireItem.fromPersistedItem crates item) =
      (keptTool crates item).map RuntimeToolOutput.descriptor := by
  obtain ⟨id, harnessItemId, payload, createdAt⟩ := item
  cases payload with
  | toolCall name description input output server status =>
    change (output.bind fun value => if status.all (fun value => !toolStatusIsRunning value) then
      some (serializeToolOutput crates value) else none) = _
    unfold keptTool
    cases output <;> cases status with
    | none => rfl
    | some status =>
      cases running : toolStatusIsRunning status <;> simp [running] <;> rfl
  | reasoning text =>
    unfold WireItem.fromPersistedItem WireItem.withReasoningPreview Item.toWire ItemPayload.toWire
    dsimp only
    split <;> rfl
  | _ => rfl

theorem shownItem_eq (settled : ¬RunningCommand item.payload) :
    shownItem crates item = WireItem.fromPersistedItem crates item := by
  obtain ⟨id, harnessItemId, payload, createdAt⟩ := item
  cases payload with
  | commandExecution command description cwd output truncated bytes lines exitCode status =>
    have available : (status.all fun value => !commandStatusIsRunning value) = true := by
      have quiet : ¬status.any commandStatusIsRunning = true := settled
      cases status with
      | none => rfl
      | some value => simpa using quiet
    unfold shownItem WireItem.fromPersistedItem Item.toWire ItemPayload.toWire
    dsimp only
    rw [available]
    rfl
  | _ => rfl

theorem shownItem_ne (running : RunningCommand item.payload) :
    shownItem crates item ≠ WireItem.fromPersistedItem crates item := by
  obtain ⟨id, harnessItemId, payload, createdAt⟩ := item
  cases payload with
  | commandExecution command description cwd output truncated bytes lines exitCode status =>
    intro same
    have available := congrArg (fun wire => (describedCommand wire).any fun descriptor =>
      descriptor.outputAvailable) same
    change true = status.all (fun value => !commandStatusIsRunning value) at available
    have busy : status.any commandStatusIsRunning = true := running
    cases status with
    | none => cases busy
    | some value =>
      rw [Option.any_some] at busy
      rw [Option.all_some, busy] at available
      cases available
  | _ => exact absurd running not_false

theorem matchesReload_iff {records : TurnRecords} (valid : records.live.Valid)
    (counts : HasCounts last.payload)
    (served : servedItem crates records.live last.id = some (shownItem crates last))
    (kept : records.outputs.entry (turnId, last.id) =
      ⟨preparedCommandOutput crates last, keptTool crates last⟩) :
    MatchesReload crates threadId turnId records last ↔ ¬RunningCommand last.payload := by
  constructor
  · intro reload running
    have shown := served.symm.trans reload.served.entry
    exact shownItem_ne running (Option.some.inj shown)
  · intro settled
    rw [shownItem_eq settled] at served
    refine ⟨serves_of_entry valid served, ?_, ?_⟩
    · rw [describedCommand_fromPersistedItem counts, commandOutput_eq, kept]
    · rw [describedTool_fromPersistedItem, toolOutput_eq, kept, Option.map_map]
      rfl

/-! ## Runs of completions -/

/-- The records after completions of a turn, each at a time of the clock. -/
def afterCompletions (crates : Crates) (thread : ThreadId) (turnId : TurnId)
    (records : TurnRecords) (items : List (Int64 × Item)) : TurnRecords :=
  items.foldl (fun records entry => records.applyPreparedEvent crates entry.1
    (.itemCompleted thread turnId entry.2)) records

/-- The last completion of an item. -/
def lastCompletion (items : List (Int64 × Item)) (id : ItemId) : Option Item :=
  (items.reverse.find? fun entry => entry.2.id = id).map Prod.snd

theorem lastCompletion_concat (items : List (Int64 × Item)) (entry : Int64 × Item) :
    lastCompletion (items ++ [entry]) id =
      if entry.2.id = id then some entry.2 else lastCompletion items id := by
  unfold lastCompletion
  rw [List.reverse_concat, List.find?_cons]
  by_cases same : entry.2.id = id
  · rw [if_pos same, decide_eq_true same]
    rfl
  · rw [if_neg same, decide_eq_false same]

theorem lastCompletion_id {items : List (Int64 × Item)} (found : lastCompletion items id = some last) :
    last.id = id ∧ ∃ entry ∈ items, entry.2 = last := by
  obtain ⟨entry, here, rfl⟩ := Option.map_eq_some_iff.1 found
  have named := List.find?_some here
  exact ⟨of_decide_eq_true named, entry, List.mem_reverse.1 (List.mem_of_find?_eq_some here), rfl⟩

theorem valid_afterCompletions {records : TurnRecords} (valid : records.live.Valid)
    (items : List (Int64 × Item)) :
    (afterCompletions crates thread turnId records items).live.Valid := by
  induction items generalizing records with
  | nil => exact valid
  | cons entry items ih => exact ih (LiveTurn.valid_appendEvent valid _ _ _)

/-- Every item is served, and its outputs are kept, as its last completion has them. -/
theorem afterCompletions_last {records : TurnRecords} {items : List (Int64 × Item)}
    (valid : records.live.Valid) (counts : ∀ entry ∈ items, HasCounts entry.2.payload)
    (found : lastCompletion items id = some last) :
    servedItem crates (afterCompletions crates thread turnId records items).live id =
        some (shownItem crates last) ∧
      (afterCompletions crates thread turnId records items).outputs.entry (turnId, id) =
        ⟨preparedCommandOutput crates last, keptTool crates last⟩ := by
  induction items using List.reverseRecOn with
  | nil => cases found
  | append_singleton items entry ih =>
    have before := @valid_afterCompletions crates thread turnId _ valid items
    have mine := counts entry (List.mem_append_right _ List.mem_cons_self)
    rw [lastCompletion_concat] at found
    unfold afterCompletions
    rw [List.foldl_concat]
    change servedItem crates (TurnRecords.applyPreparedEvent crates entry.1
        (afterCompletions crates thread turnId records items) _).live id = _ ∧
      (ItemOutputState.applyEvent crates
        (afterCompletions crates thread turnId records items).outputs _ _).entry _ = _
    rw [servedItem_applyPreparedEvent before entry.1 mine, applyEvent_itemCompleted,
      entry_setTool_setCommand]
    by_cases same : entry.2.id = id
    · rw [if_pos same] at found
      cases found
      rw [if_pos same.symm, if_pos (by rw [same])]
      exact ⟨rfl, rfl⟩
    · rw [if_neg same] at found
      rw [if_neg (Ne.symm same), if_neg fun pair => same (Prod.ext_iff.1 pair).2.symm]
      exact ih (fun entry member => counts entry (List.mem_append_left _ member)) found

theorem hasCounts_of_normalizeItemOutput {fuel maxBytes : ℕ} {raw : Item}
    (normalized : normalizeItemOutput fuel maxBytes raw = some item) : HasCounts item.payload := by
  unfold normalizeItemOutput at normalized
  split at normalized
  · obtain ⟨result, returned, rfl⟩ := Option.map_eq_some_iff.1 normalized
    unfold normalizeCommandOutput at returned
    obtain ⟨⟨durable, truncated⟩, -, built⟩ := Option.bind_eq_some_iff.1 returned
    cases built
    intro cut
    dsimp only at cut ⊢
    rw [cut]
    exact ⟨rfl, rfl⟩
  · next apart =>
    cases normalized
    unfold HasCounts
    split
    · next same => exact absurd same (apart _ _ _ _ _ _ _ _ _ _ _)
    · trivial

/-- After any completions of a turn, with command outputs as normalization leaves them, an item
looks the same live and after a reload exactly unless its last completion is a command with a
running status. SOURCE: wire.rs:493-760, live.rs:273-385, outputs.rs:105-322,
command_output.rs:36-145. -/
theorem live_matches_reload_iff (crates : Crates) (threadId thread : ThreadId) (turnId : TurnId)
    (userInput : Option UserInput) (outputs : ItemOutputState) (tasks : RunningTaskState)
    (items : List (Int64 × Item)) (last : Item)
    (normalized : ∀ entry ∈ items, ∃ fuel maxBytes raw,
      normalizeItemOutput fuel maxBytes raw = some entry.2)
    (found : lastCompletion items last.id = some last) :
    MatchesReload crates threadId turnId
        (afterCompletions crates thread turnId
          ⟨outputs, tasks, LiveTurn.new turnId userInput⟩ items) last ↔
      ¬RunningCommand last.payload := by
  have valid := LiveTurn.valid_new turnId userInput
  have counts : ∀ entry ∈ items, HasCounts entry.2.payload := by
    intro entry member
    obtain ⟨fuel, maxBytes, raw, result⟩ := normalized entry member
    exact hasCounts_of_normalizeItemOutput result
  obtain ⟨-, entry, member, same⟩ := lastCompletion_id found
  obtain ⟨served, kept⟩ := @afterCompletions_last crates thread turnId last.id last
    ⟨outputs, tasks, LiveTurn.new turnId userInput⟩ items valid counts found
  refine matchesReload_iff (valid_afterCompletions valid items) ?_ served kept
  rw [← same]
  exact counts entry member

/-- A command that completes with a status. -/
def sampleCommand (status : String) : Item where
  id := ⟨⟨7⟩⟩
  harnessItemId := "h"
  payload := .commandExecution "make" none "/" "" false none none none (some status) none none
  createdAt := ⟨0, 0⟩

theorem normalizeItemOutput_sampleCommand (status : String) :
    normalizeItemOutput 1 1 (sampleCommand status) = some (sampleCommand status) := rfl

theorem live_matches_reload_iff_sample :
    MatchesReload Crates.reference sampleThread sampleTurn
        (afterCompletions Crates.reference sampleThread sampleTurn
          ⟨ItemOutputState.empty, RunningTaskState.empty, LiveTurn.new sampleTurn none⟩
          [(0, sampleCommand "completed")]) (sampleCommand "completed") ↔
      ¬RunningCommand (sampleCommand "completed").payload := by
  apply live_matches_reload_iff
  · intro entry member
    rw [List.mem_singleton.1 member]
    exact ⟨1, 1, _, normalizeItemOutput_sampleCommand "completed"⟩
  · rfl

/-- A command that completes with the status running is described as fetchable while it is live,
and as not fetchable after a reload. -/
theorem running_command_differs :
    ¬MatchesReload Crates.reference sampleThread sampleTurn
      (afterCompletions Crates.reference sampleThread sampleTurn
        ⟨ItemOutputState.empty, RunningTaskState.empty, LiveTurn.new sampleTurn none⟩
        [(0, sampleCommand "running")]) (sampleCommand "running") := by
  have valid := LiveTurn.valid_new sampleTurn none
  have counts : ∀ entry ∈ [((0 : Int64), sampleCommand "running")],
      HasCounts entry.2.payload := by
    intro entry member
    rw [List.mem_singleton.1 member]
    exact hasCounts_of_normalizeItemOutput (normalizeItemOutput_sampleCommand "running")
  obtain ⟨served, kept⟩ := @afterCompletions_last Crates.reference sampleThread sampleTurn
    (sampleCommand "running").id (sampleCommand "running")
    ⟨ItemOutputState.empty, RunningTaskState.empty, LiveTurn.new sampleTurn none⟩ _ valid counts rfl
  rw [matchesReload_iff (valid_afterCompletions valid _) (counts _ List.mem_cons_self) served kept,
    not_not]
  change commandStatusIsRunning "running" = true
  decide +kernel

end Analysis

end Giskard
