import Mathlib
import Giskard.Foundation.Serde
import Giskard.Model.Core

/-!
# Persisted forms

The JSON values that items, prompts, outcomes and diffs are written as, and their readers, field
by field as the derived serializers of the source have them: fields that are left out when they
are empty, defaults, tags and names.

What is written is read back, with two exceptions that the source makes on purpose or by the
format: a prompt is written without the bytes of its attachments, and an optional JSON value
that is null reads as absent.

SOURCE: crates/giskard-core/src/{ids,item,diff,user_input,turn,model,token}.rs.
-/

set_option autoImplicit false

namespace Giskard

open Foundation Json

/-! ## Identifiers, instants and enumerations -/

section

variable (crates : Crates)

def Ulid.toValue (ulid : Ulid) : Json := .str (crates.ulid.print ulid)

def Ulid.fromValue (v : Json) : Option Ulid := v.asString.bind crates.ulid.parse

def ItemId.toValue (id : ItemId) : Json := id.ulid.toValue crates

def ItemId.fromValue (v : Json) : Option ItemId := (Ulid.fromValue crates v).map ItemId.mk

def TurnId.toValue (id : TurnId) : Json := id.ulid.toValue crates

def TurnId.fromValue (v : Json) : Option TurnId := (Ulid.fromValue crates v).map TurnId.mk

def ThreadId.toValue (id : ThreadId) : Json := id.ulid.toValue crates

def ThreadId.fromValue (v : Json) : Option ThreadId := (Ulid.fromValue crates v).map ThreadId.mk

def DateTime.toValue (instant : DateTime) : Json := .str (crates.chrono.print instant)

def DateTime.fromValue (v : Json) : Option DateTime := v.asString.bind crates.chrono.parse

@[simp] theorem Ulid.fromValue_toValue (ulid : Ulid) :
    Ulid.fromValue crates (ulid.toValue crates) = some ulid := by
  rw [Ulid.toValue, Ulid.fromValue, asString_str, Option.bind_some, crates.ulid.parse_print]

@[simp] theorem ItemId.fromValue_toValue (id : ItemId) :
    ItemId.fromValue crates (id.toValue crates) = some id := by
  rw [ItemId.toValue, ItemId.fromValue, Ulid.fromValue_toValue, Option.map_some]

@[simp] theorem TurnId.fromValue_toValue (id : TurnId) :
    TurnId.fromValue crates (id.toValue crates) = some id := by
  rw [TurnId.toValue, TurnId.fromValue, Ulid.fromValue_toValue, Option.map_some]

@[simp] theorem ThreadId.fromValue_toValue (id : ThreadId) :
    ThreadId.fromValue crates (id.toValue crates) = some id := by
  rw [ThreadId.toValue, ThreadId.fromValue, Ulid.fromValue_toValue, Option.map_some]

@[simp] theorem DateTime.fromValue_toValue (instant : DateTime) :
    DateTime.fromValue crates (instant.toValue crates) = some instant := by
  rw [DateTime.toValue, DateTime.fromValue, asString_str, Option.bind_some,
    crates.chrono.parse_print]

end

/-- A list of variants without fields, by name. -/
def variantOf {α : Type} (variants : List α) (name : α → String) (v : Json) : Option α :=
  v.asVariant.bind fun text => variants.find? fun variant => name variant = text

def FileChangeKind.name : FileChangeKind → String
  | .created => "created"
  | .modified => "modified"
  | .deleted => "deleted"

def FileChangeKind.toValue (kind : FileChangeKind) : Json := .str kind.name

def FileChangeKind.fromValue : Json → Option FileChangeKind :=
  variantOf [.created, .modified, .deleted] name

def DiffContentKind.name : DiffContentKind → String
  | .unified => "unified"
  | .structured => "structured"

def DiffContentKind.toValue (kind : DiffContentKind) : Json := .str kind.name

def DiffContentKind.fromValue : Json → Option DiffContentKind :=
  variantOf [.unified, .structured] name

def SubagentAction.name : SubagentAction → String
  | .spawned => "spawned"
  | .started => "started"
  | .interacted => "interacted"
  | .interrupted => "interrupted"
  | .completed => "completed"

def SubagentAction.toValue (action : SubagentAction) : Json := .str action.name

def SubagentAction.fromValue : Json → Option SubagentAction :=
  variantOf [.spawned, .started, .interacted, .interrupted, .completed] name

def SubagentStatus.name : SubagentStatus → String
  | .pending => "pending"
  | .running => "running"
  | .completed => "completed"
  | .interrupted => "interrupted"
  | .failed => "failed"
  | .shutdown => "shutdown"
  | .notFound => "not_found"

def SubagentStatus.toValue (status : SubagentStatus) : Json := .str status.name

def SubagentStatus.fromValue : Json → Option SubagentStatus :=
  variantOf [.pending, .running, .completed, .interrupted, .failed, .shutdown, .notFound] name

def AttachmentKind.name : AttachmentKind → String
  | .image => "image"
  | .file => "file"

def AttachmentKind.toValue (kind : AttachmentKind) : Json := .str kind.name

def AttachmentKind.fromValue : Json → Option AttachmentKind := variantOf [.image, .file] name

def TurnStatusKind.name : TurnStatusKind → String
  | .completed => "completed"
  | .interrupted => "interrupted"
  | .failed => "failed"

def TurnStatusKind.toValue (kind : TurnStatusKind) : Json := .str kind.name

def TurnStatusKind.fromValue : Json → Option TurnStatusKind :=
  variantOf [.completed, .interrupted, .failed] name

def Mode.name : Mode → String
  | .plan => "plan"
  | .build => "build"

def Mode.toValue (mode : Mode) : Json := .str mode.name

def Mode.fromValue : Json → Option Mode := variantOf [.plan, .build] name

@[simp] theorem FileChangeKind.fromValue_toValue (kind : FileChangeKind) :
    FileChangeKind.fromValue kind.toValue = some kind := by
  cases kind <;> rfl

@[simp] theorem DiffContentKind.fromValue_toValue (kind : DiffContentKind) :
    DiffContentKind.fromValue kind.toValue = some kind := by
  cases kind <;> rfl

@[simp] theorem SubagentAction.fromValue_toValue (action : SubagentAction) :
    SubagentAction.fromValue action.toValue = some action := by
  cases action <;> rfl

@[simp] theorem SubagentStatus.fromValue_toValue (status : SubagentStatus) :
    SubagentStatus.fromValue status.toValue = some status := by
  cases status <;> rfl

@[simp] theorem AttachmentKind.fromValue_toValue (kind : AttachmentKind) :
    AttachmentKind.fromValue kind.toValue = some kind := by
  cases kind <;> rfl

@[simp] theorem TurnStatusKind.fromValue_toValue (kind : TurnStatusKind) :
    TurnStatusKind.fromValue kind.toValue = some kind := by
  cases kind <;> rfl

@[simp] theorem Mode.fromValue_toValue (mode : Mode) : Mode.fromValue mode.toValue = some mode := by
  cases mode <;> rfl

/-! ## Prompts, models and outcomes -/

/-- A prompt as it is written: without the bytes of its attachments. SOURCE:
user_input.rs:97-113. -/
def UserInput.withoutAttachmentData (input : UserInput) : UserInput :=
  { input with attachments := input.attachments.map fun a => { a with dataBase64 := "" } }

/-- SOURCE: user_input.rs:36-43, 58-66. -/
def UserAttachment.toValue (attachment : UserAttachment) : Json :=
  .obj [("name", .str attachment.name), ("mime_type", .str attachment.mimeType),
    ("size", ofUInt64 attachment.size), ("kind", attachment.kind.toValue)]

/-- SOURCE: user_input.rs:3-11. -/
def UserAttachment.fromValue (v : Json) : Option UserAttachment := do
  let name ← v.required "name" asString
  let mimeType ← v.required "mime_type" asString
  let size ← v.required "size" asUInt64
  let kind ← v.required "kind" AttachmentKind.fromValue
  let dataBase64 ← v.defaulted "data_base64" "" asString
  return ⟨name, mimeType, size, kind, dataBase64⟩

theorem UserAttachment.fromValue_toValue (attachment : UserAttachment) :
    UserAttachment.fromValue attachment.toValue = some { attachment with dataBase64 := "" } := by
  simp [UserAttachment.fromValue, UserAttachment.toValue, required, defaulted, readDefault]

/-- SOURCE: user_input.rs:32-69. -/
def UserInput.toValue (input : UserInput) : Json :=
  .obj ([("type", .str "text"), ("text", .str input.text)] ++
    optional "attachments" (listValue UserAttachment.toValue input.attachments))

/-- SOURCE: user_input.rs:20-29. -/
def UserInput.fromValue (v : Json) : Option UserInput := do
  let tag ← v.required "type" asString
  guard (tag = "text")
  let text ← v.required "text" asString
  let attachments ← v.defaulted "attachments" [] (asList UserAttachment.fromValue)
  return ⟨text, attachments⟩

@[simp] theorem UserInput.fromValue_toValue (input : UserInput) :
    UserInput.fromValue input.toValue = some input.withoutAttachmentData := by
  have attachments := readDefault_listValue input.attachments
    fun a _ => UserAttachment.fromValue_toValue a
  simp [UserInput.fromValue, UserInput.toValue, required, defaulted, attachments,
    UserInput.withoutAttachmentData]

/-- SOURCE: model.rs:3-12. -/
def ModelRef.toValue (model : ModelRef) : Json :=
  .obj ([("provider", .str model.provider), ("model", .str model.model)] ++
    optional "reasoning_effort" (model.reasoningEffort.map .str))

def ModelRef.fromValue (v : Json) : Option ModelRef := do
  let provider ← v.required "provider" asString
  let model ← v.required "model" asString
  let reasoningEffort ← v.optionalField "reasoning_effort" asString
  return ⟨provider, model, reasoningEffort⟩

@[simp] theorem ModelRef.fromValue_toValue (model : ModelRef) :
    ModelRef.fromValue model.toValue = some model := by
  simp [ModelRef.fromValue, ModelRef.toValue, required, optionalField]

/-- SOURCE: turn.rs:11-27. -/
def TurnModel.toValue : TurnModel → Json
  | .unknown => .str "unknown"
  | .known model => model.toValue

def TurnModel.fromValue (v : Json) : Option TurnModel :=
  if v.asVariant = some "unknown" then some .unknown else (ModelRef.fromValue v).map .known

@[simp] theorem TurnModel.fromValue_toValue (model : TurnModel) :
    TurnModel.fromValue model.toValue = some model := by
  cases model with
  | unknown => rfl
  | known model =>
    have shape : asVariant model.toValue = none := rfl
    simp [TurnModel.fromValue, TurnModel.toValue, shape]

/-- SOURCE: turn.rs:29-38. -/
def TurnMode.toValue : TurnMode → Json
  | .unknown => .str "unknown"
  | .known mode => mode.toValue

def TurnMode.fromValue (v : Json) : Option TurnMode :=
  if v.asVariant = some "unknown" then some .unknown else (Mode.fromValue v).map .known

@[simp] theorem TurnMode.fromValue_toValue (mode : TurnMode) :
    TurnMode.fromValue mode.toValue = some mode := by
  cases mode with
  | unknown => rfl
  | known mode => cases mode <;> rfl

/-- SOURCE: turn.rs:136-142. -/
def TurnStatus.toValue (status : TurnStatus) : Json :=
  .obj ([("kind", status.kind.toValue)] ++ optional "message" (status.message.map .str))

def TurnStatus.fromValue (v : Json) : Option TurnStatus := do
  let kind ← v.required "kind" TurnStatusKind.fromValue
  let message ← v.optionalField "message" asString
  return ⟨kind, message⟩

@[simp] theorem TurnStatus.fromValue_toValue (status : TurnStatus) :
    TurnStatus.fromValue status.toValue = some status := by
  simp [TurnStatus.fromValue, TurnStatus.toValue, required, optionalField]

/-- SOURCE: token.rs:6-10. -/
def TokenUsage.toValue (usage : TokenUsage) : Json :=
  .obj [("input", ofUInt64 usage.input), ("output", ofUInt64 usage.output),
    ("total", ofUInt64 usage.total)]

def TokenUsage.fromValue (v : Json) : Option TokenUsage := do
  let input ← v.required "input" asUInt64
  let output ← v.required "output" asUInt64
  let total ← v.required "total" asUInt64
  return ⟨input, output, total⟩

@[simp] theorem TokenUsage.fromValue_toValue (usage : TokenUsage) :
    TokenUsage.fromValue usage.toValue = some usage := by
  simp [TokenUsage.fromValue, TokenUsage.toValue, required]

/-! ## Diffs -/

section

variable (crates : Crates)

/-- SOURCE: diff.rs:15-31. -/
def CapturedDiffDescriptor.toValue (descriptor : CapturedDiffDescriptor) : Json :=
  .obj ([("id", .str descriptor.id.text), ("path", .str descriptor.path),
      ("change", descriptor.change.toValue), ("content_kind", descriptor.contentKind.toValue),
      ("available", .bool descriptor.available), ("byte_size", ofUInt64 descriptor.byteSize),
      ("additions", ofUInt64 descriptor.additions),
      ("deletions", ofUInt64 descriptor.deletions)] ++
    optional "binary" (flagValue descriptor.binary) ++
    optional "item_id" (descriptor.itemId.map (ItemId.toValue crates)))

def CapturedDiffDescriptor.fromValue (v : Json) : Option CapturedDiffDescriptor := do
  let id ← v.required "id" asString
  let path ← v.required "path" asString
  let change ← v.required "change" FileChangeKind.fromValue
  let contentKind ← v.required "content_kind" DiffContentKind.fromValue
  let available ← v.required "available" asBool
  let byteSize ← v.required "byte_size" asUInt64
  let additions ← v.required "additions" asUInt64
  let deletions ← v.required "deletions" asUInt64
  let binary ← v.defaulted "binary" false asBool
  let itemId ← v.optionalField "item_id" (ItemId.fromValue crates)
  return ⟨⟨id⟩, path, change, contentKind, available, byteSize, additions, deletions, binary,
    itemId⟩

@[simp] theorem readOption_itemId (value : Option ItemId) :
    readOption (ItemId.fromValue crates) (value.map (ItemId.toValue crates)) = some value :=
  readOption_write (ItemId.fromValue_toValue crates) (fun _ => Json.noConfusion) value

@[simp] theorem CapturedDiffDescriptor.fromValue_toValue (descriptor : CapturedDiffDescriptor) :
    CapturedDiffDescriptor.fromValue crates (descriptor.toValue crates) = some descriptor := by
  simp [CapturedDiffDescriptor.fromValue, CapturedDiffDescriptor.toValue, required, optionalField,
    defaulted]

@[simp] theorem readOption_descriptor (value : Option CapturedDiffDescriptor) :
    readOption (CapturedDiffDescriptor.fromValue crates)
      (value.map (CapturedDiffDescriptor.toValue crates)) = some value :=
  readOption_write (CapturedDiffDescriptor.fromValue_toValue crates) (fun _ => Json.noConfusion)
    value

/-- SOURCE: diff.rs:229-233. -/
def DiffLine.toValue : DiffLine → Json
  | .context text => .obj [("type", .str "context"), ("text", .str text)]
  | .added text => .obj [("type", .str "added"), ("text", .str text)]
  | .removed text => .obj [("type", .str "removed"), ("text", .str text)]

def DiffLine.fromValue (v : Json) : Option DiffLine := do
  let tag ← v.required "type" asString
  let text ← v.required "text" asString
  match tag with
  | "context" => return .context text
  | "added" => return .added text
  | "removed" => return .removed text
  | _ => none

@[simp] theorem DiffLine.fromValue_toValue (line : DiffLine) :
    DiffLine.fromValue line.toValue = some line := by
  cases line <;> simp [DiffLine.fromValue, DiffLine.toValue, required]

/-- SOURCE: diff.rs:218-224. -/
def DiffHunk.toValue (hunk : DiffHunk) : Json :=
  .obj [("old_start", ofUInt32 hunk.oldStart), ("old_lines", ofUInt32 hunk.oldLines),
    ("new_start", ofUInt32 hunk.newStart), ("new_lines", ofUInt32 hunk.newLines),
    ("lines", .arr (hunk.lines.map DiffLine.toValue))]

def DiffHunk.fromValue (v : Json) : Option DiffHunk := do
  let oldStart ← v.required "old_start" asUInt32
  let oldLines ← v.required "old_lines" asUInt32
  let newStart ← v.required "new_start" asUInt32
  let newLines ← v.required "new_lines" asUInt32
  let lines ← v.required "lines" (asList DiffLine.fromValue)
  return ⟨oldStart, oldLines, newStart, newLines, lines⟩

@[simp] theorem DiffHunk.fromValue_toValue (hunk : DiffHunk) :
    DiffHunk.fromValue hunk.toValue = some hunk := by
  have lines := asList_write DiffLine.fromValue_toValue hunk.lines
  simp [DiffHunk.fromValue, DiffHunk.toValue, required, lines]

/-- SOURCE: diff.rs:197-214. -/
def FileDiff.toValue (diff : FileDiff) : Json :=
  .obj ([("path", .str diff.path), ("change", diff.change.toValue)] ++
    optional "old_text" (diff.oldText.map .str) ++ optional "new_text" (diff.newText.map .str) ++
    [("hunks", .arr (diff.hunks.map DiffHunk.toValue)), ("binary", .bool diff.binary)] ++
    optional "captured" (diff.captured.map (CapturedDiffDescriptor.toValue crates)))

def FileDiff.fromValue (v : Json) : Option FileDiff := do
  let path ← v.required "path" asString
  let change ← v.required "change" FileChangeKind.fromValue
  let oldText ← v.optionalField "old_text" asString
  let newText ← v.optionalField "new_text" asString
  let hunks ← v.defaulted "hunks" [] (asList DiffHunk.fromValue)
  let binary ← v.defaulted "binary" false asBool
  let captured ← v.optionalField "captured" (CapturedDiffDescriptor.fromValue crates)
  return ⟨path, change, oldText, newText, hunks, binary, captured⟩

@[simp] theorem FileDiff.fromValue_toValue (diff : FileDiff) :
    FileDiff.fromValue crates (diff.toValue crates) = some diff := by
  have hunks := asList_write DiffHunk.fromValue_toValue diff.hunks
  simp [FileDiff.fromValue, FileDiff.toValue, required, optionalField, defaulted, readDefault,
    hunks]

/-! ## Items -/

/-- SOURCE: item.rs:31-41. -/
def FileChangeEntry.toValue (entry : FileChangeEntry) : Json :=
  .obj ([("path", .str entry.path), ("change", entry.change.toValue)] ++
    optional "diff" (entry.diff.map .str) ++
    optional "captured_diff" (entry.capturedDiff.map (CapturedDiffDescriptor.toValue crates)))

def FileChangeEntry.fromValue (v : Json) : Option FileChangeEntry := do
  let path ← v.required "path" asString
  let change ← v.required "change" FileChangeKind.fromValue
  let diff ← v.optionalField "diff" asString
  let capturedDiff ← v.optionalField "captured_diff" (CapturedDiffDescriptor.fromValue crates)
  return ⟨path, change, diff, capturedDiff⟩

@[simp] theorem FileChangeEntry.fromValue_toValue (entry : FileChangeEntry) :
    FileChangeEntry.fromValue crates (entry.toValue crates) = some entry := by
  simp [FileChangeEntry.fromValue, FileChangeEntry.toValue, required, optionalField]

/-- SOURCE: item.rs:118-137. -/
def SubagentLink.toValue (link : SubagentLink) : Json :=
  .obj ([("harness_thread_id", .str link.harnessThreadId)] ++
    optional "path" (link.path.map .str) ++
    optional "initial_prompt" (link.initialPrompt.map .str) ++
    [("action", link.action.toValue)] ++
    optional "status" (link.status.map SubagentStatus.toValue) ++
    optional "message" (link.message.map .str))

def SubagentLink.fromValue (v : Json) : Option SubagentLink := do
  let harnessThreadId ← v.required "harness_thread_id" asString
  let path ← v.optionalField "path" asString
  let initialPrompt ← v.optionalField "initial_prompt" asString
  let action ← v.required "action" SubagentAction.fromValue
  let status ← v.optionalField "status" SubagentStatus.fromValue
  let message ← v.optionalField "message" asString
  return ⟨harnessThreadId, path, initialPrompt, action, status, message⟩

@[simp] theorem readOption_subagentStatus (value : Option SubagentStatus) :
    readOption SubagentStatus.fromValue (value.map SubagentStatus.toValue) = some value :=
  readOption_write SubagentStatus.fromValue_toValue (fun _ => Json.noConfusion) value

@[simp] theorem SubagentLink.fromValue_toValue (link : SubagentLink) :
    SubagentLink.fromValue link.toValue = some link := by
  simp [SubagentLink.fromValue, SubagentLink.toValue, required, optionalField]

@[simp] theorem readOption_subagentLink (value : Option SubagentLink) :
    readOption SubagentLink.fromValue (value.map SubagentLink.toValue) = some value :=
  readOption_write SubagentLink.fromValue_toValue (fun _ => Json.noConfusion) value

/-- SOURCE: item.rs:172-244. -/
def ItemPayload.toValue : ItemPayload → Json
  | .userMessage text => .obj [("kind", .str "user_message"), ("text", .str text)]
  | .agentMessage text => .obj [("kind", .str "agent_message"), ("text", .str text)]
  | .reasoning text => .obj [("kind", .str "reasoning"), ("text", .str text)]
  | .commandExecution command description cwd output outputTruncated outputOriginalBytes
      outputOriginalLines exitCode status processId durationMs =>
    .obj ([("kind", .str "command_execution"), ("command", .str command)] ++
      optional "description" (description.map .str) ++
      [("cwd", .str cwd), ("output", .str output)] ++
      optional "output_truncated" (flagValue outputTruncated) ++
      optional "output_original_bytes" (outputOriginalBytes.map ofUInt64) ++
      optional "output_original_lines" (outputOriginalLines.map ofUInt64) ++
      optional "exit_code" (exitCode.map ofInt32) ++ optional "status" (status.map .str) ++
      optional "process_id" (processId.map .str) ++ optional "duration_ms" (durationMs.map ofInt64))
  | .fileChange path change changes status =>
    .obj ([("kind", .str "file_change"), ("path", .str path), ("change", change.toValue)] ++
      optional "changes" (listValue (FileChangeEntry.toValue crates) changes) ++
      optional "status" (status.map .str))
  | .toolCall name description input output server status metadata subagent error =>
    .obj ([("kind", .str "tool_call"), ("name", .str name)] ++
      optional "description" (description.map .str) ++ [("input", input)] ++
      optional "output" output ++ optional "server" (server.map .str) ++
      optional "status" (status.map .str) ++ optional "metadata" metadata ++
      optional "subagent" (subagent.map SubagentLink.toValue) ++
      optional "error" (error.map .str))
  | .activity title detail metadata subagent =>
    .obj ([("kind", .str "activity"), ("title", .str title)] ++
      optional "detail" (detail.map .str) ++ optional "metadata" metadata ++
      optional "subagent" (subagent.map SubagentLink.toValue))

def ItemPayload.fromValue (v : Json) : Option ItemPayload := do
  match ← v.required "kind" asString with
  | "user_message" => return .userMessage (← v.required "text" asString)
  | "agent_message" => return .agentMessage (← v.required "text" asString)
  | "reasoning" => return .reasoning (← v.required "text" asString)
  | "command_execution" =>
    let command ← v.required "command" asString
    let description ← v.optionalField "description" asString
    let cwd ← v.required "cwd" asString
    let output ← v.required "output" asString
    let outputTruncated ← v.defaulted "output_truncated" false asBool
    let outputOriginalBytes ← v.optionalField "output_original_bytes" asUInt64
    let outputOriginalLines ← v.optionalField "output_original_lines" asUInt64
    let exitCode ← v.optionalField "exit_code" asInt32
    let status ← v.optionalField "status" asString
    let processId ← v.optionalField "process_id" asString
    let durationMs ← v.optionalField "duration_ms" asInt64
    return .commandExecution command description cwd output outputTruncated outputOriginalBytes
      outputOriginalLines exitCode status processId durationMs
  | "file_change" =>
    let path ← v.required "path" asString
    let change ← v.required "change" FileChangeKind.fromValue
    let changes ← v.defaulted "changes" [] (asList (FileChangeEntry.fromValue crates))
    let status ← v.optionalField "status" asString
    return .fileChange path change changes status
  | "tool_call" =>
    let name ← v.required "name" asString
    let description ← v.optionalField "description" asString
    let input ← v.required "input" some
    let output ← v.optionalField "output" some
    let server ← v.optionalField "server" asString
    let status ← v.optionalField "status" asString
    let metadata ← v.optionalField "metadata" some
    let subagent ← v.optionalField "subagent" SubagentLink.fromValue
    let error ← v.optionalField "error" asString
    return .toolCall name description input output server status metadata subagent error
  | "activity" =>
    let title ← v.required "title" asString
    let detail ← v.optionalField "detail" asString
    let metadata ← v.optionalField "metadata" some
    let subagent ← v.optionalField "subagent" SubagentLink.fromValue
    return .activity title detail metadata subagent
  | _ => none

/-- A payload as it is read back: an optional value that is null is absent. -/
def ItemPayload.recorded : ItemPayload → ItemPayload
  | .toolCall name description input output server status metadata subagent error =>
    .toolCall name description input (output.filter (· ≠ .null)) server status
      (metadata.filter (· ≠ .null)) subagent error
  | .activity title detail metadata subagent =>
    .activity title detail (metadata.filter (· ≠ .null)) subagent
  | payload => payload

@[simp] theorem ItemPayload.fromValue_toValue (payload : ItemPayload) :
    ItemPayload.fromValue crates (payload.toValue crates) = some payload.recorded := by
  cases payload with
  | fileChange path change changes status =>
    have entries := readDefault_write (FileChangeEntry.fromValue_toValue crates) changes
    simp [ItemPayload.fromValue, ItemPayload.toValue, required, optionalField, defaulted, entries,
      ItemPayload.recorded]
  | toolCall | activity =>
    simp [ItemPayload.fromValue, ItemPayload.toValue, required, optionalField, readOption_json,
      ItemPayload.recorded]
  | _ =>
    simp [ItemPayload.fromValue, ItemPayload.toValue, required, optionalField, defaulted,
      ItemPayload.recorded]

/-- SOURCE: item.rs:157-167. -/
def Item.toValue (item : Item) : Json :=
  .obj [("id", item.id.toValue crates), ("harness_item_id", .str item.harnessItemId),
    ("payload", item.payload.toValue crates), ("created_at", item.createdAt.toValue crates)]

def Item.fromValue (v : Json) : Option Item := do
  let id ← v.required "id" (ItemId.fromValue crates)
  let harnessItemId ← v.required "harness_item_id" asString
  let payload ← v.required "payload" (ItemPayload.fromValue crates)
  let createdAt ← v.required "created_at" (DateTime.fromValue crates)
  return ⟨id, harnessItemId, payload, createdAt⟩

/-- An item as it is read back. -/
def Item.recorded (item : Item) : Item := { item with payload := item.payload.recorded }

@[simp] theorem Item.fromValue_toValue (item : Item) :
    Item.fromValue crates (item.toValue crates) = some item.recorded := by
  simp [Item.fromValue, Item.toValue, required, Item.recorded]

end

end Giskard
