import Mathlib
import Giskard.Foundation.JsonReader
import Giskard.Foundation.TextFile
import Giskard.Model.CommandOutput
import Giskard.Model.Persisted

/-!
# The history index

The index of a thread's turns: a header line, then one bounded record per turn. The writer
appends lines; the reader takes whole lines, first record of a turn wins, and passes over one
unreadable line at the end.

Writing a record cannot fail here: every path and text of the model is UTF-8.

SOURCE: crates/giskard-persist/src/history.rs, crates/giskard-persist/src/layout.rs,
crates/giskard-persist/src/preview.rs.
-/

set_option autoImplicit false

namespace Giskard

open Foundation Json

/-! ## Records -/

/-- SOURCE: layout.rs:17. -/
def historyFormat : UInt32 := 3

/-- SOURCE: preview.rs:11. -/
def promptPreviewMaxBytes : ℕ := 512

/-- SOURCE: preview.rs:18. -/
def statusMessageMaxBytes : ℕ := 512

/-- How many containers the JSON reader opens at once. -/
def jsonDepthLimit : ℕ := 127

/-- SOURCE: history.rs:42-46. -/
structure HistoryHeader where
  format : UInt32
  threadId : ThreadId
  createdAt : DateTime
  deriving DecidableEq

/-- SOURCE: history.rs:53-58. -/
structure PersistedAttachment where
  name : String
  mimeType : String
  size : UInt64
  kind : AttachmentKind
  deriving DecidableEq

/-- SOURCE: history.rs:65-100. -/
structure TurnRecord where
  turnId : TurnId
  model : TurnModel
  mode : TurnMode
  status : TurnStatus
  usage : TokenUsage
  startedAt : DateTime
  completedAt : Option DateTime
  itemCount : ℕ
  promptPreview : String
  promptTruncated : Bool
  attachments : List PersistedAttachment
  deriving DecidableEq

/-- SOURCE: history.rs:202-208. -/
def HistoryHeader.new (threadId : ThreadId) (createdAt : DateTime) : HistoryHeader :=
  ⟨historyFormat, threadId, createdAt⟩

/-- The bounded projection of a completed turn. SOURCE: history.rs:217-254. -/
def TurnRecord.fromTurn (turn : Turn) : TurnRecord :=
  let preview := boundedPreview turn.userInput.text.toList promptPreviewMaxBytes
  { turnId := turn.id
    model := turn.model
    mode := turn.mode
    status :=
      { kind := turn.status.kind
        message := turn.status.message.map fun message =>
          String.ofList (boundedPreview message.toList statusMessageMaxBytes).1 }
    usage := turn.usage
    startedAt := turn.startedAt
    completedAt := turn.completedAt
    itemCount := turn.items.length
    promptPreview := String.ofList preview.1
    promptTruncated := preview.2
    attachments := turn.userInput.attachments.map fun attachment =>
      ⟨attachment.name, attachment.mimeType, attachment.size, attachment.kind⟩ }

section

variable (crates : Crates)

def PersistedAttachment.toValue (attachment : PersistedAttachment) : Json :=
  .obj [("name", .str attachment.name), ("mime_type", .str attachment.mimeType),
    ("size", ofUInt64 attachment.size), ("kind", attachment.kind.toValue)]

def PersistedAttachment.fromValue (v : Json) : Option PersistedAttachment := do
  let name ← v.required "name" asString
  let mimeType ← v.required "mime_type" asString
  let size ← v.required "size" asUInt64
  let kind ← v.required "kind" AttachmentKind.fromValue
  return ⟨name, mimeType, size, kind⟩

@[simp] theorem PersistedAttachment.fromValue_toValue (attachment : PersistedAttachment) :
    PersistedAttachment.fromValue attachment.toValue = some attachment := by
  simp [PersistedAttachment.fromValue, PersistedAttachment.toValue, required]

/-- SOURCE: history.rs:106-113. -/
def HistoryHeader.toValue (header : HistoryHeader) : Json :=
  .obj [("kind", .str "history_header"), ("format", ofUInt32 header.format),
    ("thread_id", header.threadId.toValue crates), ("created_at", header.createdAt.toValue crates)]

def HistoryHeader.fromValue (v : Json) : Option HistoryHeader := do
  let format ← v.required "format" asUInt32
  let threadId ← v.required "thread_id" (ThreadId.fromValue crates)
  let createdAt ← v.required "created_at" (DateTime.fromValue crates)
  return ⟨format, threadId, createdAt⟩

@[simp] theorem HistoryHeader.fromValue_toValue (header : HistoryHeader) :
    HistoryHeader.fromValue crates (header.toValue crates) = some header := by
  simp [HistoryHeader.fromValue, HistoryHeader.toValue, required]

/-- The kind under which a record is written: an older build does not know a turn without a model
or a mode. SOURCE: history.rs:257-263. -/
def TurnRecord.kind (record : TurnRecord) : String :=
  match record.model, record.mode with
  | .known _, .known _ => "turn"
  | _, _ => "turn_v3"

/-- SOURCE: history.rs:106-113. -/
def TurnRecord.toValue (record : TurnRecord) : Json :=
  .obj ([("kind", .str record.kind), ("turn_id", record.turnId.toValue crates),
      ("model", record.model.toValue), ("mode", record.mode.toValue),
      ("status", record.status.toValue), ("usage", record.usage.toValue),
      ("started_at", record.startedAt.toValue crates)] ++
    optional "completed_at" (record.completedAt.map (DateTime.toValue crates)) ++
    [("item_count", ofNat record.itemCount), ("prompt_preview", .str record.promptPreview)] ++
    optional "prompt_truncated" (flagValue record.promptTruncated) ++
    optional "attachments" (listValue PersistedAttachment.toValue record.attachments))

def TurnRecord.fromValue (v : Json) : Option TurnRecord := do
  let turnId ← v.required "turn_id" (TurnId.fromValue crates)
  let model ← v.required "model" TurnModel.fromValue
  let mode ← v.required "mode" TurnMode.fromValue
  let status ← v.required "status" TurnStatus.fromValue
  let usage ← v.required "usage" TokenUsage.fromValue
  let startedAt ← v.required "started_at" (DateTime.fromValue crates)
  let completedAt ← v.optionalField "completed_at" (DateTime.fromValue crates)
  let itemCount ← v.defaulted "item_count" 0 asNat
  let promptPreview ← v.defaulted "prompt_preview" "" asString
  let promptTruncated ← v.defaulted "prompt_truncated" false asBool
  let attachments ← v.defaulted "attachments" [] (asList PersistedAttachment.fromValue)
  return ⟨turnId, model, mode, status, usage, startedAt, completedAt, itemCount, promptPreview,
    promptTruncated, attachments⟩

@[simp] theorem readOption_dateTime (value : Option DateTime) :
    readOption (DateTime.fromValue crates) (value.map (DateTime.toValue crates)) = some value :=
  readOption_write (DateTime.fromValue_toValue crates) (fun _ => Json.noConfusion) value

@[simp] theorem TurnRecord.fromValue_toValue (record : TurnRecord) :
    TurnRecord.fromValue crates (record.toValue crates) = some record := by
  have attachments := readDefault_write PersistedAttachment.fromValue_toValue record.attachments
  simp [TurnRecord.fromValue, TurnRecord.toValue, required, optionalField, defaulted, attachments]

end

/-- A record as one line. SOURCE: history.rs:301-306. -/
def lineOf (value : Json) : List Char := value.print ++ ['\n']

/-- SOURCE: history.rs:210-213. -/
def HistoryHeader.line (crates : Crates) (header : HistoryHeader) : List Char :=
  lineOf (header.toValue crates)

/-- SOURCE: history.rs:256-263. -/
def TurnRecord.line (crates : Crates) (record : TurnRecord) : List Char :=
  lineOf (record.toValue crates)

/-! ## Reading the index -/

/-- SOURCE: history.rs:430-432. -/
def recordKind (value : Json) : Option String := (value.get? "kind").bind asString

/-- A line of white space only. -/
def isBlankLine (line : List Char) : Bool := line.all isWhiteSpace

/-- Fold one record of the index, on line `i` of those up to `last`.
SOURCE: history.rs:481-530. -/
def indexRecord (crates : Crates) (path : String) (last : ℕ) (records : List TurnRecord)
    (value : Json) (i : ℕ) : Except PersistError (List TurnRecord) :=
  match recordKind value with
  | some "history_header" => match HistoryHeader.fromValue crates value with
    | none => .error (.corrupt s!"{path}: line {i + 1}: {crates.dataError value}")
    | some header =>
      if historyFormat < header.format then
        .error (.invalid (s!"{path}: history format {header.format} is newer than this build " ++
          s!"understands ({historyFormat})"))
      else .ok records
  | some "turn" | some "turn_v3" => match TurnRecord.fromValue crates value with
    | none =>
      if i = last then .ok records
      else .error (.corrupt s!"{path}: line {i + 1}: {crates.dataError value}")
    | some record =>
      if records.any fun earlier => earlier.turnId = record.turnId then .ok records
      else .ok (records ++ [record])
  | _ => .ok records

/-- Fold one line of the index. SOURCE: history.rs:456-480. -/
def indexLine (crates : Crates) (path : String) (last : ℕ) (records : List TurnRecord)
    (line : List Char) (i : ℕ) : Except PersistError (List TurnRecord) :=
  match fromStr jsonDepthLimit line with
  | none =>
    if i = last then .ok records
    else .error (.corrupt s!"{path}: line {i + 1}: {crates.syntaxError line}")
  | some value => indexRecord crates path last records value i

/-- SOURCE: history.rs:441-539. -/
def parseHistoryIndex (crates : Crates) (path : String) (data : List Char) :
    Except PersistError (List TurnRecord) :=
  let kept := (lines data).filter fun line => !isBlankLine line
  kept.zipIdx.foldlM (fun records (line, i) =>
    indexLine crates path (kept.length - 1) records line i) []

/-! ## The file -/

/-- The index rows of a thread in the directory layout. SOURCE: store.rs:1627-1656. -/
def loadTurnRecords (crates : Crates) (path : String) (file : Option (List UInt8)) :
    Except PersistError (List TurnRecord) :=
  match file with
  | none => .ok []
  | some bytes => match readUtf8 bytes with
    | none => .error (.io "stream did not contain valid UTF-8")
    | some data => parseHistoryIndex crates path data

/-- What an append writes, without the newline that ends it: a file that is not there gets the
header first. SOURCE: store.rs:1360-1365. -/
def appendBody (crates : Crates) (thread : ThreadId) (file : Option (List UInt8)) (turn : Turn) :
    List Char :=
  (if file.isNone then (HistoryHeader.new thread turn.startedAt).line crates else []) ++
    ((TurnRecord.fromTurn turn).toValue crates).print

/-- An append of a turn's record to the index; a torn one writes some of the bytes before the last
one. -/
structure IndexAppend where
  turn : Turn
  torn : Option ℕ

/-- The index after an append; opening it makes the file. SOURCE: store.rs:1378-1391. -/
def appendIndex (crates : Crates) (thread : ThreadId) (file : Option (List UInt8))
    (append : IndexAppend) : Option (List UInt8) :=
  let body := appendBody crates thread file append.turn
  some (file.getD [] ++ match append.torn with
    | none => utf8 (body ++ ['\n'])
    | some written => (utf8 body).take written)

end Giskard
