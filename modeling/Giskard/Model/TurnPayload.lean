import Mathlib
import Giskard.Model.CapturedDiffs
import Giskard.Model.HistoryIndex

/-!
# Turn payloads

The payload file of a turn: what the agent did, one record a line. The writer puts the diff
bodies inline; the reader folds the records by identity, orders them by the display index they
carry and takes the bodies out again. A record that does not read is passed over and counted.

SOURCE: crates/giskard-persist/src/history.rs.
-/

set_option autoImplicit false

namespace Giskard

open Foundation Json

/-! ## Writing -/

/-- SOURCE: layout.rs:23. -/
def turnPayloadFormat : UInt32 := 1

section

variable (crates : Crates)

/-- SOURCE: history.rs:123-126. -/
def turnHeaderValue (turnId : TurnId) : Json :=
  .obj [("kind", .str "turn_header"), ("format", ofUInt32 turnPayloadFormat),
    ("turn_id", turnId.toValue crates)]

/-- SOURCE: history.rs:127-129. -/
def userInputValue (input : UserInput) : Json :=
  .obj [("kind", .str "user_input"), ("user_input", input.toValue)]

/-- SOURCE: history.rs:130-132. -/
def statusValue (status : TurnStatus) : Json :=
  .obj [("kind", .str "status"), ("status", status.toValue)]

/-- SOURCE: history.rs:133-140. -/
def itemValue (index : Option ℕ) (item : Item) : Json :=
  .obj ([("kind", .str "item")] ++ optional "index" (index.map ofNat) ++
    [("item", item.toValue crates)])

/-- SOURCE: history.rs:141-144. -/
def diffValue (index : ℕ) (diff : FileDiff) : Json :=
  .obj [("kind", .str "diff"), ("index", ofNat index), ("diff", diff.toValue crates)]

end

/-- The body under an identity; the last record of an identity counts. SOURCE: history.rs:365-368. -/
def capturedContent (captured : List CapturedDiffRecord) (id : DiffId) :
    Option CapturedDiffContent :=
  (captured.reverse.find? fun record => record.id = id).map CapturedDiffRecord.content

/-- SOURCE: history.rs:371-384. -/
def inlineChange (captured : List CapturedDiffRecord) (change : FileChangeEntry) :
    Except PersistError FileChangeEntry :=
  match change.capturedDiff with
  | none => .ok change
  | some descriptor => match capturedContent captured descriptor.id with
    | some (.unified text) => .ok { change with diff := some text, capturedDiff := none }
    | _ => .error (.invalid s!"diff descriptor {descriptor.id.text} has no unified content")

/-- SOURCE: history.rs:369-386. -/
def inlineItem (captured : List CapturedDiffRecord) (item : Item) : Except PersistError Item :=
  match item.payload with
  | .fileChange path change changes status => do
    let changes ← changes.mapM (inlineChange captured)
    return { item with payload := .fileChange path change changes status }
  | _ => .ok item

/-- SOURCE: history.rs:387-398. -/
def inlineDiff (captured : List CapturedDiffRecord) (diff : FileDiff) :
    Except PersistError FileDiff :=
  match diff.captured with
  | none => .ok diff
  | some descriptor => match capturedContent captured descriptor.id with
    | some (.structured content) => .ok content
    | _ => .error (.invalid s!"diff descriptor {descriptor.id.text} has no structured content")

/-- SOURCE: history.rs:360-399. -/
def turnWithInlineDiffs (turn : Turn) (captured : List CapturedDiffRecord) :
    Except PersistError Turn := do
  let items ← turn.items.mapM (inlineItem captured)
  let diffs ← turn.diffs.mapM (inlineDiff captured)
  return { turn with items := items, diffs := diffs }

/-- The records of a turn whose bodies are inline. SOURCE: history.rs:325-343. -/
def payloadValues (crates : Crates) (turn : Turn) : List Json :=
  [turnHeaderValue crates turn.id, userInputValue turn.userInput, statusValue turn.status] ++
    turn.items.zipIdx.map (fun entry => itemValue crates (some entry.2) entry.1) ++
    turn.diffs.zipIdx.map (fun entry => diffValue crates entry.2 entry.1)

/-- SOURCE: history.rs:318-344. -/
def payloadFileBytesWithDiffs (crates : Crates) (turn : Turn)
    (captured : List CapturedDiffRecord) : Except PersistError (List UInt8) := do
  let projected ← turnWithInlineDiffs turn captured
  return utf8 ((payloadValues crates projected).flatMap lineOf)

/-- SOURCE: history.rs:314-316. -/
def payloadFileBytes (crates : Crates) (turn : Turn) : Except PersistError (List UInt8) :=
  payloadFileBytesWithDiffs crates turn []

/-- SOURCE: history.rs:351-353. -/
def payloadItemLine (crates : Crates) (item : Item) : List Char := lineOf (itemValue crates none item)

/-! ## Reading -/

/-- SOURCE: history.rs:182-199. -/
structure TurnPayload where
  userInput : UserInput
  status : Option TurnStatus
  items : List Item
  diffs : List FileDiff
  diffContents : IndexMap DiffId CapturedDiffContent
  skippedRecords : UInt32

/-- Reassemble a turn from its record and its payload. SOURCE: history.rs:266-298. -/
def TurnRecord.intoTurn (record : TurnRecord) (payload : TurnPayload) : Turn :=
  { id := record.turnId
    userInput := payload.userInput
    items := payload.items
    model := record.model
    mode := record.mode
    status := payload.status.getD record.status
    usage := record.usage
    diffs := payload.diffs
    startedAt := record.startedAt
    completedAt := record.completedAt
    skippedRecords := payload.skippedRecords }

/-- What has been read of a payload: a collection has its entries in the order of their first
records, each with its display index. SOURCE: history.rs:571-583. -/
structure PayloadFold where
  skippedRecords : UInt32
  userInput : Option UserInput
  status : Option TurnStatus
  items : List (ℕ × Item)
  diffs : List (ℕ × FileDiff)
  deriving DecidableEq

/-- Nothing has been read. -/
def PayloadFold.empty : PayloadFold := ⟨0, none, none, [], []⟩

/-- Pass over a record. SOURCE: history.rs:599, 636. -/
def PayloadFold.skip (fold : PayloadFold) : PayloadFold :=
  { fold with skippedRecords := fold.skippedRecords + 1 }

/-- Replace the entry of the same identity, or add one; a record without an index keeps the entry's.
SOURCE: history.rs:678-690, 696-708. -/
def upsertRecord {α κ : Type} [DecidableEq κ] (key : α → κ) (entries : List (ℕ × α))
    (index : Option ℕ) (value : α) : List (ℕ × α) :=
  if entries.any fun entry => key entry.2 = key value then
    entries.map fun entry =>
      if key entry.2 = key value then (index.getD entry.1, value) else entry
  else entries ++ [(index.getD entries.length, value)]

/-- Paths are the same when their components are. -/
def FileDiff.pathKey (diff : FileDiff) : PathComponents := pathComponents diff.path

/-- Read a header record: its format. SOURCE: history.rs:148-153. -/
def payloadHeader (crates : Crates) (value : Json) : Option UInt32 := do
  let format ← value.required "format" asUInt32
  let _ ← value.required "turn_id" (TurnId.fromValue crates)
  return format

/-- Read an item record. SOURCE: history.rs:165-173. -/
def payloadItem (crates : Crates) (value : Json) : Option (Option ℕ × Item) := do
  let index ← value.optionalField "index" asNat
  let item ← value.required "item" (Item.fromValue crates)
  return (index, item)

/-- Read a diff record. SOURCE: history.rs:175-180. -/
def payloadDiff (crates : Crates) (value : Json) : Option (Option ℕ × FileDiff) := do
  let index ← value.optionalField "index" asNat
  let diff ← value.required "diff" (FileDiff.fromValue crates)
  return (index, diff)

/-- Fold one record. SOURCE: history.rs:641-722. -/
def payloadRecord (crates : Crates) (path : String) (fold : PayloadFold) (value : Json) :
    Except PersistError PayloadFold :=
  match recordKind value with
  | some "turn_header" => match payloadHeader crates value with
    | none => .ok fold.skip
    | some format =>
      if turnPayloadFormat < format then
        .error (.invalid (s!"{path}: turn payload format {format} is newer than this build " ++
          s!"understands ({turnPayloadFormat})"))
      else .ok fold
  | some "user_input" => match value.required "user_input" UserInput.fromValue with
    | none => .ok fold.skip
    | some input => .ok { fold with userInput := some input }
  | some "status" => match value.required "status" TurnStatus.fromValue with
    | none => .ok fold.skip
    | some status => .ok { fold with status := some status }
  | some "item" => match payloadItem crates value with
    | none => .ok fold.skip
    | some (index, item) =>
      .ok { fold with items := upsertRecord Item.id fold.items index item }
  | some "diff" => match payloadDiff crates value with
    | none => .ok fold.skip
    | some (index, diff) =>
      .ok { fold with diffs := upsertRecord FileDiff.pathKey fold.diffs index diff }
  | _ => .ok fold

/-- Fold one line that is not blank. SOURCE: history.rs:623-639. -/
def payloadLine (crates : Crates) (path : String) (fold : PayloadFold) (line : List Char) :
    Except PersistError PayloadFold :=
  match fromStr jsonDepthLimit line with
  | none => .ok fold.skip
  | some value => payloadRecord crates path fold value

/-- Order the entries by display index; entries of one index stay in file order.
SOURCE: history.rs:731, 748. -/
def sortedByIndex {α : Type} (entries : List (ℕ × α)) : List α :=
  (entries.mergeSort fun left right => left.1 ≤ right.1).map Prod.snd

/-- Take the body out of a change. SOURCE: history.rs:794-806. -/
def FileChangeEntry.takeBody (crates : Crates) (itemId : ItemId) (change : FileChangeEntry) :
    FileChangeEntry × Option CapturedDiffRecord :=
  match change.diff with
  | none => (change, none)
  | some text =>
    let captured := captureUnifiedDiff crates change.path change.change (some itemId) text
    ({ change with diff := none, capturedDiff := some captured.1 }, some captured.2)

/-- Take the bodies out of an item. SOURCE: history.rs:793-808. -/
def Item.takeBodies (crates : Crates) (item : Item) : Item × List CapturedDiffRecord :=
  match item.payload with
  | .fileChange path change changes status =>
    let taken := changes.map (FileChangeEntry.takeBody crates item.id)
    ({ item with payload := .fileChange path change (taken.map Prod.fst) status },
      taken.filterMap Prod.snd)
  | _ => (item, [])

/-- Take the body out of a diff that has no descriptor. SOURCE: history.rs:810-816. -/
def FileDiff.takeBody (crates : Crates) (diff : FileDiff) : FileDiff × Option CapturedDiffRecord :=
  match diff.captured with
  | some _ => (diff, none)
  | none =>
    let captured := captureStructuredDiff crates diff
    (captured.1, some captured.2)

/-- The descriptors of an item. SOURCE: history.rs:818-826. -/
def Item.descriptors (item : Item) : List CapturedDiffDescriptor :=
  match item.payload with
  | .fileChange _ _ changes _ => changes.filterMap FileChangeEntry.capturedDiff
  | _ => []

/-- The bodies by identity; the first one of an identity counts. SOURCE: history.rs:806, 815. -/
def contentsOf (records : List CapturedDiffRecord) : IndexMap DiffId CapturedDiffContent :=
  records.foldl (fun contents record =>
    if record.id ∈ contents.keys then contents else contents.insert record.id record.content)
    IndexMap.empty

/-- What follows the fold. SOURCE: history.rs:731-829. -/
def finishPayload (crates : Crates) (path : String) (fold : PayloadFold) :
    Except PersistError TurnPayload :=
  match fold.userInput with
  | none => .error (.corrupt s!"{path}: turn payload has no user_input record")
  | some userInput => do
    let items := sortedByIndex fold.items
    let diffs := sortedByIndex fold.diffs
    items.forM fun item => (validateCommandOutputPayload item.payload).mapError fun error =>
      .invalid (s!"{path}: item {crates.ulid.print item.id.ulid} has invalid command-output " ++
        s!"metadata: {error}")
    let items := items.map (Item.takeBodies crates)
    let diffs := diffs.map (FileDiff.takeBody crates)
    let contents := contentsOf (items.flatMap Prod.snd ++ diffs.filterMap Prod.snd)
    let items := items.map Prod.fst
    let diffs := diffs.map Prod.fst
    let descriptors := items.flatMap Item.descriptors ++ diffs.filterMap FileDiff.captured
    descriptors.forM fun descriptor =>
      if descriptor.available && !contents.keys.contains descriptor.id then
        .error (.invalid s!"{path}: diff descriptor {descriptor.id.text} has no content record")
      else .ok ()
    return ⟨userInput, fold.status, items, diffs, contents, fold.skippedRecords⟩

/-- SOURCE: history.rs:570-830. -/
def parseTurnPayload (crates : Crates) (path : String) (data : List Char) :
    Except PersistError TurnPayload := do
  let fold ← ((lines data).filter fun line => !isBlankLine line).foldlM
    (payloadLine crates path) PayloadFold.empty
  finishPayload crates path fold

/-- Read a payload file; one that is damaged is moved aside unless that fails. The first component
is the file afterwards. SOURCE: history.rs:837-863. -/
def readTurnPayload (crates : Crates) (path : String) (moveFault : Bool)
    (file : Option (List UInt8)) :
    Option (List UInt8) × Except PersistError (Option TurnPayload) :=
  match file with
  | none => (file, .ok none)
  | some bytes => match readUtf8 bytes with
    | none => (file, .error (.io "stream did not contain valid UTF-8"))
    | some data => match parseTurnPayload crates path data with
      | .ok payload => (file, .ok (some payload))
      | .error (.invalid message) => (file, .error (.invalid message))
      | .error error => (if moveFault then file else none, .error error)

end Giskard
