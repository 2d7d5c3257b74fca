import Mathlib
import Giskard.Foundation.IndexMap
import Giskard.Foundation.TextFile
import Giskard.Model.Persisted

/-!
# Captured diffs

The identity and the bounded descriptor of a diff body, and the bodies a thread keeps for its
in-flight turns: one current descriptor for each slot, the bodies that slots refer to, and for
each slot a redirect from the identity it had before.

A slot's path is kept as its components, since paths are compared by those.

SOURCE: crates/giskard-core/src/diff.rs, crates/giskard-server/src/thread_runtime/diffs.rs.
-/

set_option autoImplicit false

namespace Giskard

open Foundation Json

/-! ## Capturing a body -/

/-- SOURCE: diff.rs:33-39. -/
def CapturedDiffContent.toValue (crates : Crates) : CapturedDiffContent → Json
  | .unified text => .obj [("kind", .str "unified"), ("text", .str text)]
  | .structured diff => .obj [("kind", .str "structured"), ("diff", diff.toValue crates)]

/-- SOURCE: diff.rs:168-175; a path is text here already. -/
def canonicalContent : CapturedDiffContent → CapturedDiffContent
  | .unified text => .unified text
  | .structured diff => .structured { diff with captured := none }

/-- SOURCE: diff.rs:177-181. -/
def serializedBytes (value : Json) : List UInt8 := utf8 value.print

/-- SOURCE: diff.rs:149-166. -/
def capturedDiffIdFromContentBytes (crates : Crates) (path : String) (change : FileChangeKind)
    (contentBytes : List UInt8) : DiffId :=
  ⟨"sha256_" ++ crates.sha256Hex
    (utf8 "\x7b\"path\":".toList ++ serializedBytes (.str path) ++ utf8 ",\"change\":".toList ++
      serializedBytes change.toValue ++ utf8 ",\"content\":".toList ++ contentBytes ++
      utf8 "\x7d".toList)⟩

/-- SOURCE: diff.rs:139-147. -/
def capturedDiffId (crates : Crates) (path : String) (change : FileChangeKind)
    (content : CapturedDiffContent) : DiffId :=
  capturedDiffIdFromContentBytes crates path change
    (serializedBytes ((canonicalContent content).toValue crates))

/-- Added and removed lines of a unified diff. SOURCE: diff.rs:183-193. -/
def unifiedStats (text : List Char) : UInt64 × UInt64 :=
  (lines text).foldl (fun (additions, deletions) line =>
    if ['+'].isPrefixOf line && !(['+', '+', '+'].isPrefixOf line) then (additions + 1, deletions)
    else if ['-'].isPrefixOf line && !(['-', '-', '-'].isPrefixOf line) then
      (additions, deletions + 1)
    else (additions, deletions)) (0, 0)

/-- SOURCE: diff.rs:47-71. -/
def captureUnifiedDiff (crates : Crates) (path : String) (change : FileChangeKind)
    (itemId : Option ItemId) (text : String) : CapturedDiffDescriptor × CapturedDiffRecord :=
  let (additions, deletions) := unifiedStats text.toList
  let content := CapturedDiffContent.unified text
  let id := capturedDiffId crates path change content
  ({ id := id
     path := path
     change := change
     contentKind := .unified
     available := true
     byteSize := UInt64.ofNat (byteLen text.toList)
     additions := additions
     deletions := deletions
     binary := false
     itemId := itemId },
   ⟨id, content⟩)

/-- SOURCE: diff.rs:124-136. -/
def fullTextLineCount : Option String → UInt64
  | none => 0
  | some text =>
    let body := match text.toList.reverse with
      | '\n' :: '\r' :: rest => rest.reverse
      | '\n' :: rest => rest.reverse
      | _ => text.toList
    if body.isEmpty then 0 else UInt64.ofNat (body.count '\n' + 1)

/-- The lines of a diff's hunks that satisfy a predicate. SOURCE: diff.rs:80-93. -/
def countHunkLines (diff : FileDiff) (p : DiffLine → Bool) : UInt64 :=
  UInt64.ofNat ((diff.hunks.flatMap DiffHunk.lines).countP p)

def DiffLine.isAdded : DiffLine → Bool
  | .added _ => true
  | _ => false

def DiffLine.isRemoved : DiffLine → Bool
  | .removed _ => true
  | _ => false

/-- SOURCE: diff.rs:73-122. -/
def captureStructuredDiff (crates : Crates) (diff : FileDiff) : FileDiff × CapturedDiffRecord :=
  let diff := { diff with captured := none }
  let (additions, deletions) :=
    if diff.hunks.isEmpty && !diff.binary then
      (fullTextLineCount diff.newText, fullTextLineCount diff.oldText)
    else (countHunkLines diff DiffLine.isAdded, countHunkLines diff DiffLine.isRemoved)
  let content := CapturedDiffContent.structured diff
  let contentBytes := serializedBytes ((canonicalContent content).toValue crates)
  let id := capturedDiffIdFromContentBytes crates diff.path diff.change contentBytes
  let descriptor : CapturedDiffDescriptor :=
    { id := id
      path := diff.path
      change := diff.change
      contentKind := .structured
      available := true
      byteSize := UInt64.ofNat contentBytes.length
      additions := additions
      deletions := deletions
      binary := diff.binary
      itemId := none }
  ({ path := diff.path
     change := diff.change
     oldText := none
     newText := none
     hunks := []
     binary := diff.binary
     captured := some descriptor },
   ⟨id, content⟩)

/-! ## Slots -/

/-- The components of a path: whether it starts at the root, and its parts without empty ones
and dots, a leading dot excepted. Paths are equal when their components are. -/
structure PathComponents where
  rooted : Bool
  parts : List (List Char)
  deriving DecidableEq

def pathComponents (path : String) : PathComponents :=
  let rooted := path.toList.head? = some '/'
  let raw := path.toList.splitOn '/'
  let keep (part : List Char) : Bool := !part.isEmpty && part ≠ ['.']
  let lead := if raw.head? = some ['.'] then [['.']] else []
  ⟨rooted, lead ++ raw.filter keep⟩

/-- SOURCE: diffs.rs:28-36. -/
inductive CapturedDiffSlot where
  | item (itemId : ItemId) (path : PathComponents) (occurrence : ℕ)
  | turn (path : PathComponents)
  deriving DecidableEq

/-- SOURCE: diffs.rs:38-41. -/
structure SupersededCapturedDiff where
  slot : CapturedDiffSlot
  current : CapturedDiffDescriptor
  deriving DecidableEq

/-- SOURCE: diffs.rs:16-26. -/
structure ActiveCapturedDiffs where
  contents : IndexMap DiffId CapturedDiffRecord
  currentBySlot : IndexMap CapturedDiffSlot CapturedDiffDescriptor
  superseded : IndexMap DiffId SupersededCapturedDiff

/-- SOURCE: diffs.rs:43-47. -/
inductive RuntimeDiffLookup where
  | found (record : CapturedDiffRecord)
  | superseded (descriptor : CapturedDiffDescriptor)
  | missing
  deriving DecidableEq

/-- A body to install in a slot. -/
structure Capture where
  slot : CapturedDiffSlot
  descriptor : CapturedDiffDescriptor
  record : CapturedDiffRecord
  deriving DecidableEq

namespace ActiveCapturedDiffs

def empty : ActiveCapturedDiffs := ⟨IndexMap.empty, IndexMap.empty, IndexMap.empty⟩

/-- Some slot refers to a body. -/
def refers (current : IndexMap CapturedDiffSlot CapturedDiffDescriptor) (id : DiffId) : Bool :=
  current.values.any fun descriptor => descriptor.id = id

/-- SOURCE: diffs.rs:143-185. -/
def installCapturedDiff (state : ActiveCapturedDiffs) (capture : Capture) : ActiveCapturedDiffs :=
  let current := state.currentBySlot.insert capture.slot capture.descriptor
  let replaced := match state.currentBySlot.get? capture.slot with
    | none => state
    | some previous =>
      if previous.id = capture.descriptor.id then state
      else
        { state with
          contents :=
            if refers current previous.id then state.contents
            else state.contents.shiftRemove previous.id
          superseded := (state.superseded.retain fun _ redirect =>
            redirect.slot ≠ capture.slot).insert previous.id ⟨capture.slot, capture.descriptor⟩ }
  { replaced with
    currentBySlot := current
    contents := replaced.contents.insert capture.record.id capture.record }

/-- Retire one slot that a replacement item omits. SOURCE: diffs.rs:209-226. -/
def omitSlot (state : ActiveCapturedDiffs) (slot : CapturedDiffSlot) : ActiveCapturedDiffs :=
  let current := state.currentBySlot.shiftRemove slot
  { contents := match state.currentBySlot.get? slot with
      | none => state.contents
      | some previous =>
        if refers current previous.id then state.contents
        else state.contents.shiftRemove previous.id
    currentBySlot := current
    superseded := state.superseded.retain fun _ redirect => redirect.slot ≠ slot }

/-- A slot belongs to an item. -/
def ownedBy (itemId : ItemId) : CapturedDiffSlot → Bool
  | .item owner _ _ => decide (owner = itemId)
  | .turn _ => false

/-- SOURCE: diffs.rs:187-228. -/
def reconcileItemCapturedDiffs (state : ActiveCapturedDiffs) (itemId : ItemId)
    (captures : List Capture) : ActiveCapturedDiffs :=
  let newSlots := captures.map Capture.slot
  let omitted := state.currentBySlot.keys.filter fun slot =>
    ownedBy itemId slot && !newSlots.contains slot
  captures.foldl installCapturedDiff (omitted.foldl omitSlot state)

end ActiveCapturedDiffs

/-- SOURCE: diffs.rs:50-52. -/
structure CapturedDiffState where
  turns : TurnId → Option ActiveCapturedDiffs

namespace CapturedDiffState

def empty : CapturedDiffState := ⟨fun _ => none⟩

/-- SOURCE: `self.turns.entry(turn).or_default()`. -/
def turnOrDefault (state : CapturedDiffState) (turn : TurnId) : ActiveCapturedDiffs :=
  (state.turns turn).getD ActiveCapturedDiffs.empty

def setTurn (state : CapturedDiffState) (turn : TurnId) (active : ActiveCapturedDiffs) :
    CapturedDiffState :=
  ⟨Function.update state.turns turn (some active)⟩

/-- Take the bodies out of the changes of an item, numbering the occurrences of each path.
SOURCE: diffs.rs:62-87. -/
def captureChanges (crates : Crates) (itemId : ItemId) :
    List PathComponents → List FileChangeEntry → List FileChangeEntry × List Capture
  | _, [] => ([], [])
  | seen, change :: changes =>
    let path := pathComponents change.path
    let (rest, captures) := captureChanges crates itemId (path :: seen) changes
    match change.diff with
    | none => (change :: rest, captures)
    | some text =>
      let (descriptor, record) :=
        captureUnifiedDiff crates change.path change.change (some itemId) text
      ({ change with diff := none, capturedDiff := some descriptor } :: rest,
        ⟨.item itemId path (seen.count path), descriptor, record⟩ :: captures)

/-- An item with its bodies taken out. SOURCE: diffs.rs:59-88. -/
def captureItem (crates : Crates) (item : Item) : Item × List Capture :=
  match item.payload with
  | .fileChange path change changes status =>
    let (changes, captures) := captureChanges crates item.id [] changes
    ({ item with payload := .fileChange path change changes status }, captures)
  | _ => (item, [])

/-- SOURCE: diffs.rs:55-105. -/
def capture (crates : Crates) (state : CapturedDiffState) :
    AgentEvent → CapturedDiffState × AgentEvent
  | .itemCompleted thread turn item =>
    let (captured, captures) := captureItem crates item
    (state.setTurn turn
      ((state.turnOrDefault turn).reconcileItemCapturedDiffs item.id captures),
      .itemCompleted thread turn captured)
  | .diffUpdated thread turn diff =>
    let (projected, record) := captureStructuredDiff crates diff
    let state := match projected.captured with
      | none => state
      | some descriptor =>
        state.setTurn turn ((state.turnOrDefault turn).installCapturedDiff
          ⟨.turn (pathComponents descriptor.path), descriptor, record⟩)
    (state, .diffUpdated thread turn projected)
  | event => (state, event)

/-- SOURCE: diffs.rs:108-112. -/
def records (state : CapturedDiffState) (turnId : TurnId) : List CapturedDiffRecord :=
  match state.turns turnId with
  | none => []
  | some active => active.contents.values

/-- SOURCE: diffs.rs:116-128. -/
def lookup (state : CapturedDiffState) (turnId : TurnId) (diffId : DiffId) : RuntimeDiffLookup :=
  match state.turns turnId with
  | none => .missing
  | some active => match active.contents.get? diffId with
    | some record => .found record
    | none => match active.superseded.get? diffId with
      | some redirect => .superseded redirect.current
      | none => .missing

/-- SOURCE: diffs.rs:131-133. -/
def clearTurn (state : CapturedDiffState) (turnId : TurnId) : CapturedDiffState :=
  ⟨Function.update state.turns turnId none⟩

/-- The bodies captured from a sequence of events. -/
def captureAll (crates : Crates) (events : List AgentEvent) : CapturedDiffState :=
  events.foldl (fun state event => (state.capture crates event).1) empty

end CapturedDiffState

end Giskard
