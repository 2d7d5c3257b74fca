import Mathlib
import Giskard.Foundation.Text
import Giskard.Foundation.FixedPoint
import Giskard.Model.Core

/-!
# Bounded text: command output, previews and their descriptors

The functions that cut a text to a byte budget. Every cut keeps whole characters. Two of
them write how many bytes they left out into the text they return, and that count is part
of the budget, so both recompute it in a loop until it agrees with itself.

* `commandOutputTailPreview` keeps a tail. Its recomputation is monotone, so the loop is
  total and is written as a recursion that carries the proof that the count goes down.
* `boundedHeadTail` keeps a head and a tail and hands the bytes lost to rounding on one side
  to the other. Its recomputation is not monotone, so the loop is cut off by `fuel`, and
  `none` stands for a loop that is still running.

SOURCE: crates/giskard-core/src/item.rs, crates/giskard-persist/src/preview.rs,
crates/giskard-persist/src/command_output.rs.
-/

set_option autoImplicit false

namespace Giskard

open Foundation

/-- Bounded projection of completed command output. SOURCE: item.rs:246-259. -/
structure CommandOutputDescriptor where
  preview : String
  previewTruncated : Bool
  durableTruncated : Bool
  originalBytes : UInt64
  originalLines : UInt64
  durableBytes : UInt64
  durableLines : UInt64
  previewBytes : UInt64
  previewLines : UInt64
  outputAvailable : Bool
  deriving DecidableEq

/-- The result of normalizing provider command output. SOURCE: item.rs:417-425. -/
structure NormalizedCommandOutput where
  output : String
  outputTruncated : Bool
  outputOriginalBytes : Option UInt64
  outputOriginalLines : Option UInt64
  descriptor : CommandOutputDescriptor
  deriving DecidableEq

/-! ## Status words -/

/-- Lower case, with `-` turned into `_`. SOURCE: item.rs:58-65. -/
def normalizedCommandStatus (status : String) : String :=
  String.ofList (status.toList.map fun c => if c.toLower = '-' then '_' else c.toLower)

/-- SOURCE: item.rs:67-73. -/
def commandStatusIsRunning (status : String) : Bool :=
  ["in_progress", "inprogress", "running"].contains (normalizedCommandStatus status)

/-- SOURCE: item.rs:287-292. -/
def fileChangeStatusIsRunning (status : String) : Bool :=
  ["in_progress", "inprogress", "running"].contains (normalizedCommandStatus status)

/-- SOURCE: item.rs:295-300. -/
def toolStatusIsRunning (status : String) : Bool :=
  ["pending", "in_progress", "inprogress", "running"].contains (normalizedCommandStatus status)

/-! ## Line counts and previews -/

/-- Newline-separated logical lines; a final newline does not start another one. SOURCE:
item.rs:350-356. -/
def commandOutputLogicalLines (text : List Char) : ℕ :=
  if text.isEmpty then 0
  else text.count '\n' + if text.getLast? = some '\n' then 0 else 1

/-- At most `maxBytes` of the text, and whether anything was dropped. SOURCE:
preview.rs:23-38. -/
def boundedPreview (text : List Char) (maxBytes : ℕ) : List Char × Bool :=
  if byteLen text ≤ maxBytes then (text, false)
  else (takeBytes text (retreat text maxBytes), true)

/-- The end of the first line that is not blank, if there is one. SOURCE: item.rs:396-403. -/
def firstNonBlankEnd : ℕ → List (List Char) → Option ℕ
  | _, [] => none
  | offset, line :: lines =>
    if line.all isWhiteSpace then firstNonBlankEnd (offset + byteLen line) lines
    else some (offset + byteLen line)

/-- Head prefix of a reasoning note, cut at a newline and never inside its first line that is
not blank. SOURCE: item.rs:389-415. -/
def reasoningHeadPreview (text : List Char) (maxBytes : ℕ) : List Char × Bool :=
  if byteLen text ≤ maxBytes then (text, false)
  else
    match firstNonBlankEnd 0 (splitInclusive text) with
    | none => (text, false)
    | some firstNonBlankEnd =>
      let budget := max maxBytes firstNonBlankEnd
      match ((newlineEnds 0 text).takeWhile (· ≤ budget)).getLast? with
      | some cut => if cut < byteLen text then (takeBytes text cut, true) else (text, false)
      | none => (text, false)

/-! ## The tail preview -/

/-- SOURCE: item.rs:366. -/
def tailPreviewMarker (omitted : ℕ) : List Char :=
  "[… ".toList ++ Nat.toDigits 10 omitted ++
    " bytes omitted from command output preview …]\n".toList

/-- Where the kept tail starts when `omitted` is announced. SOURCE: item.rs:369-374. -/
def tailPreviewStart (text : List Char) (maxBytes omitted : ℕ) : ℕ :=
  advance text (byteLen text - (maxBytes - byteLen (tailPreviewMarker omitted)))

/-- The bytes really left out when `omitted` is announced. SOURCE: item.rs:375. -/
def tailPreviewActual (text : List Char) (originalBytes maxBytes omitted : ℕ) : ℕ :=
  originalBytes - (byteLen text - tailPreviewStart text maxBytes omitted)

theorem byteLen_toDigits (n : ℕ) : byteLen (Nat.toDigits 10 n) = digitCount n := by
  refine byteLen_eq_length fun c member => ?_
  have digit := Nat.isDigit_of_mem_toDigits (by decide) le_rfl member
  have small : c.toNat ≤ 0x7f := by
    simp only [Char.isDigit, Bool.and_eq_true, decide_eq_true_eq] at digit
    have := UInt32.le_iff_toNat_le.1 digit.2
    exact this.trans (by decide)
  exact Char.utf8Size_eq_one_iff.2 (UInt32.le_iff_toNat_le.2 small)

theorem byteLen_tailPreviewMarker (omitted : ℕ) :
    byteLen (tailPreviewMarker omitted) = 53 + digitCount omitted := by
  simp only [tailPreviewMarker, byteLen_append, byteLen_toDigits]
  rw [show byteLen "[… ".toList = 5 by decide,
    show byteLen " bytes omitted from command output preview …]\n".toList = 48 by decide]
  omega

theorem tailPreviewStart_mono (text : List Char) (maxBytes : ℕ) :
    Monotone (tailPreviewStart text maxBytes) := by
  intro m n below
  have digits := digitCount_mono below
  refine advance_mono ?_ (by omega)
  rw [byteLen_tailPreviewMarker, byteLen_tailPreviewMarker]
  omega

theorem tailPreviewActual_mono (text : List Char) (originalBytes maxBytes : ℕ) :
    Monotone (tailPreviewActual text originalBytes maxBytes) := by
  intro m n below
  have start := tailPreviewStart_mono text maxBytes below
  simp only [tailPreviewActual]
  omega

/-- The loop of the tail preview. The announced count never goes up, which the argument
`down` carries from round to round. SOURCE: item.rs:366-379. -/
def tailPreviewLoop (text : List Char) (originalBytes maxBytes omitted : ℕ)
    (down : tailPreviewActual text originalBytes maxBytes omitted ≤ omitted) :
    List Char × Bool :=
  if tailPreviewActual text originalBytes maxBytes omitted = omitted then
    (tailPreviewMarker omitted ++ dropBytes text (tailPreviewStart text maxBytes omitted), true)
  else
    tailPreviewLoop text originalBytes maxBytes
      (tailPreviewActual text originalBytes maxBytes omitted)
      (tailPreviewActual_mono text originalBytes maxBytes down)
termination_by omitted

/-- A tail of the text, headed by a marker that counts toward `maxBytes`. SOURCE:
item.rs:358-381. -/
def commandOutputTailPreview (text : List Char) (originalBytes maxBytes : ℕ) :
    List Char × Bool :=
  if originalBytes = byteLen text ∧ byteLen text ≤ maxBytes then (text, false)
  else tailPreviewLoop text originalBytes maxBytes originalBytes (Nat.sub_le _ _)

/-! ## Descriptors -/

/-- SOURCE: item.rs:304. -/
def previewMaxBytes : ℕ := 8 * 1024

/-- Project durable output into the bounded tail descriptor shared by every wire path.
SOURCE: item.rs:306-327. -/
def CommandOutputDescriptor.fromDurable (output : String) (durableTruncated : Bool)
    (originalBytes originalLines : UInt64) (outputAvailable : Bool) :
    CommandOutputDescriptor :=
  let preview :=
    commandOutputTailPreview output.toList originalBytes.toNat previewMaxBytes
  { preview := String.ofList preview.1
    previewTruncated := preview.2
    durableTruncated := durableTruncated
    originalBytes := originalBytes
    originalLines := originalLines
    durableBytes := UInt64.ofNat (byteLen output.toList)
    durableLines := UInt64.ofNat (commandOutputLogicalLines output.toList)
    previewBytes := UInt64.ofNat (byteLen preview.1)
    previewLines := UInt64.ofNat (commandOutputLogicalLines preview.1)
    outputAvailable := outputAvailable }

/-- Authoritative counts of a durable output. SOURCE: item.rs:334-348. -/
def resolveCommandOutputCounts (output : String) (outputTruncated : Bool)
    (outputOriginalBytes outputOriginalLines : Option UInt64) : UInt64 × UInt64 :=
  let bytes := UInt64.ofNat (byteLen output.toList)
  let lines := UInt64.ofNat (commandOutputLogicalLines output.toList)
  if outputTruncated then
    (outputOriginalBytes.getD bytes, outputOriginalLines.getD lines)
  else (bytes, lines)

/-- SOURCE: command_output.rs:109-122. -/
def validateCommandOutputMetadata (outputTruncated : Bool)
    (outputOriginalBytes outputOriginalLines : Option UInt64) : Except String Unit :=
  match outputTruncated, outputOriginalBytes, outputOriginalLines with
  | false, _, _ => .ok ()
  | true, some _, some _ => .ok ()
  | true, _, _ => .error "truncated command output is missing original-size metadata"

/-- SOURCE: command_output.rs:74-91. -/
def validateCommandOutputPayload : ItemPayload → Except String Unit
  | .commandExecution _ _ _ _ outputTruncated outputOriginalBytes outputOriginalLines _ _ _ _ =>
    validateCommandOutputMetadata outputTruncated outputOriginalBytes outputOriginalLines
  | _ => .ok ()

/-- SOURCE: command_output.rs:124-145. -/
def descriptor (output : String) (durableTruncated : Bool)
    (originalBytes originalLines : Option UInt64) (preview : List Char)
    (previewTruncated outputAvailable : Bool) : CommandOutputDescriptor :=
  { CommandOutputDescriptor.fromDurable output durableTruncated
      (originalBytes.getD (UInt64.ofNat (byteLen output.toList)))
      (originalLines.getD (UInt64.ofNat (commandOutputLogicalLines output.toList)))
      outputAvailable with
    preview := String.ofList preview
    previewBytes := UInt64.ofNat (byteLen preview)
    previewLines := UInt64.ofNat (commandOutputLogicalLines preview)
    previewTruncated := previewTruncated }

/-- Build a bounded descriptor from structurally valid durable fields. SOURCE:
command_output.rs:36-71. -/
def commandOutputDescriptor (output : String) (outputTruncated : Bool)
    (outputOriginalBytes outputOriginalLines : Option UInt64) (outputAvailable : Bool) :
    Except String CommandOutputDescriptor := do
  validateCommandOutputMetadata outputTruncated outputOriginalBytes outputOriginalLines
  let retainedBytes := UInt64.ofNat (byteLen output.toList)
  let counts := resolveCommandOutputCounts output outputTruncated outputOriginalBytes
    outputOriginalLines
  let preview := commandOutputTailPreview output.toList counts.1.toNat previewMaxBytes
  return descriptor output outputTruncated (some counts.1) (some counts.2) preview.1
    (preview.2 || decide (retainedBytes < counts.1)) outputAvailable

/-! ## Head and tail -/

/-- SOURCE: preview.rs:64. -/
def headTailMarker (omitted : ℕ) : List Char :=
  "\n[… ".toList ++ Nat.toDigits 10 omitted ++
    " bytes omitted from durable command output …]\n".toList

/-- SOURCE: preview.rs:104-110. -/
def headEnd (text : List Char) (budget : ℕ) : ℕ := retreat text (min budget (byteLen text))

/-- SOURCE: preview.rs:112-118. -/
def tailStart (text : List Char) (budget : ℕ) : ℕ := advance text (byteLen text - budget)

/-- What one round retains under a budget: the end of the head and the start of the tail.
SOURCE: preview.rs:69-90. -/
def retain (text : List Char) (remaining : ℕ) : ℕ × ℕ :=
  let headBudget := remaining / 2
  let tailBudget := remaining - headBudget
  let retainedHeadEnd := headEnd text headBudget
  let retainedTailStart := tailStart text tailBudget
  -- UTF-8 retreat can leave usable bytes. They go to the tail first, then to the head.
  let spare := remaining - (retainedHeadEnd + (byteLen text - retainedTailStart))
  let retainedTailStart :=
    if 0 < spare then tailStart text ((byteLen text - retainedTailStart) + spare)
    else retainedTailStart
  let spare := remaining - (retainedHeadEnd + (byteLen text - retainedTailStart))
  let retainedHeadEnd :=
    if 0 < spare then headEnd text (retainedHeadEnd + spare) else retainedHeadEnd
  let retainedHeadEnd :=
    if retainedTailStart < retainedHeadEnd then retainedTailStart else retainedHeadEnd
  (retainedHeadEnd, retainedTailStart)

/-- The loop of `boundedHeadTail`, cut off after `fuel` rounds. SOURCE: preview.rs:65-101. -/
def headTailLoop (text : List Char) (maxBytes : ℕ) : ℕ → ℕ → Option (List Char × Bool)
  | 0, _ => none
  | fuel + 1, omitted =>
    let separator := headTailMarker omitted
    let remaining := maxBytes - byteLen separator
    let (retainedHeadEnd, retainedTailStart) := retain text remaining
    let actual := byteLen text - retainedHeadEnd - (byteLen text - retainedTailStart)
    if actual = omitted then
      some (takeBytes text retainedHeadEnd ++ separator ++ dropBytes text retainedTailStart,
        true)
    else headTailLoop text maxBytes fuel actual

/-- Retain head and tail sections around an omission marker. SOURCE: preview.rs:59-102. -/
def boundedHeadTail (fuel : ℕ) (text : List Char) (maxBytes : ℕ) :
    Option (List Char × Bool) :=
  if byteLen text ≤ maxBytes then some (text, false)
  else headTailLoop text maxBytes fuel (byteLen text)

/-- Normalize provider output once into its durable representation and bounded wire
descriptor. SOURCE: command_output.rs:8-34. -/
def normalizeCommandOutput (fuel : ℕ) (output : String) (maxBytes : ℕ) :
    Option NormalizedCommandOutput := do
  let originalBytes := UInt64.ofNat (byteLen output.toList)
  let originalLines := UInt64.ofNat (commandOutputLogicalLines output.toList)
  let (durable, outputTruncated) ← boundedHeadTail fuel output.toList maxBytes
  let (preview, previewTruncated) :=
    commandOutputTailPreview durable originalBytes.toNat previewMaxBytes
  return {
    output := String.ofList durable
    outputTruncated := outputTruncated
    outputOriginalBytes := if outputTruncated then some originalBytes else none
    outputOriginalLines := if outputTruncated then some originalLines else none
    descriptor := descriptor (String.ofList durable) outputTruncated (some originalBytes)
      (some originalLines) preview previewTruncated false }

end Giskard
