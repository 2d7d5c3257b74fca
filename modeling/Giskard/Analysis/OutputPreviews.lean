import Mathlib
import Giskard.Analysis.HeadTail

/-!
# Previews and descriptors of command output

The tail preview counts what it leaves out in its own marker, and its loop settles for every
original size. The head-and-tail cut, where it returns, keeps a head and a tail and counts what is
between them. A descriptor made when the output arrives is the one made from what was stored.

## Main results

* `commandOutputTailPreview_spec`: the loop of the tail preview ends, and what it returns
* `normalizeCommandOutput_reloads`: what is stored describes the same, and is stored unchanged again
-/

set_option autoImplicit false

namespace Giskard.Analysis

open Foundation

/-! ## The tail preview -/

variable {text : List Char} {originalBytes maxBytes : ℕ}

theorem tailPreviewLoop_settles (omitted : ℕ)
    (down : tailPreviewActual text originalBytes maxBytes omitted ≤ omitted) :
    ∃ fuel count, settle (tailPreviewActual text originalBytes maxBytes) fuel omitted = some count ∧
      tailPreviewLoop text originalBytes maxBytes omitted down =
        (tailPreviewMarker count ++ dropBytes text (tailPreviewStart text maxBytes count), true) := by
  induction omitted using Nat.strong_induction_on with
  | _ omitted ih =>
    rw [tailPreviewLoop]
    by_cases fixed : tailPreviewActual text originalBytes maxBytes omitted = omitted
    · refine ⟨1, omitted, ?_, if_pos fixed⟩
      rw [settle, if_pos fixed]
    · obtain ⟨fuel, count, settled, same⟩ := ih _ (lt_of_le_of_ne down fixed)
        (tailPreviewActual_mono text originalBytes maxBytes down)
      refine ⟨fuel + 1, count, ?_, ?_⟩
      · rw [settle, if_neg fixed]
        exact settled
      · rw [if_neg fixed]
        exact same

theorem tailPreviewStart_spec (count : ℕ) :
    isCharBoundary text (tailPreviewStart text maxBytes count) = true ∧
      byteLen text - (maxBytes - byteLen (tailPreviewMarker count))
        ≤ tailPreviewStart text maxBytes count ∧
      tailPreviewStart text maxBytes count ≤ byteLen text := by
  unfold tailPreviewStart
  exact ⟨isCharBoundary_advance (Nat.sub_le _ _), le_advance (Nat.sub_le _ _),
    advance_le_byteLen (Nat.sub_le _ _)⟩

/-- What a tail preview that leaves something out says: a marker with the count, and a tail. -/
structure TailPreview (text : List Char) (originalBytes maxBytes count : ℕ)
    (preview tail : List Char) : Prop where
  shown : preview = tailPreviewMarker count ++ tail
  suffix : tail <:+ text
  counted : count = originalBytes - byteLen tail
  fits : byteLen (tailPreviewMarker count) ≤ maxBytes → byteLen preview ≤ maxBytes

/-- The count of the tail preview settles for every text and every original size. The text is
returned as it is when nothing is missing and it fits; otherwise a tail, whose marker counts what
it leaves out. -/
theorem commandOutputTailPreview_spec (text : List Char) (originalBytes maxBytes : ℕ) :
    Settles (tailPreviewActual text originalBytes maxBytes) originalBytes ∧
      (commandOutputTailPreview text originalBytes maxBytes = (text, false) ↔
        originalBytes = byteLen text ∧ byteLen text ≤ maxBytes) ∧
      ((commandOutputTailPreview text originalBytes maxBytes).2 = false →
        (commandOutputTailPreview text originalBytes maxBytes).1 = text) ∧
      ((commandOutputTailPreview text originalBytes maxBytes).2 = true →
        ∃ fuel count tail,
          settle (tailPreviewActual text originalBytes maxBytes) fuel originalBytes = some count ∧
          TailPreview text originalBytes maxBytes count
            (commandOutputTailPreview text originalBytes maxBytes).1 tail) := by
  obtain ⟨fuel, count, settled, result⟩ :=
    @tailPreviewLoop_settles text originalBytes maxBytes originalBytes (Nat.sub_le _ _)
  refine ⟨⟨fuel, by rw [settled]; rfl⟩, ?_⟩
  unfold commandOutputTailPreview
  by_cases whole : originalBytes = byteLen text ∧ byteLen text ≤ maxBytes
  · rw [if_pos whole]
    refine ⟨iff_of_true rfl whole, fun _ => rfl, ?_⟩
    intro flagged
    cases flagged
  · rw [if_neg whole, result]
    refine ⟨iff_of_false ?_ whole, ?_, fun _ =>
      ⟨fuel, count, dropBytes text (tailPreviewStart text maxBytes count), settled, ?_⟩⟩
    · intro same
      cases congrArg Prod.snd same
    · intro unflagged
      cases unflagged
    · obtain ⟨boundary, budget, inside⟩ := @tailPreviewStart_spec text maxBytes count
      have size := byteLen_dropBytes boundary
      have counted : originalBytes - (byteLen text - tailPreviewStart text maxBytes count) = count :=
        settle_fixed settled
      refine ⟨rfl, dropBytes_suffix _ _, ?_, ?_⟩
      · rw [size]
        exact counted.symm
      · intro room
        rw [byteLen_append, size]
        omega

/-! ## Head and tail -/

theorem retain_spec {budget : ℕ} (short : budget < byteLen text) :
    isCharBoundary text (retain text budget).1 = true ∧
      isCharBoundary text (retain text budget).2 = true ∧
      (retain text budget).1 ≤ (retain text budget).2 ∧
      (retain text budget).2 ≤ byteLen text ∧
      (retain text budget).1 + (byteLen text - (retain text budget).2) ≤ budget := by
  rw [retain_eq short]
  have kept := retainedBytes_le text budget
  unfold retainedBytes at kept
  have start : retainedTailStart text budget ≤ byteLen text := tailStart_le text _
  refine ⟨isCharBoundary_retreat text _, isCharBoundary_advance (Nat.sub_le _ _), ?_, start, ?_⟩
  · dsimp only at kept ⊢
    omega
  · dsimp only at kept ⊢
    omega

/-- A head and a tail of a text around the count of what is between them. -/
structure HeadTail (text : List Char) (maxBytes : ℕ) (retained head omitted tail : List Char) :
    Prop where
  whole : text = head ++ omitted ++ tail
  shown : retained = head ++ headTailMarker (byteLen omitted) ++ tail
  fits : byteLen (headTailMarker (byteLen omitted)) ≤ maxBytes → byteLen retained ≤ maxBytes

theorem headTailLoop_spec {fuel omitted : ℕ} {result : List Char × Bool}
    (long : maxBytes < byteLen text)
    (returned : headTailLoop text maxBytes fuel omitted = some result) :
    result.2 = true ∧ ∃ head between tail, HeadTail text maxBytes result.1 head between tail := by
  induction fuel generalizing omitted with
  | zero => cases returned
  | succ fuel ih =>
    unfold headTailLoop at returned
    dsimp only at returned
    split at returned
    · next fixed =>
      cases returned
      obtain ⟨first, second, ordered, inside, kept⟩ :=
        @retain_spec text (maxBytes - byteLen (headTailMarker omitted)) (by omega)
      obtain ⟨between, whole, size⟩ := exists_between first second ordered
      have count : byteLen between = omitted := by omega
      refine ⟨rfl, _, between, _, whole, by rw [count], ?_⟩
      rw [count]
      intro room
      rw [byteLen_append, byteLen_append, byteLen_takeBytes first, byteLen_dropBytes second]
      omega
    · exact ih returned

theorem boundedHeadTail_spec {fuel : ℕ} {result : List Char × Bool}
    (returned : boundedHeadTail fuel text maxBytes = some result) :
    (byteLen text ≤ maxBytes → result = (text, false)) ∧
      (maxBytes < byteLen text →
        result.2 = true ∧ ∃ head between tail, HeadTail text maxBytes result.1 head between tail) := by
  unfold boundedHeadTail at returned
  split at returned
  · next fits =>
    cases returned
    exact ⟨fun _ => rfl, fun long => absurd fits (not_le.2 long)⟩
  · next long => exact ⟨fun fits => absurd fits long, fun long => headTailLoop_spec long returned⟩

/-! ## What is stored and what is described -/

theorem commandOutputTailPreview_flag (durable : List Char) (originalBytes : UInt64) :
    ((commandOutputTailPreview durable originalBytes.toNat previewMaxBytes).2 ||
        decide (UInt64.ofNat (byteLen durable) < originalBytes)) =
      (commandOutputTailPreview durable originalBytes.toNat previewMaxBytes).2 := by
  cases flag : (commandOutputTailPreview durable originalBytes.toNat previewMaxBytes).2 with
  | true => rfl
  | false =>
    have same : originalBytes.toNat = byteLen durable := by
      unfold commandOutputTailPreview at flag
      split at flag
      · next whole => exact whole.1
      · obtain ⟨_, _, _, result⟩ :=
          @tailPreviewLoop_settles durable originalBytes.toNat previewMaxBytes originalBytes.toNat
            (Nat.sub_le _ _)
        rw [result] at flag
        cases flag
    rw [← same, UInt64.ofNat_toNat, Bool.false_or]
    exact decide_eq_false (UInt64.lt_irrefl _)

theorem commandOutputDescriptor_eq (durable : List Char) (truncated : Bool)
    (originalBytes originalLines : UInt64)
    (complete : truncated = false → originalBytes = UInt64.ofNat (byteLen durable) ∧
      originalLines = UInt64.ofNat (commandOutputLogicalLines durable)) :
    commandOutputDescriptor (String.ofList durable) truncated
        (if truncated then some originalBytes else none)
        (if truncated then some originalLines else none) false =
      .ok (descriptor (String.ofList durable) truncated (some originalBytes) (some originalLines)
        (commandOutputTailPreview durable originalBytes.toNat previewMaxBytes).1
        (commandOutputTailPreview durable originalBytes.toNat previewMaxBytes).2 false) := by
  have flag := commandOutputTailPreview_flag durable originalBytes
  cases truncated with
  | true =>
    unfold commandOutputDescriptor resolveCommandOutputCounts
    simp only [String.toList_ofList, if_true, validateCommandOutputMetadata]
    rw [← flag]
    rfl
  | false =>
    obtain ⟨rfl, rfl⟩ := complete rfl
    unfold commandOutputDescriptor resolveCommandOutputCounts
    simp only [String.toList_ofList, validateCommandOutputMetadata]
    rw [← flag]
    rfl

/-- The smallest limit that can be configured. SOURCE: config.rs:378. -/
def minOutputBytes : ℕ := 32768

theorem headTailMarker_short {between : List Char} (bounded : byteLen between < 2 ^ 64) :
    byteLen (headTailMarker (byteLen between)) ≤ minOutputBytes := by
  rw [byteLen_headTailMarker]
  have digits : digitCount (byteLen between) ≤ 20 :=
    (digitCount_le_iff (by decide)).2 (bounded.trans (by decide))
  unfold minOutputBytes
  omega

/-- What was stored describes itself as it was described when it arrived; it is the output, or a
head and a tail of it around the count of what is between them; and under a limit that can be
configured it is stored unchanged again. -/
theorem normalizeCommandOutput_reloads (fuel : ℕ) (output : String) (maxBytes : ℕ)
    (normalized : NormalizedCommandOutput) (memory : byteLen output.toList < 2 ^ 64)
    (returned : normalizeCommandOutput fuel output maxBytes = some normalized) :
    commandOutputDescriptor normalized.output normalized.outputTruncated
        normalized.outputOriginalBytes normalized.outputOriginalLines false =
      .ok normalized.descriptor ∧
    (byteLen output.toList ≤ maxBytes →
      normalized.output = output ∧ normalized.outputTruncated = false) ∧
    (maxBytes < byteLen output.toList →
      normalized.outputTruncated = true ∧ ∃ head between tail,
        output.toList = head ++ between ++ tail ∧
        normalized.output.toList = head ++ headTailMarker (byteLen between) ++ tail) ∧
    (minOutputBytes ≤ maxBytes →
      byteLen normalized.output.toList ≤ maxBytes ∧
      ∀ again, ∃ stored, normalizeCommandOutput again normalized.output maxBytes = some stored ∧
        stored.output = normalized.output ∧ stored.outputTruncated = false) := by
  unfold normalizeCommandOutput at returned
  obtain ⟨⟨durable, truncated⟩, cut, made⟩ := Option.bind_eq_some_iff.1 returned
  obtain ⟨complete, partial_⟩ := boundedHeadTail_spec cut
  cases made
  have size : minOutputBytes ≤ maxBytes → byteLen durable ≤ maxBytes := by
    intro configured
    by_cases fits : byteLen output.toList ≤ maxBytes
    · cases complete fits
      exact fits
    · obtain ⟨-, head, between, tail, whole, shown, room⟩ := partial_ (not_le.1 fits)
      apply room
      refine (headTailMarker_short (lt_of_le_of_lt ?_ memory)).trans configured
      rw [whole, byteLen_append, byteLen_append]
      omega
  refine ⟨?_, ?_, ?_, ?_⟩
  · apply commandOutputDescriptor_eq
    rintro rfl
    by_cases fits : byteLen output.toList ≤ maxBytes
    · cases complete fits
      exact ⟨rfl, rfl⟩
    · cases (partial_ (not_le.1 fits)).1
  · intro fits
    cases complete fits
    exact ⟨String.ofList_toList, rfl⟩
  · intro long
    obtain ⟨flag, head, between, tail, whole, shown, -⟩ := partial_ long
    refine ⟨flag, head, between, tail, whole, ?_⟩
    rw [String.toList_ofList]
    exact shown
  · intro configured
    have fits := size configured
    rw [String.toList_ofList]
    refine ⟨fits, fun again => ?_⟩
    have kept : boundedHeadTail again (String.ofList durable).toList maxBytes =
        some (durable, false) := by
      unfold boundedHeadTail
      rw [String.toList_ofList, if_pos fits]
    unfold normalizeCommandOutput
    rw [kept]
    exact ⟨_, rfl, rfl, rfl⟩

/-- An output of two bytes under a limit of one. -/
theorem normalizeCommandOutput_reloads_sample :
    byteLen "ab".toList < 2 ^ 64 ∧ ∃ normalized,
      normalizeCommandOutput 3 "ab" 1 = some normalized ∧
      commandOutputDescriptor normalized.output normalized.outputTruncated
        normalized.outputOriginalBytes normalized.outputOriginalLines false =
          .ok normalized.descriptor := by
  have memory : byteLen "ab".toList < 2 ^ 64 := by decide
  have returns : (normalizeCommandOutput 3 "ab" 1).isSome = true := by decide +kernel
  obtain ⟨normalized, returned⟩ := Option.isSome_iff_exists.1 returns
  exact ⟨memory, normalized, returned,
    (normalizeCommandOutput_reloads 3 "ab" 1 normalized memory returned).1⟩

end Giskard.Analysis
