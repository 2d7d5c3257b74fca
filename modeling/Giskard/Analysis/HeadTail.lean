import Mathlib
import Giskard.Model.CommandOutput

/-!
# When the head-and-tail cut returns

Each round of `headTailLoop` writes a marker for the current count, cuts the text under the
bytes the marker leaves, and counts again. The marker's width depends on the count through
its number of digits only, so the loop is a walk on digit counts. `retainedBytes` is what a
round keeps under a budget; rounding to characters costs it at most three bytes, which is
what `Foundation.settles_digits_iff` needs. The walk therefore ends unless two consecutive
digit counts lead to each other, and there are texts where they do.
-/

set_option autoImplicit false

namespace Giskard.Analysis

open Foundation

/-! ## What a round keeps -/

/-- The start of the tail kept under a budget: the head is offered half, the tail the rest.
SOURCE: preview.rs:69-82. -/
def retainedTailStart (text : List Char) (budget : ℕ) : ℕ :=
  tailStart text (budget - headEnd text (budget / 2))

/-- The bytes kept under a budget: the tail, and the head under what the tail leaves.
SOURCE: preview.rs:69-90. -/
def retainedBytes (text : List Char) (budget : ℕ) : ℕ :=
  let tail := byteLen text - retainedTailStart text budget
  tail + headEnd text (budget - tail)

/-- The count a round computes when the marker is written with `digits` digits. SOURCE:
preview.rs:67-91. -/
def omittedWith (text : List Char) (maxBytes digits : ℕ) : ℕ :=
  byteLen text - retainedBytes text (maxBytes - (54 + digits))

theorem byteLen_headTailMarker (omitted : ℕ) :
    byteLen (headTailMarker omitted) = 54 + digitCount omitted := by
  simp only [headTailMarker, byteLen_append, byteLen_toDigits]
  rw [show byteLen "\n[… ".toList = 6 by decide,
    show byteLen " bytes omitted from durable command output …]\n".toList = 48 by decide]
  omega

theorem headEnd_le (text : List Char) (budget : ℕ) : headEnd text budget ≤ budget :=
  (retreat_le text _).trans (min_le_left _ _)

theorem headEnd_le_byteLen (text : List Char) (budget : ℕ) :
    headEnd text budget ≤ byteLen text :=
  (retreat_le text _).trans (min_le_right _ _)

theorem headEnd_slack {text : List Char} {budget : ℕ} (inside : budget ≤ byteLen text) :
    budget ≤ headEnd text budget + 3 := by
  rw [headEnd, min_eq_left inside]
  exact retreat_slack inside

theorem tailStart_le (text : List Char) (budget : ℕ) : tailStart text budget ≤ byteLen text :=
  advance_le_byteLen (Nat.sub_le _ _)

theorem tailStart_keeps (text : List Char) (budget : ℕ) :
    byteLen text - tailStart text budget ≤ budget := by
  have := @le_advance text (byteLen text - budget) (Nat.sub_le _ _)
  simp only [tailStart]
  omega

theorem retainedBytes_le (text : List Char) (budget : ℕ) : retainedBytes text budget ≤ budget := by
  have tail := tailStart_keeps text (budget - headEnd text (budget / 2))
  have head := headEnd_le text (budget - (byteLen text - retainedTailStart text budget))
  simp only [retainedTailStart] at head
  simp only [retainedBytes, retainedTailStart]
  omega

theorem retainedBytes_slack {text : List Char} {budget : ℕ} (inside : budget ≤ byteLen text) :
    budget ≤ retainedBytes text budget + 3 := by
  have head := @headEnd_slack text (budget - (byteLen text - retainedTailStart text budget)) (by omega)
  simp only [retainedBytes]
  omega

/-- Offering the tail the bytes the head's half did not use. SOURCE: preview.rs:76-82. -/
theorem retain_tail (text : List Char) (budget : ℕ) :
    (if 0 < budget - (headEnd text (budget / 2) +
        (byteLen text - tailStart text (budget - budget / 2))) then
      tailStart text ((byteLen text - tailStart text (budget - budget / 2)) +
        (budget - (headEnd text (budget / 2) +
          (byteLen text - tailStart text (budget - budget / 2)))))
      else tailStart text (budget - budget / 2)) = retainedTailStart text budget := by
  have head := headEnd_le text (budget / 2)
  have tail := tailStart_keeps text (budget - budget / 2)
  simp only [retainedTailStart]
  split
  · congr 1
    omega
  · congr 1
    omega

theorem headEnd_headEnd (text : List Char) (budget : ℕ) :
    headEnd text (headEnd text budget) = headEnd text budget := by
  have aligned : isCharBoundary text (headEnd text budget) = true :=
    isCharBoundary_retreat text _
  conv_lhs => rw [headEnd, min_eq_left (headEnd_le_byteLen text _)]
  exact retreat_eq_self aligned

/-- Offering the head the bytes the tail did not use. SOURCE: preview.rs:83-87. -/
theorem retain_head (text : List Char) {budget tail : ℕ}
    (fits : tail ≤ budget - headEnd text (budget / 2)) :
    (if 0 < budget - (headEnd text (budget / 2) + tail) then
      headEnd text (headEnd text (budget / 2) + (budget - (headEnd text (budget / 2) + tail)))
      else headEnd text (budget / 2)) = headEnd text (budget - tail) := by
  have head := headEnd_le text (budget / 2)
  by_cases spare : 0 < budget - (headEnd text (budget / 2) + tail)
  · rw [if_pos spare]
    congr 1
    omega
  · rw [if_neg spare, show budget - tail = headEnd text (budget / 2) by omega, headEnd_headEnd]

/-- The two corrections of a round amount to offering the tail what the head's half left,
then offering the head what the tail left; the sections never meet. SOURCE:
preview.rs:69-90. -/
theorem retain_eq {text : List Char} {budget : ℕ} (short : budget < byteLen text) :
    retain text budget =
      (headEnd text (budget - (byteLen text - retainedTailStart text budget)),
        retainedTailStart text budget) := by
  have tail : byteLen text - retainedTailStart text budget ≤
      budget - headEnd text (budget / 2) := tailStart_keeps text _
  have head := headEnd_le text (budget - (byteLen text - retainedTailStart text budget))
  have start : retainedTailStart text budget ≤ byteLen text := tailStart_le text _
  have apart : ¬ retainedTailStart text budget <
      headEnd text (budget - (byteLen text - retainedTailStart text budget)) := by omega
  simp only [retain, retain_tail, retain_head text tail, if_neg apart]

theorem retain_omitted {text : List Char} {budget : ℕ} (short : budget < byteLen text) :
    byteLen text - (retain text budget).1 - (byteLen text - (retain text budget).2) =
      byteLen text - retainedBytes text budget := by
  rw [retain_eq short]
  simp only [retainedBytes]
  omega

/-! ## The loop as a walk on digit counts -/

/-- The loop returns within the rounds in which its count settles. SOURCE:
preview.rs:66-101. -/
theorem headTailLoop_isSome {text : List Char} {maxBytes : ℕ} (long : maxBytes < byteLen text)
    (fuel omitted : ℕ) :
    (headTailLoop text maxBytes fuel omitted).isSome =
      (settle (fun n => omittedWith text maxBytes (digitCount n)) fuel omitted).isSome := by
  induction fuel generalizing omitted with
  | zero => rfl
  | succ fuel ih =>
    have actual : byteLen text -
          (retain text (maxBytes - byteLen (headTailMarker omitted))).1 -
        (byteLen text - (retain text (maxBytes - byteLen (headTailMarker omitted))).2) =
          omittedWith text maxBytes (digitCount omitted) := by
      rw [retain_omitted (by omega), byteLen_headTailMarker, omittedWith]
    simp only [headTailLoop, settle, actual]
    split
    · rfl
    · exact ih _

theorem omittedWith_digitSlack {text : List Char} {maxBytes : ℕ} (long : maxBytes < byteLen text) :
    DigitSlack (byteLen text) (omittedWith text maxBytes) where
  pos d := by
    have := retainedBytes_le text (maxBytes - (54 + d))
    simp only [omittedWith]
    omega
  le_total d := Nat.sub_le _ _
  upper {d e} below := by
    have high := retainedBytes_le text (maxBytes - (54 + d))
    have low := @retainedBytes_slack text (maxBytes - (54 + e)) (by omega)
    simp only [omittedWith]
    omega
  lower {d e} below := by
    have high := retainedBytes_le text (maxBytes - (54 + e))
    have low := @retainedBytes_slack text (maxBytes - (54 + d)) (by omega)
    simp only [omittedWith]
    omega

/-- The cut returns exactly when the text fits or no two consecutive digit counts lead to
each other. SOURCE: preview.rs:59-102. -/
theorem boundedHeadTail_isSome_iff (text : List Char) (maxBytes : ℕ) :
    (∃ fuel, (boundedHeadTail fuel text maxBytes).isSome) ↔
      (maxBytes < byteLen text → ∀ d, ¬ DigitTrap (omittedWith text maxBytes) d) := by
  by_cases fits : byteLen text ≤ maxBytes
  · simp [boundedHeadTail, fits]
  · have long : maxBytes < byteLen text := by omega
    simp only [boundedHeadTail, if_neg fits, headTailLoop_isSome long, long, true_imp_iff]
    exact settles_digits_iff (omittedWith_digitSlack long)

theorem normalizeCommandOutput_isSome (fuel : ℕ) (output : String) (maxBytes : ℕ) :
    (normalizeCommandOutput fuel output maxBytes).isSome =
      (boundedHeadTail fuel output.toList maxBytes).isSome := by
  simp only [normalizeCommandOutput]
  cases boundedHeadTail fuel output.toList maxBytes <;> rfl

/-- Normalization and its cut return exactly on the same outputs: those that fit, and those
for which no number of digits `d` has the property that a marker of `d` digits leaves out a
number of more than `d` digits while a marker of one digit more leaves out a number of at
most `d` digits. SOURCE: preview.rs:59-102, command_output.rs:8-34. -/
theorem normalizeCommandOutput_returns_iff (output : String) (maxBytes : ℕ) :
    ((∃ fuel, (boundedHeadTail fuel output.toList maxBytes).isSome) ↔
        (maxBytes < byteLen output.toList →
          ∀ d, ¬ (10 ^ d ≤ omittedWith output.toList maxBytes d ∧
            omittedWith output.toList maxBytes (d + 1) < 10 ^ d))) ∧
      ((∃ fuel, (normalizeCommandOutput fuel output maxBytes).isSome) ↔
        (maxBytes < byteLen output.toList →
          ∀ d, ¬ (10 ^ d ≤ omittedWith output.toList maxBytes d ∧
            omittedWith output.toList maxBytes (d + 1) < 10 ^ d))) := by
  have cut := boundedHeadTail_isSome_iff output.toList maxBytes
  refine ⟨cut, ?_⟩
  simp only [normalizeCommandOutput_isSome]
  exact cut

/-! ## An output on which the loop does not end -/

/-- ASCII text, except for two four-byte characters where the head is cut and one where the
tail is cut. -/
def wideText (a m z : ℕ) : List Char :=
  List.replicate a 'a' ++ '😀' :: '😀' :: (List.replicate m 'm' ++
    'x' :: '😀' :: List.replicate z 'z')

theorem byteLen_replicate_ascii (n : ℕ) {c : Char} (ascii : c.utf8Size = 1) :
    byteLen (List.replicate n c) = n := by
  rw [byteLen_replicate, ascii, mul_one]

theorem byteLen_wideText (a m z : ℕ) : byteLen (wideText a m z) = a + m + z + 13 := by
  simp only [wideText, byteLen_append, byteLen_cons, byteLen_replicate_ascii a (c := 'a') rfl,
    byteLen_replicate_ascii m (c := 'm') rfl, byteLen_replicate_ascii z (c := 'z') rfl,
    show '😀'.utf8Size = 4 from rfl, show 'x'.utf8Size = 1 from rfl]
  omega

theorem wideText_headEnd (a m z : ℕ) {k : ℕ} (inside : k < 4) :
    headEnd (wideText a m z) (a + k) = a := by
  have seam : byteLen (List.replicate a 'a') = a := byteLen_replicate_ascii a rfl
  have start := retreat_inside (List.replicate a 'a') ('😀' :: (List.replicate m 'm' ++
    'x' :: '😀' :: List.replicate z 'z')) '😀' (k := k) inside
  rw [seam] at start
  rw [headEnd, min_eq_left (by rw [byteLen_wideText]; omega)]
  exact start

theorem wideText_headEnd_second (a m z : ℕ) {k : ℕ} (inside : k < 4) :
    headEnd (wideText a m z) (a + 4 + k) = a + 4 := by
  have seam : byteLen (List.replicate a 'a' ++ ['😀']) = a + 4 := by
    rw [byteLen_append, byteLen_replicate_ascii a rfl]
    rfl
  have start := retreat_inside (List.replicate a 'a' ++ ['😀']) (List.replicate m 'm' ++
    'x' :: '😀' :: List.replicate z 'z') '😀' (k := k) inside
  rw [seam, List.append_assoc] at start
  rw [headEnd, min_eq_left (by rw [byteLen_wideText]; omega)]
  exact start

theorem wideText_tailStart (a m z : ℕ) : tailStart (wideText a m z) (z + 5) = a + m + 8 := by
  have split : wideText a m z = (List.replicate a 'a' ++ '😀' :: '😀' ::
      List.replicate m 'm') ++ 'x' :: '😀' :: List.replicate z 'z' := by
    simp only [wideText, List.append_assoc, List.cons_append]
  have seam : byteLen (List.replicate a 'a' ++ '😀' :: '😀' :: List.replicate m 'm') =
      a + m + 8 := by
    simp only [byteLen_append, byteLen_cons, byteLen_replicate_ascii a (c := 'a') rfl,
      byteLen_replicate_ascii m (c := 'm') rfl, show '😀'.utf8Size = 4 from rfl]
    omega
  rw [tailStart, byteLen_wideText, show a + m + z + 13 - (z + 5) = a + m + 8 by omega, split,
    ← seam]
  exact advance_eq_self (isCharBoundary_seam _ _)

theorem wideText_tailStart_inside (a m z : ℕ) :
    tailStart (wideText a m z) (z + 2) = a + m + 13 := by
  have split : wideText a m z = (List.replicate a 'a' ++ '😀' :: '😀' ::
      (List.replicate m 'm' ++ ['x'])) ++ '😀' :: List.replicate z 'z' := by
    simp only [wideText, List.append_assoc, List.cons_append, List.nil_append]
  have seam : byteLen (List.replicate a 'a' ++ '😀' :: '😀' ::
      (List.replicate m 'm' ++ ['x'])) = a + m + 9 := by
    simp only [byteLen_append, byteLen_cons, byteLen_replicate_ascii a (c := 'a') rfl,
      byteLen_replicate_ascii m (c := 'm') rfl, show '😀'.utf8Size = 4 from rfl,
      show 'x'.utf8Size = 1 from rfl, byteLen_nil]
    omega
  have past := advance_inside (List.replicate a 'a' ++ '😀' :: '😀' ::
    (List.replicate m 'm' ++ ['x'])) (List.replicate z 'z') '😀' (k := 2) (by decide) (by decide)
  rw [seam, ← split] at past
  rw [tailStart, byteLen_wideText, show a + m + z + 13 - (z + 2) = a + m + 9 + 2 by omega]
  exact past

/-- 32810 bytes, cut under 32712 and 32711. -/
def alternatingText : List Char := wideText 16352 91 16354

theorem byteLen_alternatingText : byteLen alternatingText = 32810 := byteLen_wideText _ _ _

theorem omittedWith_of_cuts {text : List Char} {maxBytes d budget half start rest : ℕ}
    (budget_eq : maxBytes - (54 + d) = budget) (half_eq : headEnd text (budget / 2) = half)
    (start_eq : tailStart text (budget - half) = start)
    (rest_eq : headEnd text (budget - (byteLen text - start)) = rest) :
    omittedWith text maxBytes d = byteLen text - (byteLen text - start + rest) := by
  simp only [omittedWith, retainedBytes, retainedTailStart, budget_eq, half_eq, start_eq, rest_eq]

theorem omittedWith_alternatingText_two : omittedWith alternatingText 32768 2 = 100 := by
  rw [@omittedWith_of_cuts alternatingText 32768 2 32712 16356 16456 16356 rfl
    (wideText_headEnd_second 16352 91 16354 (k := 0) (by decide))
    (wideText_tailStart_inside 16352 91 16354) ?_, byteLen_alternatingText]
  rw [byteLen_alternatingText]
  exact wideText_headEnd_second 16352 91 16354 (k := 2) (by decide)

theorem omittedWith_alternatingText_three : omittedWith alternatingText 32768 3 = 99 := by
  rw [@omittedWith_of_cuts alternatingText 32768 3 32711 16352 16451 16352 rfl
    (wideText_headEnd 16352 91 16354 (k := 3) (by decide))
    (wideText_tailStart 16352 91 16354) ?_, byteLen_alternatingText]
  rw [byteLen_alternatingText]
  exact wideText_headEnd 16352 91 16354 (k := 0) (by decide)

/-- At the smallest configured limit the count of this output goes from 99 to 100 and back,
so neither the cut nor the normalization ever returns. SOURCE: preview.rs:59-102. -/
theorem normalizeCommandOutput_alternates :
    (¬ ∃ fuel, (boundedHeadTail fuel alternatingText 32768).isSome) ∧
      ¬ ∃ fuel, (normalizeCommandOutput fuel (String.ofList alternatingText) 32768).isSome := by
  have trap : DigitTrap (omittedWith alternatingText 32768) 2 := by
    refine ⟨?_, ?_⟩
    · rw [omittedWith_alternatingText_two]
      decide
    · rw [omittedWith_alternatingText_three]
      decide
  have stuck : ¬ ∃ fuel, (boundedHeadTail fuel alternatingText 32768).isSome := by
    rw [boundedHeadTail_isSome_iff]
    intro free
    exact free (by rw [byteLen_alternatingText]; decide) 2 trap
  refine ⟨stuck, ?_⟩
  simpa only [normalizeCommandOutput_isSome, String.toList_ofList] using stuck

end Giskard.Analysis
