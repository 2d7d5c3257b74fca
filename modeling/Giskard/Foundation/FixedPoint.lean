import Mathlib

/-!
# Loops that run to a fixed point

`settle next` is the loop that recomputes a number until the recomputation gives the same
number back. Such a loop need not end. A `next` that only looks at the number of decimal digits, as
a text that states its own length does, settles unless two consecutive digit counts lead to each
other. For a computation with a slack of at most three this is the only way to fail
(`settles_digits_iff`).
-/

set_option autoImplicit false

namespace Foundation

/-- The loop `x := next x` until `next x = x`, cut off after `fuel` rounds. -/
def settle (next : ℕ → ℕ) : ℕ → ℕ → Option ℕ
  | 0, _ => none
  | fuel + 1, x => if next x = x then some x else settle next fuel (next x)

/-- The loop ends from `x`: some number of rounds is enough. -/
def Settles (next : ℕ → ℕ) (x : ℕ) : Prop := ∃ fuel, (settle next fuel x).isSome

theorem settle_fixed {next : ℕ → ℕ} {fuel x y : ℕ} (result : settle next fuel x = some y) :
    next y = y := by
  induction fuel generalizing x with
  | zero => simp [settle] at result
  | succ fuel ih =>
    simp only [settle] at result
    split at result
    · next fixed =>
      obtain rfl := Option.some.inj result
      exact fixed
    · exact ih result

theorem settles_of_fixed {next : ℕ → ℕ} {x : ℕ} (fixed : next x = x) : Settles next x :=
  ⟨1, by simp [settle, fixed]⟩

theorem settles_next_iff {next : ℕ → ℕ} {x : ℕ} : Settles next (next x) ↔ Settles next x := by
  constructor
  · rintro ⟨fuel, ends⟩
    by_cases fixed : next x = x
    · exact settles_of_fixed fixed
    · exact ⟨fuel + 1, by simpa [settle, fixed] using ends⟩
  · rintro ⟨fuel, ends⟩
    by_cases fixed : next x = x
    · exact fixed.symm ▸ settles_of_fixed fixed
    · cases fuel with
      | zero => simp [settle] at ends
      | succ fuel => exact ⟨fuel, by simpa [settle, fixed] using ends⟩

theorem not_settles_of_invariant {next : ℕ → ℕ} (trapped : ℕ → Prop)
    (closed : ∀ x, trapped x → trapped (next x)) (moves : ∀ x, trapped x → next x ≠ x)
    {x : ℕ} (start : trapped x) : ¬ Settles next x := by
  rintro ⟨fuel, ends⟩
  induction fuel generalizing x with
  | zero => simp [settle] at ends
  | succ fuel ih =>
    rw [settle, if_neg (moves x start)] at ends
    exact ih (closed x start) ends

/-! ## Values that depend on a digit count -/

/-- How many decimal digits a number is written with. -/
def digitCount (n : ℕ) : ℕ := (Nat.toDigits 10 n).length

theorem digitCount_pos (n : ℕ) : 0 < digitCount n :=
  List.length_pos_iff.2 Nat.toDigits_ne_nil

theorem digitCount_le_iff {n d : ℕ} (pos : 0 < d) : digitCount n ≤ d ↔ n < 10 ^ d :=
  Nat.length_toDigits_le_iff (by decide) pos

theorem lt_ten_pow_digitCount (n : ℕ) : n < 10 ^ digitCount n :=
  (digitCount_le_iff (digitCount_pos n)).1 le_rfl

theorem lt_digitCount_iff {n d : ℕ} (pos : 0 < d) : d < digitCount n ↔ 10 ^ d ≤ n := by
  rw [← not_le, digitCount_le_iff pos, not_lt]

theorem digitCount_mono {m n : ℕ} (below : m ≤ n) : digitCount m ≤ digitCount n :=
  (digitCount_le_iff (digitCount_pos n)).2 (below.trans_lt (lt_ten_pow_digitCount n))

theorem digitCount_eq_succ {n d : ℕ} (pos : 0 < d) (low : 10 ^ d ≤ n) (high : n < 10 ^ (d + 1)) :
    digitCount n = d + 1 :=
  le_antisymm ((digitCount_le_iff (Nat.succ_pos d)).2 high) ((lt_digitCount_iff pos).2 low)

/-- What a computation of the part that does not fit, out of `total`, has in common for all
the digit counts its own statement may need: something is left out, the statement costs one
more for each digit, and rounding costs at most three either way unless nothing is kept. -/
structure DigitSlack (total : ℕ) (left : ℕ → ℕ) : Prop where
  pos : ∀ d, 0 < left d
  le_total : ∀ d, left d ≤ total
  upper : ∀ {d e}, d ≤ e → left e ≤ left d + (e - d) + 3
  lower : ∀ {d e}, d ≤ e → left e = total ∨ left d + (e - d) ≤ left e + 3

/-- Two consecutive digit counts lead to each other: with `d` digits written the rest needs
`d + 1`, with `d + 1` written it needs only `d`. -/
def DigitTrap (left : ℕ → ℕ) (d : ℕ) : Prop := 10 ^ d ≤ left d ∧ left (d + 1) < 10 ^ d

namespace DigitSlack

variable {total : ℕ} {left : ℕ → ℕ}

theorem trap_pos (slack : DigitSlack total left) {d : ℕ} (trap : DigitTrap left d) : 0 < d := by
  rcases Nat.eq_zero_or_pos d with rfl | pos
  · have := slack.pos 1
    have := trap.2
    simp at this
    omega
  · exact pos

theorem trap_above (slack : DigitSlack total left) {d e : ℕ} (trap : DigitTrap left d)
    (above : d + 2 ≤ e) : left e < 10 ^ (e - 1) := by
  obtain ⟨k, rfl⟩ := Nat.exists_eq_add_of_le above
  have upper := slack.upper (d := d + 1) (e := d + 2 + k) (by omega)
  have base : 10 ≤ 10 ^ d := by
    calc 10 = 10 ^ 1 := by norm_num
      _ ≤ 10 ^ d := Nat.pow_le_pow_right (by norm_num) (slack.trap_pos trap)
  have grow : k < 10 ^ k := Nat.lt_pow_self (by norm_num)
  have power : 10 ^ (d + 2 + k - 1) = 10 ^ d * 10 * 10 ^ k := by
    rw [show d + 2 + k - 1 = d + 1 + k by omega, pow_add, pow_succ]
  have room : 10 ^ d + k + 4 ≤ 10 ^ d * 10 * 10 ^ k := by nlinarith
  have := trap.2
  omega

theorem trap_below (slack : DigitSlack total left) {d e : ℕ} (trap : DigitTrap left d)
    (above : d ≤ e) : d ≤ digitCount (left e) := by
  have pos := slack.trap_pos trap
  have base : 10 ≤ 10 ^ d := by
    calc 10 = 10 ^ 1 := by norm_num
      _ ≤ 10 ^ d := Nat.pow_le_pow_right (by norm_num) pos
  have step : 10 ^ d = 10 ^ (d - 1) * 10 := by
    rw [← pow_succ, Nat.sub_add_cancel pos]
  have low : 10 ^ (d - 1) ≤ left e := by
    have trapLow := trap.1
    have total_le := slack.le_total d
    rcases slack.lower above with all | near <;> omega
  rcases Nat.lt_or_ge 1 d with more | one
  · have := (lt_digitCount_iff (n := left e) (d := d - 1) (by omega)).2 low
    omega
  · have := digitCount_pos (left e)
    omega

theorem not_settles (slack : DigitSlack total left) {d : ℕ} (trap : DigitTrap left d) :
    ¬ Settles (fun n => left (digitCount n)) total := by
  have pos := slack.trap_pos trap
  refine not_settles_of_invariant (fun n => d ≤ digitCount n) ?_ ?_ ?_
  · intro n above
    exact slack.trap_below trap above
  · intro n above fixed
    have same : digitCount (left (digitCount n)) = digitCount n := congrArg digitCount fixed
    rcases Nat.lt_or_ge (digitCount n) (d + 2) with near | far
    · obtain here | next : digitCount n = d ∨ digitCount n = d + 1 := by omega
      · rw [here] at same
        have := (lt_digitCount_iff pos).2 trap.1
        omega
      · rw [next] at same
        have := (digitCount_le_iff pos).2 trap.2
        omega
    · have shrink := slack.trap_above trap far
      have := (digitCount_le_iff (d := digitCount n - 1) (by omega)).2 shrink
      omega
  · have : d < digitCount total :=
      (lt_digitCount_iff pos).2 (trap.1.trans (slack.le_total d))
    exact this.le

/-- The step after the first increase of the digit count: without a trap, the larger count
is a fixed point. -/
theorem settles_of_increase (slack : DigitSlack total left) (free : ∀ d, ¬ DigitTrap left d)
    {d e : ℕ} (pos : 0 < d) (below : d < e) (high : left e < 10 ^ d) (low : 10 ^ d ≤ left d) :
    Settles (fun n => left (digitCount n)) (left d) := by
  have base : 10 ≤ 10 ^ d := by
    calc 10 = 10 ^ 1 := by norm_num
      _ ≤ 10 ^ d := Nat.pow_le_pow_right (by norm_num) pos
  have step : 10 ^ (d + 1) = 10 ^ d * 10 := pow_succ 10 d
  have total_le := slack.le_total d
  have near : left d + (e - d) ≤ left e + 3 := by
    rcases slack.lower below.le with all | near
    · omega
    · exact near
  have next : e ≠ d + 1 := by
    rintro rfl
    exact free d ⟨low, high⟩
  obtain rfl : e = d + 2 := by omega
  have above : 10 ^ d ≤ left (d + 1) := by
    by_contra short
    exact free d ⟨low, by omega⟩
  have tight : left (d + 1) + 1 ≤ left (d + 2) + 3 := by
    rcases slack.lower (d := d + 1) (e := d + 2) (by omega) with all | tight
    · omega
    · simpa using tight
  have here : digitCount (left d) = d + 1 := digitCount_eq_succ pos low (by omega)
  have there : digitCount (left (d + 1)) = d + 1 := digitCount_eq_succ pos above (by omega)
  rw [← settles_next_iff]
  refine settles_of_fixed ?_
  simp only [here, there]

theorem settles (slack : DigitSlack total left) (free : ∀ d, ¬ DigitTrap left d) {n : ℕ}
    (down : digitCount (left (digitCount n)) ≤ digitCount n) :
    Settles (fun n => left (digitCount n)) n := by
  induction e : digitCount n using Nat.strong_induction_on generalizing n with
  | _ _ ih =>
    subst e
    rw [← settles_next_iff]
    rcases down.lt_or_eq with less | same
    · by_cases again : digitCount (left (digitCount (left (digitCount n)))) ≤
          digitCount (left (digitCount n))
      · exact ih _ less again rfl
      · rw [← settles_next_iff]
        have pos := digitCount_pos (left (digitCount n))
        refine slack.settles_of_increase free pos less (lt_ten_pow_digitCount _) ?_
        exact (lt_digitCount_iff pos).1 (not_le.1 again)
    · refine settles_of_fixed ?_
      simp only [same]

end DigitSlack

theorem settles_digits_iff {total : ℕ} {left : ℕ → ℕ} (slack : DigitSlack total left) :
    Settles (fun n => left (digitCount n)) total ↔ ∀ d, ¬ DigitTrap left d := by
  constructor
  · intro ends d trap
    exact slack.not_settles trap ends
  · intro free
    exact slack.settles free (digitCount_mono (slack.le_total _))

end Foundation
