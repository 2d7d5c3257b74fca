import Mathlib
import Giskard.Foundation.TextFile

/-!
# Text read from bytes that may not be UTF-8

`fromUtf8Lossy` reads every byte string: a sequence of bytes that encodes a character is that
character, and a maximal start of such a sequence that breaks off, or a byte that starts none,
is one replacement character. It inverts the encoding (`fromUtf8Lossy_utf8`), also in front of
bytes that are not UTF-8 (`fromUtf8Lossy_append`), and an ASCII byte occurs in an encoded text
exactly where the text has its character (`mem_utf8_ascii`).
-/

set_option autoImplicit false

namespace Foundation

theorem mem_utf8_nul {text : List Char} : (0 : UInt8) ∈ utf8 text ↔ '\x00' ∈ text :=
  mem_utf8_ascii (by decide) (by decide)

theorem utf8_eq_nil {text : List Char} : utf8 text = [] ↔ text = [] := by
  constructor
  · intro empty
    cases text with
    | nil => rfl
    | cons c text =>
      rw [utf8, List.flatMap_cons, List.append_eq_nil_iff] at empty
      exact absurd empty.1 String.utf8EncodeChar_ne_nil
  · rintro rfl
    rfl

/-! ## Lossy reading -/

/-- Whether a byte continues a character. -/
def isContinuation (b : UInt8) : Bool := b &&& 0xC0 == 0x80

/-- Whether a second byte goes with a first byte that announces three or four. -/
def secondFits (first second : UInt8) : Bool :=
  if first = 0xE0 then 0xA0 ≤ second && second ≤ 0xBF
  else if first = 0xED then 0x80 ≤ second && second ≤ 0x9F
  else if first = 0xF0 then 0x90 ≤ second && second ≤ 0xBF
  else if first = 0xF4 then 0x80 ≤ second && second ≤ 0x8F
  else 0xE1 ≤ first && first ≤ 0xF3 && isContinuation second

/-- How many bytes one replacement character stands for, where no character starts: the
longest start of a character's sequence, and at least one byte. -/
def brokenLength : List UInt8 → ℕ
  | first :: second :: rest =>
    if secondFits first second then
      match rest with
      | third :: _ => if 0xF0 ≤ first && isContinuation third then 3 else 2
      | [] => 2
    else 1
  | _ => 1

/-- The reading loop, with the number of bytes it may still take. -/
def readLossy : ℕ → List UInt8 → List Char
  | 0, _ => []
  | _ + 1, [] => []
  | fuel + 1, bytes =>
    match bytes.toByteArray.utf8DecodeChar? 0 with
    | some c => c :: readLossy fuel (bytes.drop c.utf8Size)
    | none => '\uFFFD' :: readLossy fuel (bytes.drop (brokenLength bytes))

/-- The text of some bytes, with a replacement character for what is not UTF-8. -/
def fromUtf8Lossy (bytes : List UInt8) : List Char := readLossy bytes.length bytes

@[simp] theorem fromUtf8Lossy_nil : fromUtf8Lossy [] = [] := rfl

theorem brokenLength_pos (bytes : List UInt8) : 0 < brokenLength bytes := by
  unfold brokenLength
  split
  · split
    · split
      · split <;> omega
      · omega
    · omega
  · omega

theorem length_drop_lt {bytes : List UInt8} (some_ : bytes ≠ []) {n : ℕ} (pos : 0 < n) :
    (bytes.drop n).length < bytes.length := by
  have := List.length_pos_iff.2 some_
  rw [List.length_drop]
  omega

theorem readLossy_succ (fuel : ℕ) {bytes : List UInt8} (some_ : bytes ≠ []) :
    readLossy (fuel + 1) bytes =
      match bytes.toByteArray.utf8DecodeChar? 0 with
      | some c => c :: readLossy fuel (bytes.drop c.utf8Size)
      | none => '\uFFFD' :: readLossy fuel (bytes.drop (brokenLength bytes)) := by
  cases bytes with
  | nil => exact absurd rfl some_
  | cons b bytes => rfl

/-- More fuel than bytes reads nothing more. -/
theorem readLossy_enough {fuel : ℕ} {bytes : List UInt8} (enough : bytes.length ≤ fuel) :
    readLossy fuel bytes = fromUtf8Lossy bytes := by
  unfold fromUtf8Lossy
  induction fuel using Nat.strong_induction_on generalizing bytes with
  | _ fuel ih =>
    by_cases exact_ : bytes.length = fuel
    · rw [exact_]
    cases bytes with
    | nil =>
      cases fuel with
      | zero => rfl
      | succ fuel => rfl
    | cons b bytes =>
      obtain ⟨fuel, rfl⟩ : ∃ less, fuel = less + 1 := ⟨fuel - 1, by simp at enough; omega⟩
      have fewer {n : ℕ} (pos : 0 < n) :
          readLossy fuel ((b :: bytes).drop n) = readLossy bytes.length ((b :: bytes).drop n) := by
        have shorter := length_drop_lt (List.cons_ne_nil b bytes) pos
        rw [List.length_cons] at shorter enough exact_
        rw [ih fuel (by omega) (by omega)]
        exact (ih bytes.length (by omega) (by omega)).symm
      rw [List.length_cons, readLossy_succ _ (List.cons_ne_nil b bytes),
        readLossy_succ _ (List.cons_ne_nil b bytes)]
      split
      · rw [fewer (Char.utf8Size_pos _)]
      · rw [fewer (brokenLength_pos _)]

theorem fromUtf8Lossy_encoded (c : Char) (rest : List UInt8) :
    fromUtf8Lossy (String.utf8EncodeChar c ++ rest) = c :: fromUtf8Lossy rest := by
  have size : (String.utf8EncodeChar c).length = c.utf8Size := String.length_utf8EncodeChar c
  have pos := Char.utf8Size_pos c
  have decoded : (String.utf8EncodeChar c ++ rest).toByteArray.utf8DecodeChar? 0 = some c := by
    rw [List.toByteArray_append]
    exact ByteArray.utf8DecodeChar?_utf8EncodeChar_append
  have some_ : String.utf8EncodeChar c ++ rest ≠ [] :=
    List.append_ne_nil_of_left_ne_nil String.utf8EncodeChar_ne_nil rest
  obtain ⟨fuel, length⟩ : ∃ fuel, (String.utf8EncodeChar c ++ rest).length = fuel + 1 :=
    Nat.exists_eq_succ_of_ne_zero (by rwa [ne_eq, List.length_eq_zero_iff])
  rw [fromUtf8Lossy, length, readLossy_succ fuel some_, decoded]
  have rest_ : (String.utf8EncodeChar c ++ rest).drop c.utf8Size = rest := by
    rw [← size, List.drop_left]
  dsimp only
  rw [rest_, readLossy_enough]
  rw [List.length_append, size] at length
  omega

theorem fromUtf8Lossy_append (text : List Char) (rest : List UInt8) :
    fromUtf8Lossy (utf8 text ++ rest) = text ++ fromUtf8Lossy rest := by
  induction text with
  | nil => rfl
  | cons c text ih =>
    rw [utf8, List.flatMap_cons, List.append_assoc, fromUtf8Lossy_encoded, List.cons_append]
    rw [utf8] at ih
    rw [ih]

@[simp] theorem fromUtf8Lossy_utf8 (text : List Char) : fromUtf8Lossy (utf8 text) = text := by
  have whole := fromUtf8Lossy_append text []
  rwa [List.append_nil, fromUtf8Lossy_nil, List.append_nil] at whole

theorem fromUtf8Lossy_eq_nil {bytes : List UInt8} : fromUtf8Lossy bytes = [] ↔ bytes = [] := by
  constructor
  · intro empty
    cases bytes with
    | nil => rfl
    | cons b bytes =>
      rw [fromUtf8Lossy, List.length_cons, readLossy_succ _ (List.cons_ne_nil b bytes)] at empty
      split at empty <;> cases empty
  · rintro rfl
    rfl

end Foundation
