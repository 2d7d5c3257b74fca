import Mathlib

/-!
# Text measured in bytes

A text is a list of characters; its length and the positions in it are counted in UTF-8
bytes. A position is a boundary when it falls between two characters. `retreat` and
`advance` are the two loops that move a position to a boundary, backwards and forwards, and
`takeBytes`/`dropBytes` cut a text at a boundary.

The one quantitative fact behind every budget computation is that a character has at most
four bytes, so both loops move by at most three (`retreat_slack`, `advance_slack`).
-/

set_option autoImplicit false

namespace Foundation

/-- The UTF-8 length of a text. -/
def byteLen (text : List Char) : ℕ := (text.map Char.utf8Size).sum

@[simp] theorem byteLen_nil : byteLen [] = 0 := rfl

@[simp] theorem byteLen_cons (c : Char) (text : List Char) :
    byteLen (c :: text) = c.utf8Size + byteLen text := by
  simp [byteLen]

@[simp] theorem byteLen_append (left right : List Char) :
    byteLen (left ++ right) = byteLen left + byteLen right := by
  simp [byteLen]

theorem byteLen_eq_length {text : List Char} (ascii : ∀ c ∈ text, c.utf8Size = 1) :
    byteLen text = text.length := by
  induction text with
  | nil => rfl
  | cons c text ih =>
    have head : c.utf8Size = 1 := ascii c (by simp)
    have tail := ih fun d hd => ascii d (by simp [hd])
    simp only [byteLen_cons, List.length_cons, head, tail]
    omega

/-- Whether a byte position falls between two characters of the text. -/
def isCharBoundary : List Char → ℕ → Bool
  | _, 0 => true
  | [], _ + 1 => false
  | c :: text, i + 1 => decide (c.utf8Size ≤ i + 1) && isCharBoundary text (i + 1 - c.utf8Size)

@[simp] theorem isCharBoundary_zero (text : List Char) : isCharBoundary text 0 = true := by
  cases text <;> rfl

theorem isCharBoundary_cons (c : Char) (text : List Char) (i : ℕ) :
    isCharBoundary (c :: text) i = true ↔
      i = 0 ∨ (c.utf8Size ≤ i ∧ isCharBoundary text (i - c.utf8Size) = true) := by
  have size := Char.utf8Size_pos c
  cases i with
  | zero => simp
  | succ i => simp [isCharBoundary]

theorem isCharBoundary_byteLen (text : List Char) : isCharBoundary text (byteLen text) = true := by
  induction text with
  | nil => simp
  | cons c text ih =>
    rw [isCharBoundary_cons]
    right
    simp [ih]

theorem isCharBoundary_le {text : List Char} {i : ℕ} (boundary : isCharBoundary text i = true) :
    i ≤ byteLen text := by
  induction text generalizing i with
  | nil => cases i <;> simp_all [isCharBoundary]
  | cons c text ih =>
    rcases (isCharBoundary_cons c text i).1 boundary with rfl | ⟨fits, rest⟩
    · exact Nat.zero_le _
    · have := ih rest
      simp only [byteLen_cons]
      omega

theorem isCharBoundary_append (left right : List Char) (i : ℕ) :
    isCharBoundary (left ++ right) i = true ↔
      isCharBoundary left i = true ∨
        (byteLen left ≤ i ∧ isCharBoundary right (i - byteLen left) = true) := by
  induction left generalizing i with
  | nil => cases i <;> simp [isCharBoundary]
  | cons c left ih =>
    have size := Char.utf8Size_pos c
    rw [List.cons_append, isCharBoundary_cons, isCharBoundary_cons, ih]
    simp only [byteLen_cons, Nat.sub_sub]
    constructor
    · rintro (rfl | ⟨fits, inside | ⟨past, inside⟩⟩)
      · exact .inl (.inl rfl)
      · exact .inl (.inr ⟨fits, inside⟩)
      · exact .inr ⟨by omega, inside⟩
    · rintro ((rfl | ⟨fits, inside⟩) | ⟨past, inside⟩)
      · exact .inl rfl
      · exact .inr ⟨fits, .inl inside⟩
      · exact .inr ⟨by omega, .inr ⟨by omega, inside⟩⟩

theorem exists_isCharBoundary_above {text : List Char} {i : ℕ} (inside : i ≤ byteLen text) :
    ∃ j, i ≤ j ∧ j ≤ i + 3 ∧ isCharBoundary text j = true := by
  induction text generalizing i with
  | nil => exact ⟨0, by simpa using inside, by omega, rfl⟩
  | cons c text ih =>
    have size := Char.utf8Size_pos c
    have four := Char.utf8Size_le_four c
    rw [byteLen_cons] at inside
    by_cases before : i ≤ c.utf8Size
    · by_cases start : i = 0
      · exact ⟨0, by omega, by omega, by simp⟩
      · refine ⟨c.utf8Size, before, by omega, ?_⟩
        rw [isCharBoundary_cons]
        exact .inr ⟨le_rfl, by simp⟩
    · obtain ⟨j, above, near, boundary⟩ := ih (i := i - c.utf8Size) (by omega)
      refine ⟨j + c.utf8Size, by omega, by omega, ?_⟩
      rw [isCharBoundary_cons]
      exact .inr ⟨by omega, by simpa using boundary⟩

/-! ## The two loops to a boundary -/

/-- The loop that moves a position backwards until it is a boundary. -/
def retreat (text : List Char) : ℕ → ℕ
  | 0 => 0
  | i + 1 => if isCharBoundary text (i + 1) then i + 1 else retreat text i

theorem retreat_le (text : List Char) (i : ℕ) : retreat text i ≤ i := by
  induction i with
  | zero => simp [retreat]
  | succ i ih =>
    simp only [retreat]
    split <;> omega

theorem isCharBoundary_retreat (text : List Char) (i : ℕ) :
    isCharBoundary text (retreat text i) = true := by
  induction i with
  | zero => simp [retreat]
  | succ i ih =>
    simp only [retreat]
    split
    · assumption
    · exact ih

theorem le_retreat {text : List Char} {i j : ℕ} (boundary : isCharBoundary text j = true)
    (before : j ≤ i) : j ≤ retreat text i := by
  induction i with
  | zero => simpa [retreat] using before
  | succ i ih =>
    simp only [retreat]
    split
    · exact before
    · next unaligned =>
      have : j ≠ i + 1 := by
        rintro rfl
        exact unaligned boundary
      exact ih (by omega)

theorem retreat_eq_self {text : List Char} {i : ℕ} (boundary : isCharBoundary text i = true) :
    retreat text i = i :=
  le_antisymm (retreat_le text i) (le_retreat boundary le_rfl)

theorem retreat_slack {text : List Char} {i : ℕ} (inside : i ≤ byteLen text) :
    i ≤ retreat text i + 3 := by
  by_cases small : i ≤ 3
  · omega
  · obtain ⟨j, above, near, boundary⟩ :=
      @exists_isCharBoundary_above text (i - 3) (by omega)
    have := le_retreat (i := i) boundary (by omega)
    omega

/-- The loop that moves a position forwards until it is a boundary; it stops at the end of
the text at the latest. -/
def advance (text : List Char) (i : ℕ) : ℕ :=
  if isCharBoundary text i || decide (byteLen text ≤ i) then i else advance text (i + 1)
termination_by byteLen text - i
decreasing_by
  simp_all
  omega

theorem advance_spec {text : List Char} {i : ℕ} (inside : i ≤ byteLen text) :
    i ≤ advance text i ∧ isCharBoundary text (advance text i) = true ∧
      ∀ j, i ≤ j → isCharBoundary text j = true → advance text i ≤ j := by
  fun_induction advance text i with
  | case1 i stop =>
    refine ⟨le_rfl, ?_, fun j above _ => above⟩
    rcases Bool.or_eq_true _ _ ▸ stop with boundary | past
    · exact boundary
    · rw [show i = byteLen text from le_antisymm inside (by simpa using past)]
      exact isCharBoundary_byteLen text
  | case2 i go ih =>
    simp only [Bool.or_eq_true, decide_eq_true_eq, not_or, not_le] at go
    obtain ⟨above, boundary, first⟩ := ih (by omega)
    refine ⟨by omega, boundary, fun j from_i aligned => first j ?_ aligned⟩
    have : j ≠ i := by
      rintro rfl
      exact go.1 aligned
    omega

theorem le_advance {text : List Char} {i : ℕ} (inside : i ≤ byteLen text) : i ≤ advance text i :=
  (advance_spec inside).1

theorem isCharBoundary_advance {text : List Char} {i : ℕ} (inside : i ≤ byteLen text) :
    isCharBoundary text (advance text i) = true :=
  (advance_spec inside).2.1

theorem advance_le {text : List Char} {i j : ℕ} (boundary : isCharBoundary text j = true)
    (after : i ≤ j) : advance text i ≤ j :=
  (advance_spec (after.trans (isCharBoundary_le boundary))).2.2 j after boundary

theorem advance_le_byteLen {text : List Char} {i : ℕ} (inside : i ≤ byteLen text) :
    advance text i ≤ byteLen text :=
  advance_le (isCharBoundary_byteLen text) inside

theorem advance_eq_self {text : List Char} {i : ℕ} (boundary : isCharBoundary text i = true) :
    advance text i = i :=
  le_antisymm (advance_le boundary le_rfl) (le_advance (isCharBoundary_le boundary))

theorem advance_mono {text : List Char} {i j : ℕ} (below : i ≤ j) (inside : j ≤ byteLen text) :
    advance text i ≤ advance text j :=
  advance_le (isCharBoundary_advance inside) (below.trans (le_advance inside))

theorem advance_slack {text : List Char} {i : ℕ} (inside : i ≤ byteLen text) :
    advance text i ≤ i + 3 := by
  obtain ⟨j, above, near, boundary⟩ := exists_isCharBoundary_above inside
  exact (advance_le boundary above).trans near

/-! ## Positions around a character -/

theorem isCharBoundary_seam (left right : List Char) :
    isCharBoundary (left ++ right) (byteLen left) = true :=
  (isCharBoundary_append left right _).2 (.inl (isCharBoundary_byteLen left))

theorem not_isCharBoundary_inside (left right : List Char) (c : Char) {k : ℕ} (pos : 0 < k)
    (inside : k < c.utf8Size) : ¬ isCharBoundary (left ++ c :: right) (byteLen left + k) = true := by
  rw [isCharBoundary_append, isCharBoundary_cons]
  rintro (before | ⟨_, start | ⟨past, _⟩⟩)
  · have := isCharBoundary_le before
    omega
  · omega
  · omega

theorem retreat_inside (left right : List Char) (c : Char) {k : ℕ} (inside : k < c.utf8Size) :
    retreat (left ++ c :: right) (byteLen left + k) = byteLen left := by
  induction k with
  | zero => exact retreat_eq_self (isCharBoundary_seam left _)
  | succ k ih =>
    have unaligned := not_isCharBoundary_inside left right c (Nat.succ_pos k) inside
    rw [show byteLen left + (k + 1) = (byteLen left + k) + 1 by omega] at unaligned ⊢
    rw [retreat, if_neg unaligned]
    exact ih (by omega)

theorem advance_inside (left right : List Char) (c : Char) {k : ℕ} (pos : 0 < k)
    (inside : k ≤ c.utf8Size) :
    advance (left ++ c :: right) (byteLen left + k) = byteLen left + c.utf8Size := by
  have seam : isCharBoundary (left ++ c :: right) (byteLen left + c.utf8Size) = true := by
    have := isCharBoundary_seam (left ++ [c]) right
    simpa [List.append_assoc] using this
  have end_le := isCharBoundary_le seam
  refine le_antisymm (advance_le seam (by omega)) ?_
  have above := @le_advance (left ++ c :: right) (byteLen left + k) (by omega)
  have aligned :=
    @isCharBoundary_advance (left ++ c :: right) (byteLen left + k) (by omega)
  by_contra short
  refine not_isCharBoundary_inside left right c
    (k := advance (left ++ c :: right) (byteLen left + k) - byteLen left) (by omega) (by omega) ?_
  rwa [Nat.add_sub_cancel' (by omega)]

@[simp] theorem byteLen_replicate (n : ℕ) (c : Char) :
    byteLen (List.replicate n c) = n * c.utf8Size := by
  simp [byteLen]

/-! ## Cutting at a position -/

/-- The characters that end at or before a byte position. -/
def takeBytes : List Char → ℕ → List Char
  | [], _ => []
  | c :: text, i => if c.utf8Size ≤ i then c :: takeBytes text (i - c.utf8Size) else []

/-- The characters after those that end at or before a byte position. -/
def dropBytes : List Char → ℕ → List Char
  | [], _ => []
  | c :: text, i => if c.utf8Size ≤ i then dropBytes text (i - c.utf8Size) else c :: text

@[simp] theorem takeBytes_append_dropBytes (text : List Char) (i : ℕ) :
    takeBytes text i ++ dropBytes text i = text := by
  induction text generalizing i with
  | nil => rfl
  | cons c text ih =>
    simp only [takeBytes, dropBytes]
    split <;> simp [ih]

theorem byteLen_takeBytes {text : List Char} {i : ℕ} (boundary : isCharBoundary text i = true) :
    byteLen (takeBytes text i) = i := by
  induction text generalizing i with
  | nil => cases i <;> simp_all [isCharBoundary, takeBytes]
  | cons c text ih =>
    have size := Char.utf8Size_pos c
    rcases (isCharBoundary_cons c text i).1 boundary with rfl | ⟨fits, rest⟩
    · simp [takeBytes, show ¬ c.utf8Size ≤ 0 by omega]
    · simp [takeBytes, fits, ih rest]

theorem byteLen_dropBytes {text : List Char} {i : ℕ} (boundary : isCharBoundary text i = true) :
    byteLen (dropBytes text i) = byteLen text - i := by
  have whole := congrArg byteLen (takeBytes_append_dropBytes text i)
  rw [byteLen_append, byteLen_takeBytes boundary] at whole
  omega

@[simp] theorem takeBytes_zero (text : List Char) : takeBytes text 0 = [] := by
  cases text with
  | nil => rfl
  | cons c text =>
    have size := Char.utf8Size_pos c
    rw [takeBytes, if_neg (by omega)]

theorem takeBytes_of_le {text : List Char} {i : ℕ} (past : byteLen text ≤ i) :
    takeBytes text i = text := by
  induction text generalizing i with
  | nil => rfl
  | cons c text ih =>
    rw [byteLen_cons] at past
    rw [takeBytes, if_pos (by omega), ih (by omega)]

theorem takeBytes_append_byteLen (left right : List Char) :
    takeBytes (left ++ right) (byteLen left) = left := by
  induction left with
  | nil => cases right with
    | nil => rfl
    | cons c right =>
      have size := Char.utf8Size_pos c
      simp [takeBytes, show ¬ c.utf8Size ≤ 0 by omega]
  | cons c left ih => simp [takeBytes, ih]

theorem dropBytes_append_byteLen (left right : List Char) :
    dropBytes (left ++ right) (byteLen left) = right := by
  have whole := takeBytes_append_dropBytes (left ++ right) (byteLen left)
  rw [takeBytes_append_byteLen] at whole
  exact List.append_cancel_left whole

/-! ## Prefixes and suffixes -/

theorem eq_nil_of_byteLen {text : List Char} (empty : byteLen text = 0) : text = [] := by
  cases text with
  | nil => rfl
  | cons c text =>
    have size := Char.utf8Size_pos c
    rw [byteLen_cons] at empty
    omega

theorem takeBytes_start (text : List Char) (i : ℕ) : takeBytes text i <+: text :=
  ⟨dropBytes text i, takeBytes_append_dropBytes text i⟩

theorem dropBytes_suffix (text : List Char) (i : ℕ) : dropBytes text i <:+ text :=
  ⟨takeBytes text i, takeBytes_append_dropBytes text i⟩

theorem takeBytes_of_start {head text : List Char} (inside : head <+: text) :
    takeBytes text (byteLen head) = head := by
  obtain ⟨rest, rfl⟩ := inside
  exact takeBytes_append_byteLen head rest

theorem isCharBoundary_of_start {head text : List Char} (inside : head <+: text) :
    isCharBoundary text (byteLen head) = true := by
  obtain ⟨rest, rfl⟩ := inside
  exact isCharBoundary_seam head rest

theorem prefix_of_byteLen_le {head longer text : List Char} (inside : head <+: text)
    (other : longer <+: text) (short : byteLen head ≤ byteLen longer) : head <+: longer := by
  rcases List.prefix_or_prefix_of_prefix inside other with first | ⟨rest, rfl⟩
  · exact first
  · rw [byteLen_append] at short
    rw [@eq_nil_of_byteLen rest (by omega), List.append_nil]

theorem byteLen_le_of_start {head text : List Char} (inside : head <+: text) :
    byteLen head ≤ byteLen text := by
  obtain ⟨rest, rfl⟩ := inside
  rw [byteLen_append]
  exact Nat.le_add_right _ _

theorem byteLen_le_of_suffix {tail text : List Char} (inside : tail <:+ text) :
    byteLen tail ≤ byteLen text := by
  obtain ⟨rest, rfl⟩ := inside
  rw [byteLen_append]
  exact Nat.le_add_left _ _

theorem exists_between {text : List Char} {i j : ℕ} (first : isCharBoundary text i = true)
    (second : isCharBoundary text j = true) (ordered : i ≤ j) :
    ∃ middle, text = takeBytes text i ++ middle ++ dropBytes text j ∧ byteLen middle = j - i := by
  have inside : takeBytes text i <+: takeBytes text j := by
    apply prefix_of_byteLen_le (takeBytes_start text i) (takeBytes_start text j)
    rw [byteLen_takeBytes first, byteLen_takeBytes second]
    exact ordered
  obtain ⟨middle, same⟩ := inside
  refine ⟨middle, by rw [same, takeBytes_append_dropBytes], ?_⟩
  have size := congrArg byteLen same
  rw [byteLen_append, byteLen_takeBytes first, byteLen_takeBytes second] at size
  omega

/-! ## Lines and white space -/

/-- The Unicode property `White_Space`. -/
def isWhiteSpace (c : Char) : Bool :=
  let n := c.toNat
  (0x9 ≤ n && n ≤ 0xd) || n = 0x20 || n = 0x85 || n = 0xa0 || n = 0x1680 ||
    (0x2000 ≤ n && n ≤ 0x200a) || n = 0x2028 || n = 0x2029 || n = 0x202f || n = 0x205f ||
    n = 0x3000

/-- The lines of a text, each with the newline that ends it. -/
def splitInclusive : List Char → List (List Char)
  | [] => []
  | c :: text =>
    if c = '\n' then [c] :: splitInclusive text
    else match splitInclusive text with
      | [] => [[c]]
      | line :: lines => (c :: line) :: lines

/-- The byte positions right after each newline of a text that starts at `offset`. -/
def newlineEnds : ℕ → List Char → List ℕ
  | _, [] => []
  | offset, c :: text =>
    if c = '\n' then (offset + c.utf8Size) :: newlineEnds (offset + c.utf8Size) text
    else newlineEnds (offset + c.utf8Size) text

end Foundation
