import Mathlib
import Giskard.Foundation.Text

/-!
# The ends of a text within a budget

`firstBytes` is the longest head of a text within a number of bytes, `lastBytes` the longest tail.
Both are what the loop to a boundary and a cut compute; each is characterised by being the longest,
and the lemmas about concatenations follow from that.
-/

set_option autoImplicit false

namespace Foundation

/-! ## Heads -/

/-- The longest head of at most `budget` bytes. -/
def firstBytes (text : List Char) (budget : ℕ) : List Char :=
  takeBytes text (retreat text (min budget (byteLen text)))

variable {text left right head tail : List Char} {budget : ℕ}

theorem firstBytes_start (text : List Char) (budget : ℕ) : firstBytes text budget <+: text :=
  takeBytes_start text _

theorem byteLen_firstBytes (text : List Char) (budget : ℕ) :
    byteLen (firstBytes text budget) = retreat text (min budget (byteLen text)) :=
  byteLen_takeBytes (isCharBoundary_retreat text _)

theorem byteLen_firstBytes_le (text : List Char) (budget : ℕ) :
    byteLen (firstBytes text budget) ≤ budget := by
  rw [byteLen_firstBytes]
  exact (retreat_le text _).trans (min_le_left _ _)

theorem prefix_firstBytes (inside : head <+: text) (fits : byteLen head ≤ budget) :
    head <+: firstBytes text budget := by
  apply prefix_of_byteLen_le inside (firstBytes_start text budget)
  rw [byteLen_firstBytes]
  exact le_retreat (isCharBoundary_of_start inside) (le_min fits (byteLen_le_of_start inside))

theorem byteLen_firstBytes_slack (inside : budget ≤ byteLen text) :
    budget ≤ byteLen (firstBytes text budget) + 3 := by
  rw [byteLen_firstBytes, min_eq_left inside]
  exact retreat_slack inside

theorem prefix_antisymm (one : left <+: right) (other : right <+: left) : left = right :=
  one.eq_of_length_le other.length_le

theorem firstBytes_of_le (fits : byteLen text ≤ budget) : firstBytes text budget = text :=
  prefix_antisymm (firstBytes_start text budget) (prefix_firstBytes List.prefix_rfl fits)

theorem firstBytes_append_of_le (long : budget ≤ byteLen left) :
    firstBytes (left ++ right) budget = firstBytes left budget := by
  have short := byteLen_firstBytes_le (left ++ right) budget
  have inside : firstBytes (left ++ right) budget <+: left :=
    prefix_of_byteLen_le (firstBytes_start _ _) (List.prefix_append left right) (short.trans long)
  apply prefix_antisymm (prefix_firstBytes inside short)
  exact prefix_firstBytes ((firstBytes_start left budget).trans (List.prefix_append _ _))
    (byteLen_firstBytes_le left budget)

theorem firstBytes_append (short : byteLen left ≤ budget) :
    firstBytes (left ++ right) budget = left ++ firstBytes right (budget - byteLen left) := by
  obtain ⟨rest, same⟩ := prefix_firstBytes (List.prefix_append left right) short
  have inside : rest <+: right := by
    have whole := firstBytes_start (left ++ right) budget
    rw [← same] at whole
    exact (List.prefix_append_right_inj left).1 whole
  have size := byteLen_firstBytes_le (left ++ right) budget
  rw [← same, byteLen_append] at size
  rw [← same]
  congr 1
  apply prefix_antisymm (prefix_firstBytes inside (by omega))
  apply (List.prefix_append_right_inj left).1
  rw [same]
  apply prefix_firstBytes ((List.prefix_append_right_inj left).2 (firstBytes_start _ _))
  have kept := byteLen_firstBytes_le right (budget - byteLen left)
  rw [byteLen_append]
  omega

/-! ## Tails -/

/-- The longest tail of at most `budget` bytes. -/
def lastBytes (text : List Char) (budget : ℕ) : List Char :=
  dropBytes text (advance text (byteLen text - budget))

theorem lastBytes_suffix (text : List Char) (budget : ℕ) : lastBytes text budget <:+ text :=
  dropBytes_suffix text _

theorem byteLen_lastBytes (text : List Char) (budget : ℕ) :
    byteLen (lastBytes text budget) = byteLen text - advance text (byteLen text - budget) :=
  byteLen_dropBytes (isCharBoundary_advance (Nat.sub_le _ _))

theorem byteLen_lastBytes_le (text : List Char) (budget : ℕ) :
    byteLen (lastBytes text budget) ≤ budget := by
  have start := @le_advance text (byteLen text - budget) (Nat.sub_le _ _)
  rw [byteLen_lastBytes]
  omega

theorem suffix_of_byteLen_le (inside : tail <:+ text) (other : right <:+ text)
    (short : byteLen tail ≤ byteLen right) : tail <:+ right := by
  rcases List.suffix_or_suffix_of_suffix inside other with first | ⟨rest, rfl⟩
  · exact first
  · rw [byteLen_append] at short
    rw [@eq_nil_of_byteLen rest (by omega), List.nil_append]

theorem suffix_lastBytes (inside : tail <:+ text) (fits : byteLen tail ≤ budget) :
    tail <:+ lastBytes text budget := by
  apply suffix_of_byteLen_le inside (lastBytes_suffix text budget)
  obtain ⟨front, rfl⟩ := inside
  rw [byteLen_lastBytes, byteLen_append]
  have start : advance (front ++ tail) (byteLen front + byteLen tail - budget) ≤ byteLen front :=
    advance_le (isCharBoundary_seam front tail) (by omega)
  omega

theorem byteLen_lastBytes_slack (inside : budget ≤ byteLen text) :
    budget ≤ byteLen (lastBytes text budget) + 3 := by
  have start := @advance_slack text (byteLen text - budget) (Nat.sub_le _ _)
  rw [byteLen_lastBytes]
  omega

theorem suffix_antisymm (one : left <:+ right) (other : right <:+ left) : left = right :=
  one.eq_of_length_le other.length_le

theorem lastBytes_append_of_le (long : budget ≤ byteLen right) :
    lastBytes (left ++ right) budget = lastBytes right budget := by
  have short := byteLen_lastBytes_le (left ++ right) budget
  have inside : lastBytes (left ++ right) budget <:+ right :=
    suffix_of_byteLen_le (lastBytes_suffix _ _) (List.suffix_append left right) (short.trans long)
  apply suffix_antisymm (suffix_lastBytes inside short)
  exact suffix_lastBytes ((lastBytes_suffix right budget).trans (List.suffix_append _ _))
    (byteLen_lastBytes_le right budget)

theorem lastBytes_append (short : byteLen right ≤ budget) :
    lastBytes (left ++ right) budget = lastBytes left (budget - byteLen right) ++ right := by
  obtain ⟨rest, same⟩ := suffix_lastBytes (List.suffix_append left right) short
  have inside : rest <:+ left := by
    have whole := lastBytes_suffix (left ++ right) budget
    rw [← same] at whole
    obtain ⟨front, equal⟩ := whole
    rw [← List.append_assoc] at equal
    exact ⟨front, List.append_cancel_right equal⟩
  have size := byteLen_lastBytes_le (left ++ right) budget
  rw [← same, byteLen_append] at size
  rw [← same]
  congr 1
  apply suffix_antisymm (suffix_lastBytes inside (by omega))
  have kept := byteLen_lastBytes_le left (budget - byteLen right)
  have longer : lastBytes left (budget - byteLen right) ++ right <:+ rest ++ right := by
    rw [same]
    obtain ⟨front, equal⟩ := lastBytes_suffix left (budget - byteLen right)
    apply suffix_lastBytes ⟨front, by rw [← List.append_assoc, equal]⟩
    rw [byteLen_append]
    omega
  obtain ⟨front, equal⟩ := longer
  rw [← List.append_assoc] at equal
  exact ⟨front, List.append_cancel_right equal⟩

/-! ## One-byte characters -/

theorem isCharBoundary_of_ascii (ascii : ∀ c ∈ text, c.utf8Size = 1) {i : ℕ}
    (inside : i ≤ byteLen text) : isCharBoundary text i = true := by
  induction text generalizing i with
  | nil =>
    rw [Nat.le_zero.1 inside]
    rfl
  | cons c text ih =>
    have one := ascii c List.mem_cons_self
    rw [byteLen_cons, one] at inside
    rw [isCharBoundary_cons, one]
    cases i with
    | zero => exact .inl rfl
    | succ i =>
      refine .inr ⟨by omega, ?_⟩
      apply ih fun d member => ascii d (List.mem_cons_of_mem c member)
      omega

theorem byteLen_firstBytes_of_ascii (ascii : ∀ c ∈ text, c.utf8Size = 1)
    (inside : budget ≤ byteLen text) : byteLen (firstBytes text budget) = budget := by
  rw [byteLen_firstBytes, min_eq_left inside, retreat_eq_self (isCharBoundary_of_ascii ascii inside)]

theorem byteLen_lastBytes_of_ascii (ascii : ∀ c ∈ text, c.utf8Size = 1)
    (inside : budget ≤ byteLen text) : byteLen (lastBytes text budget) = budget := by
  rw [byteLen_lastBytes, advance_eq_self (isCharBoundary_of_ascii ascii (Nat.sub_le _ _))]
  omega

end Foundation
