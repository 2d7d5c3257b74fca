import Mathlib
import Giskard.Foundation.Text

/-!
# Delimited records and fields

Output of a program as records that each end in a separator, and a record as fields between
separators: cutting at the first separator (`splitOnce`), into at most a given number of pieces
(`splitN`), at runs of white space (`words`), and reading a number (`parseUnsigned`). Each
reader is stated with the writer it inverts: `splitOn_closed`, `splitN_fields`, `words_join`
and `parseUnsigned_toDigits`.
-/

set_option autoImplicit false

namespace Foundation

variable {α : Type} [DecidableEq α]

/-! ## Records -/

/-- Records, each closed by a separator. -/
def closed (sep : α) (records : List (List α)) : List α := records.flatMap (· ++ [sep])

@[simp] theorem closed_nil (sep : α) : closed sep [] = [] := rfl

@[simp] theorem closed_cons (sep : α) (record : List α) (records : List (List α)) :
    closed sep (record :: records) = record ++ sep :: closed sep records := by
  simp [closed]

theorem splitOn_closed {sep : α} {records : List (List α)} (plain : ∀ r ∈ records, sep ∉ r) :
    (closed sep records).splitOn sep = records ++ [[]] := by
  induction records with
  | nil => rfl
  | cons record records ih =>
    rw [closed_cons, List.splitOn_append_cons_self_of_not_mem (plain record (by simp)),
      ih fun r member => plain r (by simp [member]), List.cons_append]

/-! ## Fields -/

/-- The parts before and after the first separator. -/
def splitOnce (sep : α) : List α → Option (List α × List α)
  | [] => none
  | c :: text =>
    if c = sep then some ([], text)
    else (splitOnce sep text).map fun parts => (c :: parts.1, parts.2)

/-- The pieces between separators, at most `n` of them: the last one keeps its separators. -/
def splitN (sep : α) : ℕ → List α → List (List α)
  | 0, _ => []
  | 1, text => [text]
  | n + 2, text =>
    match splitOnce sep text with
    | some (field, rest) => field :: splitN sep (n + 1) rest
    | none => [text]

theorem splitOnce_append {sep : α} {field : List α} (plain : sep ∉ field) (rest : List α) :
    splitOnce sep (field ++ sep :: rest) = some (field, rest) := by
  induction field with
  | nil => simp [splitOnce]
  | cons c field ih =>
    rw [List.mem_cons, not_or] at plain
    rw [List.cons_append, splitOnce, if_neg (Ne.symm plain.1), ih plain.2]
    rfl

theorem splitOnce_eq_none {sep : α} {text : List α} (plain : sep ∉ text) :
    splitOnce sep text = none := by
  induction text with
  | nil => rfl
  | cons c text ih =>
    rw [List.mem_cons, not_or] at plain
    rw [splitOnce, if_neg (Ne.symm plain.1), ih plain.2]
    rfl

theorem splitN_append {sep : α} {field : List α} (plain : sep ∉ field) (n : ℕ) (rest : List α) :
    splitN sep (n + 2) (field ++ sep :: rest) = field :: splitN sep (n + 1) rest := by
  rw [splitN, splitOnce_append plain]

theorem splitN_fields {sep : α} {fields : List (List α)} (plain : ∀ f ∈ fields, sep ∉ f)
    (rest : List α) :
    splitN sep (fields.length + 1) (closed sep fields ++ rest) = fields ++ [rest] := by
  induction fields with
  | nil => rfl
  | cons field fields ih =>
    rw [List.length_cons, closed_cons, List.append_assoc, List.cons_append,
      splitN_append (plain field (by simp)), ih fun f member => plain f (by simp [member]),
      List.cons_append]

/-! ## Words -/

/-- The pieces of a text between runs of white space. -/
def words (text : List Char) : List (List Char) :=
  (text.splitOnP isWhiteSpace).filter fun piece => !piece.isEmpty

/-- A word: not empty, and without white space. -/
def IsWord (text : List Char) : Prop := text ≠ [] ∧ ∀ c ∈ text, isWhiteSpace c = false

@[simp] theorem words_nil : words [] = [] := rfl

/-- No piece of a split has a separator. -/
theorem plain_of_mem_splitOnP {separates : α → Bool} {text piece : List α}
    (member : piece ∈ text.splitOnP separates) : ∀ c ∈ piece, separates c = false := by
  induction text generalizing piece with
  | nil =>
    rw [List.splitOnP_nil, List.mem_singleton] at member
    rw [member]
    exact fun c absent => nomatch absent
  | cons c text ih =>
    rw [List.splitOnP_cons_eq_if_modifyHead] at member
    split at member
    · rcases List.mem_cons.1 member with rfl | later
      · exact fun c absent => nomatch absent
      · exact ih later
    · next plain =>
      cases pieces : text.splitOnP separates with
      | nil => exact absurd pieces (List.splitOnP_ne_nil separates text)
      | cons first rest =>
        rw [pieces, List.modifyHead_cons] at member
        rw [pieces] at ih
        rcases List.mem_cons.1 member with rfl | later
        · intro d inside
          rcases List.mem_cons.1 inside with rfl | inside
          · exact Bool.eq_false_of_not_eq_true plain
          · exact ih List.mem_cons_self d inside
        · exact ih (List.mem_cons_of_mem _ later)

theorem isWord_of_mem_words {text word : List Char} (member : word ∈ words text) : IsWord word := by
  obtain ⟨piece, some_⟩ := List.mem_filter.1 member
  exact ⟨by simpa using some_, plain_of_mem_splitOnP piece⟩

theorem words_single {word : List Char} (isWord : IsWord word) : words word = [word] := by
  have some_ : (!word.isEmpty) = true := by simpa using isWord.1
  rw [words, List.splitOnP_eq_singleton isWord.2, List.filter_cons, if_pos some_]
  rfl

theorem words_append {word : List Char} (isWord : IsWord word) (rest : List Char) :
    words (word ++ ' ' :: rest) = word :: words rest := by
  have some_ : (!word.isEmpty) = true := by simpa using isWord.1
  rw [words, List.splitOnP_append_cons_of_forall_mem isWord.2 ' ' (by decide), List.filter_cons,
    if_pos some_]
  rfl

theorem words_join {list : List (List Char)} (isWord : ∀ word ∈ list, IsWord word) :
    words ([' '].intercalate list) = list := by
  induction list with
  | nil => rfl
  | cons word list ih =>
    cases list with
    | nil => simpa using words_single (isWord word (by simp))
    | cons next list =>
      have rest := ih fun w member => isWord w (by simp [member])
      have joined : [' '].intercalate (word :: next :: list) =
          word ++ ' ' :: [' '].intercalate (next :: list) := by
        simp [List.intercalate]
      rw [joined, words_append (isWord word (by simp)), rest]

/-! ## Numbers -/

/-- An unsigned number below a limit: an optional plus sign and at least one digit. -/
def parseUnsigned (limit : ℕ) (text : List Char) : Option ℕ :=
  let digits := match text with
    | '+' :: digits => digits
    | digits => digits
  if !digits.isEmpty && digits.all Char.isDigit && Nat.ofDigitChars 10 digits 0 < limit then
    some (Nat.ofDigitChars 10 digits 0)
  else none

theorem isDigit_of_mem_toDigits {n : ℕ} {c : Char} (member : c ∈ Nat.toDigits 10 n) :
    c.isDigit = true :=
  Nat.isDigit_of_mem_toDigits (by decide) (by decide) member

theorem isWhiteSpace_of_isDigit {c : Char} (digit : c.isDigit = true) :
    isWhiteSpace c = false := by
  have range : 48 ≤ c.toNat ∧ c.toNat ≤ 57 := by
    simpa [Char.isDigit, UInt32.le_iff_toNat_le] using digit
  simp [isWhiteSpace]
  omega

theorem not_mem_toDigits {c : Char} (other : c.isDigit = false) (n : ℕ) :
    c ∉ Nat.toDigits 10 n := fun member => by
  rw [isDigit_of_mem_toDigits member] at other
  cases other

theorem parseUnsigned_toDigits {limit n : ℕ} (below : n < limit) :
    parseUnsigned limit (Nat.toDigits 10 n) = some n := by
  have unsigned : ∀ digits, Nat.toDigits 10 n ≠ '+' :: digits := fun digits eq =>
    not_mem_toDigits (c := '+') (by decide) n (by rw [eq]; simp)
  have all : (Nat.toDigits 10 n).all Char.isDigit = true := by
    rw [List.all_eq_true]
    exact fun c member => isDigit_of_mem_toDigits member
  have some_ : (!(Nat.toDigits 10 n).isEmpty) = true := by
    simpa using Nat.toDigits_ne_nil
  unfold parseUnsigned
  split
  next digits eq => exact absurd eq (unsigned digits)
  next =>
    dsimp only
    rw [all, some_, Nat.ofDigitChars_ten_toDigits]
    simp [below]

end Foundation
