import Mathlib
import Giskard.Foundation.Text

/-!
# Files of lines

A text file as its bytes: the UTF-8 form of a text, the reader that refuses anything else, and
the lines of what it reads. A write that stops at a character boundary leaves the start of the
text; the lines of a file to which whole lines were appended are those lines, and what follows
the last newline is a line of its own.
-/

set_option autoImplicit false

namespace Foundation

/-! ## UTF-8 -/

/-- The bytes of a text. -/
def utf8 (text : List Char) : List UInt8 := text.flatMap String.utf8EncodeChar

/-- The text of some bytes, unless they are not UTF-8. -/
def readUtf8 (bytes : List UInt8) : Option (List Char) :=
  bytes.toByteArray.utf8Decode?.map Array.toList

@[simp] theorem utf8_nil : utf8 [] = [] := rfl

@[simp] theorem utf8_append (left right : List Char) :
    utf8 (left ++ right) = utf8 left ++ utf8 right := List.flatMap_append

@[simp] theorem length_utf8 (text : List Char) : (utf8 text).length = byteLen text := by
  induction text with
  | nil => rfl
  | cons c text ih =>
    rw [byteLen_cons, ← ih, utf8, List.flatMap_cons, List.length_append,
      String.length_utf8EncodeChar]
    rfl

@[simp] theorem readUtf8_utf8 (text : List Char) : readUtf8 (utf8 text) = some text := by
  have encoded : (utf8 text).toByteArray = text.utf8Encode := rfl
  rw [readUtf8, encoded, List.utf8Decode?_utf8Encode, Option.map_some]

theorem take_utf8 {text : List Char} {i : ℕ} (boundary : isCharBoundary text i = true) :
    (utf8 text).take i = utf8 (takeBytes text i) := by
  have whole := congrArg utf8 (takeBytes_append_dropBytes text i)
  have length := byteLen_takeBytes boundary
  rw [utf8_append] at whole
  rw [← whole, List.take_append_of_le_length (by rw [length_utf8, length]), List.take_of_length_le]
  rw [length_utf8, length]

theorem take_utf8_aligned {text : List Char} {i : ℕ}
    (aligned : i < byteLen text → isCharBoundary text i = true) :
    (utf8 text).take i = utf8 (takeBytes text i) := by
  rcases Nat.lt_or_ge i (byteLen text) with inside | past
  · exact take_utf8 (aligned inside)
  · rw [List.take_of_length_le (by rw [length_utf8]; exact past), takeBytes_of_le past]

theorem take_utf8_cut {text : List Char} {i : ℕ}
    (aligned : i < byteLen text → isCharBoundary text i = true) :
    ∃ cut rest, text = cut ++ rest ∧ (utf8 text).take i = utf8 cut :=
  ⟨takeBytes text i, dropBytes text i, (takeBytes_append_dropBytes text i).symm,
    take_utf8_aligned aligned⟩

theorem prefix_of_utf8 {text whole : List Char} {rest : List UInt8}
    (starts : utf8 text ++ rest = utf8 whole) : text <+: whole := by
  apply List.isPrefix_of_utf8Encode_append_eq_utf8Encode rest.toByteArray
  have arrays := congrArg List.toByteArray starts
  rw [List.toByteArray_append] at arrays
  exact arrays

theorem eq_of_mem_utf8EncodeChar {c a : Char} {b : UInt8}
    (ascii : b &&& 0x80 = 0) (encoded : String.utf8EncodeChar a = [b])
    (member : b ∈ String.utf8EncodeChar c) : c = a := by
  obtain ⟨i, below, byte⟩ := List.getElem_of_mem member
  have first : (String.utf8EncodeChar c)[i].IsUTF8FirstByte := by
    rw [byte]
    exact .inl ascii
  rw [UInt8.isUTF8FirstByte_getElem_utf8EncodeChar] at first
  subst first
  cases bytes : String.utf8EncodeChar c with
  | nil => simp [bytes] at below
  | cons head rest =>
    simp only [bytes, List.getElem_cons_zero] at byte
    subst byte
    have starts : utf8 [a] ++ rest = utf8 [c] := by
      rw [utf8, utf8, List.flatMap_singleton, List.flatMap_singleton, bytes, encoded]
      rfl
    obtain ⟨tail, whole⟩ := prefix_of_utf8 starts
    exact (List.cons.inj whole).1.symm

theorem mem_utf8_ascii {text : List Char} {a : Char} {b : UInt8}
    (ascii : b &&& 0x80 = 0) (encoded : String.utf8EncodeChar a = [b]) :
    b ∈ utf8 text ↔ a ∈ text := by
  rw [utf8, List.mem_flatMap]
  constructor
  · rintro ⟨c, member, byte⟩
    rw [← eq_of_mem_utf8EncodeChar ascii encoded byte]
    exact member
  · intro member
    exact ⟨a, member, by simp [encoded]⟩

theorem eq_newline_of_mem_utf8EncodeChar {c : Char}
    (member : (10 : UInt8) ∈ String.utf8EncodeChar c) : c = '\n' :=
  eq_of_mem_utf8EncodeChar (by decide) (by decide) member

theorem getLast?_utf8 {text : List Char} :
    (utf8 text).getLast? = some 10 ↔ text.getLast? = some '\n' := by
  rcases List.eq_nil_or_concat' text with rfl | ⟨front, c, rfl⟩
  · simp
  · obtain ⟨head, last, bytes⟩ : ∃ head last, String.utf8EncodeChar c = head ++ [last] := by
      rcases List.eq_nil_or_concat' (String.utf8EncodeChar c) with none | ⟨head, last, some_⟩
      · exact absurd none String.utf8EncodeChar_ne_nil
      · exact ⟨head, last, some_⟩
    have whole : utf8 (front ++ [c]) = utf8 front ++ head ++ [last] := by
      rw [utf8_append, List.append_assoc, ← bytes, utf8, utf8, List.flatMap_singleton]
    rw [whole, List.getLast?_concat, List.getLast?_concat, Option.some.injEq, Option.some.injEq]
    constructor
    · rintro rfl
      apply eq_newline_of_mem_utf8EncodeChar
      rw [bytes]
      exact List.mem_append_right _ (List.mem_singleton_self _)
    · rintro rfl
      have single : String.utf8EncodeChar '\n' = [10] := by decide
      rw [single] at bytes
      have lasts := congrArg List.getLast? bytes
      rw [List.getLast?_concat] at lasts
      exact (Option.some.inj lasts).symm

/-! ## Lines -/

/-- A line without the newline, or carriage return and newline, that ends it. -/
def stripLineEnd (line : List Char) : List Char :=
  match line.reverse with
  | '\n' :: '\r' :: rest => rest.reverse
  | '\n' :: rest => rest.reverse
  | _ => line

/-- The lines of a text. -/
def lines (text : List Char) : List (List Char) := (splitInclusive text).map stripLineEnd

theorem splitInclusive_line {line : List Char} (plain : '\n' ∉ line) (rest : List Char) :
    splitInclusive (line ++ '\n' :: rest) = (line ++ ['\n']) :: splitInclusive rest := by
  induction line with
  | nil => rw [List.nil_append, splitInclusive, if_pos rfl, List.nil_append]
  | cons c line ih =>
    rw [List.mem_cons, not_or] at plain
    rw [List.cons_append, splitInclusive, if_neg fun same => plain.1 same.symm, ih plain.2,
      List.cons_append]

theorem splitInclusive_tail {tail : List Char} (plain : '\n' ∉ tail) (some_ : tail ≠ []) :
    splitInclusive tail = [tail] := by
  induction tail with
  | nil => exact absurd rfl some_
  | cons c tail ih =>
    rw [List.mem_cons, not_or] at plain
    rw [splitInclusive, if_neg fun same => plain.1 same.symm]
    cases tail with
    | nil => rfl
    | cons d tail => rw [ih plain.2 (List.cons_ne_nil _ _)]

/-- A text of printable characters: no control character, hence no line end. -/
def Printable (text : List Char) : Prop := ∀ c ∈ text, 32 ≤ c.toNat

theorem Printable.newline {text : List Char} (printable : Printable text) : '\n' ∉ text := by
  intro member
  exact absurd (printable _ member) (by decide)

theorem stripLineEnd_line {line : List Char} (printable : Printable line) :
    stripLineEnd (line ++ ['\n']) = line := by
  rw [stripLineEnd, List.reverse_append, List.reverse_singleton, List.singleton_append]
  split
  · next rest eq =>
    have member : '\r' ∈ line := by
      rw [← List.mem_reverse, (List.cons.inj eq).2]
      exact List.mem_cons_self
    exact absurd (printable _ member) (by decide)
  · next rest _ eq => rw [← (List.cons.inj eq).2, List.reverse_reverse]
  · next _ other => exact absurd rfl (other _)

theorem stripLineEnd_tail {tail : List Char} (plain : '\n' ∉ tail) : stripLineEnd tail = tail := by
  have absent : ∀ rest, tail.reverse ≠ '\n' :: rest := by
    intro rest eq
    apply plain
    rw [← List.mem_reverse, eq]
    exact List.mem_cons_self
  unfold stripLineEnd
  split
  · next eq => exact absurd eq (absent _)
  · next eq => exact absurd eq (absent _)
  · rfl

/-! ## Rows -/

/-- A line without a carriage return at its end. -/
def chomp (line : List Char) : List Char :=
  if line.getLast? = some '\r' then line.dropLast else line

/-- Rows as a text, in which the last one may lack its newline. -/
def joinRows (ended : Bool) : List (List Char) → List Char
  | [] => []
  | [row] => row ++ if ended then ['\n'] else []
  | row :: next :: rows => row ++ '\n' :: joinRows ended (next :: rows)

/-- What is read of rows: those with a newline lose a carriage return before it. -/
def chompRows (ended : Bool) : List (List Char) → List (List Char)
  | [] => []
  | [row] => [if ended then chomp row else row]
  | row :: next :: rows => chomp row :: chompRows ended (next :: rows)

theorem stripLineEnd_newline {line : List Char} : stripLineEnd (line ++ ['\n']) = chomp line := by
  unfold stripLineEnd chomp
  rw [List.reverse_append, List.reverse_singleton, List.singleton_append]
  induction line using List.reverseRecOn with
  | nil => rfl
  | append_singleton line c =>
    rw [List.reverse_append, List.reverse_singleton, List.singleton_append, List.getLast?_concat,
      List.dropLast_concat]
    by_cases carriage : c = '\r'
    · subst carriage
      rw [if_pos rfl]
      exact List.reverse_reverse line
    · rw [if_neg fun same => carriage (Option.some.inj same)]
      split
      · next eq => exact absurd (List.cons.inj (List.cons.inj eq).2).1 carriage
      · next rest _ eq =>
        rw [← (List.cons.inj eq).2, List.reverse_cons, List.reverse_reverse]
      · next other => exact absurd rfl (other _)

theorem lines_joinRows {rows : List (List Char)} (plain : ∀ row ∈ rows, '\n' ∉ row)
    (some_ : ∀ row ∈ rows, row ≠ []) (ended : Bool) :
    lines (joinRows ended rows) = chompRows ended rows := by
  induction rows with
  | nil => rfl
  | cons row rows ih =>
    have here := plain row List.mem_cons_self
    cases rows with
    | nil =>
      unfold joinRows chompRows lines
      cases ended with
      | true =>
        rw [if_pos rfl, if_pos rfl, splitInclusive_line here, List.map_cons, stripLineEnd_newline]
        rfl
      | false =>
        rw [if_neg Bool.false_ne_true, if_neg Bool.false_ne_true, List.append_nil,
          splitInclusive_tail here (some_ row List.mem_cons_self), List.map_singleton,
          stripLineEnd_tail here]
    | cons next rows =>
      have rest := ih (fun other member => plain other (List.mem_cons_of_mem _ member))
        fun other member => some_ other (List.mem_cons_of_mem _ member)
      rw [joinRows, chompRows, ← rest, lines, lines, splitInclusive_line here, List.map_cons,
        stripLineEnd_newline]

theorem chompRows_ne_nil {rows : List (List Char)} (some_ : rows ≠ []) (ended : Bool) :
    chompRows ended rows ≠ [] := by
  cases rows with
  | nil => exact some_
  | cons row rows => cases rows <;> exact List.cons_ne_nil _ _

theorem chompRows_append {front rows : List (List Char)} (some_ : rows ≠ []) (ended : Bool) :
    chompRows ended (front ++ rows) = front.map chomp ++ chompRows ended rows := by
  obtain ⟨next, rows, rfl⟩ := List.exists_cons_of_ne_nil some_
  induction front with
  | nil => rfl
  | cons row front ih =>
    rw [List.map_cons, List.cons_append, List.cons_append, ← ih]
    cases front with
    | nil => rfl
    | cons other front => rfl

theorem lines_closed {closed : List (List Char)} {tail : List Char}
    (closed_printable : ∀ line ∈ closed, Printable line) (tail_printable : Printable tail) :
    lines (closed.flatMap (· ++ ['\n']) ++ tail) = closed ++ if tail = [] then [] else [tail] := by
  induction closed with
  | nil =>
    rw [List.flatMap_nil, List.nil_append, List.nil_append]
    split
    · next empty => rw [empty]; rfl
    · next some_ =>
      rw [lines, splitInclusive_tail tail_printable.newline some_, List.map_singleton,
        stripLineEnd_tail tail_printable.newline]
  | cons line closed ih =>
    have here := closed_printable line List.mem_cons_self
    have rest := ih fun other member => closed_printable other (List.mem_cons_of_mem _ member)
    rw [lines] at rest ⊢
    rw [List.flatMap_cons, List.append_assoc, List.append_assoc, List.singleton_append,
      splitInclusive_line here.newline, List.map_cons, stripLineEnd_line here, rest,
      List.cons_append]

end Foundation
