import Mathlib
import Giskard.Foundation.Json

/-!
# Reading JSON text

The reader is a machine that takes one character at a time. Its state is what it expects
next and the stack of the containers that are open, so that "the text so far is the start of
an object" is the statement that the stack is not empty. It refuses to open more containers
than the recursion limit allows.

Two kinds of results follow. The round trip (`fromStr_print`): the compact text of a value
that nests within the limit is read back as that value. And what a reader makes of text that
was cut off: a proper prefix of an object's text is not a value (`fromStr_cut`), and neither
is such a prefix followed by the texts, or prefixes of the texts, of further objects
(`run_pieces`).
-/

set_option autoImplicit false

namespace Foundation

/-! ## The machine -/

/-- An open container: the elements read so far, or the members read so far and the key
whose value is being read. -/
inductive Frame where
  | arr (elems : List Json)
  | obj (members : List (String × Json)) (key : Option String)
  deriving DecidableEq

/-- What the reader expects next. A string that is a key has `isKey`. -/
inductive Mode where
  | value
  | firstElem
  | key (first : Bool)
  | colon
  | after
  | text (isKey : Bool) (read : List Char)
  | escape (isKey : Bool) (read : List Char)
  | unicode (isKey : Bool) (read : List Char) (high : Option ℕ) (code count : ℕ)
  | lowEscape (isKey : Bool) (read : List Char) (high : ℕ)
  | lowUnicode (isKey : Bool) (read : List Char) (high : ℕ)
  | number (read : List Char)
  | literal (rest : List Char) (value : Json)
  | done (value : Json)
  deriving DecidableEq

structure State where
  mode : Mode
  stack : List Frame
  deriving DecidableEq

/-- White space between tokens. -/
def isBlank (c : Char) : Bool := c = ' ' || c = '\n' || c = '\t' || c = '\r'

/-- The characters of number lexemes. -/
def isNumberChar (c : Char) : Bool :=
  c.isDigit || c = '-' || c = '+' || c = '.' || c = 'e' || c = 'E'

/-- Hand a finished value to the innermost open container. An object has read a key by then,
so the last case is not reached. -/
def deliver (v : Json) : List Frame → State
  | [] => ⟨.done v, []⟩
  | .arr elems :: stack => ⟨.after, .arr (elems ++ [v]) :: stack⟩
  | .obj members (some key) :: stack => ⟨.after, .obj (members ++ [(key, v)]) none :: stack⟩
  | .obj members none :: stack => ⟨.after, .obj members none :: stack⟩

/-- Open a container, unless `limit` are open. -/
def openFrame (limit : ℕ) (mode : Mode) (frame : Frame) (stack : List Frame) : Option State :=
  if stack.length < limit then some ⟨mode, frame :: stack⟩ else none

/-- The first character of a value. -/
def startValue (limit : ℕ) (stack : List Frame) (c : Char) : Option State :=
  if c = '\x7b' then openFrame limit (.key true) (.obj [] none) stack
  else if c = '[' then openFrame limit .firstElem (.arr []) stack
  else if c = '"' then some ⟨.text false [], stack⟩
  else if c = 'n' then some ⟨.literal ['u', 'l', 'l'] .null, stack⟩
  else if c = 't' then some ⟨.literal ['r', 'u', 'e'] (.bool true), stack⟩
  else if c = 'f' then some ⟨.literal ['a', 'l', 's', 'e'] (.bool false), stack⟩
  else if c.isDigit || c = '-' then some ⟨.number [c], stack⟩
  else none

/-- Close the innermost container. -/
def closeFrame : List Frame → Char → Option State
  | .arr elems :: stack, ']' => some (deliver (.arr elems) stack)
  | .obj members none :: stack, '\x7d' => some (deliver (.obj members) stack)
  | _, _ => none

/-- A character after a value. -/
def stepAfter (state : State) (c : Char) : Option State :=
  if isBlank c then some state
  else match state.mode, state.stack with
    | .after, .arr elems :: stack =>
      if c = ',' then some ⟨.value, .arr elems :: stack⟩ else closeFrame state.stack c
    | .after, .obj members none :: stack =>
      if c = ',' then some ⟨.key false, .obj members none :: stack⟩
      else closeFrame state.stack c
    | _, _ => none

/-- Finish a string: a key goes to its object, a value to the innermost container. -/
def endText (isKey : Bool) (read : List Char) (stack : List Frame) : Option State :=
  match isKey, stack with
  | true, .obj members none :: stack =>
    some ⟨.colon, .obj members (some (String.ofList read)) :: stack⟩
  | true, _ => none
  | false, stack => some (deliver (.str (String.ofList read)) stack)

/-- The character of a one-letter escape. -/
def unescape (c : Char) : Option Char :=
  if c = '"' then some '"'
  else if c = '\\' then some '\\'
  else if c = '/' then some '/'
  else if c = 'b' then some (Char.ofNat 8)
  else if c = 'f' then some (Char.ofNat 12)
  else if c = 'n' then some '\n'
  else if c = 'r' then some '\r'
  else if c = 't' then some '\t'
  else none

/-- The value of a hexadecimal digit. -/
def hexValue (c : Char) : Option ℕ :=
  if '0' ≤ c ∧ c ≤ '9' then some (c.toNat - 48)
  else if 'a' ≤ c ∧ c ≤ 'f' then some (c.toNat - 87)
  else if 'A' ≤ c ∧ c ≤ 'F' then some (c.toNat - 55)
  else none

/-- What four hexadecimal digits add to a string: a character, or the first half of a
surrogate pair. A half without its other half is refused. -/
def endUnicode (isKey : Bool) (read : List Char) (high : Option ℕ) (code : ℕ)
    (stack : List Frame) : Option State :=
  match high with
  | none =>
    if 0xd800 ≤ code ∧ code < 0xdc00 then some ⟨.lowEscape isKey read code, stack⟩
    else if 0xdc00 ≤ code ∧ code < 0xe000 then none
    else some ⟨.text isKey (read ++ [Char.ofNat code]), stack⟩
  | some high =>
    if 0xdc00 ≤ code ∧ code < 0xe000 then
      some ⟨.text isKey (read ++
        [Char.ofNat (0x10000 + (high - 0xd800) * 0x400 + (code - 0xdc00))]), stack⟩
    else none

/-- One character of the text. -/
def step (limit : ℕ) (state : State) (c : Char) : Option State :=
  match state.mode with
  | .value => if isBlank c then some state else startValue limit state.stack c
  | .firstElem =>
    if isBlank c then some state
    else if c = ']' then closeFrame state.stack c else startValue limit state.stack c
  | .key first =>
    if isBlank c then some state
    else if c = '"' then some ⟨.text true [], state.stack⟩
    else if first = true ∧ c = '\x7d' then closeFrame state.stack c
    else none
  | .colon =>
    if isBlank c then some state
    else if c = ':' then some ⟨.value, state.stack⟩ else none
  | .after => stepAfter state c
  | .done _ => stepAfter state c
  | .text isKey read =>
    if c = '"' then endText isKey read state.stack
    else if c = '\\' then some ⟨.escape isKey read, state.stack⟩
    else if c.toNat < 32 then none
    else some ⟨.text isKey (read ++ [c]), state.stack⟩
  | .escape isKey read =>
    if c = 'u' then some ⟨.unicode isKey read none 0 0, state.stack⟩
    else (unescape c).map fun d => ⟨.text isKey (read ++ [d]), state.stack⟩
  | .unicode isKey read high code count =>
    match hexValue c with
    | none => none
    | some digit =>
      if count = 3 then endUnicode isKey read high (code * 16 + digit) state.stack
      else some ⟨.unicode isKey read high (code * 16 + digit) (count + 1), state.stack⟩
  | .lowEscape isKey read high =>
    if c = '\\' then some ⟨.lowUnicode isKey read high, state.stack⟩ else none
  | .lowUnicode isKey read high =>
    if c = 'u' then some ⟨.unicode isKey read (some high) 0 0, state.stack⟩ else none
  | .number read =>
    if isNumberChar c then some ⟨.number (read ++ [c]), state.stack⟩
    else match Number.ofText? read with
      | none => none
      | some n => stepAfter (deliver (.num n) state.stack) c
  | .literal rest value =>
    match rest with
    | [] => none
    | [d] => if c = d then some (deliver value state.stack) else none
    | d :: rest => if c = d then some ⟨.literal rest value, state.stack⟩ else none

/-- The characters of a text, one after the other. -/
def run (limit : ℕ) : List Char → State → Option State
  | [], state => some state
  | c :: text, state => (step limit state c).bind (run limit text)

/-- What the text denotes when it ends here. -/
def finish (state : State) : Option Json :=
  match state.mode, state.stack with
  | .done v, [] => some v
  | .number read, [] => (Number.ofText? read).map .num
  | _, _ => none

/-- The value a text denotes, for a reader that opens at most `limit` containers. -/
def fromStr (limit : ℕ) (text : List Char) : Option Json :=
  (run limit text ⟨.value, []⟩).bind finish

variable {limit : ℕ}

section
variable (stack : List Frame) (c : Char) (isKey : Bool) (read : List Char)

/-! The equations of `step`, one for each mode that the proofs below run through. -/

theorem step_value : step limit ⟨.value, stack⟩ c =
    if isBlank c then some ⟨.value, stack⟩ else startValue limit stack c := rfl

theorem step_done (v : Json) : step limit ⟨.done v, stack⟩ c = stepAfter ⟨.done v, stack⟩ c := rfl

theorem step_text : step limit ⟨.text isKey read, stack⟩ c =
    if c = '"' then endText isKey read stack
    else if c = '\\' then some ⟨.escape isKey read, stack⟩
    else if c.toNat < 32 then none
    else some ⟨.text isKey (read ++ [c]), stack⟩ := rfl

theorem step_escape : step limit ⟨.escape isKey read, stack⟩ c =
    if c = 'u' then some ⟨.unicode isKey read none 0 0, stack⟩
    else (unescape c).map fun d => ⟨.text isKey (read ++ [d]), stack⟩ := rfl

theorem step_unicode (high : Option ℕ) (code count : ℕ) {digit : ℕ}
    (hex : hexValue c = some digit) : step limit ⟨.unicode isKey read high code count, stack⟩ c =
      if count = 3 then endUnicode isKey read high (code * 16 + digit) stack
      else some ⟨.unicode isKey read high (code * 16 + digit) (count + 1), stack⟩ := by
  simp only [step, hex]

theorem step_number : step limit ⟨.number read, stack⟩ c =
    if isNumberChar c then some ⟨.number (read ++ [c]), stack⟩
    else match Number.ofText? read with
      | none => none
      | some n => stepAfter (deliver (.num n) stack) c := rfl

end

@[simp] theorem run_nil (state : State) : run limit [] state = some state := rfl

theorem run_cons (c : Char) (text : List Char) (state : State) :
    run limit (c :: text) state = (step limit state c).bind (run limit text) := rfl

theorem run_append (left right : List Char) (state : State) :
    run limit (left ++ right) state = (run limit left state).bind (run limit right) := by
  induction left generalizing state with
  | nil => rfl
  | cons c left ih =>
    simp only [List.cons_append, run_cons]
    cases step limit state c with
    | none => rfl
    | some next => exact ih next

/-! ## Reading numbers and strings -/

theorem isNumberChar_of_isDigit {c : Char} (digit : c.isDigit = true) : isNumberChar c = true := by
  simp [isNumberChar, digit]

theorem all_isNumberChar_of_digits {digits : List Char} (all : digits.all Char.isDigit = true) :
    ∀ c ∈ digits, isNumberChar c = true := fun c member =>
  isNumberChar_of_isDigit (List.all_eq_true.1 all c member)

theorem all_isNumberChar_of_dropWhile {text : List Char}
    (rest : ∀ c ∈ text.dropWhile Char.isDigit, isNumberChar c = true) :
    ∀ c ∈ text, isNumberChar c = true := by
  induction text with
  | nil => simp
  | cons d text ih =>
    by_cases digit : d.isDigit = true
    · rw [List.dropWhile_cons_of_pos digit] at rest
      intro c member
      rcases List.mem_cons.1 member with rfl | inside
      · exact isNumberChar_of_isDigit digit
      · exact ih rest c inside
    · rwa [List.dropWhile_cons_of_neg digit] at rest

theorem numberExponent_chars {text : List Char} (valid : numberExponent text = true) :
    ∀ c ∈ text, isNumberChar c = true := by
  cases text with
  | nil => simp
  | cons e rest =>
    simp only [numberExponent, Bool.and_eq_true, Bool.or_eq_true, decide_eq_true_eq] at valid
    obtain ⟨mark, digits⟩ := valid
    have first : isNumberChar e = true := by
      rcases mark with rfl | rfl <;> decide
    have later : ∀ c ∈ rest, isNumberChar c = true := by
      split at digits
      all_goals
        simp only [Bool.and_eq_true] at digits
        have := all_isNumberChar_of_digits digits.2
        simpa [show isNumberChar '+' = true by decide, show isNumberChar '-' = true by decide]
          using this
    intro c member
    rcases List.mem_cons.1 member with rfl | inside
    · exact first
    · exact later c inside

theorem numberFraction_chars {text : List Char} (valid : numberFraction text = true) :
    ∀ c ∈ text, isNumberChar c = true := by
  unfold numberFraction at valid
  split at valid
  · next digit rest =>
    simp only [Bool.and_eq_true] at valid
    have later := all_isNumberChar_of_dropWhile (numberExponent_chars valid.2)
    intro c member
    simp only [List.mem_cons] at member
    rcases member with rfl | rfl | inside
    · decide
    · exact isNumberChar_of_isDigit valid.1
    · exact later c inside
  · exact numberExponent_chars valid

theorem numberUnsigned_chars {text : List Char} (valid : numberUnsigned text = true) :
    ∃ d rest, text = d :: rest ∧ d.isDigit = true ∧ ∀ c ∈ rest, isNumberChar c = true := by
  unfold numberUnsigned at valid
  split at valid
  · next rest => exact ⟨'0', rest, rfl, by decide, numberFraction_chars valid⟩
  · next digit rest _ =>
    simp only [Bool.and_eq_true] at valid
    exact ⟨digit, rest, rfl, valid.1,
      all_isNumberChar_of_dropWhile (numberFraction_chars valid.2)⟩
  · simp at valid

theorem isNumber_chars {text : List Char} (valid : isNumber text = true) :
    ∃ d rest, text = d :: rest ∧ (d.isDigit || d = '-') = true ∧
      ∀ c ∈ rest, isNumberChar c = true := by
  unfold isNumber at valid
  split at valid
  · next rest =>
    obtain ⟨d, tail, rfl, digit, later⟩ := numberUnsigned_chars valid
    refine ⟨'-', d :: tail, rfl, by decide, ?_⟩
    intro c member
    rcases List.mem_cons.1 member with rfl | inside
    · exact isNumberChar_of_isDigit digit
    · exact later c inside
  · obtain ⟨d, tail, rfl, digit, later⟩ := numberUnsigned_chars valid
    exact ⟨d, tail, rfl, by simp [digit], later⟩

theorem run_number (stack : List Frame) (read text : List Char)
    (chars : ∀ c ∈ text, isNumberChar c = true) :
    run limit text ⟨.number read, stack⟩ = some ⟨.number (read ++ text), stack⟩ := by
  induction text generalizing read with
  | nil => simp
  | cons c text ih =>
    rw [run_cons, step_number, if_pos (chars c (by simp)), Option.bind_some,
      ih (read ++ [c]) fun d member => chars d (by simp [member])]
    simp

theorem startValue_number (stack : List Frame) {c : Char} (first : (c.isDigit || c = '-') = true) :
    startValue limit stack c = some ⟨.number [c], stack⟩ := by
  have plain : c ≠ '\x7b' ∧ c ≠ '[' ∧ c ≠ '"' ∧ c ≠ 'n' ∧ c ≠ 't' ∧ c ≠ 'f' := by
    refine ⟨?_, ?_, ?_, ?_, ?_, ?_⟩ <;>
      (rintro rfl; revert first; decide)
  obtain ⟨brace, bracket, quote, null, true_, false_⟩ := plain
  simp only [startValue, brace, bracket, quote, null, true_, false_, first, if_true, if_false]

theorem not_isBlank_number {c : Char} (first : (c.isDigit || c = '-') = true) :
    isBlank c = false := by
  by_contra blank
  simp only [isBlank, Bool.not_eq_false, Bool.or_eq_true, decide_eq_true_eq] at blank
  rcases blank with ((rfl | rfl) | rfl) | rfl <;> (revert first; decide)

theorem run_print_number (n : Number) (stack : List Frame) {d : Char} (rest : List Char)
    (delimiter : isNumberChar d = false) :
    run limit (n.text ++ d :: rest) ⟨.value, stack⟩ =
      (stepAfter (deliver (.num n) stack) d).bind (run limit rest) := by
  obtain ⟨c, tail, text_eq, first, chars⟩ := isNumber_chars n.valid
  have lexeme : Number.ofText? (c :: tail) = some n := by
    rw [← text_eq, Number.ofText?, dif_pos n.valid]
  have blank : ¬ isBlank c = true := by simp [not_isBlank_number first]
  rw [text_eq, List.cons_append, run_cons, step_value, if_neg blank,
    startValue_number stack first, Option.bind_some, run_append,
    run_number stack [c] tail chars, Option.bind_some, run_cons, step_number,
    if_neg (by simp [delimiter])]
  simp only [List.singleton_append, lexeme]

theorem hexValue_hexDigit : ∀ n < 16, hexValue (hexDigit n) = some n := by decide

/-- Inside a string the written form of a character reads back as the character. -/
theorem run_escapeChar (c : Char) (isKey : Bool) (read rest : List Char) (stack : List Frame) :
    run limit (escapeChar c ++ rest) ⟨.text isKey read, stack⟩ =
      run limit rest ⟨.text isKey (read ++ [c]), stack⟩ := by
  unfold escapeChar
  split_ifs with quote backslash newline return_ tab backspace formFeed control
  · subst quote; rfl
  · subst backslash; rfl
  · subst newline; rfl
  · subst return_; rfl
  · subst tab; rfl
  · have same : Char.ofNat 8 = c := by rw [← backspace]; exact Char.ofNat_toNat c
    rw [← same]
    rfl
  · have same : Char.ofNat 12 = c := by rw [← formFeed]; exact Char.ofNat_toNat c
    rw [← same]
    rfl
  · have high := hexValue_hexDigit (c.toNat / 16) (by omega)
    have low := hexValue_hexDigit (c.toNat % 16) (by omega)
    have zero : hexValue '0' = some 0 := by decide
    have code : (0 * 16 + 0) * 16 + 0 = 0 := rfl
    have whole : (0 * 16 + c.toNat / 16) * 16 + c.toNat % 16 = c.toNat := by omega
    have plain : ¬ (0xd800 ≤ c.toNat ∧ c.toNat < 0xdc00) := by omega
    have plain' : ¬ (0xdc00 ≤ c.toNat ∧ c.toNat < 0xe000) := by omega
    simp only [List.cons_append, List.nil_append, run_cons, step_text, step_escape,
      step_unicode _ _ _ _ _ _ _ zero, step_unicode _ _ _ _ _ _ _ high,
      step_unicode _ _ _ _ _ _ _ low, Option.bind_some, if_false, if_true,
      Nat.reduceAdd, code, whole, endUnicode, if_neg plain, if_neg plain', Char.ofNat_toNat,
      show ¬ ('\\' = '"') by decide, show ¬ (0 = 3) by decide, show ¬ (1 = 3) by decide,
      show ¬ (2 = 3) by decide]
  · simp only [List.cons_append, List.nil_append, run_cons, step_text, if_neg quote,
      if_neg backslash, if_neg control, Option.bind_some]

theorem run_printText (text : List Char) (isKey : Bool) (read rest : List Char)
    (stack : List Frame) :
    run limit (printText text ++ rest) ⟨.text isKey read, stack⟩ =
      (endText isKey (read ++ text) stack).bind (run limit rest) := by
  induction text generalizing read with
  | nil =>
    simp only [printText, List.cons_append, List.nil_append, run_cons, step_text, if_true,
      List.append_nil]
  | cons c text ih =>
    rw [printText, List.append_assoc, run_escapeChar, ih]
    simp

/-! ## The round trip -/

/-- A text goes on with a character that ends a number. -/
def Delimited (rest : List Char) : Prop := ∃ d tail, rest = d :: tail ∧ isNumberChar d = false

theorem delimited_printElems (xs : List Json) (rest : List Char) :
    Delimited (Json.printElems xs ++ rest) := by
  cases xs with
  | nil => exact ⟨']', rest, by simp [Json.printElems], by decide⟩
  | cons x xs => exact ⟨',', _, by simp [Json.printElems]; rfl, by decide⟩

theorem delimited_printMembers (ms : List (String × Json)) (rest : List Char) :
    Delimited (Json.printMembers ms ++ rest) := by
  cases ms with
  | nil => exact ⟨'\x7d', rest, by simp [Json.printMembers], by decide⟩
  | cons m ms => exact ⟨',', _, by simp [Json.printMembers]; rfl, by decide⟩

theorem Json.print_head (v : Json) :
    ∃ c rest, v.print = c :: rest ∧ isBlank c = false ∧ c ≠ ']' := by
  match v with
  | .null => exact ⟨'n', _, rfl, by decide, by decide⟩
  | .bool true => exact ⟨'t', _, rfl, by decide, by decide⟩
  | .bool false => exact ⟨'f', _, rfl, by decide, by decide⟩
  | .str s => exact ⟨'"', _, by rw [Json.print], by decide, by decide⟩
  | .arr [] => exact ⟨'[', _, by rw [Json.print], by decide, by decide⟩
  | .arr (x :: xs) => exact ⟨'[', _, by rw [Json.print], by decide, by decide⟩
  | .obj [] => exact ⟨'\x7b', _, by rw [Json.print], by decide, by decide⟩
  | .obj ((k, x) :: ms) => exact ⟨'\x7b', _, by rw [Json.print], by decide, by decide⟩
  | .num n =>
    obtain ⟨c, tail, text_eq, first, -⟩ := isNumber_chars n.valid
    refine ⟨c, tail, by rw [Json.print, text_eq], not_isBlank_number first, ?_⟩
    rintro rfl
    revert first
    decide

theorem run_firstElem (v : Json) (stack : List Frame) (rest : List Char) :
    run limit (v.print ++ rest) ⟨.firstElem, stack⟩ = run limit (v.print ++ rest) ⟨.value, stack⟩ := by
  obtain ⟨c, tail, text_eq, blank, bracket⟩ := v.print_head
  simp only [text_eq, List.cons_append, run_cons, step, blank, bracket, Bool.false_eq_true,
    if_false]

theorem step_deliver (v : Json) (stack : List Frame) (c : Char) :
    step limit (deliver v stack) c = stepAfter (deliver v stack) c := by
  unfold deliver
  split <;> rfl

theorem run_literal (stack : List Frame) (v : Json) (c : Char) (cs rest : List Char) :
    run limit (c :: cs ++ rest) ⟨.literal (c :: cs) v, stack⟩ = run limit rest (deliver v stack) := by
  induction cs generalizing c with
  | nil => simp [run_cons, step]
  | cons d cs ih =>
    rw [List.cons_append, run_cons]
    simpa [step] using ih d

theorem openFrame_of_lt {mode : Mode} {frame : Frame} {stack : List Frame}
    (room : stack.length < limit) :
    openFrame limit mode frame stack = some ⟨mode, frame :: stack⟩ := if_pos room

mutual

/-- A value's text takes the reader from expecting a value to having delivered it. -/
theorem run_print (v : Json) (stack : List Frame) (rest : List Char)
    (room : v.depth + stack.length ≤ limit)
    (delimited : ∀ n, v = .num n → Delimited rest) :
    run limit (v.print ++ rest) ⟨.value, stack⟩ = run limit rest (deliver v stack) := by
  match v with
  | .null => exact run_literal stack .null 'u' ['l', 'l'] rest
  | .bool true => exact run_literal stack (.bool true) 'r' ['u', 'e'] rest
  | .bool false => exact run_literal stack (.bool false) 'a' ['l', 's', 'e'] rest
  | .num n =>
    obtain ⟨d, tail, rfl, ends⟩ := delimited n rfl
    rw [Json.print, run_print_number n stack tail ends, run_cons, step_deliver]
  | .str s =>
    have := @run_printText limit s.toList false [] rest stack
    simpa [Json.print, run_cons, step, startValue, isBlank, endText] using this
  | .arr [] =>
    have space : stack.length < limit := by
      simp only [Json.depth] at room
      omega
    simp [Json.print, run_cons, step, startValue, isBlank, openFrame_of_lt space, closeFrame]
  | .arr (x :: xs) =>
    simp only [Json.depth, Json.depthElems] at room
    have space : stack.length < limit := by omega
    have first := run_print x (.arr [] :: stack) (Json.printElems xs ++ rest)
      (by simp only [List.length_cons]; omega) fun _ _ => delimited_printElems xs rest
    have later := run_printElems xs [x] stack rest (by omega)
    have opened : run limit (Json.print (.arr (x :: xs)) ++ rest) ⟨.value, stack⟩ =
        run limit (x.print ++ (Json.printElems xs ++ rest)) ⟨.firstElem, .arr [] :: stack⟩ := by
      simp [Json.print, run_cons, step, startValue, isBlank, openFrame_of_lt space]
    rw [opened, run_firstElem, first]
    simpa [deliver] using later
  | .obj [] =>
    have space : stack.length < limit := by
      simp only [Json.depth] at room
      omega
    simp [Json.print, run_cons, step, startValue, isBlank, openFrame_of_lt space, closeFrame]
  | .obj ((k, x) :: ms) =>
    simp only [Json.depth, Json.depthMembers] at room
    have space : stack.length < limit := by omega
    have key := @run_printText limit k.toList true []
      (':' :: (x.print ++ (Json.printMembers ms ++ rest)))
      (.obj [] none :: stack)
    have first := run_print x (.obj [] (some k) :: stack) (Json.printMembers ms ++ rest)
      (by simp only [List.length_cons]; omega) fun _ _ => delimited_printMembers ms rest
    have later := run_printMembers ms [(k, x)] stack rest (by omega)
    have opened : run limit (Json.print (.obj ((k, x) :: ms)) ++ rest) ⟨.value, stack⟩ =
        run limit (printText k.toList ++ ':' :: (x.print ++ (Json.printMembers ms ++ rest)))
          ⟨.text true [], .obj [] none :: stack⟩ := by
      simp [Json.print, run_cons, step, startValue, isBlank, openFrame_of_lt space]
    rw [opened, key]
    simp only [endText, List.nil_append, String.ofList_toList, Option.bind_some, run_cons]
    simp only [step, show isBlank ':' = false by decide, Bool.false_eq_true, if_false, if_true,
      Option.bind_some, first]
    simpa [deliver] using later

theorem run_printElems (xs elems : List Json) (stack : List Frame) (rest : List Char)
    (room : Json.depthElems xs + 1 + stack.length ≤ limit) :
    run limit (Json.printElems xs ++ rest) ⟨.after, .arr elems :: stack⟩ =
      run limit rest (deliver (.arr (elems ++ xs)) stack) := by
  match xs with
  | [] => simp [Json.printElems, run_cons, step, stepAfter, isBlank, closeFrame]
  | x :: xs =>
    simp only [Json.depthElems] at room
    have first := run_print x (.arr elems :: stack) (Json.printElems xs ++ rest)
      (by simp only [List.length_cons]; omega) fun _ _ => delimited_printElems xs rest
    have later := run_printElems xs (elems ++ [x]) stack rest (by omega)
    have comma : run limit (Json.printElems (x :: xs) ++ rest) ⟨.after, .arr elems :: stack⟩ =
        run limit (x.print ++ (Json.printElems xs ++ rest)) ⟨.value, .arr elems :: stack⟩ := by
      simp [Json.printElems, run_cons, step, stepAfter, isBlank]
    rw [comma, first]
    simpa [deliver] using later

theorem run_printMembers (ms members : List (String × Json)) (stack : List Frame)
    (rest : List Char) (room : Json.depthMembers ms + 1 + stack.length ≤ limit) :
    run limit (Json.printMembers ms ++ rest) ⟨.after, .obj members none :: stack⟩ =
      run limit rest (deliver (.obj (members ++ ms)) stack) := by
  match ms with
  | [] => simp [Json.printMembers, run_cons, step, stepAfter, isBlank, closeFrame]
  | (k, x) :: ms =>
    simp only [Json.depthMembers] at room
    have key := @run_printText limit k.toList true []
      (':' :: (x.print ++ (Json.printMembers ms ++ rest)))
      (.obj members none :: stack)
    have first := run_print x (.obj members (some k) :: stack) (Json.printMembers ms ++ rest)
      (by simp only [List.length_cons]; omega) fun _ _ => delimited_printMembers ms rest
    have later := run_printMembers ms (members ++ [(k, x)]) stack rest (by omega)
    have comma : run limit (Json.printMembers ((k, x) :: ms) ++ rest)
          ⟨.after, .obj members none :: stack⟩ =
        run limit (printText k.toList ++ ':' :: (x.print ++ (Json.printMembers ms ++ rest)))
          ⟨.text true [], .obj members none :: stack⟩ := by
      simp [Json.printMembers, run_cons, step, stepAfter, isBlank]
    rw [comma, key]
    simp only [endText, List.nil_append, String.ofList_toList, Option.bind_some, run_cons]
    simp only [step, show isBlank ':' = false by decide, Bool.false_eq_true, if_false, if_true,
      Option.bind_some, first]
    simpa [deliver] using later

end

theorem fromStr_print (ms : List (String × Json))
    (room : (Json.obj ms).depth ≤ limit) :
    fromStr limit (Json.print (.obj ms)) = some (.obj ms) := by
  have whole := run_print (.obj ms) [] [] (by simpa using room) (by simp)
  rw [List.append_nil] at whole
  rw [fromStr, whole]
  rfl

/-! ## Compact text stays on one line -/

theorem hexDigit_printable (n : ℕ) (small : n < 16) : 32 ≤ (hexDigit n).toNat := by
  interval_cases n <;> decide

theorem escapeChar_printable {c d : Char} (member : d ∈ escapeChar c) : 32 ≤ d.toNat := by
  unfold escapeChar at member
  split_ifs at member with h₁ h₂ h₃ h₄ h₅ h₆ h₇ control
  case neg =>
    simp only [List.mem_singleton] at member
    subst member
    omega
  all_goals
    simp only [List.mem_cons, List.not_mem_nil, or_false] at member
    rcases member with rfl | rfl | rfl | rfl | rfl | rfl
    all_goals first
      | decide
      | exact hexDigit_printable _ (by omega)

theorem printText_printable {text : List Char} {d : Char} (member : d ∈ printText text) :
    32 ≤ d.toNat := by
  induction text with
  | nil =>
    simp only [printText, List.mem_singleton] at member
    subst member
    decide
  | cons c text ih =>
    rw [printText, List.mem_append] at member
    rcases member with escaped | later
    · exact escapeChar_printable escaped
    · exact ih later

theorem isNumberChar_printable {c : Char} (number : isNumberChar c = true) : 32 ≤ c.toNat := by
  simp only [isNumberChar, Bool.or_eq_true, decide_eq_true_eq, Char.isDigit, Bool.and_eq_true]
    at number
  rcases number with (((((digit | rfl) | rfl) | rfl) | rfl) | rfl)
  · exact le_trans (by decide) (UInt32.le_iff_toNat_le.1 digit.1)
  all_goals decide

mutual

/-- The compact text of a value has no control character, hence no line break. -/
theorem Json.print_printable (v : Json) : ∀ d ∈ v.print, 32 ≤ d.toNat := by
  intro d member
  match v with
  | .null | .bool true | .bool false | .arr [] | .obj [] =>
    simp only [Json.print, List.mem_cons, List.not_mem_nil, or_false] at member
    rcases member with rfl | rfl | rfl | rfl | rfl <;> decide
  | .num n =>
    rw [Json.print] at member
    obtain ⟨c, tail, text_eq, first, chars⟩ := isNumber_chars n.valid
    rw [text_eq] at member
    rcases List.mem_cons.1 member with rfl | inside
    · refine isNumberChar_printable ?_
      simp only [Bool.or_eq_true, decide_eq_true_eq] at first
      rcases first with digit | rfl
      · exact isNumberChar_of_isDigit digit
      · decide
    · exact isNumberChar_printable (chars d inside)
  | .str s =>
    rw [Json.print, List.mem_cons] at member
    rcases member with rfl | inside
    · decide
    · exact printText_printable inside
  | .arr (x :: xs) =>
    rw [Json.print, List.mem_cons, List.mem_append] at member
    rcases member with rfl | inside | later
    · decide
    · exact Json.print_printable x d inside
    · exact Json.printElems_printable xs d later
  | .obj ((k, x) :: ms) =>
    simp only [Json.print, List.mem_cons, List.mem_append] at member
    rcases member with rfl | rfl | key | rfl | inside | later
    · decide
    · decide
    · exact printText_printable key
    · decide
    · exact Json.print_printable x d inside
    · exact Json.printMembers_printable ms d later

theorem Json.printElems_printable (xs : List Json) : ∀ d ∈ Json.printElems xs, 32 ≤ d.toNat := by
  intro d member
  match xs with
  | [] =>
    simp only [Json.printElems, List.mem_singleton] at member
    subst member
    decide
  | x :: xs =>
    simp only [Json.printElems, List.mem_cons, List.mem_append] at member
    rcases member with rfl | inside | later
    · decide
    · exact Json.print_printable x d inside
    · exact Json.printElems_printable xs d later

theorem Json.printMembers_printable (ms : List (String × Json)) :
    ∀ d ∈ Json.printMembers ms, 32 ≤ d.toNat := by
  intro d member
  match ms with
  | [] =>
    simp only [Json.printMembers, List.mem_singleton] at member
    subst member
    decide
  | (k, x) :: ms =>
    simp only [Json.printMembers, List.mem_cons, List.mem_append] at member
    rcases member with rfl | rfl | key | rfl | inside | later
    · decide
    · decide
    · exact printText_printable key
    · decide
    · exact Json.print_printable x d inside
    · exact Json.printMembers_printable ms d later

end

/-! ## Text that was cut off -/

/-- A reader with a higher limit goes at least as far. -/
theorem step_mono {more : ℕ} (le : limit ≤ more) {state next : State} {c : Char}
    (stepped : step limit state c = some next) : step more state c = some next := by
  have opens : ∀ {mode : Mode} {frame : Frame} {stack : List Frame},
      openFrame limit mode frame stack = some next →
        openFrame more mode frame stack = some next := by
    intro mode frame stack opened
    unfold openFrame at opened ⊢
    split at opened
    · rwa [if_pos (by omega)]
    · cases opened
  have starts : ∀ {stack : List Frame}, startValue limit stack c = some next →
      startValue more stack c = some next := by
    intro stack started
    unfold startValue at started ⊢
    split_ifs at started ⊢
    all_goals first
      | exact opens started
      | exact started
  obtain ⟨mode, stack⟩ := state
  cases mode with
  | value =>
    simp only [step] at stepped ⊢
    split_ifs at stepped ⊢
    · exact stepped
    · exact starts stepped
  | firstElem =>
    simp only [step] at stepped ⊢
    split_ifs at stepped ⊢
    · exact stepped
    · exact stepped
    · exact starts stepped
  | _ => exact stepped

theorem run_mono {more : ℕ} (le : limit ≤ more) {text : List Char} {state next : State}
    (ran : run limit text state = some next) : run more text state = some next := by
  induction text generalizing state with
  | nil => exact ran
  | cons c text ih =>
    rw [run_cons] at ran ⊢
    cases stepped : step limit state c with
    | none => simp [stepped] at ran
    | some mid =>
      rw [stepped, Option.bind_some] at ran
      rw [step_mono le stepped, Option.bind_some]
      exact ih ran

/-- After the first character of an object the reader is inside a container or has read a
whole value. Literals it is in the middle of contain no brace. -/
structure Opened (state : State) : Prop where
  inside : state.stack ≠ [] ∨ ∃ v, state.mode = .done v
  literal : ∀ rest v, state.mode = .literal rest v → '\x7b' ∉ rest

theorem opened_deliver (v : Json) (stack : List Frame) : Opened (deliver v stack) := by
  unfold deliver
  split <;> exact ⟨by simp, by simp⟩

theorem opened_startValue {c : Char} {stack : List Frame} {next : State} (inside : stack ≠ [])
    (started : startValue limit stack c = some next) : Opened next := by
  unfold startValue openFrame at started
  split_ifs at started
  all_goals
    obtain rfl := Option.some.inj started
    exact ⟨by simp [inside], by simp; try decide⟩

theorem opened_closeFrame {c : Char} {stack : List Frame} {next : State}
    (closed : closeFrame stack c = some next) : Opened next := by
  unfold closeFrame at closed
  split at closed
  all_goals first
    | (obtain rfl := Option.some.inj closed; exact opened_deliver _ _)
    | cases closed

theorem opened_stepAfter {state next : State} {c : Char} (opened : Opened state)
    (stepped : stepAfter state c = some next) : Opened next := by
  unfold stepAfter at stepped
  split at stepped
  · obtain rfl := Option.some.inj stepped
    exact opened
  · split at stepped
    · split at stepped
      · obtain rfl := Option.some.inj stepped
        exact ⟨by simp, by simp⟩
      · exact opened_closeFrame stepped
    · split at stepped
      · obtain rfl := Option.some.inj stepped
        exact ⟨by simp, by simp⟩
      · exact opened_closeFrame stepped
    · cases stepped

theorem opened_endText {isKey : Bool} {read : List Char} {stack : List Frame} {next : State}
    (ended : endText isKey read stack = some next) : Opened next := by
  unfold endText at ended
  split at ended
  · obtain rfl := Option.some.inj ended
    exact ⟨by simp, by simp⟩
  · cases ended
  · obtain rfl := Option.some.inj ended
    exact opened_deliver _ _

theorem opened_endUnicode {isKey : Bool} {read : List Char} {high : Option ℕ} {code : ℕ}
    {stack : List Frame} {next : State} (inside : stack ≠ [])
    (ended : endUnicode isKey read high code stack = some next) : Opened next := by
  cases high with
  | none =>
    simp only [endUnicode] at ended
    split_ifs at ended
    all_goals
      obtain rfl := Option.some.inj ended
      exact ⟨.inl inside, by simp⟩
  | some high =>
    simp only [endUnicode] at ended
    split_ifs at ended
    obtain rfl := Option.some.inj ended
    exact ⟨.inl inside, by simp⟩

theorem opened_step {state next : State} {c : Char} (opened : Opened state)
    (stepped : step limit state c = some next) : Opened next := by
  obtain ⟨mode, stack⟩ := state
  have inside : (∀ v, mode ≠ .done v) → stack ≠ [] := by
    intro busy
    rcases opened.inside with open_ | ⟨v, done⟩
    · exact open_
    · exact absurd done (busy v)
  have plain : ∀ {mode' : Mode}, stack ≠ [] → (∀ rest v, mode' ≠ .literal rest v) →
      Opened ⟨mode', stack⟩ := fun open_ other =>
    ⟨.inl open_, fun rest v same => absurd same (other rest v)⟩
  cases mode with
  | value =>
    simp only [step] at stepped
    split at stepped
    · obtain rfl := Option.some.inj stepped
      exact opened
    · exact opened_startValue (inside (by simp)) stepped
  | firstElem =>
    simp only [step] at stepped
    split at stepped
    · obtain rfl := Option.some.inj stepped
      exact opened
    · split at stepped
      · exact opened_closeFrame stepped
      · exact opened_startValue (inside (by simp)) stepped
  | key first =>
    simp only [step] at stepped
    split at stepped
    · obtain rfl := Option.some.inj stepped
      exact opened
    · split at stepped
      · obtain rfl := Option.some.inj stepped
        exact plain (inside (by simp)) (by simp)
      · split at stepped
        · exact opened_closeFrame stepped
        · cases stepped
  | colon =>
    simp only [step] at stepped
    split_ifs at stepped
    · obtain rfl := Option.some.inj stepped
      exact opened
    · obtain rfl := Option.some.inj stepped
      exact plain (inside (by simp)) (by simp)
  | after => exact opened_stepAfter opened stepped
  | done v => exact opened_stepAfter opened stepped
  | text isKey read =>
    simp only [step] at stepped
    split_ifs at stepped
    · exact opened_endText stepped
    all_goals
      obtain rfl := Option.some.inj stepped
      exact plain (inside (by simp)) (by simp)
  | escape isKey read =>
    simp only [step] at stepped
    split at stepped
    · obtain rfl := Option.some.inj stepped
      exact plain (inside (by simp)) (by simp)
    · obtain ⟨d, -, rfl⟩ := Option.map_eq_some_iff.1 stepped
      exact plain (inside (by simp)) (by simp)
  | unicode isKey read high code count =>
    simp only [step] at stepped
    split at stepped
    · cases stepped
    · split_ifs at stepped
      · exact opened_endUnicode (inside (by simp)) stepped
      · obtain rfl := Option.some.inj stepped
        exact plain (inside (by simp)) (by simp)
  | lowEscape isKey read high =>
    simp only [step] at stepped
    split_ifs at stepped
    obtain rfl := Option.some.inj stepped
    exact plain (inside (by simp)) (by simp)
  | lowUnicode isKey read high =>
    simp only [step] at stepped
    split_ifs at stepped
    obtain rfl := Option.some.inj stepped
    exact plain (inside (by simp)) (by simp)
  | number read =>
    simp only [step] at stepped
    split at stepped
    · obtain rfl := Option.some.inj stepped
      exact plain (inside (by simp)) (by simp)
    · split at stepped
      · cases stepped
      · exact opened_stepAfter (opened_deliver _ _) stepped
  | literal rest v =>
    have brace := opened.literal rest v rfl
    simp only [step] at stepped
    split at stepped
    · cases stepped
    · split_ifs at stepped
      obtain rfl := Option.some.inj stepped
      exact opened_deliver _ _
    · split_ifs at stepped
      obtain rfl := Option.some.inj stepped
      refine ⟨.inl (inside (by simp)), ?_⟩
      intro rest' v' same
      simp only [Mode.literal.injEq] at same
      rw [← same.1]
      exact fun member => brace (by simp_all)

theorem opened_run {text : List Char} {state next : State} (opened : Opened state)
    (ran : run limit text state = some next) : Opened next := by
  induction text generalizing state with
  | nil =>
    obtain rfl := Option.some.inj ran
    exact opened
  | cons c text ih =>
    rw [run_cons] at ran
    obtain ⟨mid, stepped, later⟩ := Option.bind_eq_some_iff.1 ran
    exact ih (opened_step opened stepped) later

theorem run_done {v : Json} {stack : List Frame} {text : List Char} {next : State}
    (ran : run limit text ⟨.done v, stack⟩ = some next) :
    next = ⟨.done v, stack⟩ ∧ ∀ c ∈ text, isBlank c = true := by
  induction text with
  | nil => exact ⟨(Option.some.inj ran).symm, by simp⟩
  | cons c text ih =>
    rw [run_cons, step_done, stepAfter] at ran
    split at ran
    · next blank =>
      obtain ⟨same, blanks⟩ := ih ran
      exact ⟨same, by simpa using ⟨blank, blanks⟩⟩
    · simp at ran

theorem Json.printMembers_getLast (ms : List (String × Json)) :
    (Json.printMembers ms).getLast? = some '\x7d' := by
  induction ms with
  | nil => simp [Json.printMembers]
  | cons m ms ih => simp [Json.printMembers, List.getLast?_cons, List.getLast?_append, ih]

theorem Json.print_obj_getLast (ms : List (String × Json)) :
    (Json.print (.obj ms)).getLast? = some '\x7d' := by
  match ms with
  | [] => rfl
  | (k, x) :: ms =>
    simp [Json.print, List.getLast?_cons, List.getLast?_append, Json.printMembers_getLast]

theorem Json.print_obj_head (ms : List (String × Json)) :
    ∃ rest, Json.print (.obj ms) = '\x7b' :: rest := by
  match ms with
  | [] => exact ⟨_, by rw [Json.print]⟩
  | (k, x) :: ms => exact ⟨_, by rw [Json.print]⟩

theorem stack_deliver {v : Json} {stack : List Frame} (inside : stack ≠ []) :
    (deliver v stack).stack ≠ [] := by
  unfold deliver
  split
  · exact absurd rfl inside
  all_goals simp

theorem cut_head {ms : List (String × Json)} {cut rest : List Char}
    (whole : Json.print (.obj ms) = cut ++ rest) (some_ : cut ≠ []) :
    ∃ tail, cut = '\x7b' :: tail := by
  obtain ⟨body, head⟩ := Json.print_obj_head ms
  obtain ⟨c, tail, rfl⟩ := List.exists_cons_of_ne_nil some_
  rw [head, List.cons_append, List.cons.injEq] at whole
  exact ⟨tail, by rw [whole.1]⟩

theorem opened_cut {tail : List Char} {stack : List Frame} {next : State}
    (ran : run limit ('\x7b' :: tail) ⟨.value, stack⟩ = some next) : Opened next := by
  rw [run_cons] at ran
  obtain ⟨mid, stepped, later⟩ := Option.bind_eq_some_iff.1 ran
  refine opened_run ?_ later
  simp only [step, startValue, openFrame, show isBlank '\x7b' = false by decide,
    Bool.false_eq_true, if_false, if_true] at stepped
  split_ifs at stepped
  obtain rfl := Option.some.inj stepped
  exact ⟨by simp, by simp⟩

/-- Reading the start of an object, as a value of its own or inside others, leaves a container
open, unless it was the whole of a value of its own. -/
theorem run_cut {ms : List (String × Json)} {cut rest : List Char} {stack : List Frame}
    {next : State} (whole : Json.print (.obj ms) = cut ++ rest) (some_ : cut ≠ [])
    (partial_ : rest ≠ [] ∨ stack ≠ []) (ran : run limit cut ⟨.value, stack⟩ = some next) :
    next.stack ≠ [] := by
  have opened : Opened next := by
    obtain ⟨tail, rfl⟩ := cut_head whole some_
    exact opened_cut ran
  rcases opened.inside with open_ | ⟨v, done⟩
  · exact open_
  · intro empty
    obtain ⟨mode, nextStack⟩ := next
    simp only at done empty
    subst done empty
    -- a reader with room for the whole object agrees with this one up to the cut
    have far := run_mono (le_max_left limit ((Json.obj ms).depth + stack.length)) ran
    have full := @run_print (max limit ((Json.obj ms).depth + stack.length)) (.obj ms)
      stack [] (le_max_right _ _) (by simp)
    rw [List.append_nil, whole, run_append, far, Option.bind_some, run_nil] at full
    obtain ⟨same, blanks⟩ := run_done full
    rcases partial_ with more | inside
    · have last := Json.print_obj_getLast ms
      rw [whole, List.getLast?_append_of_ne_nil _ more] at last
      have := blanks '\x7d' (List.mem_of_getLast? last)
      revert this
      decide
    · exact stack_deliver inside (v := .obj ms) (by rw [same])

theorem fromStr_cut {ms : List (String × Json)} {cut rest : List Char}
    (whole : Json.print (.obj ms) = cut ++ rest) (more : rest ≠ []) : fromStr limit cut = none := by
  rcases eq_or_ne cut [] with rfl | some_
  · rfl
  · rw [fromStr]
    cases ran : run limit cut ⟨.value, []⟩ with
    | none => rfl
    | some next =>
      have open_ := run_cut whole some_ (.inl more) ran
      obtain ⟨mode, stack⟩ := next
      obtain ⟨frame, stack, rfl⟩ := List.exists_cons_of_ne_nil open_
      cases mode <;> rfl

/-! ## Cut texts run together -/

/-- A nonempty prefix of the text of an object whose first key starts with a letter. -/
def Piece (text : List Char) : Prop :=
  text ≠ [] ∧ ∃ key x ms rest c cs, Json.print (.obj ((key, x) :: ms)) = text ++ rest ∧
    key.toList = c :: cs ∧ c.isAlpha = true

theorem stepAfter_none {state : State} {c : Char} (blank : isBlank c = false) (comma : c ≠ ',')
    (bracket : c ≠ ']') (brace : c ≠ '\x7d') : stepAfter state c = none := by
  unfold stepAfter closeFrame
  simp only [blank, comma, Bool.false_eq_true, if_false]
  split
  all_goals first
    | rfl
    | (split <;> first | rfl | (exact absurd rfl ‹_›))

theorem isAlpha_plain {c : Char} (letter : c.isAlpha = true) :
    isBlank c = false ∧ c ≠ ',' ∧ c ≠ ']' ∧ c ≠ '\x7d' ∧ c ≠ ':' ∧ escapeChar c = [c] := by
  have differs : ∀ d : Char, d.isAlpha = false → c ≠ d := by
    rintro d other rfl
    simp [other] at letter
  have high : ¬ c.toNat < 32 ∧ c.toNat ≠ 8 ∧ c.toNat ≠ 12 := by
    simp only [Char.isAlpha, Char.isUpper, Char.isLower, Bool.or_eq_true, Bool.and_eq_true,
      decide_eq_true_eq] at letter
    have bound : 65 ≤ c.toNat := by
      rcases letter with ⟨low, -⟩ | ⟨low, -⟩
      · exact UInt32.le_iff_toNat_le.1 low
      · exact le_trans (by decide) (UInt32.le_iff_toNat_le.1 low)
    omega
  refine ⟨?_, differs ',' (by decide), differs ']' (by decide), differs '\x7d' (by decide),
    differs ':' (by decide), ?_⟩
  · simp [isBlank, differs ' ' (by decide), differs '\n' (by decide), differs '\t' (by decide),
      differs '\r' (by decide)]
  · simp [escapeChar, differs '"' (by decide), differs '\\' (by decide),
      differs '\n' (by decide), differs '\r' (by decide), differs '\t' (by decide), high]

/-- Inside a string the start of an object is text up to its first quote, which ends the
string; the letter after it is then refused. -/
theorem run_piece_text {isKey : Bool} {read : List Char} {stack : List Frame} {text : List Char}
    {next : State} (inside : stack ≠ []) (piece : Piece text)
    (ran : run limit text ⟨.text isKey read, stack⟩ = some next) : next.stack ≠ [] := by
  obtain ⟨some_, key, x, ms, rest, c, cs, whole, key_eq, letter⟩ := piece
  obtain ⟨blank, comma, bracket, brace, colon, plain⟩ := isAlpha_plain letter
  simp only [Json.print, key_eq, printText, plain] at whole
  have ended : ∀ {mid : State}, endText isKey (read ++ ['\x7b']) stack = some mid →
      mid.stack ≠ [] ∧ step limit mid c = none := by
    intro mid result
    unfold endText at result
    split at result
    · obtain rfl := Option.some.inj result
      exact ⟨by simp, by simp [step, blank, colon]⟩
    · cases result
    · obtain rfl := Option.some.inj result
      exact ⟨stack_deliver inside,
        by rw [step_deliver]; exact stepAfter_none blank comma bracket brace⟩
  match text with
  | [] => exact absurd rfl some_
  | [a] =>
    simp only [List.cons_append, List.cons.injEq] at whole
    obtain ⟨rfl, -⟩ := whole
    obtain rfl := Option.some.inj ran
    exact inside
  | [a, b] =>
    simp only [List.cons_append, List.cons.injEq] at whole
    obtain ⟨rfl, rfl, -⟩ := whole
    simp only [run_cons, step_text, show ¬ ('\x7b' = '"') by decide,
      show ¬ ('\x7b' = '\\') by decide, show ¬ ('\x7b'.toNat < 32) by decide, if_false, if_true,
      Option.bind_some] at ran
    obtain ⟨mid, result, later⟩ := Option.bind_eq_some_iff.1 ran
    obtain rfl := Option.some.inj later
    exact (ended result).1
  | a :: b :: d :: text =>
    simp only [List.cons_append, List.nil_append, List.cons.injEq] at whole
    obtain ⟨rfl, rfl, rfl, -⟩ := whole
    simp only [run_cons, step_text, show ¬ ('\x7b' = '"') by decide,
      show ¬ ('\x7b' = '\\') by decide, show ¬ ('\x7b'.toNat < 32) by decide, if_false, if_true,
      Option.bind_some] at ran
    obtain ⟨mid, result, later⟩ := Option.bind_eq_some_iff.1 ran
    rw [run_cons, (ended result).2] at later
    cases later

/-- While a container is open, the start of another object's text does not close it. -/
theorem run_piece {state next : State} {text : List Char} (opened : Opened state)
    (inside : state.stack ≠ []) (piece : Piece text) (ran : run limit text state = some next) :
    Opened next ∧ next.stack ≠ [] := by
  refine ⟨opened_run opened ran, ?_⟩
  obtain ⟨mode, stack⟩ := state
  obtain ⟨some_, key, x, ms, rest, c, cs, whole, key_eq, letter⟩ := id piece
  obtain ⟨tail, rfl⟩ := cut_head whole some_
  have stops : ∀ s : State, stepAfter s '\x7b' = none := fun s =>
    stepAfter_none (by decide) (by decide) (by decide) (by decide)
  have refused : step limit ⟨mode, stack⟩ '\x7b' = none → next.stack ≠ [] := by
    intro none_
    rw [run_cons, none_] at ran
    cases ran
  cases mode with
  | value => exact run_cut whole (by simp) (.inr inside) ran
  | firstElem => exact run_cut whole (by simp) (.inr inside) ran
  | text isKey read => exact run_piece_text inside piece ran
  | key first => exact refused (by simp [step, isBlank])
  | colon => exact refused (by simp [step, isBlank])
  | after => exact refused (stops _)
  | done v => exact refused (stops _)
  | escape isKey read => exact refused (by simp [step, unescape])
  | unicode isKey read high code count => exact refused (by simp [step, hexValue])
  | lowEscape isKey read high => exact refused (by simp [step])
  | lowUnicode isKey read high => exact refused (by simp [step])
  | number read =>
    refine refused ?_
    simp only [step, show isNumberChar '\x7b' = false by decide, Bool.false_eq_true, if_false]
    split
    · rfl
    · exact stops _
  | literal left v =>
    refine refused ?_
    have brace := opened.literal left v rfl
    simp only [step]
    split
    · rfl
    · exact if_neg fun same => brace (by rw [← same]; exact List.mem_cons_self)
    · exact if_neg fun same => brace (by rw [← same]; exact List.mem_cons_self)

theorem run_pieces {state next : State} {pieces : List (List Char)} (opened : Opened state)
    (inside : state.stack ≠ []) (all : ∀ piece ∈ pieces, Piece piece)
    (ran : run limit pieces.flatten state = some next) : next.stack ≠ [] := by
  induction pieces generalizing state with
  | nil =>
    obtain rfl := Option.some.inj ran
    exact inside
  | cons piece pieces ih =>
    rw [List.flatten_cons, run_append] at ran
    obtain ⟨mid, first, later⟩ := Option.bind_eq_some_iff.1 ran
    obtain ⟨midOpened, midInside⟩ := run_piece opened inside (all piece (by simp)) first
    exact ih midOpened midInside (fun other member => all other (by simp [member])) later

/-- The start of an object's text followed by starts of further objects' texts denotes no
value. -/
theorem fromStr_pieces {first : List Char} {pieces : List (List Char)} (piece : Piece first)
    (all : ∀ piece ∈ pieces, Piece piece) (more : pieces ≠ []) :
    fromStr limit (first ++ pieces.flatten) = none := by
  obtain ⟨some_, key, x, ms, rest, c, cs, whole, key_eq, letter⟩ := id piece
  rw [fromStr, run_append]
  cases start : run limit first ⟨.value, []⟩ with
  | none => rfl
  | some mid =>
    rw [Option.bind_some]
    by_cases complete : rest = []
    · -- the first text is whole, and the next one starts with a brace
      obtain ⟨second, pieces, rfl⟩ := List.exists_cons_of_ne_nil more
      obtain ⟨some', key', x', ms', rest', c', cs', whole', -, -⟩ := all second (by simp)
      obtain ⟨tail, rfl⟩ := cut_head whole' some'
      subst complete
      rw [List.append_nil] at whole
      have far := run_mono (le_max_left limit (Json.obj ((key, x) :: ms)).depth) start
      have full := @run_print (max limit (Json.obj ((key, x) :: ms)).depth)
        (.obj ((key, x) :: ms)) [] [] (by simp) (by simp)
      rw [List.append_nil, whole, far, run_nil] at full
      obtain rfl := Option.some.inj full
      rw [List.flatten_cons, List.cons_append, run_cons, step_deliver,
        stepAfter_none (by decide) (by decide) (by decide) (by decide)]
      rfl
    · have inside := run_cut whole some_ (.inl complete) start
      have opened : Opened mid := by
        obtain ⟨tail, rfl⟩ := cut_head whole some_
        exact opened_cut start
      cases ran : run limit pieces.flatten mid with
      | none => rfl
      | some next =>
        have open_ := run_pieces opened inside all ran
        obtain ⟨mode, stack⟩ := next
        obtain ⟨frame, stack, rfl⟩ := List.exists_cons_of_ne_nil open_
        cases mode <;> rfl

end Foundation
