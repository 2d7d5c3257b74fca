import Mathlib

/-!
# Markup as a text

A text of markup is read one character after the other: what stands between `<` and the next `>`
is a tag, and every other character is a character of the text. A tag that begins with a slash
closes the element that was opened last, a tag of an element without content closes nothing.

What a writer appends to such a text is complete when it opens and closes the same elements, and
complete pieces can be put one after the other and into an element. What a reader sees of a text
are the characters outside tags, without those of one kind of element that is hidden, with the
entities of the five characters that are escaped decoded.
-/

set_option autoImplicit false

namespace Foundation.Markup

/-! ## Tags and characters -/

/-- A part of a text. -/
inductive Token where
  | tag (body : List Char)
  | char (c : Char)
  /-- The text ended within a tag. -/
  | broken
  deriving DecidableEq

/-- The parts of a text, when a tag was begun with these characters, the last one first. -/
def scanFrom : Option (List Char) → List Char → List Token
  | none, [] => []
  | some _, [] => [.broken]
  | none, c :: rest => if c = '<' then scanFrom (some []) rest else .char c :: scanFrom none rest
  | some body, c :: rest =>
    if c = '>' then .tag body.reverse :: scanFrom none rest else scanFrom (some (c :: body)) rest

/-- The parts of a text. -/
def scan (text : List Char) : List Token := scanFrom none text

@[simp] theorem scan_nil : scan [] = [] := rfl

theorem scanFrom_body {body : List Char} (closed : '>' ∉ body) (read rest : List Char) :
    scanFrom (some read) (body ++ '>' :: rest) = .tag (read.reverse ++ body) :: scan rest := by
  induction body generalizing read with
  | nil => simp [scanFrom, scan]
  | cons c body ih =>
    rw [List.mem_cons, not_or] at closed
    rw [List.cons_append, scanFrom, if_neg (Ne.symm closed.1), ih closed.2]
    simp

theorem scan_tag {body : List Char} (closed : '>' ∉ body) (rest : List Char) :
    scan ('<' :: (body ++ '>' :: rest)) = .tag body :: scan rest := by
  unfold scan
  rw [scanFrom, if_pos rfl, scanFrom_body closed]
  rfl

theorem scan_chars {text : List Char} (plain : '<' ∉ text) (rest : List Char) :
    scan (text ++ rest) = text.map .char ++ scan rest := by
  induction text with
  | nil => rfl
  | cons c text ih =>
    rw [List.mem_cons, not_or] at plain
    unfold scan at ih ⊢
    rw [List.cons_append, scanFrom, if_neg (Ne.symm plain.1), ih plain.2]
    rfl

/-- Where no tag is left open and no tag holds a `<`, each `<` begins a tag. -/
theorem tag_of_lt {text : List Char} (whole : Token.broken ∉ scan text)
    (flat : ∀ body, Token.tag body ∈ scan text → '<' ∉ body) {before after : List Char}
    (split : text = before ++ '<' :: after) :
    ∃ body rest, after = body ++ '>' :: rest ∧ Token.tag body ∈ scan text := by
  -- A tag that was begun is finished, and no `<` comes before its end.
  have within : ∀ (text read : List Char), Token.broken ∉ scanFrom (some read) text →
      ∃ body rest, text = body ++ '>' :: rest ∧ '>' ∉ body ∧
        scanFrom (some read) text = .tag (read.reverse ++ body) :: scanFrom none rest := by
    intro text
    induction text with
    | nil =>
      intro read whole
      exact absurd (List.mem_singleton_self _) whole
    | cons c text ih =>
      intro read whole
      by_cases last : c = '>'
      · subst last
        exact ⟨[], text, rfl, by simp, by simp [scanFrom]⟩
      · rw [scanFrom, if_neg last] at whole ⊢
        obtain ⟨body, rest, rfl, closed, read'⟩ := ih (c :: read) whole
        refine ⟨c :: body, rest, rfl, ?_, ?_⟩
        · rw [List.mem_cons, not_or]
          exact ⟨Ne.symm last, closed⟩
        · rw [read']
          simp
  suffices outside : ∀ (count : ℕ) (text before : List Char), text.length = count →
      Token.broken ∉ scan text → (∀ body, Token.tag body ∈ scan text → '<' ∉ body) →
      text = before ++ '<' :: after →
      ∃ body rest, after = body ++ '>' :: rest ∧ Token.tag body ∈ scan text from
    outside _ text before rfl whole flat split
  intro count
  induction count using Nat.strongRecOn with
  | _ count ih =>
    intro text before length whole flat split
    unfold scan at whole flat ⊢
    cases text with
    | nil => simp at split
    | cons c text =>
      by_cases first : c = '<'
      · subst first
        rw [scanFrom, if_pos rfl] at whole flat ⊢
        obtain ⟨body, rest, rfl, closed, read⟩ := within text [] whole
        rw [List.reverse_nil, List.nil_append] at read
        rw [read] at whole flat ⊢
        cases before with
        | nil =>
          obtain ⟨-, rfl⟩ := List.cons.inj split
          exact ⟨body, rest, rfl, List.mem_cons_self⟩
        | cons head before =>
          obtain ⟨-, split⟩ := List.cons.inj split
          -- The `<` stands after the tag, as no tag holds one.
          have later : ∃ before', rest = before' ++ '<' :: after := by
            rcases List.append_eq_append_iff.1 split with ⟨between, -, tail⟩ | ⟨between, inner, tail⟩
            · cases between with
              | nil => simp at tail
              | cons d between =>
                obtain ⟨-, tail⟩ := List.cons.inj tail
                exact ⟨between, tail⟩
            · cases between with
              | nil => simp at tail
              | cons d between =>
                obtain ⟨rfl, -⟩ := List.cons.inj tail
                refine absurd ?_ (flat body List.mem_cons_self)
                rw [inner]
                simp
          obtain ⟨before', rfl⟩ := later
          obtain ⟨body', rest', same, member⟩ := ih _ (by rw [← length]; simp; omega) _ before' rfl
            (fun bad => whole (List.mem_cons_of_mem _ bad))
            (fun body member => flat body (List.mem_cons_of_mem _ member)) rfl
          exact ⟨body', rest', same, List.mem_cons_of_mem _ member⟩
      · rw [scanFrom, if_neg first] at whole flat ⊢
        cases before with
        | nil =>
          obtain ⟨rfl, -⟩ := List.cons.inj split
          exact absurd rfl first
        | cons head before =>
          obtain ⟨-, rfl⟩ := List.cons.inj split
          obtain ⟨body', rest', same, member⟩ := ih _ (by rw [← length]; simp) _ before rfl
            (fun bad => whole (List.mem_cons_of_mem _ bad))
            (fun body member => flat body (List.mem_cons_of_mem _ member)) rfl
          exact ⟨body', rest', same, List.mem_cons_of_mem _ member⟩

/-! ## Elements -/

/-- The name of a tag. -/
def tagName (body : List Char) : List Char := body.takeWhile fun c => c ≠ ' '

/-- The elements that are open after some parts of a text, when each tag that closes an element
closes the one opened last. `empty` are the names of the elements without content. -/
def nest (empty : List (List Char)) : List (List Char) → List Token → Option (List (List Char))
  | stack, [] => some stack
  | stack, .char _ :: rest => nest empty stack rest
  | _, .broken :: _ => none
  | stack, .tag body :: rest =>
    match body with
    | '/' :: name =>
      match stack with
      | [] => none
      | top :: below => if top = name then nest empty below rest else none
    | body =>
      if tagName body ∈ empty then nest empty stack rest
      else nest empty (tagName body :: stack) rest

/-- A text opens and closes the same elements. -/
def Balanced (empty : List (List Char)) (text : List Char) : Prop :=
  nest empty [] (scan text) = some []

theorem nest_chars (empty : List (List Char)) (stack : List (List Char)) (text : List Char)
    (rest : List Token) : nest empty stack (text.map .char ++ rest) = nest empty stack rest := by
  induction text with
  | nil => rfl
  | cons c text ih => exact ih

theorem nest_open {empty : List (List Char)} {body : List Char} (opens : body.head? ≠ some '/')
    (full : tagName body ∉ empty) (stack : List (List Char)) (rest : List Token) :
    nest empty stack (.tag body :: rest) = nest empty (tagName body :: stack) rest := by
  conv_lhs => unfold nest
  split
  · simp at opens
  · rw [if_neg full]

theorem nest_void {empty : List (List Char)} {body : List Char} (opens : body.head? ≠ some '/')
    (void : tagName body ∈ empty) (stack : List (List Char)) (rest : List Token) :
    nest empty stack (.tag body :: rest) = nest empty stack rest := by
  conv_lhs => unfold nest
  split
  · simp at opens
  · rw [if_pos void]

theorem nest_close (empty : List (List Char)) (name : List Char) (stack : List (List Char))
    (rest : List Token) :
    nest empty (name :: stack) (.tag ('/' :: name) :: rest) = nest empty stack rest := by
  conv_lhs => unfold nest
  simp

theorem nest_broken {empty : List (List Char)} {stack : List (List Char)} {tokens : List Token}
    {after : List (List Char)} (nested : nest empty stack tokens = some after) :
    Token.broken ∉ tokens := by
  induction tokens generalizing stack with
  | nil => simp
  | cons token tokens ih =>
    cases token with
    | broken => simp [nest] at nested
    | char c => simpa using ih nested
    | tag body =>
      unfold nest at nested
      split at nested
      · split at nested
        · cases nested
        · split at nested
          · simpa using ih nested
          · cases nested
      · split at nested
        · simpa using ih nested
        · simpa using ih nested

/-! ## Entities -/

/-- The five characters that are escaped. -/
def escapeChar (c : Char) : List Char :=
  match c with
  | '&' => "&amp;".toList
  | '<' => "&lt;".toList
  | '>' => "&gt;".toList
  | '"' => "&quot;".toList
  | '\'' => "&#39;".toList
  | c => [c]

/-- A text with the five characters escaped. -/
def escape (text : List Char) : List Char := text.flatMap escapeChar

/-- A text with the entities of the five characters decoded. -/
def decode : List Char → List Char
  | '&' :: 'a' :: 'm' :: 'p' :: ';' :: rest => '&' :: decode rest
  | '&' :: 'l' :: 't' :: ';' :: rest => '<' :: decode rest
  | '&' :: 'g' :: 't' :: ';' :: rest => '>' :: decode rest
  | '&' :: 'q' :: 'u' :: 'o' :: 't' :: ';' :: rest => '"' :: decode rest
  | '&' :: '#' :: '3' :: '9' :: ';' :: rest => '\'' :: decode rest
  | c :: rest => c :: decode rest
  | [] => []

theorem decode_cons {c : Char} (plain : c ≠ '&') (rest : List Char) :
    decode (c :: rest) = c :: decode rest := by
  rw [decode.eq_6]
  all_goals
    intros
    simp_all

/-- One text stands for another one: it holds no tag, and decoding it gives the other. -/
def EscapedAs (html text : List Char) : Prop :=
  '<' ∉ html ∧ ∀ rest, decode (html ++ rest) = text ++ decode rest

theorem EscapedAs.nil : EscapedAs [] [] := ⟨by simp, fun _ => rfl⟩

theorem EscapedAs.append {html html' text text' : List Char} (first : EscapedAs html text)
    (second : EscapedAs html' text') : EscapedAs (html ++ html') (text ++ text') := by
  refine ⟨?_, fun rest => ?_⟩
  · rw [List.mem_append, not_or]
    exact ⟨first.1, second.1⟩
  · rw [List.append_assoc, first.2, second.2, List.append_assoc]

theorem EscapedAs.flatMap {f : Char → List Char} (each : ∀ c, EscapedAs (f c) [c])
    (text : List Char) : EscapedAs (text.flatMap f) text := by
  induction text with
  | nil => exact .nil
  | cons c text ih => exact (each c).append ih

theorem EscapedAs.plain {c : Char} (amp : c ≠ '&') (lt : c ≠ '<') : EscapedAs [c] [c] :=
  ⟨by simpa using Ne.symm lt, fun rest => decode_cons amp rest⟩

theorem escapeChar_escaped (c : Char) : EscapedAs (escapeChar c) [c] := by
  unfold escapeChar
  split
  · exact ⟨by decide, fun _ => rfl⟩
  · exact ⟨by decide, fun _ => rfl⟩
  · exact ⟨by decide, fun _ => rfl⟩
  · exact ⟨by decide, fun _ => rfl⟩
  · exact ⟨by decide, fun _ => rfl⟩
  · next amp lt _ _ _ => exact .plain amp lt

theorem escape_escaped (text : List Char) : EscapedAs (escape text) text :=
  .flatMap escapeChar_escaped text

theorem decode_escape (text : List Char) : decode (escape text) = text := by
  have whole := (escape_escaped text).2 []
  rwa [List.append_nil, decode, List.append_nil] at whole

theorem escape_plain {text : List Char} {c : Char} (member : c ∈ escape text) :
    c ≠ '"' ∧ c ≠ '\'' ∧ c ≠ '<' ∧ c ≠ '>' := by
  obtain ⟨d, -, inside⟩ := List.mem_flatMap.1 member
  have listed (entity : List Char)
      (plain : ∀ c ∈ entity, c ≠ '"' ∧ c ≠ '\'' ∧ c ≠ '<' ∧ c ≠ '>')
      (inside : c ∈ entity) : c ≠ '"' ∧ c ≠ '\'' ∧ c ≠ '<' ∧ c ≠ '>' := plain c inside
  unfold escapeChar at inside
  split at inside
  · exact listed _ (by simp) inside
  · exact listed _ (by simp) inside
  · exact listed _ (by simp) inside
  · exact listed _ (by simp) inside
  · exact listed _ (by simp) inside
  · next lt gt quote apostrophe =>
    rw [List.mem_singleton] at inside
    subst inside
    exact ⟨quote, apostrophe, lt, gt⟩

/-! ## What a reader sees -/

/-- The characters outside tags that are not hidden. `hides` is the tag that opens a hidden
element and `ends` the tag that closes it. -/
def shown (hides ends : List Char) : Bool → List Token → List Char
  | _, [] => []
  | false, .char c :: rest => c :: shown hides ends false rest
  | true, .char _ :: rest => shown hides ends true rest
  | hidden, .broken :: rest => shown hides ends hidden rest
  | false, .tag body :: rest => shown hides ends (body = hides) rest
  | true, .tag body :: rest => shown hides ends (body ≠ ends) rest

/-- What a reader sees of a text. -/
def visible (hides ends : List Char) (text : List Char) : List Char :=
  decode (shown hides ends false (scan text))

variable {empty : List (List Char)} {hides ends : List Char} {fixed : List Char → Prop}

theorem shown_chars (text : List Char) (rest : List Token) :
    shown hides ends false (text.map .char ++ rest) = text ++ shown hides ends false rest := by
  induction text with
  | nil => rfl
  | cons c text ih =>
    rw [List.map_cons, List.cons_append, shown, ih]
    rfl

theorem shown_tag {body : List Char} (other : body ≠ hides) (rest : List Token) :
    shown hides ends false (.tag body :: rest) = shown hides ends false rest := by
  rw [shown, decide_eq_false other]

/-! ## Complete pieces -/

/-- A piece of markup that is complete: it can be read on its own, it closes what it opens, its
tags are of a fixed kind, and a reader sees a text of it. -/
structure Complete (empty : List (List Char)) (hides ends : List Char) (fixed : List Char → Prop)
    (html text : List Char) : Prop where
  parts : ∃ tokens, (∀ rest, scan (html ++ rest) = tokens ++ scan rest) ∧
    (∀ stack rest, nest empty stack (tokens ++ rest) = nest empty stack rest) ∧
    (∀ body, .tag body ∈ tokens → fixed body) ∧
    ∃ seen, (∀ rest, shown hides ends false (tokens ++ rest) =
        seen ++ shown hides ends false rest) ∧
      ∀ rest, decode (seen ++ rest) = text ++ decode rest

namespace Complete

variable {html html' text text' : List Char}

theorem nil : Complete empty hides ends fixed [] [] :=
  ⟨[], fun _ => rfl, fun _ _ => rfl, by simp, [], fun _ => rfl, fun _ => rfl⟩

theorem append (first : Complete empty hides ends fixed html text)
    (second : Complete empty hides ends fixed html' text') :
    Complete empty hides ends fixed (html ++ html') (text ++ text') := by
  obtain ⟨tokens, scans, nests, tags, seen, shows, decodes⟩ := first.parts
  obtain ⟨tokens', scans', nests', tags', seen', shows', decodes'⟩ := second.parts
  refine ⟨tokens ++ tokens', fun rest => ?_, fun stack rest => ?_, fun body member => ?_,
    seen ++ seen', fun rest => ?_, fun rest => ?_⟩
  · rw [List.append_assoc, scans, scans', List.append_assoc]
  · rw [List.append_assoc, nests, nests']
  · exact (List.mem_append.1 member).elim (tags body) (tags' body)
  · rw [List.append_assoc, shows, shows', List.append_assoc]
  · rw [List.append_assoc, decodes, decodes', List.append_assoc]

theorem chars (escaped : EscapedAs html text) : Complete empty hides ends fixed html text := by
  refine ⟨html.map .char, scan_chars escaped.1, fun stack rest => nest_chars _ _ _ _, ?_,
    html, shown_chars html, escaped.2⟩
  intro body member
  simp at member

theorem void {body : List Char} (closed : '>' ∉ body) (opens : body.head? ≠ some '/')
    (void : tagName body ∈ empty) (other : body ≠ hides) (ok : fixed body) :
    Complete empty hides ends fixed ('<' :: (body ++ ['>'])) [] := by
  refine ⟨[.tag body], fun rest => ?_, fun stack rest => nest_void opens void stack rest,
    by simpa using ok, [], fun rest => shown_tag other rest, fun _ => rfl⟩
  rw [List.cons_append, List.append_assoc]
  exact scan_tag closed rest

/-- An element with a complete content. -/
theorem element (body name : List Char) (named : tagName body = name) (closed : '>' ∉ body)
    (opens : body.head? ≠ some '/') (full : name ∉ empty) (other : body ≠ hides)
    (other' : '/' :: name ≠ hides) (ok : fixed body) (ok' : fixed ('/' :: name))
    (inner : Complete empty hides ends fixed html text) :
    Complete empty hides ends fixed
      ('<' :: (body ++ '>' :: (html ++ '<' :: '/' :: (name ++ ['>'])))) text := by
  obtain ⟨tokens, scans, nests, tags, seen, shows, decodes⟩ := inner.parts
  have closed' : '>' ∉ '/' :: name := by
    rw [List.mem_cons, not_or, ← named]
    exact ⟨by decide, fun member => closed (List.takeWhile_subset _ member)⟩
  refine ⟨.tag body :: (tokens ++ [.tag ('/' :: name)]), fun rest => ?_, fun stack rest => ?_,
    fun body' member => ?_, seen, fun rest => ?_, decodes⟩
  · have last := scan_tag closed' rest
    have middle := scans ('<' :: ('/' :: name ++ '>' :: rest))
    have first := scan_tag closed (html ++ '<' :: ('/' :: name ++ '>' :: rest))
    rw [middle, last] at first
    simpa using first
  · rw [List.cons_append, nest_open opens (named ▸ full), List.append_assoc, nests, named]
    exact nest_close empty name stack rest
  · rcases List.mem_cons.1 member with same | member
    · cases same
      exact ok
    · rcases List.mem_append.1 member with inside | last
      · exact tags body' inside
      · cases List.mem_singleton.1 last
        exact ok'
  · rw [List.cons_append, shown_tag other, List.append_assoc, shows]
    congr 1
    exact shown_tag other' rest

/-- A hidden element with a complete content: a reader sees nothing of it, when nothing in it is
the tag that ends it. -/
theorem hidden (name : List Char) (named : tagName hides = name) (closed : '>' ∉ hides)
    (opens : hides.head? ≠ some '/') (full : name ∉ empty) (last : ends = '/' :: name)
    (ok : fixed hides) (ok' : fixed ends)
    (inner : Complete empty hides ends (fun body => fixed body ∧ body ≠ ends) html text) :
    Complete empty hides ends fixed
      ('<' :: (hides ++ '>' :: (html ++ '<' :: (ends ++ ['>'])))) [] := by
  obtain ⟨tokens, scans, nests, tags, -⟩ := inner.parts
  have closed' : '>' ∉ ends := by
    rw [last, List.mem_cons, not_or, ← named]
    exact ⟨by decide, fun member => closed (List.takeWhile_subset _ member)⟩
  have skipped : ∀ (tokens rest : List Token), (∀ body, .tag body ∈ tokens → body ≠ ends) →
      shown hides ends true (tokens ++ rest) = shown hides ends true rest := by
    intro tokens rest
    induction tokens with
    | nil => exact fun _ => rfl
    | cons token tokens ih =>
      intro others
      have later := ih fun body member => others body (List.mem_cons_of_mem _ member)
      cases token with
      | char c => rw [List.cons_append, shown, later]
      | broken => rw [List.cons_append, shown, later]
      | tag body =>
        rw [List.cons_append, shown, decide_eq_true (others body List.mem_cons_self), later]
  refine ⟨.tag hides :: (tokens ++ [.tag ends]), fun rest => ?_, fun stack rest => ?_,
    fun body' member => ?_, [], fun rest => ?_, fun _ => rfl⟩
  · have final := scan_tag closed' rest
    have middle := scans ('<' :: (ends ++ '>' :: rest))
    have first := scan_tag closed (html ++ '<' :: (ends ++ '>' :: rest))
    rw [middle, final] at first
    simpa using first
  · rw [List.cons_append, nest_open opens (named ▸ full), List.append_assoc, nests, named, last]
    exact nest_close empty name stack rest
  · rcases List.mem_cons.1 member with same | member
    · cases same
      exact ok
    · rcases List.mem_append.1 member with inside | last
      · exact (tags body' inside).1
      · cases List.mem_singleton.1 last
        exact ok'
  · rw [List.cons_append, shown, decide_eq_true rfl, List.append_assoc,
      skipped tokens _ fun body member => (tags body member).2, List.singleton_append, shown]
    simp

theorem balanced (whole : Complete empty hides ends fixed html text) : Balanced empty html := by
  obtain ⟨tokens, scans, nests, -⟩ := whole.parts
  have read := scans []
  rw [List.append_nil, scan_nil, List.append_nil] at read
  have closes := nests [] []
  rw [List.append_nil] at closes
  unfold Balanced
  rw [read, closes, nest]

theorem fixed_of_mem (whole : Complete empty hides ends fixed html text) {body : List Char}
    (member : .tag body ∈ scan html) : fixed body := by
  obtain ⟨tokens, scans, -, tags, -⟩ := whole.parts
  have read := scans []
  rw [List.append_nil, scan_nil, List.append_nil] at read
  exact tags body (read ▸ member)

theorem visible_eq (whole : Complete empty hides ends fixed html text) :
    visible hides ends html = text := by
  obtain ⟨tokens, scans, -, -, seen, shows, decodes⟩ := whole.parts
  have read := scans []
  have outside := shows []
  have decoded := decodes []
  rw [List.append_nil, scan_nil, List.append_nil] at read
  rw [List.append_nil, shown, List.append_nil] at outside
  rw [List.append_nil, decode, List.append_nil] at decoded
  unfold visible
  rw [read, outside, decoded]

end Complete

end Foundation.Markup
