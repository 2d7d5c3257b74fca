import Mathlib
import Giskard.Model.CommandOutput

/-!
# The head preview of a reasoning note

A note that is too long is cut after a newline, and its first line that is not blank is meant to
stay whole. It does, unless that line is the last one, without a newline, and blank lines precede
it: the cut then falls right before it.

## Main results

* `reasoningHeadPreview_keeps_iff`: when the preview keeps the first line that is not blank
* `reasoningHeadPreview_drops`: a note of which it keeps nothing but blank lines
-/

set_option autoImplicit false

namespace Giskard.Analysis

open Foundation

/-! ## Lines -/

/-- The lines of a text: each but the last one ends with its only newline. -/
inductive LineList : List (List Char) → Prop where
  | nil : LineList []
  | last (line : List Char) (nonempty : line ≠ []) (open_ : '\n' ∉ line) : LineList [line]
  | cons (body : List Char) (rest : List (List Char)) (single : '\n' ∉ body)
      (later : LineList rest) : LineList ((body ++ ['\n']) :: rest)

theorem lineList_splitInclusive (text : List Char) : LineList (splitInclusive text) := by
  induction text with
  | nil => exact .nil
  | cons c text ih =>
    unfold splitInclusive
    split
    · next newline =>
      subst newline
      exact .cons [] _ List.not_mem_nil ih
    · next other =>
      have apart : '\n' ∉ [c] := by
        rw [List.mem_singleton]
        exact fun same => other same.symm
      generalize splitInclusive text = lines at ih
      cases ih with
      | nil => exact .last [c] (List.cons_ne_nil _ _) apart
      | last line nonempty single =>
        exact .last (c :: line) (List.cons_ne_nil _ _) (by simp_all)
      | cons body rest single later => exact .cons (c :: body) rest (by simp_all) later

theorem flatten_splitInclusive (text : List Char) : (splitInclusive text).flatten = text := by
  induction text with
  | nil => rfl
  | cons c text ih =>
    unfold splitInclusive
    split
    · rw [List.flatten_cons, ih, List.singleton_append]
    · generalize splitInclusive text = lines at ih
      cases lines with
      | nil => rw [← ih]; rfl
      | cons line lines => rw [← ih]; rfl

theorem LineList.ends {lines pre post : List (List Char)} {line : List Char}
    (lineList : LineList lines) (split : lines = pre ++ line :: post) (more : post ≠ []) :
    line.getLast? = some '\n' := by
  induction lineList generalizing pre with
  | nil => simp at split
  | last last nonempty single =>
    cases pre with
    | nil =>
      cases split
      exact absurd rfl more
    | cons first pre => simp at split
  | cons body rest single later ih =>
    cases pre with
    | nil =>
      cases split
      rw [List.getLast?_append_cons]
      rfl
    | cons first pre =>
      rw [List.cons_append] at split
      exact ih (List.cons.inj split).2

theorem LineList.unterminated {lines pre post : List (List Char)} {line : List Char}
    (lineList : LineList lines) (split : lines = pre ++ line :: post)
    (unterminated : line.getLast? ≠ some '\n') : '\n' ∉ line ∧ post = [] := by
  refine ⟨?_, by_contra fun more => unterminated (lineList.ends split more)⟩
  induction lineList generalizing pre with
  | nil => simp at split
  | last last nonempty single =>
    cases pre with
    | nil =>
      cases split
      exact single
    | cons first pre => simp at split
  | cons body rest single later ih =>
    cases pre with
    | nil =>
      cases split
      rw [List.getLast?_append_cons] at unterminated
      exact absurd rfl unterminated
    | cons first pre =>
      rw [List.cons_append] at split
      exact ih (List.cons.inj split).2

theorem LineList.flatten_ends {lines pre post : List (List Char)} {line : List Char}
    (lineList : LineList lines) (split : lines = pre ++ line :: post) (some_ : pre ≠ []) :
    pre.flatten.getLast? = some '\n' := by
  obtain ⟨front, last, rfl⟩ := List.eq_nil_or_concat pre |>.resolve_left some_
  have whole : lines = front ++ last :: (line :: post) := by
    rw [split, List.concat_eq_append, List.append_assoc, List.singleton_append]
  have ends : last.getLast? = some '\n' := lineList.ends whole (List.cons_ne_nil _ _)
  obtain ⟨body, rfl⟩ := List.getLast?_eq_some_iff.1 ends
  rw [List.concat_eq_append, List.flatten_append, List.flatten_singleton, ← List.append_assoc,
    List.getLast?_append_cons]
  rfl

/-! ## The first line that is not blank -/

def Blank (line : List Char) : Prop := line.all isWhiteSpace = true

/-- The lines of a text up to the first one that is not blank, and those after it. -/
structure FirstNonBlank (text : List Char) (pre : List (List Char)) (line : List Char)
    (post : List (List Char)) : Prop where
  split : splitInclusive text = pre ++ line :: post
  blank : ∀ before ∈ pre, Blank before
  visible : ¬Blank line

theorem firstNonBlankEnd_of_split {lines pre post : List (List Char)} {line : List Char}
    (split : lines = pre ++ line :: post) (blank : ∀ before ∈ pre, Blank before)
    (visible : ¬Blank line) (offset : ℕ) :
    firstNonBlankEnd offset lines = some (offset + byteLen (pre.flatten ++ line)) := by
  subst split
  induction pre generalizing offset with
  | nil =>
    unfold Blank at visible
    rw [List.nil_append, firstNonBlankEnd, if_neg visible]
    rfl
  | cons first pre ih =>
    have here : first.all isWhiteSpace = true := blank first List.mem_cons_self
    rw [List.cons_append, firstNonBlankEnd, if_pos here,
      ih fun before member => blank before (List.mem_cons_of_mem _ member)]
    rw [List.flatten_cons, List.append_assoc, byteLen_append first, Nat.add_assoc]

theorem split_of_firstNonBlankEnd {lines : List (List Char)} {offset stop : ℕ}
    (found : firstNonBlankEnd offset lines = some stop) :
    ∃ pre line post, lines = pre ++ line :: post ∧ (∀ before ∈ pre, Blank before) ∧
      ¬Blank line := by
  induction lines generalizing offset with
  | nil => cases found
  | cons first lines ih =>
    unfold firstNonBlankEnd at found
    split at found
    · next blank =>
      obtain ⟨pre, line, post, split, blanks, visible⟩ := ih found
      refine ⟨first :: pre, line, post, by rw [split, List.cons_append], ?_, visible⟩
      intro before member
      rcases List.mem_cons.1 member with rfl | later
      · exact blank
      · exact blanks before later
    · next visible => exact ⟨[], first, lines, rfl, by simp, visible⟩

variable {text : List Char} {pre post : List (List Char)} {line : List Char}

theorem FirstNonBlank.text_eq (first : FirstNonBlank text pre line post) :
    text = pre.flatten ++ line ++ post.flatten := by
  have whole := flatten_splitInclusive text
  rw [first.split, List.flatten_append, List.flatten_cons, ← List.append_assoc] at whole
  exact whole.symm

theorem FirstNonBlank.end_eq (first : FirstNonBlank text pre line post) :
    firstNonBlankEnd 0 (splitInclusive text) = some (byteLen (pre.flatten ++ line)) := by
  rw [firstNonBlankEnd_of_split first.split first.blank first.visible, Nat.zero_add]

/-! ## Newlines -/

theorem mem_newlineEnds {offset stop : ℕ} :
    stop ∈ newlineEnds offset text ↔
      ∃ head, head <+: text ∧ head.getLast? = some '\n' ∧ stop = offset + byteLen head := by
  induction text generalizing offset with
  | nil =>
    unfold newlineEnds
    simp
  | cons c text ih =>
    have here : (∃ head, head <+: c :: text ∧ head.getLast? = some '\n' ∧
        stop = offset + byteLen head) ↔ c = '\n' ∧ stop = offset + c.utf8Size ∨
          ∃ head, head <+: text ∧ head.getLast? = some '\n' ∧
            stop = offset + c.utf8Size + byteLen head := by
      constructor
      · rintro ⟨head, inside, ends, rfl⟩
        cases head with
        | nil => cases ends
        | cons d head =>
          obtain ⟨rfl, shorter⟩ := List.cons_prefix_cons.1 inside
          cases head with
          | nil =>
            left
            refine ⟨Option.some.inj ends, by simp⟩
          | cons e head =>
            right
            refine ⟨e :: head, shorter, by simpa using ends, ?_⟩
            rw [byteLen_cons d, Nat.add_assoc]
      · rintro (⟨rfl, rfl⟩ | ⟨head, inside, ends, rfl⟩)
        · exact ⟨['\n'], by simp, rfl, by simp⟩
        · refine ⟨c :: head, List.cons_prefix_cons.2 ⟨rfl, inside⟩, ?_, ?_⟩
          · rw [List.getLast?_cons, ends]
            rfl
          · rw [byteLen_cons c, Nat.add_assoc]
    rw [here, ← ih, newlineEnds.eq_2]
    split
    · next newline => simp [newline]
    · next other => simp [other]

theorem pairwise_newlineEnds (offset : ℕ) (text : List Char) :
    (newlineEnds offset text).Pairwise (· < ·) := by
  induction text generalizing offset with
  | nil => exact List.Pairwise.nil
  | cons c text ih =>
    unfold newlineEnds
    split
    · refine List.pairwise_cons.2 ⟨fun stop member => ?_, ih _⟩
      obtain ⟨head, -, ends, rfl⟩ := mem_newlineEnds.1 member
      obtain ⟨body, rfl⟩ := List.getLast?_eq_some_iff.1 ends
      have size := Char.utf8Size_pos '\n'
      rw [byteLen_append, byteLen_cons]
      omega
    · exact ih _

/-- The last number up to a bound of an increasing list, if there is one. -/
theorem getLast?_takeWhile_le {numbers : List ℕ} (increasing : numbers.Pairwise (· < ·))
    (bound : ℕ) :
    match (numbers.takeWhile (· ≤ bound)).getLast? with
    | none => ∀ n ∈ numbers, bound < n
    | some last => last ∈ numbers ∧ last ≤ bound ∧ ∀ n ∈ numbers, n ≤ bound → n ≤ last := by
  induction numbers with
  | nil => simp
  | cons first numbers ih =>
    obtain ⟨above, rest⟩ := List.pairwise_cons.1 increasing
    rw [List.takeWhile_cons]
    by_cases fits : first ≤ bound
    · rw [decide_eq_true fits, if_pos rfl, List.getLast?_cons]
      have later := ih rest
      cases found : (numbers.takeWhile (· ≤ bound)).getLast? with
      | none =>
        rw [found] at later
        refine ⟨List.mem_cons_self, fits, ?_⟩
        intro n member small
        rcases List.mem_cons.1 member with rfl | inside
        · exact le_rfl
        · exact absurd small (not_le.2 (later n inside))
      | some last =>
        rw [found] at later
        obtain ⟨member, small, most⟩ := later
        refine ⟨List.mem_cons_of_mem _ member, small, ?_⟩
        intro n inside fitting
        rcases List.mem_cons.1 inside with rfl | inside
        · exact (above last member).le
        · exact most n inside fitting
    · rw [decide_eq_false fits, if_neg Bool.false_ne_true]
      intro n member
      rcases List.mem_cons.1 member with rfl | inside
      · exact not_le.1 fits
      · exact (not_le.1 fits).trans (above n inside)

/-! ## The preview -/

/-- A head of a text that ends with a newline. -/
def EndsLine (text head : List Char) : Prop := head <+: text ∧ head.getLast? = some '\n'

/-- A long text that is not blank is kept whole, when it has no shorter head that ends with a
newline within the budget, or cut after the last newline within the budget. -/
theorem reasoningHeadPreview_cases {maxBytes : ℕ} (long : maxBytes < byteLen text)
    (first : FirstNonBlank text pre line post) :
    (reasoningHeadPreview text maxBytes = (text, false) ∧
      ∀ head, EndsLine text head →
        byteLen head ≤ max maxBytes (byteLen (pre.flatten ++ line)) → EndsLine text text) ∨
    ∃ head, EndsLine text head ∧ head ≠ text ∧ reasoningHeadPreview text maxBytes = (head, true) ∧
      byteLen head ≤ max maxBytes (byteLen (pre.flatten ++ line)) ∧
      ∀ other, EndsLine text other →
        byteLen other ≤ max maxBytes (byteLen (pre.flatten ++ line)) →
        byteLen other ≤ byteLen head := by
  unfold reasoningHeadPreview
  rw [if_neg (not_le.2 long), first.end_eq]
  dsimp only
  have last := getLast?_takeWhile_le (pairwise_newlineEnds 0 text)
    (max maxBytes (byteLen (pre.flatten ++ line)))
  have mem (head : List Char) (ends : EndsLine text head) :
      byteLen head ∈ newlineEnds 0 text :=
    mem_newlineEnds.2 ⟨head, ends.1, ends.2, by rw [Nat.zero_add]⟩
  split
  · next cut found =>
    rw [found] at last
    obtain ⟨member, fits, most⟩ := last
    obtain ⟨head, inside, ends, rfl⟩ := mem_newlineEnds.1 member
    rw [Nat.zero_add] at fits most ⊢
    split
    · next shorter =>
      refine .inr ⟨head, ⟨inside, ends⟩, ?_, ?_, fits,
        fun other otherEnds => most _ (mem other otherEnds)⟩
      · rintro rfl
        exact lt_irrefl _ shorter
      · rw [takeBytes_of_start inside]
    · next whole =>
      have covers : text <+: head :=
        prefix_of_byteLen_le List.prefix_rfl inside (not_lt.1 whole)
      rw [inside.eq_of_length_le covers.length_le] at ends
      exact .inl ⟨rfl, fun _ _ _ => ⟨List.prefix_rfl, ends⟩⟩
  · next found =>
    rw [found] at last
    refine .inl ⟨rfl, fun head ends fits => absurd fits (not_le.2 (last _ (mem head ends)))⟩

/-- What a preview of a note is meant to be. -/
structure ReasoningHead (text : List Char) (maxBytes : ℕ) (preview : List Char × Bool) : Prop where
  head : preview.1 <+: text
  /-- The first line that is not blank is whole. -/
  keeps : ∀ pre line post, FirstNonBlank text pre line post → pre.flatten ++ line <+: preview.1
  flag : preview.2 = true ↔ preview.1 ≠ text
  /-- What is dropped starts after the last newline within the budget. -/
  cut : preview.1 ≠ text → EndsLine text preview.1 ∧
    ∃ pre line post, FirstNonBlank text pre line post ∧
      byteLen preview.1 ≤ max maxBytes (byteLen (pre.flatten ++ line)) ∧
      ∀ other, EndsLine text other →
        byteLen other ≤ max maxBytes (byteLen (pre.flatten ++ line)) →
        byteLen other ≤ byteLen preview.1

theorem reasoningHead_whole (text : List Char) (maxBytes : ℕ) :
    ReasoningHead text maxBytes (text, false) where
  head := List.prefix_rfl
  keeps pre line post first := ⟨post.flatten, first.text_eq.symm⟩
  flag := by simp
  cut dropped := absurd rfl dropped

/-- The note fits, or its first line that is not blank ends with a newline or starts the note. -/
def KeepsLine (text : List Char) (maxBytes : ℕ) : Prop :=
  byteLen text ≤ maxBytes ∨ ∀ pre line post, FirstNonBlank text pre line post →
    pre = [] ∨ line.getLast? = some '\n'

theorem FirstNonBlank.unique {pre' post' : List (List Char)} {line' : List Char}
    (first : FirstNonBlank text pre line post) (other : FirstNonBlank text pre' line' post') :
    pre'.flatten ++ line' = pre.flatten ++ line := by
  have same := Option.some.inj (first.end_eq.symm.trans other.end_eq)
  have inside : pre.flatten ++ line <+: text := ⟨post.flatten, first.text_eq.symm⟩
  have inside' : pre'.flatten ++ line' <+: text := ⟨post'.flatten, other.text_eq.symm⟩
  rw [← takeBytes_of_start inside, ← takeBytes_of_start inside', same]

/-- The last line, without a newline, is dropped together with nothing else. -/
theorem reasoningHeadPreview_unterminated {maxBytes : ℕ} (long : maxBytes < byteLen text)
    (first : FirstNonBlank text pre line post) (blanks : pre ≠ [])
    (unterminated : line.getLast? ≠ some '\n') :
    reasoningHeadPreview text maxBytes = (pre.flatten, true) := by
  obtain ⟨single, rfl⟩ := (lineList_splitInclusive text).unterminated first.split unterminated
  have whole : text = pre.flatten ++ line := by
    have same := first.text_eq
    rwa [List.flatten_nil, List.append_nil] at same
  have ends : EndsLine text pre.flatten :=
    ⟨⟨line, whole.symm⟩, (lineList_splitInclusive text).flatten_ends first.split blanks⟩
  have some_ : line ≠ [] := by
    rintro rfl
    exact first.visible rfl
  have room : byteLen pre.flatten ≤ max maxBytes (byteLen (pre.flatten ++ line)) :=
    (byteLen_le_of_start (List.prefix_append _ _)).trans (le_max_right _ _)
  -- A longer head ends with the last character of a head of the line, which has no newline.
  have longest : ∀ head, EndsLine text head → head <+: pre.flatten := by
    rintro head ⟨inside, newline⟩
    rw [whole] at inside
    rcases List.prefix_or_prefix_of_prefix inside (List.prefix_append pre.flatten line) with
      short | ⟨rest, rfl⟩
    · exact short
    · have tail : rest <+: line := (List.prefix_append_right_inj _).1 inside
      cases rest with
      | nil => rw [List.append_nil]
      | cons c rest =>
        rw [List.getLast?_append_cons] at newline
        exact absurd (tail.subset (List.mem_of_getLast? newline)) single
  rcases reasoningHeadPreview_cases long first with ⟨-, complete⟩ | ⟨head, last, -, same, -, most⟩
  · have short := (longest text (complete _ ends room)).length_le
    rw [whole, List.length_append] at short
    exact absurd (List.length_eq_zero_iff.1 (by omega)) some_
  · have longer : pre.flatten <+: head := prefix_of_byteLen_le ends.1 last.1 (most _ ends room)
    rw [same, (longest head last).eq_of_length_le longer.length_le]

/-- The preview is the head it is meant to be unless the first line that is not blank is the last
one, without a newline, and blank lines precede it in a note that is too long. -/
theorem reasoningHeadPreview_keeps_iff (text : List Char) (maxBytes : ℕ) :
    ReasoningHead text maxBytes (reasoningHeadPreview text maxBytes) ↔ KeepsLine text maxBytes := by
  unfold KeepsLine
  by_cases fits : byteLen text ≤ maxBytes
  · have same : reasoningHeadPreview text maxBytes = (text, false) := by
      unfold reasoningHeadPreview
      rw [if_pos fits]
    rw [same]
    exact iff_of_true (reasoningHead_whole text maxBytes) (.inl fits)
  · have long := not_le.1 fits
    cases found : firstNonBlankEnd 0 (splitInclusive text) with
    | none =>
      have same : reasoningHeadPreview text maxBytes = (text, false) := by
        unfold reasoningHeadPreview
        rw [if_neg fits, found]
      rw [same]
      refine iff_of_true (reasoningHead_whole text maxBytes) (.inr fun pre line post first => ?_)
      cases found.symm.trans first.end_eq
    | some stop =>
      obtain ⟨pre, line, post, split, blank, visible⟩ := split_of_firstNonBlankEnd found
      have first : FirstNonBlank text pre line post := ⟨split, blank, visible⟩
      constructor
      · refine fun meets => .inr fun pre line post first => ?_
        by_contra neither
        rw [not_or] at neither
        have keeps := meets.keeps pre line post first
        rw [reasoningHeadPreview_unterminated long first neither.1 neither.2] at keeps
        have short : (pre.flatten ++ line).length ≤ pre.flatten.length := keeps.length_le
        rw [List.length_append] at short
        apply first.visible
        rw [List.length_eq_zero_iff.1 (show line.length = 0 by omega)]
        rfl
      · rintro (fit | terminated)
        · exact absurd fit fits
        rcases reasoningHeadPreview_cases long first with
          ⟨same, -⟩ | ⟨head, ends, short, same, room, most⟩
        · rw [same]
          exact reasoningHead_whole text maxBytes
        · rw [same]
          refine ⟨ends.1, ?_, by simp [short], fun _ => ⟨ends, pre, line, post, first, room, most⟩⟩
          intro pre' line' post' other
          rw [first.unique other]
          have inside : pre.flatten ++ line <+: text := ⟨post.flatten, first.text_eq.symm⟩
          apply prefix_of_byteLen_le inside ends.1
          by_cases newline : line.getLast? = some '\n'
          · apply most _ ⟨inside, ?_⟩ (le_max_right _ _)
            rw [List.getLast?_append, newline]
            rfl
          · -- A text that is one line without a newline is not cut.
            obtain ⟨single, rfl⟩ :=
              (lineList_splitInclusive text).unterminated first.split newline
            obtain rfl := (terminated pre line [] first).resolve_right newline
            have whole := first.text_eq
            rw [List.flatten_nil, List.nil_append, List.append_nil] at whole
            exact absurd (whole ▸ ends.1.subset (List.mem_of_getLast? ends.2)) single

/-- A blank line and a word, of three bytes where two are allowed. -/
def blankThenWord : List Char := ['\n', 'a', 'b']

theorem reasoningHeadPreview_drops :
    ¬ReasoningHead blankThenWord 2 (reasoningHeadPreview blankThenWord 2) := by
  intro meets
  have first : FirstNonBlank blankThenWord [['\n']] ['a', 'b'] [] :=
    ⟨by decide, by unfold Blank; decide, by unfold Blank; decide⟩
  have keeps := (meets.keeps _ _ _ first).length_le
  have dropped : (reasoningHeadPreview blankThenWord 2).1 = ['\n'] := by decide
  rw [dropped] at keeps
  exact absurd keeps (by decide)

end Giskard.Analysis
