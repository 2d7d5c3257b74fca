import Mathlib
import Giskard.Foundation.Markup
import Giskard.Model.Markdown

/-!
# Rendered Markdown is inert

Each thing the renderer writes for a well-nested part of the events is a complete piece of markup,
with tags of the fixed kinds and the text of the events. The pieces of the parts are put together
as the parts are.
-/

set_option autoImplicit false

namespace Giskard

open Foundation Foundation.Markup

/-! ## The fixed tags -/

/-- The names of the elements that are written without attributes. -/
def plainElements : List String :=
  ["p", "h1", "h2", "h3", "h4", "h5", "h6", "blockquote", "ol", "ul", "li", "em", "strong", "del",
    "table", "thead", "tbody", "tr", "th", "td", "code", "span", "pre"]

/-- The names of all elements with a content. -/
def closedElements : List String := plainElements ++ ["a", "button", "div"]

/-- The tags without a content. -/
def voidTags : List String :=
  ["br", "hr", "input type=\"checkbox\" checked disabled", "input type=\"checkbox\" disabled"]

/-- The names of the elements without a content. -/
def voidElements : List (List Char) := ["br".toList, "hr".toList, "input".toList]

/-- The tag that opens the header of a code block. -/
def codeBlockHead : List Char := "div class=\"code-block-head\"".toList

/-- The tag that ends it. -/
def divEnd : List Char := "/div".toList

/-- A value of an attribute without quotes and angle brackets. -/
def PlainValue (value : List Char) : Prop :=
  ∀ c ∈ value, c ≠ '"' ∧ c ≠ '\'' ∧ c ≠ '<' ∧ c ≠ '>'

/-- An address of one of the three schemes, in capitals or not. -/
def SafeScheme (url : List Char) : Prop :=
  "http://".toList <+: url.map Char.toLower ∨ "https://".toList <+: url.map Char.toLower ∨
    "mailto:".toList <+: url.map Char.toLower

/-- The tags the renderer writes, and the one of the highlighter. -/
inductive FixedTag : List Char → Prop
  | plain {name : String} (listed : name ∈ plainElements) : FixedTag name.toList
  | closing {name : String} (listed : name ∈ closedElements) : FixedTag ('/' :: name.toList)
  | void {tag : String} (listed : tag ∈ voidTags) : FixedTag tag.toList
  | codeBlock : FixedTag "div class=\"code-block\"".toList
  | codeBlockHead : FixedTag codeBlockHead
  | orderedList {start : List Char} (value : PlainValue start) :
      FixedTag ("ol start=\"".toList ++ (start ++ "\"".toList))
  | link {href : List Char} (value : PlainValue href) (safe : SafeScheme (decode href)) :
      FixedTag ("a href=\"".toList ++ (href ++
        "\" target=\"_blank\" rel=\"noopener noreferrer\"".toList))
  | pathLink {path : List Char} (value : PlainValue path) :
      FixedTag ("button type=\"button\" class=\"path-link\" data-path=\"".toList ++
        (path ++ "\"".toList))
  | pathLinkAt {path line : List Char} (value : PlainValue path) (number : PlainValue line) :
      FixedTag ("button type=\"button\" class=\"path-link\" data-path=\"".toList ++
        (path ++ ("\" data-line=\"".toList ++ (line ++ "\"".toList))))
  | highlighted : FixedTag "code data-highlighted=\"true\"".toList
  | language {lang : List Char} (value : PlainValue lang) :
      FixedTag ("code class=\"language-".toList ++ (lang ++ "\"".toList))
  | highlightedLanguage {lang : List Char} (value : PlainValue lang) :
      FixedTag ("code class=\"language-".toList ++ (lang ++ "\" data-highlighted=\"true\"".toList))
  | style {css : List Char} (value : PlainValue css) :
      FixedTag ("span style=\"".toList ++ (css ++ "\"".toList))

theorem PlainValue.escape (text : List Char) : PlainValue (escape text) := fun _ => escape_plain

theorem PlainValue.digits (n : ℕ) : PlainValue (digits n) := by
  intro c member
  have digit := Nat.isDigit_of_mem_toDigits (by decide) (by decide) member
  refine ⟨?_, ?_, ?_, ?_⟩ <;>
  · rintro rfl
    revert digit
    decide

/-- No tag holds an angle bracket. -/
theorem FixedTag.flat {body : List Char} (fixed : FixedTag body) : '<' ∉ body ∧ '>' ∉ body := by
  have value {text : List Char} (plain : PlainValue text) : '<' ∉ text ∧ '>' ∉ text :=
    ⟨fun member => (plain _ member).2.2.1 rfl, fun member => (plain _ member).2.2.2 rfl⟩
  have join {left right : List Char} (first : '<' ∉ left ∧ '>' ∉ left)
      (second : '<' ∉ right ∧ '>' ∉ right) : '<' ∉ left ++ right ∧ '>' ∉ left ++ right := by
    simp only [List.mem_append, not_or]
    exact ⟨⟨first.1, second.1⟩, first.2, second.2⟩
  cases fixed with
  | @plain name listed =>
    have each : ∀ name ∈ plainElements, '<' ∉ name.toList ∧ '>' ∉ name.toList := by decide
    exact each name listed
  | @closing name listed =>
    have each : ∀ name ∈ closedElements, '<' ∉ '/' :: name.toList ∧ '>' ∉ '/' :: name.toList := by
      decide
    exact each name listed
  | @void tag listed =>
    have each : ∀ tag ∈ voidTags, '<' ∉ tag.toList ∧ '>' ∉ tag.toList := by decide
    exact each tag listed
  | codeBlock => decide
  | codeBlockHead => decide
  | orderedList plain => exact join (by decide) (join (value plain) (by decide))
  | link plain => exact join (by decide) (join (value plain) (by decide))
  | pathLink plain => exact join (by decide) (join (value plain) (by decide))
  | pathLinkAt plain number =>
    exact join (by decide) (join (value plain) (join (by decide) (join (value number) (by decide))))
  | highlighted => decide
  | language plain => exact join (by decide) (join (value plain) (by decide))
  | highlightedLanguage plain => exact join (by decide) (join (value plain) (by decide))
  | style plain => exact join (by decide) (join (value plain) (by decide))

/-- A complete piece of a page. -/
abbrev Piece (html text : List Char) : Prop :=
  Complete voidElements codeBlockHead divEnd FixedTag html text

/-! ## Elements -/

variable {html text : List Char}

theorem ne_codeBlockHead {body : List Char} (other : body.head? ≠ some 'd') :
    body ≠ codeBlockHead := by
  rintro rfl
  exact other rfl

theorem Piece.wrap {opening closing : List Char} (body : List Char) (name : String) (inner : Piece html text)
    (opens : opening = '<' :: (body ++ ['>']))
    (closes : closing = '<' :: '/' :: (name.toList ++ ['>']))
    (named : tagName body = name.toList) (listed : name ∈ closedElements)
    (open_ : body.head? ≠ some '/') (other : body ≠ codeBlockHead) (fixed : FixedTag body) :
    Piece (opening ++ (html ++ closing)) text := by
  have each : ∀ name ∈ closedElements, name.toList ∉ voidElements ∧
      '/' :: name.toList ≠ codeBlockHead := by decide
  obtain ⟨full, other'⟩ := each _ listed
  have whole := inner.element body _ named fixed.flat.2 open_ full other other' fixed (.closing listed)
  rw [opens, closes]
  simpa using whole

theorem Piece.plain (name : String) (listed : name ∈ plainElements) (inner : Piece html text) :
    Piece ('<' :: (name.toList ++ ['>']) ++ (html ++ '<' :: '/' :: (name.toList ++ ['>']))) text := by
  have each : ∀ name ∈ plainElements, tagName name.toList = name.toList ∧
      name.toList.head? ≠ some '/' ∧ name.toList ≠ codeBlockHead := by decide
  obtain ⟨named, open_, other⟩ := each name listed
  exact inner.wrap _ name rfl rfl named (List.mem_append_left _ listed) open_ other (.plain listed)

/-- A piece within the tags a frame writes. -/
def Encloses (opening closing : List Char) : Prop :=
  ∀ html text, Piece html text → Piece (opening ++ (html ++ closing)) text

theorem Encloses.plain {opening closing : List Char} (name : String) (listed : name ∈ plainElements)
    (opens : opening = '<' :: (name.toList ++ ['>']))
    (closes : closing = '<' :: '/' :: (name.toList ++ ['>'])) : Encloses opening closing := by
  intro html text inner
  rw [opens, closes]
  exact inner.plain name listed

theorem Encloses.none : Encloses [] [] := by
  intro html text inner
  simpa using inner

theorem safeHref_safe {url href : List Char} (safe : safeHref url = some href) :
    SafeScheme href := by
  unfold safeHref at safe
  dsimp only at safe
  split at safe
  · next scheme =>
    cases safe
    exact scheme
  · cases safe

/-- The tags that hold what any part of a page may hold. -/
def MarkdownTag.isElement : MarkdownTag → Bool
  | .codeBlock _ | .table | .tableHead | .tableRow | .tableCell => false
  | _ => true

/-- The tags of an element fit each other, and do not touch the head of a table. -/
theorem openTag_frames (tag : MarkdownTag) (element : tag.isElement) (inTableHead : Bool) :
    Encloses (openTag tag inTableHead).1 (openTag tag inTableHead).2.close := by
  cases tag with
  | paragraph => exact .plain "p" (by decide) rfl rfl
  | heading level =>
    cases level with
    | h1 => exact .plain "h1" (by decide) rfl rfl
    | h2 => exact .plain "h2" (by decide) rfl rfl
    | h3 => exact .plain "h3" (by decide) rfl rfl
    | h4 => exact .plain "h4" (by decide) rfl rfl
    | h5 => exact .plain "h5" (by decide) rfl rfl
    | h6 => exact .plain "h6" (by decide) rfl rfl
  | blockQuote => exact .plain "blockquote" (by decide) rfl rfl
  | codeBlock kind => cases element
  | list start =>
    cases start with
    | none => exact .plain "ul" (by decide) rfl rfl
    | some start =>
      unfold openTag
      dsimp only
      split
      · exact .plain "ol" (by decide) rfl rfl
      · intro html text inner
        exact inner.wrap ("ol start=\"".toList ++ (digits start.toNat ++ "\"".toList))
          "ol" (by simp) rfl (by simp [tagName]) (by decide) (by simp) (ne_codeBlockHead (by simp))
          (.orderedList (.digits _))
  | item => exact .plain "li" (by decide) rfl rfl
  | emphasis => exact .plain "em" (by decide) rfl rfl
  | strong => exact .plain "strong" (by decide) rfl rfl
  | strikethrough => exact .plain "del" (by decide) rfl rfl
  | link url =>
    unfold openTag
    dsimp only
    split
    · next href safe =>
      intro html text inner
      refine inner.wrap ("a href=\"".toList ++ (escape href ++
        "\" target=\"_blank\" rel=\"noopener noreferrer\"".toList)) "a" (by simp) rfl
        (by simp [tagName]) (by decide) (by simp) (ne_codeBlockHead (by simp)) (.link (.escape href) ?_)
      rw [decode_escape]
      exact safeHref_safe safe
    · exact .none
  | image => exact .none
  | table => cases element
  | tableHead => cases element
  | tableRow => cases element
  | tableCell => cases element
  | other => exact .none

theorem tableRow_frames : Encloses "<tr>".toList "</tr>".toList :=
  .plain "tr" (by decide) rfl rfl

theorem tableCell_frames (inTableHead : Bool) :
    Encloses (openTag .tableCell inTableHead).1 (openTag .tableCell inTableHead).2.close := by
  cases inTableHead with
  | true => exact .plain "th" (by decide) rfl rfl
  | false => exact .plain "td" (by decide) rfl rfl

theorem Piece.table {rows rowsText : List Char} (head : Piece html text)
    (body : Piece rows rowsText) :
    Piece ("<table>".toList ++ ("<thead><tr>".toList ++ (html ++ ("</tr></thead><tbody>".toList ++
      (rows ++ "</tbody></table>".toList))))) (text ++ rowsText) := by
  have thead := (head.plain "tr" (by decide)).plain "thead" (by decide)
  have tbody := body.plain "tbody" (by decide)
  have whole := Piece.plain "table" (by decide) (thead.append tbody)
  simpa using whole

/-! ## Text -/

theorem Piece.escape (text : List Char) : Piece (escape text) text := .chars (escape_escaped text)

theorem Piece.code (text : List Char) :
    Piece ("<code>".toList ++ Markup.escape text ++ "</code>".toList) text := by
  have whole := (Piece.escape text).plain "code" (by decide)
  simpa using whole

theorem takeBytes_add {text : List Char} {start stop : ℕ}
    (boundary : isCharBoundary text start = true) (before : start ≤ stop) :
    takeBytes text stop = takeBytes text start ++ takeBytes (dropBytes text start) (stop - start) := by
  induction text generalizing start stop with
  | nil => rfl
  | cons c text ih =>
    have size := Char.utf8Size_pos c
    rcases (isCharBoundary_cons c text start).1 boundary with rfl | ⟨fits, rest⟩
    · simp [dropBytes, show ¬ c.utf8Size ≤ 0 by omega]
    · have later := @ih (start - c.utf8Size) (stop - c.utf8Size) rest (by omega)
      simp only [takeBytes, dropBytes, if_pos fits, if_pos (show c.utf8Size ≤ stop by omega)]
      rw [later, List.cons_append, show stop - c.utf8Size - (start - c.utf8Size) = stop - start by
        omega]

theorem takeBytes_slice {text slice : List Char} {start stop : ℕ}
    (cut : sliceBytes text start stop = some slice) :
    takeBytes text start ++ slice = takeBytes text stop := by
  unfold sliceBytes at cut
  split at cut
  · next inside =>
    cases cut
    exact (takeBytes_add inside.1 inside.2.2).symm
  · cases cut

theorem pathLink_frames (span : LinkSpan) : Encloses (pathLink span) "</button>".toList := by
  unfold pathLink
  intro html text inner
  cases span.line with
  | none =>
    exact inner.wrap ("button type=\"button\" class=\"path-link\" data-path=\"".toList ++
      (Markup.escape span.path ++ "\"".toList)) "button" (by simp) rfl (by simp [tagName]) (by decide)
      (by simp) (ne_codeBlockHead (by simp)) (.pathLink (.escape _))
  | some line =>
    exact inner.wrap ("button type=\"button\" class=\"path-link\" data-path=\"".toList ++
      (Markup.escape span.path ++ ("\" data-line=\"".toList ++ (digits line ++ "\"".toList))))
      "button" (by simp) rfl (by simp [tagName]) (by decide) (by simp) (ne_codeBlockHead (by simp))
      (.pathLinkAt (.escape _) (.digits _))

theorem pushSpans_piece {text : List Char} (spans : List LinkSpan) {out out' : List Char}
    {pos pos' : ℕ} (ran : pushSpans text spans (out, pos) = some (out', pos')) :
    ∃ html between, out' = out ++ html ∧ takeBytes text pos ++ between = takeBytes text pos' ∧
      Piece html between := by
  induction spans generalizing out pos with
  | nil =>
    cases ran
    exact ⟨[], [], by simp, by simp, .nil⟩
  | cons span spans ih =>
    unfold pushSpans at ran
    split at ran
    · exact ih ran
    · split at ran
      · next before inside cut cut' =>
        obtain ⟨html, between, rfl, text', piece⟩ := ih ran
        have link := pathLink_frames span _ _ (Piece.escape inside)
        refine ⟨_, before ++ (inside ++ between), List.append_assoc _ _ _, ?_, ?_⟩
        · rw [← text', ← takeBytes_slice cut', ← takeBytes_slice cut]
          simp
        · have whole := (Piece.escape before).append (link.append piece)
          simpa using whole
      · cases ran

theorem pushLinkified_piece {env : MarkdownEnv} {out out' text : List Char}
    (ran : pushLinkified env out text = some out') : ∃ html, out' = out ++ html ∧ Piece html text := by
  unfold pushLinkified at ran
  split at ran
  · cases ran
  · next written pos spans =>
    obtain ⟨rest, cut, rfl⟩ := Option.map_eq_some_iff.1 ran
    obtain ⟨html, between, rfl, upto, piece⟩ := pushSpans_piece _ spans
    have whole := takeBytes_slice cut
    rw [takeBytes_zero, List.nil_append] at upto
    rw [← upto, takeBytes_of_le (Nat.le_refl _)] at whole
    refine ⟨html ++ Markup.escape rest, List.append_assoc _ _ _, ?_⟩
    rw [← whole]
    exact piece.append (Piece.escape rest)

/-! ## Code blocks -/

/-- Markup of the highlighter: text that stands for other text, in balanced spans. -/
inductive Styled : List Char → List Char → Prop
  | nil : Styled [] []
  | text {html text : List Char} (escaped : EscapedAs html text) : Styled html text
  | span {css html text : List Char} (value : PlainValue css) (inner : Styled html text) :
      Styled ("<span style=\"".toList ++ css ++ "\">".toList ++ html ++ "</span>".toList) text
  | append {html html' text text' : List Char} (first : Styled html text)
      (second : Styled html' text') : Styled (html ++ html') (text ++ text')

theorem Styled.piece (styled : Styled html text) : Piece html text := by
  induction styled with
  | nil => exact .nil
  | text escaped => exact .chars escaped
  | @span css html text value _ ih =>
    have whole : Piece ("<span style=\"".toList ++ (css ++ "\">".toList) ++ (html ++
        "</span>".toList)) text :=
      ih.wrap ("span style=\"".toList ++ (css ++ "\"".toList)) "span" (by simp) rfl
        (by simp [tagName]) (by decide) (by simp) (ne_codeBlockHead (by simp)) (.style value)
    simpa using whole
  | append _ _ first second => exact first.append second

theorem escapeHtml_cons (c : Char) (text : List Char) :
    escapeHtml (c :: text) = escapeHtml [c] ++ escapeHtml text := by
  simp only [escapeHtml, replaceChar, ← List.flatMap_append, List.singleton_append]

theorem escapeHtml_escaped (text : List Char) : EscapedAs (escapeHtml text) text := by
  have each (c : Char) : EscapedAs (escapeHtml [c]) [c] := by
    by_cases amp : c = '&'
    · subst amp
      exact ⟨by decide, fun _ => rfl⟩
    by_cases lt : c = '<'
    · subst lt
      exact ⟨by decide, fun _ => rfl⟩
    by_cases gt : c = '>'
    · subst gt
      exact ⟨by decide, fun _ => rfl⟩
    have same : escapeHtml [c] = [c] := by
      simp only [escapeHtml, replaceChar, List.flatMap_singleton, if_neg amp, if_neg lt, if_neg gt]
    rw [same]
    exact .plain amp lt
  induction text with
  | nil => exact .nil
  | cons c text ih =>
    rw [escapeHtml_cons]
    exact (each c).append ih

theorem splitInclusive_flatten (text : List Char) : (splitInclusive text).flatten = text := by
  induction text with
  | nil => rfl
  | cons c text ih =>
    unfold splitInclusive
    split
    · rw [List.flatten_cons, ih]
      rfl
    · split
      · next none =>
        rw [none, List.flatten_nil] at ih
        rw [← ih]
        rfl
      · next line lines first =>
        rw [first, List.flatten_cons] at ih
        rw [List.flatten_cons, List.cons_append, ih]

theorem codeBlockHead_piece (language : List Char) :
    Piece ("<div class=\"code-block-head\"><span>".toList ++ (escape language ++
      "</span></div>".toList)) [] := by
  have text : Complete voidElements codeBlockHead divEnd
      (fun body => FixedTag body ∧ body ≠ divEnd) (escape language) language :=
    .chars (escape_escaped _)
  have label := text.element "span".toList "span".toList rfl (by decide)
    (by decide) (by decide) (by decide) (by decide)
    ⟨.plain (by decide : "span" ∈ plainElements), by decide⟩
    ⟨.closing (by decide : "span" ∈ closedElements), by decide⟩
  have whole := label.hidden "div".toList rfl (by decide) (by decide) (by decide) rfl
    .codeBlockHead (.closing (by decide : "div" ∈ closedElements))
  have begins : "<div class=\"code-block-head\"><span>".toList =
      '<' :: (codeBlockHead ++ '>' :: '<' :: ("span".toList ++ ['>'])) := rfl
  have ends : "</span></div>".toList = '<' :: '/' :: ("span".toList ++ ['>']) ++
      '<' :: ('/' :: "div".toList ++ ['>']) := rfl
  rw [begins, ends]
  simp only [List.cons_append, List.append_assoc, List.nil_append] at whole ⊢
  exact whole

/-- The attributes of a highlighted snippet. -/
def codeAttributes (token : Option (List Char)) (recognized : Bool) : List Char :=
  (match token with
    | some lang => " class=\"language-".toList ++ escape lang ++ "\"".toList
    | none => []) ++
  (if recognized then " data-highlighted=\"true\"".toList else [])

theorem codeTag_frames (token : Option (List Char)) (recognized : Bool) :
    Encloses ("<code".toList ++ (codeAttributes token recognized ++ ">".toList))
      "</code>".toList := by
  intro html text inner
  unfold codeAttributes
  cases token with
  | none =>
    cases recognized with
    | false => simpa using inner.plain "code" (by decide)
    | true =>
      exact inner.wrap ("code data-highlighted=\"true\"".toList) "code" (by simp) rfl
        (by simp [tagName]) (by decide) (by simp) (ne_codeBlockHead (by simp)) .highlighted
  | some lang =>
    cases recognized with
    | false =>
      exact inner.wrap ("code class=\"language-".toList ++ (escape lang ++ "\"".toList))
        "code" (by simp) rfl (by simp [tagName]) (by decide) (by simp)
        (ne_codeBlockHead (by simp)) (.language (.escape lang))
    | true =>
      exact inner.wrap ("code class=\"language-".toList ++ (escape lang ++
        "\" data-highlighted=\"true\"".toList)) "code" (by simp) rfl (by simp [tagName])
        (by decide) (by simp) (ne_codeBlockHead (by simp)) (.highlightedLanguage (.escape lang))

section Highlighting

variable {env : MarkdownEnv}
  (styled : ∀ name before line html, env.styledLine name before line = some html → Styled html line)
include styled

theorem highlightLines_piece (name : Option (List Char)) (before lines : List (List Char)) :
    Piece (highlightLines env name before lines) lines.flatten := by
  induction lines generalizing before with
  | nil => exact .nil
  | cons line lines ih =>
    unfold highlightLines
    rw [List.flatten_cons]
    refine Complete.append ?_ (ih _)
    cases found : env.styledLine name before line with
    | none => exact .chars (escapeHtml_escaped line)
    | some html => exact (styled _ _ _ _ found).piece

theorem highlightSnippet_piece (source : List Char) (token : Option (List Char)) :
    Piece (highlightSnippet env source token).html source := by
  unfold highlightSnippet
  dsimp only
  split
  · have whole := highlightLines_piece styled ((token.bind safeLanguageToken).bind
      env.findSyntaxByToken) [] (splitInclusive source)
    rwa [splitInclusive_flatten] at whole
  · exact .chars (escapeHtml_escaped source)

theorem codeBlockHtml_piece (block : ActiveCodeBlock) :
    Piece (codeBlockHtml env block) block.source := by
  have inner := highlightSnippet_piece styled block.source block.languageToken
  unfold codeBlockHtml
  generalize highlightSnippet env block.source block.languageToken = highlighted at inner
  have code := codeTag_frames block.languageToken highlighted.recognizedLanguage _ _ inner
  have pre := (Encloses.plain "pre" (by decide) rfl rfl : Encloses "<pre>".toList "</pre>".toList)
    _ _ code
  have whole := @Piece.wrap _ _ "<div class=\"code-block\">".toList "</div>".toList
    "div class=\"code-block\"".toList "div"
    ((codeBlockHead_piece highlighted.language).append pre) rfl rfl (by simp [tagName])
    (by decide) (by simp) (by decide) .codeBlock
  have begins : "<pre><code".toList = "<pre>".toList ++ "<code".toList := rfl
  have ends : "</code></pre></div>".toList = "</code>".toList ++ ("</pre>".toList ++
    "</div>".toList) := rfl
  unfold codeAttributes at whole
  dsimp only
  rw [begins, ends]
  simp only [List.append_assoc, List.nil_append] at whole ⊢
  exact whole

end Highlighting

/-! ## The events -/

namespace MarkdownEvent

/-- The text of an event that has one. -/
def source : MarkdownEvent → List Char
  | .text text | .code text | .html text | .inlineHtml text | .inlineMath text
  | .displayMath text => text
  | _ => []

/-- The characters that stand for a break or a check box, in a code block or outside. -/
def mark (inCode : Bool) : MarkdownEvent → List Char
  | .softBreak => ['\n']
  | .hardBreak => if inCode then ['\n'] else []
  | .taskListMarker _ => [' ']
  | _ => []

/-- Whether a code block is open after an event. -/
def opensCode (inCode : Bool) : MarkdownEvent → Bool
  | .start (.codeBlock _) => true
  | .finish => false
  | _ => inCode

/-- An event that opens and closes nothing. -/
def isLeaf : MarkdownEvent → Bool
  | .start _ | .finish => false
  | _ => true

/-- An event within a code block. -/
def isCodeText : MarkdownEvent → Bool
  | .start _ | .finish | .rule | .taskListMarker _ => false
  | _ => true

end MarkdownEvent

/-- The text of each event, and the mark that it leaves. -/
def readEvents : Bool → List MarkdownEvent → List (List Char × List Char)
  | _, [] => []
  | inCode, event :: events =>
    (event.source, event.mark inCode) :: readEvents (event.opensCode inCode) events

/-- What a reader of the events sees: their texts in order, with the marks. -/
def readText (inCode : Bool) (events : List MarkdownEvent) : List Char :=
  (readEvents inCode events).flatMap fun part => part.1 ++ part.2

/-- The parts of the events of a page: anything, the rows of a table, the cells of a row. -/
inductive Place where
  | flow | rows | cells

/-- Well-nested events: each tag is closed in its turn, a table is a head and rows, these are
cells, and a code block holds nothing but text. -/
inductive Nested : Place → List MarkdownEvent → Prop
  | nil (place : Place) : Nested place []
  | leaf {event : MarkdownEvent} {rest : List MarkdownEvent} (leaf : event.isLeaf)
      (after : Nested .flow rest) : Nested .flow (event :: rest)
  | code {kind : CodeBlockKind} {inside rest : List MarkdownEvent}
      (text : ∀ event ∈ inside, event.isCodeText) (after : Nested .flow rest) :
      Nested .flow (.start (.codeBlock kind) :: (inside ++ .finish :: rest))
  | element {tag : MarkdownTag} {inside rest : List MarkdownEvent} (element : tag.isElement)
      (within : Nested .flow inside) (after : Nested .flow rest) :
      Nested .flow (.start tag :: (inside ++ .finish :: rest))
  | table {head rows rest : List MarkdownEvent} (cells : Nested .cells head)
      (body : Nested .rows rows) (after : Nested .flow rest) :
      Nested .flow (.start .table :: .start .tableHead ::
        (head ++ .finish :: (rows ++ .finish :: rest)))
  | row {cells rest : List MarkdownEvent} (within : Nested .cells cells)
      (after : Nested .rows rest) : Nested .rows (.start .tableRow :: (cells ++ .finish :: rest))
  | cell {inside rest : List MarkdownEvent} (within : Nested .flow inside)
      (after : Nested .cells rest) :
      Nested .cells (.start .tableCell :: (inside ++ .finish :: rest))

theorem MarkdownTag.isElement_opens {tag : MarkdownTag} (element : tag.isElement) (inCode : Bool) :
    (MarkdownEvent.start tag).opensCode inCode = inCode := by
  cases tag with
  | codeBlock => cases element
  | _ => rfl

/-- Whether a code block is open after some events. -/
def opensCodeAfter (inCode : Bool) (events : List MarkdownEvent) : Bool :=
  events.foldl (fun inCode event => event.opensCode inCode) inCode

theorem readText_cons (inCode : Bool) (event : MarkdownEvent) (events : List MarkdownEvent) :
    readText inCode (event :: events) =
      event.source ++ (event.mark inCode ++ readText (event.opensCode inCode) events) := by
  unfold readText
  rw [readEvents, List.flatMap_cons, List.append_assoc]

theorem readText_append (inCode : Bool) (events rest : List MarkdownEvent) :
    readText inCode (events ++ rest) =
      readText inCode events ++ readText (opensCodeAfter inCode events) rest := by
  induction events generalizing inCode with
  | nil => rfl
  | cons event events ih =>
    rw [List.cons_append, readText_cons, readText_cons, ih]
    simp [opensCodeAfter]

theorem opensCodeAfter_codeText {inside : List MarkdownEvent}
    (text : ∀ event ∈ inside, event.isCodeText) : opensCodeAfter true inside = true := by
  induction inside with
  | nil => rfl
  | cons event inside ih =>
    have later := ih fun event member => text event (List.mem_cons_of_mem _ member)
    have here := text event List.mem_cons_self
    cases event with
    | start => cases here
    | finish => cases here
    | _ => exact later

/-- Nested events leave no code block open. -/
theorem Nested.opensCodeAfter {place : Place} {events : List MarkdownEvent}
    (nested : Nested place events) : opensCodeAfter false events = false := by
  induction nested with
  | nil => rfl
  | @leaf event events leaf _ ih =>
    cases event with
    | start => cases leaf
    | _ => exact ih
  | code text _ ih =>
    unfold Giskard.opensCodeAfter at ih ⊢
    rw [List.foldl_cons, List.foldl_append, List.foldl_cons]
    exact ih
  | element element _ _ ih ih' =>
    unfold Giskard.opensCodeAfter at ih ih' ⊢
    rw [List.foldl_cons, List.foldl_append, List.foldl_cons]
    exact ih'
  | table _ _ _ ih ih' ih'' =>
    unfold Giskard.opensCodeAfter at ih ih' ih'' ⊢
    rw [List.foldl_cons, List.foldl_cons, List.foldl_append, List.foldl_cons, List.foldl_append,
      List.foldl_cons]
    exact ih''
  | row _ _ ih ih' =>
    unfold Giskard.opensCodeAfter at ih ih' ⊢
    rw [List.foldl_cons, List.foldl_append, List.foldl_cons]
    exact ih'
  | cell _ _ ih ih' =>
    unfold Giskard.opensCodeAfter at ih ih' ⊢
    rw [List.foldl_cons, List.foldl_append, List.foldl_cons]
    exact ih'

theorem readText_element {tag : MarkdownTag} {place : Place} {inside : List MarkdownEvent}
    (plain : (MarkdownEvent.start tag).opensCode false = false) (within : Nested place inside)
    (rest : List MarkdownEvent) :
    readText false (.start tag :: (inside ++ .finish :: rest)) =
      readText false inside ++ readText false rest := by
  rw [readText_cons, plain, readText_append, within.opensCodeAfter, readText_cons]
  rfl

/-! ## Rendering -/

section Rendering

variable {env : MarkdownEnv}

/-- Outside code blocks, these events write a complete piece with their text. -/
def Writes (env : MarkdownEnv) (events : List MarkdownEvent) (text : List Char) : Prop :=
  ∀ state after, state.codeBlock = none →
    events.foldlM (RenderState.event env) state = some after →
    ∃ html, after.out = state.out ++ html ∧ after.stack = state.stack ∧ after.codeBlock = none ∧
      Piece html text

theorem Writes.nil : Writes env [] [] := by
  intro state after closed ran
  cases ran
  exact ⟨[], by simp, rfl, closed, .nil⟩

theorem Writes.append {first second : List MarkdownEvent} {text text' : List Char}
    (one : Writes env first text) (two : Writes env second text') :
    Writes env (first ++ second) (text ++ text') := by
  intro state after closed ran
  rw [List.foldlM_append] at ran
  obtain ⟨middle, ran, ran'⟩ := Option.bind_eq_some_iff.1 ran
  obtain ⟨html, out, stack, closed', piece⟩ := one state middle closed ran
  obtain ⟨html', out', stack', closed'', piece'⟩ := two middle after closed' ran'
  refine ⟨html ++ html', ?_, stack'.trans stack, closed'', piece.append piece'⟩
  rw [out', out, List.append_assoc]

theorem Writes.single {event : MarkdownEvent} {text : List Char}
    (step : ∀ state after : RenderState, state.codeBlock = none →
      state.event env event = some after → ∃ html, after.out = state.out ++ html ∧ after.stack = state.stack ∧ after.codeBlock = none ∧
        Piece html text) : Writes env [event] text := by
  intro state after closed ran
  rw [List.foldlM_cons] at ran
  obtain ⟨middle, ran, rest⟩ := Option.bind_eq_some_iff.1 ran
  cases rest
  exact step state _ closed ran

theorem Piece.mark (tag : String) (listed : tag ∈ voidTags) (mark : List Char)
    (plain : EscapedAs mark mark) : Piece ('<' :: (tag.toList ++ '>' :: mark)) mark := by
  have each : ∀ tag ∈ voidTags, '>' ∉ tag.toList ∧ tag.toList.head? ≠ some '/' ∧
      tagName tag.toList ∈ voidElements ∧ tag.toList ≠ codeBlockHead := by decide
  obtain ⟨closed, opens, void, other⟩ := each tag listed
  have whole := (Complete.void closed opens void other (FixedTag.void listed)).append
    (Complete.chars plain : Piece mark mark)
  simpa using whole

theorem writes_leaf {event : MarkdownEvent} (leaf : event.isLeaf) :
    Writes env [event] (event.source ++ event.mark false) := by
  refine Writes.single fun state after closed ran => ?_
  have written (source html text : List Char) (piece : Piece html text) :
      ∃ html', (state.pushText source html).out = state.out ++ html' ∧
        (state.pushText source html).stack = state.stack ∧
        (state.pushText source html).codeBlock = none ∧ Piece html' text := by
    unfold RenderState.pushText
    rw [closed]
    exact ⟨html, rfl, rfl, rfl, piece⟩
  have newline : EscapedAs ['\n'] ['\n'] := .plain (by decide) (by decide)
  have blank : EscapedAs [' '] [' '] := .plain (by decide) (by decide)
  cases event with
  | start => cases leaf
  | finish => cases leaf
  | text text =>
    unfold RenderState.event at ran
    dsimp only at ran
    rw [closed] at ran
    obtain ⟨out, linked, rfl⟩ := Option.map_eq_some_iff.1 ran
    obtain ⟨html, grown, piece⟩ := pushLinkified_piece linked
    refine ⟨html, grown, rfl, rfl, ?_⟩
    simpa [MarkdownEvent.source, MarkdownEvent.mark] using piece
  | code text =>
    cases ran
    exact written text _ _ (by simpa [MarkdownEvent.source, MarkdownEvent.mark] using Piece.code text)
  | html text =>
    cases ran
    exact written text _ _
      (by simpa [MarkdownEvent.source, MarkdownEvent.mark] using Piece.escape text)
  | inlineHtml text =>
    cases ran
    exact written text _ _
      (by simpa [MarkdownEvent.source, MarkdownEvent.mark] using Piece.escape text)
  | inlineMath text =>
    cases ran
    exact written text _ _
      (by simpa [MarkdownEvent.source, MarkdownEvent.mark] using Piece.escape text)
  | displayMath text =>
    cases ran
    exact written text _ _
      (by simpa [MarkdownEvent.source, MarkdownEvent.mark] using Piece.escape text)
  | softBreak =>
    cases ran
    exact written _ _ _ (.chars newline)
  | hardBreak =>
    cases ran
    exact written _ _ _ (Piece.mark "br" (by decide) [] .nil)
  | rule =>
    cases ran
    exact ⟨_, rfl, rfl, closed, Piece.mark "hr" (by decide) [] .nil⟩
  | taskListMarker checked =>
    cases ran
    cases checked with
    | true => exact ⟨_, rfl, rfl, closed, Piece.mark
        "input type=\"checkbox\" checked disabled" (by decide) [' '] blank⟩
    | false => exact ⟨_, rfl, rfl, closed, Piece.mark
        "input type=\"checkbox\" disabled" (by decide) [' '] blank⟩
  | footnoteReference =>
    cases ran
    exact ⟨[], by simp, rfl, closed, .nil⟩

/-- An element around some events. -/
theorem Writes.element (tag : MarkdownTag) {inside : List MarkdownEvent} {text : List Char}
    (block : ∀ kind, tag ≠ .codeBlock kind)
    (frames : ∀ inTableHead, Encloses (openTag tag inTableHead).1 (openTag tag inTableHead).2.close)
    (within : Writes env inside text) :
    Writes env (.start tag :: (inside ++ [.finish])) text := by
  intro state after closed ran
  rw [List.foldlM_cons] at ran
  obtain ⟨opened, start, ran⟩ := Option.bind_eq_some_iff.1 ran
  rw [List.foldlM_append] at ran
  obtain ⟨middle, ran, finish⟩ := Option.bind_eq_some_iff.1 ran
  have begun : opened = { state with
      out := state.out ++ (openTag tag state.inTableHead).1
      stack := (openTag tag state.inTableHead).2 :: state.stack
      inTableHead := (openTag tag state.inTableHead).2.opensTableHead || state.inTableHead } := by
    cases tag with
    | codeBlock kind => exact absurd rfl (block kind)
    | _ =>
      cases start
      rfl
  subst begun
  obtain ⟨html, out, stack, closed', piece⟩ := within _ middle (by exact closed) ran
  rw [List.foldlM_cons] at finish
  obtain ⟨last, finish, rest⟩ := Option.bind_eq_some_iff.1 finish
  cases rest
  unfold RenderState.event at finish
  dsimp only at finish out stack
  rw [closed', stack] at finish
  cases finish
  refine ⟨_, ?_, rfl, rfl, frames state.inTableHead html text piece⟩
  dsimp only
  rw [out]
  simp

theorem Writes.table {head rows : List MarkdownEvent} {text text' : List Char}
    (cells : Writes env head text) (body : Writes env rows text') :
    Writes env (.start .table :: .start .tableHead :: (head ++ .finish :: (rows ++ [.finish])))
      (text ++ text') := by
  intro state after closed ran
  rw [List.foldlM_cons] at ran
  obtain ⟨opened, start, ran⟩ := Option.bind_eq_some_iff.1 ran
  cases start
  rw [List.foldlM_cons] at ran
  obtain ⟨headed, start, ran⟩ := Option.bind_eq_some_iff.1 ran
  cases start
  rw [List.foldlM_append] at ran
  obtain ⟨middle, ran, rest⟩ := Option.bind_eq_some_iff.1 ran
  obtain ⟨html, out, stack, closed', piece⟩ := cells _ middle (by exact closed) ran
  rw [List.foldlM_cons] at rest
  obtain ⟨between, finish, rest⟩ := Option.bind_eq_some_iff.1 rest
  unfold RenderState.event at finish
  dsimp only at finish out stack
  rw [closed', stack] at finish
  cases finish
  rw [List.foldlM_append] at rest
  obtain ⟨later, ran', rest⟩ := Option.bind_eq_some_iff.1 rest
  obtain ⟨html', out', stack', closed'', piece'⟩ := body _ later rfl ran'
  rw [List.foldlM_cons] at rest
  obtain ⟨last, finish, rest⟩ := Option.bind_eq_some_iff.1 rest
  cases rest
  unfold RenderState.event at finish
  dsimp only [openTag, Frame.new] at finish out' stack' out
  rw [closed'', stack'] at finish
  cases finish
  refine ⟨_, ?_, rfl, rfl, piece.table piece'⟩
  dsimp only
  rw [out', out]
  simp only [List.append_assoc]

/-- The text of a code block is gathered. -/
theorem codeText_source {inside : List MarkdownEvent} (text : ∀ event ∈ inside, event.isCodeText)
    {state after : RenderState} (block : ActiveCodeBlock) (opened : state.codeBlock = some block)
    (ran : inside.foldlM (RenderState.event env) state = some after) :
    after = { state with
      codeBlock := some { block with source := block.source ++ readText true inside } } := by
  induction inside generalizing state block with
  | nil =>
    obtain rfl : state = after := Option.some.inj ran
    cases state
    cases opened
    simp [readText, readEvents]
  | cons event inside ih =>
    rw [List.foldlM_cons] at ran
    obtain ⟨middle, step, ran⟩ := Option.bind_eq_some_iff.1 ran
    have one : middle = { state with
        codeBlock := some { block with source := block.source ++ (event.source ++ event.mark true) } }
        ∧ event.opensCode true = true := by
      have here := text event List.mem_cons_self
      cases event with
      | start => cases here
      | finish => cases here
      | rule => cases here
      | taskListMarker => cases here
      | text text =>
        unfold RenderState.event at step
        dsimp only at step
        rw [opened] at step
        cases step
        simp [RenderState.pushText, opened, MarkdownEvent.source, MarkdownEvent.mark,
          MarkdownEvent.opensCode]
      | footnoteReference =>
        cases step
        cases state
        cases opened
        simp [MarkdownEvent.source, MarkdownEvent.mark, MarkdownEvent.opensCode]
      | _ =>
        cases step
        simp [RenderState.pushText, opened, MarkdownEvent.source, MarkdownEvent.mark,
          MarkdownEvent.opensCode]
    obtain ⟨rfl, still⟩ := one
    have rest := ih (fun event member => text event (List.mem_cons_of_mem _ member)) _ rfl ran
    rw [rest, readText_cons, still]
    simp

variable
  (styled : ∀ name before line html, env.styledLine name before line = some html → Styled html line)
include styled

theorem writes_code (kind : CodeBlockKind) {inside : List MarkdownEvent}
    (text : ∀ event ∈ inside, event.isCodeText) :
    Writes env (.start (.codeBlock kind) :: (inside ++ [.finish])) (readText true inside) := by
  intro state after closed ran
  rw [List.foldlM_cons] at ran
  obtain ⟨opened, start, ran⟩ := Option.bind_eq_some_iff.1 ran
  cases start
  rw [List.foldlM_append] at ran
  obtain ⟨middle, ran, rest⟩ := Option.bind_eq_some_iff.1 ran
  have gathered := codeText_source text ⟨languageToken kind, []⟩ rfl ran
  subst gathered
  rw [List.foldlM_cons] at rest
  obtain ⟨last, finish, rest⟩ := Option.bind_eq_some_iff.1 rest
  cases rest
  cases finish
  exact ⟨_, rfl, rfl, rfl, codeBlockHtml_piece styled ⟨languageToken kind, readText true inside⟩⟩

/-- Well-nested events write a complete piece with their text. -/
theorem Nested.writes {place : Place} {events : List MarkdownEvent} (nested : Nested place events) :
    Writes env events (readText false events) := by
  induction nested with
  | nil => exact .nil
  | @leaf event rest leaf _ ih =>
    have same : event.opensCode false = false := by
      cases event with
      | start => cases leaf
      | _ => rfl
    rw [readText_cons, same, ← List.append_assoc]
    exact (writes_leaf leaf).append ih
  | @code kind inside rest text _ ih =>
    have whole := (writes_code styled kind text).append ih
    have read : readText false (.start (.codeBlock kind) :: (inside ++ .finish :: rest)) =
        readText true inside ++ readText false rest := by
      rw [readText_cons]
      change readText true _ = _
      rw [readText_append, opensCodeAfter_codeText text, readText_cons]
      rfl
    rw [read]
    simpa using whole
  | @element tag inside rest element within _ ih ih' =>
    have block : ∀ kind, tag ≠ .codeBlock kind := by
      rintro kind rfl
      cases element
    have whole := (ih.element tag block (openTag_frames tag element)).append ih'
    rw [readText_element (MarkdownTag.isElement_opens element false) within]
    simpa using whole
  | @table head rows rest cells body _ ih ih' ih'' =>
    have whole := (ih.table ih').append ih''
    have read : readText false (.start .table :: .start .tableHead ::
        (head ++ .finish :: (rows ++ .finish :: rest))) =
        readText false head ++ readText false rows ++ readText false rest := by
      rw [readText_cons]
      change readText false (.start .tableHead :: (head ++ .finish :: (rows ++ .finish :: rest))) = _
      rw [readText_element rfl cells, readText_append, body.opensCodeAfter, readText_cons,
        List.append_assoc]
      rfl
    rw [read]
    simpa using whole
  | @row cells rest within _ ih ih' =>
    have whole := (Writes.element .tableRow (by simp) (fun _ => tableRow_frames) ih).append
      ih'
    rw [readText_element rfl within]
    simpa using whole
  | @cell inside rest within _ ih ih' =>
    have whole := (Writes.element .tableCell (by simp) tableCell_frames ih).append ih'
    rw [readText_element rfl within]
    simpa using whole

end Rendering

/-! ## No text is cut within a character -/

/-- The spans of each text begin and end between characters. -/
def SpansFit (env : MarkdownEnv) : Prop :=
  ∀ text, ∀ span ∈ env.linkifyText text,
    isCharBoundary text span.start = true ∧ isCharBoundary text span.stop = true

theorem sliceBytes_some {text : List Char} {start stop : ℕ}
    (first : isCharBoundary text start = true) (last : isCharBoundary text stop = true)
    (ordered : start ≤ stop) : ∃ slice, sliceBytes text start stop = some slice :=
  ⟨_, if_pos ⟨first, last, ordered⟩⟩

theorem pushSpans_some {text : List Char} (spans : List LinkSpan)
    (fit : ∀ span ∈ spans, isCharBoundary text span.start = true ∧
      isCharBoundary text span.stop = true) (out : List Char) (pos : ℕ)
    (boundary : isCharBoundary text pos = true) :
    ∃ out' pos', pushSpans text spans (out, pos) = some (out', pos') ∧
      isCharBoundary text pos' = true := by
  induction spans generalizing out pos with
  | nil => exact ⟨out, pos, rfl, boundary⟩
  | cons span spans ih =>
    have later := ih fun span member => fit span (List.mem_cons_of_mem _ member)
    obtain ⟨start, stop⟩ := fit span List.mem_cons_self
    unfold pushSpans
    split
    · exact later out pos boundary
    · next inside =>
      rw [not_or, not_or, Nat.not_lt, Nat.not_lt, Nat.not_lt] at inside
      obtain ⟨before, cut⟩ := sliceBytes_some boundary start inside.1
      obtain ⟨within, cut'⟩ := sliceBytes_some start stop inside.2.2
      rw [cut, cut']
      exact later _ span.stop stop

theorem pushLinkified_some {env : MarkdownEnv} (fit : SpansFit env) (out text : List Char) :
    ∃ out', pushLinkified env out text = some out' := by
  obtain ⟨out', pos, ran, boundary⟩ := pushSpans_some (env.linkifyText text) (fit text) out 0
    (isCharBoundary_zero text)
  obtain ⟨rest, cut⟩ := sliceBytes_some boundary (isCharBoundary_byteLen text)
    (isCharBoundary_le boundary)
  unfold pushLinkified
  rw [ran]
  dsimp only
  rw [cut]
  exact ⟨_, rfl⟩

theorem event_some {env : MarkdownEnv} (fit : SpansFit env) (state : RenderState)
    (event : MarkdownEvent) : ∃ after, state.event env event = some after := by
  cases event with
  | start tag => cases tag <;> exact ⟨_, rfl⟩
  | finish =>
    unfold RenderState.event
    dsimp only
    split
    · exact ⟨_, rfl⟩
    · split
      · exact ⟨_, rfl⟩
      · exact ⟨_, rfl⟩
  | text text =>
    unfold RenderState.event
    dsimp only
    split
    · exact ⟨_, rfl⟩
    · obtain ⟨out, linked⟩ := pushLinkified_some fit state.out text
      rw [linked]
      exact ⟨_, rfl⟩
  | _ => exact ⟨_, rfl⟩

theorem renderMarkdown_some {env : MarkdownEnv} (fit : SpansFit env) (events : List MarkdownEvent) :
    ∃ out, renderMarkdown env events = some out := by
  have run : ∀ state, ∃ after, events.foldlM (RenderState.event env) state = some after := by
    induction events with
    | nil => exact fun state => ⟨state, rfl⟩
    | cons event events ih =>
      intro state
      obtain ⟨middle, step⟩ := event_some fit state event
      obtain ⟨after, rest⟩ := ih middle
      exact ⟨after, by rw [List.foldlM_cons, step]; exact rest⟩
  obtain ⟨after, ran⟩ := run ⟨[], [], false, none⟩
  unfold renderMarkdown
  rw [ran]
  exact ⟨_, rfl⟩

/-! ## The page -/

theorem readEvents_source (inCode : Bool) (events : List MarkdownEvent) :
    (readEvents inCode events).flatMap Prod.fst = events.flatMap MarkdownEvent.source := by
  induction events generalizing inCode with
  | nil => rfl
  | cons event events ih => rw [readEvents, List.flatMap_cons, List.flatMap_cons, ih]

theorem readEvents_mark {inCode : Bool} {events : List MarkdownEvent} {part : List Char × List Char}
    (member : part ∈ readEvents inCode events) : part.2 ∈ [[], ['\n'], [' ']] := by
  induction events generalizing inCode with
  | nil => cases member
  | cons event events ih =>
    rcases List.mem_cons.1 member with rfl | member
    · dsimp only
      unfold MarkdownEvent.mark
      split
      · simp
      · split <;> simp
      · simp
      · simp
    · exact ih member

/-- The page of well-nested events is balanced, each `<` of it begins one of the fixed tags, and a
reader sees the texts of the events in order, with nothing but the marks of breaks and check boxes
between them. It is found whenever the spans of the texts fit. -/
theorem rendered_markdown_inert (env : MarkdownEnv) (events : List MarkdownEvent)
    (nested : Nested .flow events)
    (styled : ∀ name before line html, env.styledLine name before line = some html →
      Styled html line) :
    (∀ out, renderMarkdown env events = some out →
      Balanced voidElements out ∧
      (∀ before after, out = before ++ '<' :: after →
        ∃ body rest, after = body ++ '>' :: rest ∧ FixedTag body) ∧
      (∀ body, .tag body ∈ scan out → FixedTag body) ∧
      visible codeBlockHead divEnd out =
        (readEvents false events).flatMap (fun part => part.1 ++ part.2) ∧
      (readEvents false events).flatMap Prod.fst = events.flatMap MarkdownEvent.source ∧
      ∀ part ∈ readEvents false events, part.2 ∈ [[], ['\n'], [' ']]) ∧
    (SpansFit env → ∃ out, renderMarkdown env events = some out) := by
  refine ⟨fun out rendered => ?_, fun fit => renderMarkdown_some fit events⟩
  obtain ⟨after, ran, closed⟩ := Option.map_eq_some_iff.1 rendered
  obtain ⟨html, written, stack, block, piece⟩ := nested.writes styled _ after rfl ran
  have whole : out = html := by
    rw [← closed, RenderState.closeAll, written, stack, block]
    simp
  subst whole
  have each : ∀ body, .tag body ∈ scan out → FixedTag body := fun body => piece.fixed_of_mem
  refine ⟨piece.balanced, fun before after split => ?_, each, piece.visible_eq,
    readEvents_source _ _, fun part => readEvents_mark⟩
  obtain ⟨body, rest, same, member⟩ := tag_of_lt (nest_broken piece.balanced)
    (fun body member => (each body member).flat.1) split
  exact ⟨body, rest, same, each body member⟩

/-- A highlighter that colours each line. -/
def sampleMarkdownEnv : MarkdownEnv where
  linkifyText := fun text =>
    if text = "a<b".toList then [⟨0, 2, "a\"b".toList, some 7⟩] else []
  findSyntaxByToken := fun _ => some "Rust".toList
  theme := true
  styledLine := fun _ _ line =>
    some ("<span style=\"".toList ++ "color:#fff;".toList ++ "\">".toList ++ escape line ++
      "</span>".toList)

/-- A link, and a block of code. -/
def sampleEvents : List MarkdownEvent :=
  [.start (.link "HTTP://a".toList), .text "a<b".toList, .finish,
    .start (.codeBlock (.fenced "rust".toList)), .text "x < y".toList, .finish]

/-- The sample page is found, and a reader sees its texts. -/
theorem rendered_sample_inert : ∃ out, renderMarkdown sampleMarkdownEnv sampleEvents = some out ∧
    visible codeBlockHead divEnd out = "a<bx < y".toList := by
  have nested : Nested .flow sampleEvents :=
    @Nested.element (.link "HTTP://a".toList) [.text "a<b".toList] _ rfl (.leaf rfl (.nil _))
      (@Nested.code _ [.text "x < y".toList] [] (by simp [MarkdownEvent.isCodeText]) (.nil _))
  have styled : ∀ name before line html,
      sampleMarkdownEnv.styledLine name before line = some html → Styled html line := by
    intro name before line html same
    cases same
    exact .span (by unfold PlainValue; simp) (.text (escape_escaped line))
  have fit : SpansFit sampleMarkdownEnv := by
    intro text span member
    unfold sampleMarkdownEnv at member
    dsimp only at member
    split at member
    · next same =>
      rw [List.mem_singleton] at member
      subst same member
      decide
    · cases member
  have inert := rendered_markdown_inert sampleMarkdownEnv sampleEvents nested styled
  obtain ⟨out, rendered⟩ := inert.2 fit
  refine ⟨out, rendered, ?_⟩
  rw [(inert.1 out rendered).2.2.2.1]
  rfl

end Giskard
