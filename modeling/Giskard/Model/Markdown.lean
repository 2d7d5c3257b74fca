import Mathlib
import Giskard.Foundation.Markup
import Giskard.Foundation.Text
import Giskard.Model.Admission

/-!
# The rendering of agent Markdown

The events of a Markdown parser become the text of a page: each opens an element, closes the one
that was opened last, or adds escaped text. The text of a code block is gathered until the block
ends and then highlighted.

What other crates decide is a record: the paths that are found in a text, the syntaxes of the
highlighter and what it makes of a line. Cutting a text within a character ends the rendering, as
it does in the source.

SOURCE: crates/giskard-server/src/markdown.rs, highlight.rs:232-282, 345-404, linkify.rs:27-36.
-/

set_option autoImplicit false

namespace Giskard

open Foundation (byteLen isCharBoundary takeBytes dropBytes isWhiteSpace splitInclusive)
open Foundation.Markup (escape)

/-! ## The events of the parser -/

/-- The kind of a code block, with the words after its fence (`pulldown_cmark::CodeBlockKind`). -/
inductive CodeBlockKind where
  | indented
  | fenced (info : List Char)

/-- The levels of a heading (`pulldown_cmark::HeadingLevel`). -/
inductive HeadingLevel where
  | h1 | h2 | h3 | h4 | h5 | h6
  deriving DecidableEq

/-- The tags of the parser (`pulldown_cmark::Tag`), with the data that the renderer reads. -/
inductive MarkdownTag where
  | paragraph
  | heading (level : HeadingLevel)
  | blockQuote
  | codeBlock (kind : CodeBlockKind)
  | list (start : Option UInt64)
  | item
  | emphasis
  | strong
  | strikethrough
  | link (destUrl : List Char)
  | image
  | table
  | tableHead
  | tableRow
  | tableCell
  /-- Every other tag: blocks of raw HTML, footnotes, definitions, metadata. -/
  | other

/-- The events of the parser (`pulldown_cmark::Event`). -/
inductive MarkdownEvent where
  | start (tag : MarkdownTag)
  | finish
  | text (text : List Char)
  | code (text : List Char)
  | html (text : List Char)
  | inlineHtml (text : List Char)
  | inlineMath (text : List Char)
  | displayMath (text : List Char)
  | softBreak
  | hardBreak
  | rule
  | taskListMarker (checked : Bool)
  | footnoteReference

/-! ## What other crates decide -/

/-- SOURCE: linkify.rs:26-35. -/
structure LinkSpan where
  start : ℕ
  stop : ℕ
  path : List Char
  line : Option ℕ

/-- The paths in a text, the name of the syntax of a token, whether there is a theme, and the
markup of a line after other lines of a syntax, unless highlighting it fails. -/
structure MarkdownEnv where
  linkifyText : List Char → List LinkSpan
  findSyntaxByToken : List Char → Option (List Char)
  theme : Bool
  styledLine : Option (List Char) → List (List Char) → List Char → Option (List Char)

/-! ## Highlighting -/

/-- Whether a character may stand in the token of a language. SOURCE: markdown.rs:300,
highlight.rs:366. -/
def isLanguageChar (c : Char) : Bool :=
  c.isAlphanum || c = '_' || c = '-' || c = '+'

/-- SOURCE: markdown.rs:290-303. -/
def languageToken : CodeBlockKind → Option (List Char)
  | .indented => none
  | .fenced info =>
    let lang := ((info.dropWhile isWhiteSpace).takeWhile fun c => !isWhiteSpace c).filter
      isLanguageChar
    if lang = [] then none else some lang

/-- SOURCE: highlight.rs:367-374. -/
def safeLanguageToken (token : List Char) : Option (List Char) :=
  let token := (trimText token).filter isLanguageChar
  if token = [] then none else some token

/-- SOURCE: highlight.rs:390-406. -/
def displayLanguageToken (token : List Char) : List Char :=
  let lower := String.ofList (token.map Char.toLower)
  if lower ∈ ["rs", "rust"] then "Rust".toList
  else if lower ∈ ["js", "javascript", "mjs"] then "JavaScript".toList
  else if lower ∈ ["ts", "typescript"] then "TypeScript".toList
  else if lower ∈ ["py", "python"] then "Python".toList
  else if lower ∈ ["sh", "bash", "shell"] then "Shell".toList
  else if lower = "json" then "JSON".toList
  else if lower ∈ ["yaml", "yml"] then "YAML".toList
  else if lower = "toml" then "TOML".toList
  else if lower = "html" then "HTML".toList
  else if lower = "css" then "CSS".toList
  else if lower = "sql" then "SQL".toList
  else if lower ∈ ["md", "markdown"] then "Markdown".toList
  else token

/-- A character replaced throughout a text. -/
def replaceChar (old : Char) (new : List Char) (text : List Char) : List Char :=
  text.flatMap fun c => if c = old then new else [c]

/-- SOURCE: highlight.rs:408-413. -/
def escapeHtml (text : List Char) : List Char :=
  replaceChar '>' "&gt;".toList (replaceChar '<' "&lt;".toList (replaceChar '&' "&amp;".toList text))

/-- SOURCE: highlight.rs:88-97. -/
structure SnippetHighlight where
  html : List Char
  language : List Char
  recognizedLanguage : Bool

/-- The markup of the lines of a snippet, after some of its lines.
SOURCE: highlight.rs:264-275. -/
def highlightLines (env : MarkdownEnv) (syntaxName : Option (List Char)) :
    List (List Char) → List (List Char) → List Char
  | _, [] => []
  | before, line :: lines =>
    (env.styledLine syntaxName before line).getD (escapeHtml line) ++
      highlightLines env syntaxName (before ++ [line]) lines

/-- SOURCE: highlight.rs:242-279, 371-383. -/
def highlightSnippet (env : MarkdownEnv) (source : List Char) (languageToken : Option (List Char)) :
    SnippetHighlight :=
  let token := languageToken.bind safeLanguageToken
  let found := token.bind env.findSyntaxByToken
  let language := found.getD ((token.map displayLanguageToken).getD "Plain Text".toList)
  if env.theme then ⟨highlightLines env found [] (splitInclusive source), language, found.isSome⟩
  else ⟨escapeHtml source, language, false⟩

/-! ## The pieces of the page -/

/-- Text that is cut out of a text, from one byte position to another one, unless one of them
lies within a character. -/
def sliceBytes (text : List Char) (start stop : ℕ) : Option (List Char) :=
  if isCharBoundary text start ∧ isCharBoundary text stop ∧ start ≤ stop then
    some (takeBytes (dropBytes text start) (stop - start))
  else none

/-- The digits of a number. -/
def digits (n : ℕ) : List Char := Nat.toDigits 10 n

/-- The opening tag of a path link. SOURCE: markdown.rs:330-337. -/
def pathLink (span : LinkSpan) : List Char :=
  "<button type=\"button\" class=\"path-link\" data-path=\"".toList ++ escape span.path ++
    "\"".toList ++
    (match span.line with
      | some line => " data-line=\"".toList ++ digits line ++ "\"".toList
      | none => []) ++
    ">".toList

/-- The spans of a text, after it was written up to a position. SOURCE: markdown.rs:321-339. -/
def pushSpans (text : List Char) : List LinkSpan → List Char × ℕ → Option (List Char × ℕ)
  | [], written => some written
  | span :: spans, (out, pos) =>
    if span.start < pos ∨ byteLen text < span.stop ∨ span.stop < span.start then
      pushSpans text spans (out, pos)
    else
      match sliceBytes text pos span.start, sliceBytes text span.start span.stop with
      | some before, some inside =>
        pushSpans text spans (out ++ (escape before ++
          (pathLink span ++ (escape inside ++ "</button>".toList))), span.stop)
      | _, _ => none

/-- SOURCE: markdown.rs:318-339. -/
def pushLinkified (env : MarkdownEnv) (out text : List Char) : Option (List Char) :=
  match pushSpans text (env.linkifyText text) (out, 0) with
  | none => none
  | some (out, pos) => (sliceBytes text pos (byteLen text)).map fun rest => out ++ escape rest

/-- SOURCE: markdown.rs:306-315. -/
def safeHref (url : List Char) : Option (List Char) :=
  let trimmed := trimText url
  let lower := trimmed.map Char.toLower
  if "http://".toList <+: lower ∨ "https://".toList <+: lower ∨ "mailto:".toList <+: lower then
    some trimmed
  else none

/-- SOURCE: markdown.rs:279-288. -/
def headingNumber : HeadingLevel → List Char
  | .h1 => ['1']
  | .h2 => ['2']
  | .h3 => ['3']
  | .h4 => ['4']
  | .h5 => ['5']
  | .h6 => ['6']

/-- SOURCE: markdown.rs:140-144. -/
structure Frame where
  close : List Char
  opensTableHead : Bool
  closesTableHead : Bool

/-- SOURCE: markdown.rs:147-153. -/
def Frame.new (close : List Char) : Frame := ⟨close, false, false⟩

/-- What a tag writes, and the frame it leaves. A code block does not come here.
SOURCE: markdown.rs:156-241. -/
def openTag (tag : MarkdownTag) (inTableHead : Bool) : List Char × Frame :=
  match tag with
  | .paragraph => ("<p>".toList, .new "</p>".toList)
  | .heading level =>
    ("<h".toList ++ headingNumber level ++ ">".toList,
      .new ("</h".toList ++ headingNumber level ++ ">".toList))
  | .blockQuote => ("<blockquote>".toList, .new "</blockquote>".toList)
  | .list (some start) =>
    if start = 1 then ("<ol>".toList, .new "</ol>".toList)
    else ("<ol start=\"".toList ++ digits start.toNat ++ "\">".toList, .new "</ol>".toList)
  | .list none => ("<ul>".toList, .new "</ul>".toList)
  | .item => ("<li>".toList, .new "</li>".toList)
  | .emphasis => ("<em>".toList, .new "</em>".toList)
  | .strong => ("<strong>".toList, .new "</strong>".toList)
  | .strikethrough => ("<del>".toList, .new "</del>".toList)
  | .link destUrl =>
    match safeHref destUrl with
    | some href =>
      ("<a href=\"".toList ++ escape href ++
        "\" target=\"_blank\" rel=\"noopener noreferrer\">".toList, .new "</a>".toList)
    | none => ([], .new [])
  | .image => ([], .new [])
  | .table => ("<table>".toList, .new "</tbody></table>".toList)
  | .tableHead => ("<thead><tr>".toList, ⟨"</tr></thead><tbody>".toList, true, true⟩)
  | .tableRow => ("<tr>".toList, .new "</tr>".toList)
  | .tableCell =>
    if inTableHead then ("<th>".toList, .new "</th>".toList)
    else ("<td>".toList, .new "</td>".toList)
  | .codeBlock _ | .other => ([], .new [])

/-- SOURCE: markdown.rs:243-246. -/
structure ActiveCodeBlock where
  languageToken : Option (List Char)
  source : List Char

/-- What a code block writes. SOURCE: markdown.rs:257-277. -/
def codeBlockHtml (env : MarkdownEnv) (block : ActiveCodeBlock) : List Char :=
  let highlighted := highlightSnippet env block.source block.languageToken
  "<div class=\"code-block\">".toList ++
    "<div class=\"code-block-head\"><span>".toList ++ escape highlighted.language ++
    "</span></div>".toList ++
    "<pre><code".toList ++
    (match block.languageToken with
      | some lang => " class=\"language-".toList ++ escape lang ++ "\"".toList
      | none => []) ++
    (if highlighted.recognizedLanguage then " data-highlighted=\"true\"".toList else []) ++
    ">".toList ++ highlighted.html ++ "</code></pre></div>".toList

/-! ## The page -/

/-- The variables of the loop. SOURCE: markdown.rs:38-45. -/
structure RenderState where
  out : List Char
  stack : List Frame
  inTableHead : Bool
  codeBlock : Option ActiveCodeBlock

namespace RenderState

/-- Adds to the source of the open code block, or writes to the page. -/
def pushText (state : RenderState) (source : List Char) (html : List Char) : RenderState :=
  match state.codeBlock with
  | some block => { state with codeBlock := some { block with source := block.source ++ source } }
  | none => { state with out := state.out ++ html }

/-- SOURCE: markdown.rs:47-125. -/
def event (env : MarkdownEnv) (state : RenderState) : MarkdownEvent → Option RenderState
  | .start (.codeBlock kind) =>
    some { state with codeBlock := some ⟨languageToken kind, []⟩ }
  | .start tag =>
    let (html, frame) := openTag tag state.inTableHead
    some { state with
      out := state.out ++ html
      stack := frame :: state.stack
      inTableHead := frame.opensTableHead || state.inTableHead }
  | .finish =>
    match state.codeBlock with
    | some block => some { state with out := state.out ++ codeBlockHtml env block, codeBlock := none }
    | none =>
      match state.stack with
      | [] => some state
      | frame :: stack =>
        some { state with
          out := state.out ++ frame.close
          stack := stack
          inTableHead := !frame.closesTableHead && state.inTableHead }
  | .text text =>
    match state.codeBlock with
    | some _ => some (state.pushText text [])
    | none => (pushLinkified env state.out text).map fun out => { state with out := out }
  | .code text => some (state.pushText text ("<code>".toList ++ escape text ++ "</code>".toList))
  | .html text | .inlineHtml text | .inlineMath text | .displayMath text =>
    some (state.pushText text (escape text))
  | .softBreak => some (state.pushText ['\n'] ['\n'])
  | .hardBreak => some (state.pushText ['\n'] "<br>".toList)
  | .rule => some { state with out := state.out ++ "<hr>".toList }
  | .taskListMarker checked =>
    some { state with
      out := state.out ++ (if checked then "<input type=\"checkbox\" checked disabled> ".toList
        else "<input type=\"checkbox\" disabled> ".toList) }
  | .footnoteReference => some state

/-- What is left open is closed. SOURCE: markdown.rs:127-137. -/
def closeAll (env : MarkdownEnv) (state : RenderState) : List Char :=
  state.out ++ (state.codeBlock.map (codeBlockHtml env)).getD [] ++
    state.stack.flatMap Frame.close

end RenderState

/-- The page of a sequence of events, or nothing when a text is cut within a character.
SOURCE: markdown.rs:33-138. -/
def renderMarkdown (env : MarkdownEnv) (events : List MarkdownEvent) : Option (List Char) :=
  (events.foldlM (RenderState.event env) ⟨[], [], false, none⟩).map (RenderState.closeAll env)

end Giskard
