import Mathlib
import Giskard.Foundation.AgeCache
import Giskard.Foundation.LossyText
import Giskard.Model.Markdown

/-!
# The highlighter of the code overlay

A request for a file is answered from the cache when the cache's first entry for the path has the
modification time that the file has now. Otherwise the file is read, highlighted line by line and
stored.

What other crates decide is a record, and so is what the file system answers one request. A path
is its text. Log lines are left out.

SOURCE: crates/giskard-server/src/highlight.rs:27-230, 280-364.
-/

set_option autoImplicit false

namespace Giskard

open Foundation (splitInclusive fromUtf8Lossy AgeCache.lookup AgeCache.store)

/-! ## What is outside -/

/-- A colour (`syntect::highlighting::Color`). -/
structure HighlightColor where
  r : UInt8
  g : UInt8
  b : UInt8

/-- The name of the plain syntax, the themes in the order of their names with their backgrounds,
and the markup of a line after other lines of a syntax, unless highlighting it fails. -/
structure HighlightEnv where
  plainText : List Char
  themes : List (List Char × Option HighlightColor)
  styledLine : List Char → List (List Char) → List Char → Option (List Char)

/-- The metadata of a file; a modification time is in nanoseconds. -/
structure FileMetadata where
  modified : Except (List Char) ℤ
  len : ℕ

/-- What the file system answers a request: the metadata of a file, its bytes, and the name of the
syntax that is found by its name and its first line. -/
structure FileAnswers where
  metadata : List Char → Except (List Char) FileMetadata
  read : List Char → Except (List Char) (List UInt8)
  findSyntaxForFile : List Char → Option (List Char)

/-! ## Cached files -/

/-- SOURCE: highlight.rs:36-47. -/
structure CachedHighlight where
  lines : List (List Char)
  preOpen : List Char
  language : Option (List Char)
  isBinary : Bool
  fileSize : ℕ

/-- SOURCE: highlight.rs:49-53. -/
structure CacheEntry where
  mtime : ℤ
  cached : CachedHighlight

/-- SOURCE: highlight.rs:55-66. -/
structure Highlighter where
  cache : List (List Char × CacheEntry)
  maxSize : ℕ

/-- SOURCE: highlight.rs:68-86. -/
structure HighlightResult where
  html : List Char
  language : Option (List Char)
  isBinary : Bool
  totalLines : ℕ
  fileSize : ℕ

/-- SOURCE: highlight.rs:30-31. -/
def maxCacheEntries : ℕ := 128

/-! ## Files -/

/-- The last component of a path (`Path::file_name`). -/
def fileName (path : List Char) : Option (List Char) :=
  let components := (path.splitOn '/').filter fun part => part ≠ [] ∧ part ≠ ['.']
  components.getLast?.filter fun part => part ≠ ['.', '.']

/-- What follows the last dot of a file's name, unless the name starts with it
(`Path::extension`). -/
def extension (path : List Char) : Option (List Char) :=
  (fileName path).bind fun name =>
    let after := name.reverse.takeWhile fun c => c ≠ '.'
    if after.length + 1 < name.length then some after.reverse else none

/-- SOURCE: highlight.rs:326-349. -/
def detectLanguage (path : List Char) : Option (List Char) :=
  (extension path).map fun ext =>
    let name := String.ofList ext
    if name = "rs" then "Rust".toList
    else if name = "py" then "Python".toList
    else if name ∈ ["js", "mjs"] then "JavaScript".toList
    else if name = "ts" then "TypeScript".toList
    else if name = "go" then "Go".toList
    else if name = "java" then "Java".toList
    else if name ∈ ["c", "h"] then "C".toList
    else if name ∈ ["cpp", "hpp", "cc"] then "C++".toList
    else if name = "rb" then "Ruby".toList
    else if name ∈ ["sh", "bash"] then "Shell".toList
    else if name = "toml" then "TOML".toList
    else if name = "json" then "JSON".toList
    else if name ∈ ["yaml", "yml"] then "YAML".toList
    else if name = "md" then "Markdown".toList
    else if name = "html" then "HTML".toList
    else if name = "css" then "CSS".toList
    else if name = "sql" then "SQL".toList
    else ext

/-- A null byte in the first 8 KiB. SOURCE: highlight.rs:317-324. -/
def isBinary (bytes : List UInt8) : Bool := (bytes.take 8192).contains 0

/-! ## Highlighting -/

/-- The background of the selected theme. SOURCE: highlight.rs:351-356. -/
def selectTheme (env : HighlightEnv) : Option (Option HighlightColor) :=
  ((env.themes.find? fun theme => theme.1 = "base16-ocean.dark".toList).or env.themes.head?).map
    Prod.snd

/-- SOURCE: highlight.rs:358-365. -/
def themeBackground (theme : Option HighlightColor) : HighlightColor := theme.getD ⟨0, 0, 0⟩

/-- A byte as two digits (`{:02x}`). -/
def hexByte (byte : UInt8) : List Char :=
  [Nat.digitChar (byte.toNat / 16), Nat.digitChar (byte.toNat % 16)]

/-- SOURCE: highlight.rs:185-189. -/
def preOpening (background : HighlightColor) : List Char :=
  "<pre style=\"background-color:#".toList ++ hexByte background.r ++ hexByte background.g ++
    hexByte background.b ++ ";\">".toList

/-- One fragment for each line. SOURCE: highlight.rs:191-204. -/
def fileFragments (env : HighlightEnv) (syntaxName : List Char) :
    List (List Char) → List (List Char) → List (List Char)
  | _, [] => []
  | before, line :: lines =>
    (env.styledLine syntaxName before line).getD (escapeHtml line) ::
      fileFragments env syntaxName (before ++ [line]) lines

/-- What is cached of a file that is read. SOURCE: highlight.rs:158-212. -/
def readHighlight (env : HighlightEnv) (files : FileAnswers) (path : List Char) (fileSize : ℕ) :
    Except (List Char) CachedHighlight :=
  match files.read path with
  | .error e => .error ("cannot read file: ".toList ++ e)
  | .ok bytes =>
    if isBinary bytes then .ok ⟨[], [], detectLanguage path, true, fileSize⟩
    else
      let text := fromUtf8Lossy bytes
      let language := (files.findSyntaxForFile path).getD env.plainText
      match selectTheme env with
      | none => .error "no syntax theme available".toList
      | some theme => .ok
        ⟨fileFragments env language [] (splitInclusive text), preOpening (themeBackground theme),
          some language, false, fileSize⟩

/-- SOURCE: highlight.rs:281-315. -/
def applyRange (cached : CachedHighlight) (start stop : Option ℕ) : HighlightResult :=
  let totalLines := cached.lines.length
  if cached.isBinary || decide (cached.fileSize = 0) then
    ⟨[], cached.language, cached.isBinary, totalLines, cached.fileSize⟩
  else
    let startIdx := min (start.getD 1 - 1) totalLines
    let endIdx := max (min (stop.getD totalLines) totalLines) startIdx
    let body := ((cached.lines.take endIdx).drop startIdx).flatten
    ⟨cached.preOpen ++ body ++ "</pre>".toList, cached.language, false, totalLines,
      cached.fileSize⟩

/-! ## Requests -/

namespace Highlighter

/-- SOURCE: highlight.rs:105-113. -/
def withMaxSize (maxSize : ℕ) : Highlighter := ⟨[], maxSize⟩

/-- The cached form of a path, if the first entry for it has this modification time. SOURCE:
highlight.rs:148-156. -/
def lookup (self : Highlighter) (path : List Char) (mtime : ℤ) : Option CachedHighlight :=
  ((AgeCache.lookup self.cache path).filter fun entry => entry.mtime = mtime).map CacheEntry.cached

/-- SOURCE: highlight.rs:218-230. -/
def storeCache (self : Highlighter) (key : List Char) (mtime : ℤ) (cached : CachedHighlight) :
    Highlighter :=
  { self with cache := AgeCache.store maxCacheEntries self.cache key ⟨mtime, cached⟩ }

/-- The answer to a request, and whether the file was read for it. -/
structure Answer where
  result : Except (List Char) HighlightResult
  read : Bool

/-- SOURCE: highlight.rs:115-216. -/
def highlightFile (env : HighlightEnv) (files : FileAnswers) (self : Highlighter)
    (path : List Char) (start stop : Option ℕ) : Answer × Highlighter :=
  match files.metadata path with
  | .error e => (⟨.error ("cannot read file metadata: ".toList ++ e), false⟩, self)
  | .ok metadata =>
    match metadata.modified with
    | .error e => (⟨.error ("cannot read mtime: ".toList ++ e), false⟩, self)
    | .ok mtime =>
      if self.maxSize < metadata.len then
        (⟨.ok ⟨[], detectLanguage path, false, 0, metadata.len⟩, false⟩, self)
      else
        match self.lookup path mtime with
        | some cached => (⟨.ok (applyRange cached start stop), false⟩, self)
        | none =>
          match readHighlight env files path metadata.len with
          | .error e => (⟨.error e, true⟩, self)
          | .ok cached =>
            (⟨.ok (applyRange cached start stop), true⟩, self.storeCache path mtime cached)

end Highlighter

end Giskard
