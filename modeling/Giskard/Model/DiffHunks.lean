import Mathlib
import Giskard.Foundation.Records
import Giskard.Foundation.TextFile
import Giskard.Model.Core

/-!
# The hunks of a turn's diff

The mapper reads the unified diff that Codex reports for a turn. A line that starts with `@@` begins
a hunk with the positions of its header, and keeps the positions of the hunk before it when the
header cannot be read; any other line is added, removed or context by its first character.

SOURCE: crates/giskard-harness-codex/src/mapping.rs:3420-3492.
-/

set_option autoImplicit false

namespace Giskard.Codex

open Foundation

/-- A start and a count, which is 1 when it is left out. SOURCE: mapping.rs:3482-3487. -/
def parseHunkRange (text : List Char) : Option (ℕ × ℕ) :=
  match text.splitOn ',' with
  | [] => none
  | start :: rest =>
    match parseUnsigned (2 ^ 32) start, parseUnsigned (2 ^ 32) (rest.headD ['1']) with
    | some start, some count => some (start, count)
    | _, _ => none

/-- SOURCE: mapping.rs:3473-3492. -/
def parseHunkHeader (line : List Char) : Option ((ℕ × ℕ) × (ℕ × ℕ)) :=
  let line := (line.dropWhile (· = '@')).dropWhile (· = ' ')
  match (words line).head? with
  | none => none
  | some word =>
    let word := (word.dropWhile (· = '@')).rdropWhile (· = '@')
    match splitOnce ' ' word with
    | some ('-' :: oldPart, '+' :: newPart) =>
      match parseHunkRange oldPart, parseHunkRange newPart with
      | some old, some new => some (old, new)
      | _, _ => none
    | _ => none

/-- What the loop over the lines has gathered so far. SOURCE: mapping.rs:3425-3430. -/
structure HunkReading where
  hunks : List DiffHunk
  currentLines : List DiffLine
  oldStart : UInt32
  oldLines : UInt32
  newStart : UInt32
  newLines : UInt32

namespace HunkReading

def start : HunkReading := ⟨[], [], 0, 0, 0, 0⟩

/-- The hunk that is being read ends, if it has lines. SOURCE: mapping.rs:3434-3442. -/
def flush (reading : HunkReading) : HunkReading :=
  if reading.currentLines.isEmpty then reading
  else
    { reading with
      hunks := reading.hunks ++
        [⟨reading.oldStart, reading.oldLines, reading.newStart, reading.newLines,
          reading.currentLines⟩]
      currentLines := [] }

/-- SOURCE: mapping.rs:3443-3448. -/
def header (reading : HunkReading) (line : List Char) : HunkReading :=
  match parseHunkHeader line with
  | some (old, new) =>
    { reading with
      oldStart := .ofNat old.1
      oldLines := .ofNat old.2
      newStart := .ofNat new.1
      newLines := .ofNat new.2 }
  | none => reading

def push (reading : HunkReading) (line : DiffLine) : HunkReading :=
  { reading with currentLines := reading.currentLines ++ [line] }

/-- SOURCE: mapping.rs:3432-3457. -/
def line (reading : HunkReading) (line : List Char) : HunkReading :=
  match line with
  | '@' :: '@' :: _ => reading.flush.header line
  | '+' :: stripped => reading.push (.added (.ofList stripped))
  | '-' :: stripped => reading.push (.removed (.ofList stripped))
  | ' ' :: stripped => reading.push (.context (.ofList stripped))
  | _ => reading.push (.context (.ofList line))

end HunkReading

/-- SOURCE: mapping.rs:3420-3471. -/
def parseDiffHunks (diffText : String) : List DiffHunk :=
  if diffText.toList.isEmpty then []
  else ((lines diffText.toList).foldl HunkReading.line .start).flush.hunks

end Giskard.Codex
