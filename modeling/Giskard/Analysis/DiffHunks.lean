import Mathlib
import Giskard.Foundation.TextFile
import Giskard.Model.DiffHunks

/-!
# Hunks lose their positions

The header of a hunk is cut at white space before it is cut at the space between its two ranges, so
no header is ever read. The hunks of a diff come back in order and with their lines, but each with
the positions zero.
-/

set_option autoImplicit false

namespace Giskard

open Foundation

def DiffLine.text : DiffLine → String
  | .context text => text
  | .added text => text
  | .removed text => text

def DiffLine.row : DiffLine → List Char
  | .context text => ' ' :: text.toList
  | .added text => '+' :: text.toList
  | .removed text => '-' :: text.toList

/-- What is read of a line that a newline ends. -/
def DiffLine.heard : DiffLine → DiffLine
  | .context text => .context (.ofList (chomp text.toList))
  | .added text => .added (.ofList (chomp text.toList))
  | .removed text => .removed (.ofList (chomp text.toList))

/-- A hunk at no position. -/
def DiffHunk.AtZero (hunk : DiffHunk) : Prop :=
  hunk.oldStart = 0 ∧ hunk.oldLines = 0 ∧ hunk.newStart = 0 ∧ hunk.newLines = 0

namespace Codex

/-! ## Writing a diff -/

/-- A start and a count; a count of 1 is left out. -/
def rangeText (start count : UInt32) : List Char :=
  Nat.toDigits 10 start.toNat ++ if count = 1 then [] else ',' :: Nat.toDigits 10 count.toNat

/-- The header of a hunk, with the heading of its section. -/
def headerRow (hunk : DiffHunk) (heading : String) : List Char :=
  ['@', '@', ' ', '-'] ++ rangeText hunk.oldStart hunk.oldLines ++ [' ', '+'] ++
    rangeText hunk.newStart hunk.newLines ++ [' ', '@', '@'] ++ heading.toList

def hunkRows (hunk : DiffHunk × String) : List (List Char) :=
  headerRow hunk.1 hunk.2 :: hunk.1.lines.map DiffLine.row

/-- The text of a diff, whose last line may lack its newline. -/
def diffText (ended : Bool) (hunks : List (DiffHunk × String)) : String :=
  .ofList (joinRows ended (hunks.flatMap hunkRows))

/-- The texts of the lines that a newline ends. -/
def endedTexts (ended : Bool) (hunks : List (DiffHunk × String)) : List String :=
  let texts := hunks.flatMap fun hunk => hunk.1.lines.map DiffLine.text
  if ended then texts else texts.dropLast

/-! ## Reading a header -/

theorem parseHunkHeader_eq_none (line : List Char) : parseHunkHeader line = none := by
  unfold parseHunkHeader
  dsimp only
  split
  · rfl
  · next word first =>
    have plain := (isWord_of_mem_words (List.mem_of_head? first)).2
    have inner : (word.dropWhile (· = '@')).rdropWhile (· = '@') <+: _ :=
      List.rdropWhile_prefix _ _
    have trimmed : ' ' ∉ (word.dropWhile (· = '@')).rdropWhile (· = '@') := fun member =>
      absurd (plain ' ' ((List.dropWhile_sublist _).subset (inner.subset member))) (by decide)
    rw [splitOnce_eq_none trimmed]

/-! ## Reading a diff -/

/-- What is read of the lines of the last hunk. -/
def heardLines (ended : Bool) : List DiffLine → List DiffLine
  | [] => []
  | [line] => [if ended then line.heard else line]
  | line :: next :: lines => line.heard :: heardLines ended (next :: lines)

/-- What is read of hunks. -/
def heardHunks (ended : Bool) : List (DiffHunk × String) → List DiffHunk
  | [] => []
  | [hunk] => [⟨0, 0, 0, 0, heardLines ended hunk.1.lines⟩]
  | hunk :: next :: hunks =>
    ⟨0, 0, 0, 0, hunk.1.lines.map DiffLine.heard⟩ :: heardHunks ended (next :: hunks)

theorem chomp_cons {c : Char} (other : c ≠ '\r') (text : List Char) :
    chomp (c :: text) = c :: chomp text := by
  unfold chomp
  cases text with
  | nil => exact if_neg fun same => other (Option.some.inj same)
  | cons d text =>
    rw [List.getLast?_cons_cons]
    split <;> rfl

theorem row_heard (line : DiffLine) : chomp line.row = line.heard.row := by
  cases line with
  | context text => exact (chomp_cons (by decide) _).trans (by simp [DiffLine.heard, DiffLine.row])
  | added text => exact (chomp_cons (by decide) _).trans (by simp [DiffLine.heard, DiffLine.row])
  | removed text => exact (chomp_cons (by decide) _).trans (by simp [DiffLine.heard, DiffLine.row])

theorem chomp_eq_self {text : List Char} : chomp text = text ↔ text.getLast? ≠ some '\r' := by
  unfold chomp
  split
  · next carriage =>
    constructor
    · intro same
      have length := congrArg List.length same
      rw [List.length_dropLast] at length
      cases text with
      | nil => cases carriage
      | cons c text =>
        rw [List.length_cons] at length
        omega
    · exact fun other => absurd carriage other
  · next other => exact ⟨fun _ => other, fun _ => rfl⟩

theorem DiffLine.heard_eq_self {line : DiffLine} :
    line.heard = line ↔ line.text.toList.getLast? ≠ some '\r' := by
  have same (text : String) : String.ofList (chomp text.toList) = text ↔
      text.toList.getLast? ≠ some '\r' := by
    rw [← chomp_eq_self, ← String.toList_inj, String.toList_ofList]
  cases line with
  | context text => exact Iff.trans (by simp [DiffLine.heard]) (same text)
  | added text => exact Iff.trans (by simp [DiffLine.heard]) (same text)
  | removed text => exact Iff.trans (by simp [DiffLine.heard]) (same text)

theorem chompRows_rows (ended : Bool) (lines : List DiffLine) :
    chompRows ended (lines.map DiffLine.row) = (heardLines ended lines).map DiffLine.row := by
  induction lines with
  | nil => rfl
  | cons line lines ih =>
    cases lines with
    | nil =>
      unfold heardLines
      cases ended with
      | true => exact congrArg (fun row => [row]) (row_heard line)
      | false => rfl
    | cons next lines =>
      rw [heardLines, List.map_cons (l := heardLines ended (next :: lines)), ← ih, ← row_heard]
      rfl

theorem chomp_headerRow (hunk : DiffHunk) (heading : String) :
    ∃ rest, chomp (headerRow hunk heading) = '@' :: '@' :: rest := by
  have row : headerRow hunk heading = '@' :: '@' :: ((headerRow hunk heading).drop 2) := rfl
  rw [row, chomp_cons (by decide), chomp_cons (by decide)]
  exact ⟨_, rfl⟩

namespace HunkReading

variable {reading : HunkReading} {lines : List DiffLine}

/-- No position has been read. -/
def AtZero (reading : HunkReading) : Prop :=
  reading.oldStart = 0 ∧ reading.oldLines = 0 ∧ reading.newStart = 0 ∧ reading.newLines = 0

theorem line_header (rest : List Char) : reading.line ('@' :: '@' :: rest) = reading.flush := by
  unfold line header
  rw [parseHunkHeader_eq_none]
  rfl

theorem line_row (line : DiffLine) : reading.line line.row = reading.push line := by
  cases line <;> simp [HunkReading.line, DiffLine.row]

theorem foldl_rows (reading : HunkReading) (lines : List DiffLine) :
    (lines.map DiffLine.row).foldl HunkReading.line reading =
      { reading with currentLines := reading.currentLines ++ lines } := by
  induction lines generalizing reading with
  | nil => rw [List.append_nil]; rfl
  | cons line lines ih =>
    rw [List.map_cons, List.foldl_cons, line_row, ih]
    unfold push
    dsimp only
    rw [List.append_assoc, List.singleton_append]

theorem flush_currentLines (reading : HunkReading) : reading.flush.currentLines = [] := by
  unfold flush
  split
  · next empty => exact List.isEmpty_iff.1 empty
  · rfl

theorem AtZero.flush (zero : reading.AtZero) : reading.flush.AtZero := by
  unfold HunkReading.flush
  split <;> exact zero

theorem foldl_hunk (rest : List Char) (lines : List DiffLine) :
    (('@' :: '@' :: rest) :: lines.map DiffLine.row).foldl HunkReading.line reading =
      { reading.flush with currentLines := lines } := by
  rw [List.foldl_cons, line_header, foldl_rows, flush_currentLines, List.nil_append]

theorem flush_lines (zero : reading.AtZero) (some_ : lines ≠ []) :
    { reading with currentLines := lines }.flush.hunks =
      reading.hunks ++ [⟨0, 0, 0, 0, lines⟩] := by
  obtain ⟨oldStart, oldLines, newStart, newLines⟩ := zero
  unfold HunkReading.flush
  rw [if_neg fun empty => some_ (List.isEmpty_iff.1 empty)]
  dsimp only
  rw [oldStart, oldLines, newStart, newLines]

end HunkReading

theorem heardLines_ne_nil {ended : Bool} {lines : List DiffLine} (some_ : lines ≠ []) :
    heardLines ended lines ≠ [] := by
  cases lines with
  | nil => exact some_
  | cons line lines => cases lines <;> exact List.cons_ne_nil _ _

theorem hunkRows_ne_nil {hunk : DiffHunk × String} {hunks : List (DiffHunk × String)} :
    (hunk :: hunks).flatMap hunkRows ≠ [] := by
  rw [List.flatMap_cons]
  exact List.cons_ne_nil _ _

/-- The hunks of a diff are read at no position. -/
theorem foldl_hunks (ended : Bool) {hunks : List (DiffHunk × String)}
    (some_ : ∀ hunk ∈ hunks, hunk.1.lines ≠ []) {reading : HunkReading} (zero : reading.AtZero) :
    ((chompRows ended (hunks.flatMap hunkRows)).foldl HunkReading.line reading).flush.hunks =
      reading.flush.hunks ++ heardHunks ended hunks := by
  induction hunks generalizing reading with
  | nil => exact (List.append_nil _).symm
  | cons hunk hunks ih =>
    have here := some_ hunk List.mem_cons_self
    obtain ⟨rest, header⟩ := chomp_headerRow hunk.1 hunk.2
    cases hunks with
    | nil =>
      have rows : hunk.1.lines.map DiffLine.row ≠ [] := fun none => here (List.map_eq_nil_iff.1 none)
      have split : [hunk].flatMap hunkRows =
          [headerRow hunk.1 hunk.2] ++ hunk.1.lines.map DiffLine.row := List.flatMap_singleton ..
      rw [split, chompRows_append rows, chompRows_rows, List.map_singleton, header,
        List.singleton_append, HunkReading.foldl_hunk,
        HunkReading.flush_lines zero.flush (heardLines_ne_nil here)]
      rfl
    | cons next hunks =>
      have later := @ih (fun other member => some_ other (List.mem_cons_of_mem _ member))
      have rows : (hunkRows hunk).map chomp =
          ('@' :: '@' :: rest) :: (hunk.1.lines.map DiffLine.heard).map DiffLine.row := by
        rw [hunkRows, List.map_cons, header, List.map_map, List.map_map]
        congr 2
        funext line
        exact row_heard line
      have heard : hunk.1.lines.map DiffLine.heard ≠ [] :=
        fun none => here (List.map_eq_nil_iff.1 none)
      have zero' : ({ reading.flush with
          currentLines := hunk.1.lines.map DiffLine.heard } : HunkReading).AtZero := zero.flush
      rw [List.flatMap_cons, chompRows_append hunkRows_ne_nil, rows, List.foldl_append,
        HunkReading.foldl_hunk]
      refine (later zero').trans ?_
      rw [HunkReading.flush_lines zero.flush heard, List.append_assoc]
      rfl

/-! ## What is left of a diff -/

theorem heardLines_eq_self (ended : Bool) (lines : List DiffLine) :
    heardLines ended lines = lines ↔
      ∀ text ∈ if ended then lines.map DiffLine.text else (lines.map DiffLine.text).dropLast,
        text.toList.getLast? ≠ some '\r' := by
  induction lines with
  | nil => cases ended <;> simp [heardLines]
  | cons line lines ih =>
    cases lines with
    | nil =>
      cases ended with
      | true => simp [heardLines, DiffLine.heard_eq_self]
      | false => simp [heardLines]
    | cons next lines =>
      rw [heardLines, List.cons.injEq, DiffLine.heard_eq_self, ih]
      cases ended with
      | true => simp
      | false => simp [List.dropLast_cons_cons]

theorem map_heard_eq_self (lines : List DiffLine) : lines.map DiffLine.heard = lines ↔
    ∀ text ∈ lines.map DiffLine.text, text.toList.getLast? ≠ some '\r' := by
  induction lines with
  | nil => simp
  | cons line lines ih =>
    rw [List.map_cons, List.cons.injEq, DiffLine.heard_eq_self, ih, List.map_cons,
      List.forall_mem_cons]

theorem hunk_eq_iff {hunk : DiffHunk} {lines : List DiffLine} :
    (⟨0, 0, 0, 0, lines⟩ : DiffHunk) = hunk ↔ hunk.AtZero ∧ lines = hunk.lines := by
  cases hunk
  unfold DiffHunk.AtZero
  simp only [DiffHunk.mk.injEq, eq_comm, and_assoc]

theorem heardHunks_eq_iff (ended : Bool) {hunks : List (DiffHunk × String)}
    (some_ : ∀ hunk ∈ hunks, hunk.1.lines ≠ []) :
    heardHunks ended hunks = hunks.map Prod.fst ↔ (∀ hunk ∈ hunks, hunk.1.AtZero) ∧
      ∀ text ∈ endedTexts ended hunks, text.toList.getLast? ≠ some '\r' := by
  induction hunks with
  | nil => cases ended <;> simp [heardHunks, endedTexts]
  | cons hunk hunks ih =>
    cases hunks with
    | nil =>
      rw [heardHunks, List.map_singleton, List.cons.injEq, hunk_eq_iff, heardLines_eq_self]
      unfold endedTexts
      rw [List.flatMap_singleton]
      simp
    | cons next hunks =>
      have later := ih fun other member => some_ other (List.mem_cons_of_mem _ member)
      have texts : endedTexts ended (hunk :: next :: hunks) =
          hunk.1.lines.map DiffLine.text ++ endedTexts ended (next :: hunks) := by
        unfold endedTexts
        rw [List.flatMap_cons]
        cases ended with
        | true => rfl
        | false =>
          have rest : (next :: hunks).flatMap (fun hunk => hunk.1.lines.map DiffLine.text) ≠ [] := by
            rw [List.flatMap_cons]
            intro none
            exact some_ next (by simp) (List.map_eq_nil_iff.1 (List.append_eq_nil_iff.1 none).1)
          exact List.dropLast_append_of_ne_nil rest
      rw [heardHunks, List.map_cons, List.cons.injEq, hunk_eq_iff, map_heard_eq_self, later, texts,
        @List.forall_mem_cons _ _ hunk, List.forall_mem_append]
      exact ⟨fun ⟨⟨zero, here⟩, zeros, there⟩ => ⟨⟨zero, zeros⟩, here, there⟩,
        fun ⟨⟨zero, zeros⟩, here, there⟩ => ⟨⟨zero, here⟩, zeros, there⟩⟩

/-- A diff is read back exactly if all its hunks are at no position and no line that a newline ends
has a carriage return before it. SOURCE: mapping.rs:3420-3492. -/
theorem diff_hunks_kept_iff (ended : Bool) (hunks : List (DiffHunk × String))
    (some_ : ∀ hunk ∈ hunks, hunk.1.lines ≠ [])
    (texts : ∀ hunk ∈ hunks, ∀ line ∈ hunk.1.lines, '\n' ∉ line.text.toList)
    (headings : ∀ hunk ∈ hunks, '\n' ∉ hunk.2.toList) :
    parseDiffHunks (diffText ended hunks) = hunks.map Prod.fst ↔
      (∀ hunk ∈ hunks, hunk.1.AtZero) ∧
        ∀ text ∈ endedTexts ended hunks, text.toList.getLast? ≠ some '\r' := by
  have rows : ∀ row ∈ hunks.flatMap hunkRows, '\n' ∉ row ∧ row ≠ [] := by
    intro row member
    obtain ⟨hunk, listed, inside⟩ := List.mem_flatMap.1 member
    rcases List.mem_cons.1 inside with rfl | inside
    · refine ⟨?_, List.cons_ne_nil _ _⟩
      have range (start count : UInt32) : '\n' ∉ rangeText start count := by
        unfold rangeText
        rw [List.mem_append, not_or]
        refine ⟨not_mem_toDigits (by decide) _, ?_⟩
        split
        · exact List.not_mem_nil
        · rw [List.mem_cons, not_or]
          exact ⟨by decide, not_mem_toDigits (by decide) _⟩
      simp [headerRow, range, headings hunk listed]
    · obtain ⟨line, there, rfl⟩ := List.mem_map.1 inside
      have plain := texts hunk listed line there
      cases line <;> simpa [DiffLine.row, DiffLine.text] using plain
  have read := lines_joinRows (fun row member => (rows row member).1)
    (fun row member => (rows row member).2) ended
  rw [← heardHunks_eq_iff ended some_]
  unfold parseDiffHunks diffText
  rw [String.toList_ofList]
  cases hunks with
  | nil => exact Iff.rfl
  | cons hunk hunks =>
    have zero : HunkReading.start.AtZero := ⟨rfl, rfl, rfl, rfl⟩
    rw [read, foldl_hunks ended some_ zero]
    split
    · next empty =>
      rw [List.isEmpty_iff.1 empty] at read
      exact absurd read.symm (chompRows_ne_nil hunkRows_ne_nil ended)
    · exact Iff.rfl

/-- A hunk with a line of context and a new line after it. -/
def sampleHunk : DiffHunk := ⟨1, 1, 1, 2, [.context "one", .added "two"]⟩

/-- The hunk loses its positions. -/
theorem diff_hunk_loses_position :
    parseDiffHunks (diffText true [(sampleHunk, "")]) ≠ [sampleHunk] := by
  decide +kernel

theorem diff_hunks_kept_sample :
    parseDiffHunks (diffText true [(sampleHunk, "")]) = [(sampleHunk, "")].map Prod.fst ↔
      (∀ hunk ∈ [(sampleHunk, "")], hunk.1.AtZero) ∧
        ∀ text ∈ endedTexts true [(sampleHunk, "")], text.toList.getLast? ≠ some '\r' :=
  diff_hunks_kept_iff true [(sampleHunk, "")] (by decide) (by decide +kernel) (by decide +kernel)

end Codex

end Giskard
