import Mathlib
import Giskard.Foundation.TextWindow
import Giskard.Analysis.LiveItems

/-!
# The head and the tail of live command output

The buffer of a running command is a fold over the chunks of its output. A chunk that takes it over
its limit makes it keep a head and a tail around a marker, and every later chunk compacts what was
kept once more, marker included. A head that was cut short of its budget, because a character lies
across it, then takes in the marker's first bytes; a tail that was cut short takes in its last
ones, unless the new chunk is long enough to push them out.
-/

set_option autoImplicit false

namespace Giskard

open Foundation

namespace Analysis

/-- The buffer is the output, or a head and a tail of it around the marker. -/
structure LiveOutput (output buffer : List Char) : Prop where
  short : byteLen output ≤ maxLiveCommandOutput → buffer = output
  long : maxLiveCommandOutput < byteLen output →
    ∃ head tail, head <+: output ∧ tail <:+ output ∧
      liveCommandOutputEdge ≤ byteLen head + 3 ∧ byteLen head ≤ liveCommandOutputEdge ∧
      liveCommandOutputEdge ≤ byteLen tail + 3 ∧ byteLen tail ≤ liveCommandOutputEdge ∧
      buffer = head ++ (liveCommandOutputTruncated ++ tail)

/-- The chunks of output that a run has for an item. -/
def chunksOf (id : ItemId) (arrivals : List Arrival) : List (List Char) :=
  arrivals.filterMap fun arrival => LiveTurn.chunkOf id arrival.event

/-- The last chunk is the first to exceed the limit, or the output has a character boundary at the
end of the head and one where a tail can start that the last chunk makes long enough. -/
def KeepsEdges (chunks : List (List Char)) : Prop :=
  byteLen chunks.dropLast.flatten ≤ maxLiveCommandOutput ∨
    isCharBoundary chunks.flatten liveCommandOutputEdge = true ∧
      ∃ start, isCharBoundary chunks.flatten start = true ∧
        start + liveCommandOutputEdge ≤ byteLen chunks.flatten ∧
        byteLen chunks.flatten ≤
          start + liveCommandOutputEdge + byteLen (chunks.getLast?.getD [])

/-! ## The marker -/

theorem truncated_ascii : ∀ c ∈ liveCommandOutputTruncated, c.utf8Size = 1 := by
  have all : liveCommandOutputTruncated.all (fun c => c.utf8Size == 1) = true := by decide +kernel
  intro c member
  exact beq_iff_eq.1 (List.all_eq_true.1 all c member)

theorem truncated_long : 7 ≤ byteLen liveCommandOutputTruncated := by
  decide +kernel

theorem truncated_fourth : liveCommandOutputTruncated[3]? = some '.' := by
  decide +kernel

theorem truncated_apart :
    ∀ i ∈ [0, 1, 2], liveCommandOutputTruncated[i]? ≠ some '.' := by
  decide +kernel

theorem truncated_rigid {front left right : List Char} (short : front.length ≤ 3)
    (same : front ++ (liveCommandOutputTruncated ++ left) = liveCommandOutputTruncated ++ right) :
    front = [] := by
  by_contra some_
  have positive : 0 < front.length := List.length_pos_iff.2 some_
  have size : 7 ≤ liveCommandOutputTruncated.length := by
    rw [← byteLen_eq_length truncated_ascii]
    exact truncated_long
  have fourth := congrArg (fun text => text[3]?) same
  rw [List.getElem?_append_right short, List.getElem?_append_left (by omega),
    List.getElem?_append_left (by omega), truncated_fourth] at fourth
  refine truncated_apart (3 - front.length) ?_ fourth
  have : 3 - front.length = 0 ∨ 3 - front.length = 1 ∨ 3 - front.length = 2 := by omega
  simpa using this

theorem length_le_byteLen (text : List Char) : text.length ≤ byteLen text := by
  induction text with
  | nil => exact le_rfl
  | cons c text ih =>
    have size := Char.utf8Size_pos c
    rw [List.length_cons, byteLen_cons]
    omega

/-! ## One compaction -/

theorem compactCommandOutput_of_lt {output : List Char}
    (long : maxLiveCommandOutput < byteLen output) :
    compactCommandOutput output =
      firstBytes output liveCommandOutputEdge ++
        (liveCommandOutputTruncated ++ lastBytes output liveCommandOutputEdge) := by
  unfold compactCommandOutput
  rw [if_neg (Nat.not_le.2 long)]
  dsimp only
  unfold floorCharBoundary ceilCharBoundary firstBytes lastBytes
  rw [min_assoc, min_self, min_eq_left (Nat.sub_le _ _), List.append_assoc]

/-- The head that is kept after a second compaction: its budget is filled from the marker. -/
def filledHead (output : List Char) : List Char :=
  firstBytes (firstBytes output liveCommandOutputEdge ++ liveCommandOutputTruncated)
    liveCommandOutputEdge

/-- A tail whose budget is filled from the marker. -/
def filledTail (output : List Char) : List Char :=
  lastBytes (liveCommandOutputTruncated ++ lastBytes output liveCommandOutputEdge)
    liveCommandOutputEdge

section

variable {output chunk : List Char} (long : liveCommandOutputEdge ≤ byteLen output)

include long

theorem byteLen_filledHead : byteLen (filledHead output) = liveCommandOutputEdge := by
  have short := byteLen_firstBytes_le output liveCommandOutputEdge
  have slack := byteLen_firstBytes_slack long
  have marker := truncated_long
  unfold filledHead
  rw [firstBytes_append short, byteLen_append,
    byteLen_firstBytes_of_ascii truncated_ascii (by omega)]
  omega

theorem byteLen_filledTail : byteLen (filledTail output) = liveCommandOutputEdge := by
  have short := byteLen_lastBytes_le output liveCommandOutputEdge
  have slack := byteLen_lastBytes_slack long
  have marker := truncated_long
  unfold filledTail
  rw [lastBytes_append short, byteLen_append,
    byteLen_lastBytes_of_ascii truncated_ascii (by omega)]
  omega

theorem filledHead_append : filledHead (output ++ chunk) = filledHead output := by
  unfold filledHead
  rw [firstBytes_append_of_le long]

theorem filledHead_of_boundary (boundary : isCharBoundary output liveCommandOutputEdge = true) :
    filledHead output = firstBytes output liveCommandOutputEdge := by
  have full : byteLen (firstBytes output liveCommandOutputEdge) = liveCommandOutputEdge := by
    rw [byteLen_firstBytes, min_eq_left long, retreat_eq_self boundary]
  unfold filledHead
  rw [firstBytes_append_of_le full.ge, firstBytes_of_le full.le]

omit long in
theorem lastBytes_lastBytes_append {budget : ℕ}
    (full : budget ≤ byteLen (lastBytes output budget) + byteLen chunk) :
    lastBytes (lastBytes output budget ++ chunk) budget = lastBytes (output ++ chunk) budget := by
  obtain ⟨front, same⟩ := lastBytes_suffix output budget
  conv_rhs => rw [← same]
  rw [List.append_assoc, @lastBytes_append_of_le front]
  rwa [byteLen_append]

omit long in
theorem lastBytes_append_of_lt {budget : ℕ}
    (short : byteLen (lastBytes output budget) + byteLen chunk < budget) :
    lastBytes (output ++ chunk) budget = lastBytes output budget ++ chunk := by
  rw [lastBytes_append (by omega)]
  congr 1
  apply suffix_antisymm
  · apply suffix_lastBytes (lastBytes_suffix _ _)
    exact (byteLen_lastBytes_le _ _).trans (Nat.sub_le _ _)
  · apply suffix_lastBytes (lastBytes_suffix _ _)
    omega

end

/-! ## The buffer after a chunk -/

/-- The tail after a chunk has joined what was received before. -/
def keptTail (received chunk : List Char) : List Char :=
  if liveCommandOutputEdge ≤ byteLen (lastBytes received liveCommandOutputEdge) + byteLen chunk then
    lastBytes (received ++ chunk) liveCommandOutputEdge
  else filledTail (received ++ chunk)

/-- A buffer that has been compacted: its head fills to the one that stays, and its tail is one of
the two. -/
structure Compacted (output head tail : List Char) : Prop where
  long : liveCommandOutputEdge ≤ byteLen output
  head_long : liveCommandOutputEdge ≤ byteLen head + 3
  fills : firstBytes (head ++ liveCommandOutputTruncated) liveCommandOutputEdge = filledHead output
  tail_eq : tail = lastBytes output liveCommandOutputEdge ∨ tail = filledTail output

variable {output head tail chunk : List Char}

theorem Compacted.tail_long (compacted : Compacted output head tail) :
    liveCommandOutputEdge ≤ byteLen tail + 3 := by
  rcases compacted.tail_eq with same | same
  · rw [same]
    exact byteLen_lastBytes_slack compacted.long
  · rw [same, byteLen_filledTail compacted.long]
    omega

theorem compacted_first (long : liveCommandOutputEdge ≤ byteLen output) :
    Compacted output (firstBytes output liveCommandOutputEdge)
      (lastBytes output liveCommandOutputEdge) :=
  ⟨long, byteLen_firstBytes_slack long, rfl, .inl rfl⟩

theorem compacted_later (long : liveCommandOutputEdge ≤ byteLen output) :
    Compacted (output ++ chunk) (filledHead (output ++ chunk)) (keptTail output chunk) := by
  have longer : liveCommandOutputEdge ≤ byteLen (output ++ chunk) := by
    rw [byteLen_append]
    omega
  have full := byteLen_filledHead longer
  refine ⟨longer, by omega, ?_, ?_⟩
  · rw [firstBytes_append_of_le full.ge, firstBytes_of_le full.le]
  · unfold keptTail
    split
    · exact .inl rfl
    · exact .inr rfl

/-- The window over a kept tail and a chunk is the kept tail of the longer output. -/
theorem Compacted.lastBytes_eq (compacted : Compacted output head tail) :
    lastBytes (head ++ (liveCommandOutputTruncated ++ (tail ++ chunk))) liveCommandOutputEdge =
      keptTail output chunk := by
  have marker := truncated_long
  have slack := byteLen_lastBytes_slack compacted.long
  unfold keptTail
  rcases compacted.tail_eq with same | same
  · subst same
    split
    · next full =>
      have enough : liveCommandOutputEdge ≤
          byteLen (lastBytes output liveCommandOutputEdge ++ chunk) := by rwa [byteLen_append]
      rw [lastBytes_append_of_le, lastBytes_append_of_le enough, lastBytes_lastBytes_append full]
      rw [byteLen_append]
      omega
    · next short =>
      rw [lastBytes_append_of_le]
      · unfold filledTail
        rw [lastBytes_append_of_lt (Nat.not_le.1 short)]
      · rw [byteLen_append, byteLen_append]
        omega
  · have full := byteLen_filledTail compacted.long
    have window : lastBytes (head ++ (liveCommandOutputTruncated ++ (tail ++ chunk)))
        liveCommandOutputEdge = lastBytes (liveCommandOutputTruncated ++
          (lastBytes output liveCommandOutputEdge ++ chunk)) liveCommandOutputEdge := by
      rw [same, ← List.append_assoc head, lastBytes_append_of_le]
      · unfold filledTail at full ⊢
        rw [lastBytes_lastBytes_append (by omega), List.append_assoc]
      · rw [byteLen_append]
        omega
    rw [window]
    split
    · next enough =>
      rw [lastBytes_append_of_le, lastBytes_lastBytes_append enough]
      rwa [byteLen_append]
    · next short =>
      unfold filledTail
      rw [lastBytes_append_of_lt (Nat.not_le.1 short)]

theorem Compacted.pushChunk (compacted : Compacted output head tail) :
    LiveTurn.pushChunk (head ++ (liveCommandOutputTruncated ++ tail)) chunk =
      filledHead (output ++ chunk) ++
        (liveCommandOutputTruncated ++ keptTail output chunk) := by
  have marker := truncated_long
  have head_long := compacted.head_long
  have tail_long := compacted.tail_long
  have sizes : maxLiveCommandOutput = 2 * liveCommandOutputEdge := rfl
  have long : maxLiveCommandOutput <
      byteLen (head ++ (liveCommandOutputTruncated ++ tail) ++ chunk) := by
    rw [byteLen_append, byteLen_append, byteLen_append]
    omega
  have filled : firstBytes (head ++ (liveCommandOutputTruncated ++ tail) ++ chunk)
      liveCommandOutputEdge = filledHead (output ++ chunk) := by
    rw [List.append_assoc, List.append_assoc, ← List.append_assoc head, firstBytes_append_of_le,
      compacted.fills, filledHead_append compacted.long]
    rw [byteLen_append]
    omega
  have kept : lastBytes (head ++ (liveCommandOutputTruncated ++ tail) ++ chunk)
      liveCommandOutputEdge = keptTail output chunk := by
    rw [List.append_assoc, List.append_assoc, compacted.lastBytes_eq]
  unfold LiveTurn.pushChunk
  rw [if_pos long, compactCommandOutput_of_lt long, filled, kept]

/-! ## The fold over the chunks -/

theorem foldl_pushChunk_of_le {chunks : List (List Char)}
    (short : byteLen chunks.flatten ≤ maxLiveCommandOutput) :
    chunks.foldl LiveTurn.pushChunk [] = chunks.flatten := by
  induction chunks using List.reverseRecOn with
  | nil => rfl
  | append_singleton chunks chunk ih =>
    rw [List.flatten_concat] at short ⊢
    have before : byteLen chunks.flatten ≤ maxLiveCommandOutput := by
      rw [byteLen_append] at short
      omega
    rw [List.foldl_concat, ih before]
    unfold LiveTurn.pushChunk
    rw [if_neg (Nat.not_lt.2 short)]

theorem foldl_pushChunk_first {chunks : List (List Char)}
    (short : byteLen chunks.flatten ≤ maxLiveCommandOutput)
    (long : maxLiveCommandOutput < byteLen (chunks.flatten ++ chunk)) :
    (chunks ++ [chunk]).foldl LiveTurn.pushChunk [] =
      firstBytes (chunks.flatten ++ chunk) liveCommandOutputEdge ++
        (liveCommandOutputTruncated ++
          lastBytes (chunks.flatten ++ chunk) liveCommandOutputEdge) := by
  rw [List.foldl_concat, foldl_pushChunk_of_le short]
  unfold LiveTurn.pushChunk
  rw [if_pos long, compactCommandOutput_of_lt long]

theorem foldl_pushChunk_compacted {chunks : List (List Char)}
    (long : maxLiveCommandOutput < byteLen chunks.flatten) :
    ∃ head tail, Compacted chunks.flatten head tail ∧
      chunks.foldl LiveTurn.pushChunk [] = head ++ (liveCommandOutputTruncated ++ tail) := by
  have sizes : maxLiveCommandOutput = 2 * liveCommandOutputEdge := rfl
  induction chunks using List.reverseRecOn with
  | nil => exact absurd long (Nat.not_lt.2 (Nat.zero_le _))
  | append_singleton chunks chunk ih =>
    rw [List.flatten_concat] at long ⊢
    by_cases before : byteLen chunks.flatten ≤ maxLiveCommandOutput
    · exact ⟨_, _, compacted_first (by omega), foldl_pushChunk_first before long⟩
    · obtain ⟨head, tail, compacted, folded⟩ := ih (Nat.not_le.1 before)
      refine ⟨_, _, compacted_later compacted.long, ?_⟩
      rw [List.foldl_concat, folded, compacted.pushChunk]

theorem foldl_pushChunk_later {chunks : List (List Char)}
    (long : maxLiveCommandOutput < byteLen chunks.flatten) :
    (chunks ++ [chunk]).foldl LiveTurn.pushChunk [] =
      filledHead (chunks.flatten ++ chunk) ++
        (liveCommandOutputTruncated ++ keptTail chunks.flatten chunk) := by
  obtain ⟨head, tail, compacted, folded⟩ := foldl_pushChunk_compacted long
  rw [List.foldl_concat, folded, compacted.pushChunk]

/-! ## When the edges are true -/

/-- The last chunk makes the tail long enough. -/
theorem exists_start_iff {received : List Char} (long : liveCommandOutputEdge ≤ byteLen received) :
    (∃ start, isCharBoundary (received ++ chunk) start = true ∧
        start + liveCommandOutputEdge ≤ byteLen (received ++ chunk) ∧
        byteLen (received ++ chunk) ≤ start + liveCommandOutputEdge + byteLen chunk) ↔
      liveCommandOutputEdge ≤
        byteLen (lastBytes received liveCommandOutputEdge) + byteLen chunk := by
  rw [byteLen_append]
  constructor
  · rintro ⟨start, boundary, fits, reaches⟩
    by_cases whole : liveCommandOutputEdge ≤ byteLen chunk
    · omega
    · have inside : isCharBoundary received start = true := by
        rcases (isCharBoundary_append received chunk start).1 boundary with inside | ⟨past, -⟩
        · exact inside
        · omega
      have stop : advance received (byteLen received - liveCommandOutputEdge) ≤ start :=
        advance_le inside (by omega)
      rw [byteLen_lastBytes]
      omega
  · intro enough
    obtain ⟨front, same⟩ := lastBytes_suffix received liveCommandOutputEdge
    have short := byteLen_lastBytes_le received liveCommandOutputEdge
    have size : byteLen received =
        byteLen front + byteLen (lastBytes received liveCommandOutputEdge) := by
      rw [← byteLen_append, same]
    refine ⟨byteLen front, ?_, by omega, by omega⟩
    rw [← same, List.append_assoc]
    exact isCharBoundary_seam _ _

theorem liveOutput_first (long : maxLiveCommandOutput < byteLen output) :
    LiveOutput output (firstBytes output liveCommandOutputEdge ++
      (liveCommandOutputTruncated ++ lastBytes output liveCommandOutputEdge)) := by
  have sizes : maxLiveCommandOutput = 2 * liveCommandOutputEdge := rfl
  have inside : liveCommandOutputEdge ≤ byteLen output := by omega
  constructor
  · intro short
    omega
  · intro _
    exact ⟨_, _, firstBytes_start _ _, lastBytes_suffix _ _, byteLen_firstBytes_slack inside,
      byteLen_firstBytes_le _ _, byteLen_lastBytes_slack inside, byteLen_lastBytes_le _ _, rfl⟩

theorem edges_unique {first last : List Char} (full : byteLen head = liveCommandOutputEdge)
    (short : byteLen first ≤ liveCommandOutputEdge)
    (long : liveCommandOutputEdge ≤ byteLen first + 3)
    (same : head ++ (liveCommandOutputTruncated ++ tail) =
      first ++ (liveCommandOutputTruncated ++ last)) : head = first ∧ tail = last := by
  have inside : first <+: head := by
    apply prefix_of_byteLen_le (List.prefix_append first _)
    · rw [← same]
      exact List.prefix_append head _
    · omega
  obtain ⟨rest, rfl⟩ := inside
  rw [List.append_assoc, List.append_cancel_left_eq] at same
  have few : rest.length ≤ 3 := by
    have := length_le_byteLen rest
    rw [byteLen_append] at full
    omega
  have nothing := truncated_rigid few same
  subst nothing
  rw [List.nil_append, List.append_cancel_left_eq] at same
  exact ⟨List.append_nil _, same⟩

theorem liveOutput_later_iff {received : List Char}
    (long : maxLiveCommandOutput < byteLen received) :
    LiveOutput (received ++ chunk) (filledHead (received ++ chunk) ++
        (liveCommandOutputTruncated ++ keptTail received chunk)) ↔
      isCharBoundary (received ++ chunk) liveCommandOutputEdge = true ∧
        liveCommandOutputEdge ≤
          byteLen (lastBytes received liveCommandOutputEdge) + byteLen chunk := by
  have sizes : maxLiveCommandOutput = 2 * liveCommandOutputEdge := rfl
  have longer : maxLiveCommandOutput < byteLen (received ++ chunk) := by
    rw [byteLen_append]
    omega
  have inside : liveCommandOutputEdge ≤ byteLen (received ++ chunk) := by omega
  constructor
  · intro kept
    obtain ⟨first, last, front, back, enough, short, -, -, same⟩ := kept.long longer
    obtain ⟨rfl, rfl⟩ := edges_unique (byteLen_filledHead inside) short enough same
    constructor
    · rw [← byteLen_filledHead inside]
      exact isCharBoundary_of_start front
    · by_contra lacks
      have filled : keptTail received chunk = filledTail (received ++ chunk) := if_neg lacks
      have window : lastBytes (received ++ chunk) liveCommandOutputEdge =
          lastBytes received liveCommandOutputEdge ++ chunk :=
        lastBytes_append_of_lt (Nat.not_le.1 lacks)
      have size := byteLen_filledTail inside
      rw [filled] at back
      have fits := byteLen_le_of_suffix (suffix_lastBytes back size.le)
      rw [window, byteLen_append, size] at fits
      exact lacks fits
  · rintro ⟨boundary, enough⟩
    have head_eq := filledHead_of_boundary inside boundary
    have tail_eq : keptTail received chunk = lastBytes (received ++ chunk) liveCommandOutputEdge :=
      if_pos enough
    rw [head_eq, tail_eq]
    exact liveOutput_first longer

theorem liveOutput_foldl_iff (chunks : List (List Char)) :
    LiveOutput chunks.flatten (chunks.foldl LiveTurn.pushChunk []) ↔ KeepsEdges chunks := by
  have sizes : maxLiveCommandOutput = 2 * liveCommandOutputEdge := rfl
  unfold KeepsEdges
  induction chunks using List.reverseRecOn with
  | nil =>
    refine iff_of_true ⟨fun _ => rfl, ?_⟩ (.inl (Nat.zero_le _))
    intro long
    exact absurd long (Nat.not_lt.2 (Nat.zero_le _))
  | append_singleton chunks chunk _ =>
    rw [List.dropLast_concat, List.getLast?_concat, Option.getD_some, List.flatten_concat]
    by_cases before : byteLen chunks.flatten ≤ maxLiveCommandOutput
    · refine iff_of_true ?_ (.inl before)
      by_cases long : maxLiveCommandOutput < byteLen (chunks.flatten ++ chunk)
      · rw [foldl_pushChunk_first before long]
        exact liveOutput_first long
      · have short : byteLen (chunks ++ [chunk]).flatten ≤ maxLiveCommandOutput := by
          rw [List.flatten_concat]
          exact Nat.not_lt.1 long
        rw [foldl_pushChunk_of_le short, List.flatten_concat]
        exact ⟨fun _ => rfl, fun over_ => absurd over_ long⟩
    · have long := Nat.not_le.1 before
      rw [foldl_pushChunk_later long, liveOutput_later_iff long, exists_start_iff (by omega),
        or_iff_right before]

/-! ## A live turn -/

/-- One byte of output after a long first chunk whose character at the end of the head has two. -/
def splitChunks (n m : ℕ) : List (List Char) := [wideOutput n m, ['b']]

theorem not_keepsEdges_splitChunks {n m : ℕ} (front : n + 1 = liveCommandOutputEdge)
    (back : m = liveCommandOutputEdge) : ¬KeepsEdges (splitChunks n m) := by
  have sizes : maxLiveCommandOutput = 2 * liveCommandOutputEdge := rfl
  have ascii : byteLen (List.replicate n 'a') = n := by
    rw [byteLen_replicate, show 'a'.utf8Size = 1 from rfl, mul_one]
  rintro (short | ⟨boundary, -⟩)
  · have first : (splitChunks n m).dropLast.flatten = wideOutput n m := List.append_nil _
    rw [first] at short
    unfold wideOutput at short
    rw [byteLen_append, byteLen_append, byteLen_replicate, byteLen_replicate, byteLen_cons,
      byteLen_nil, show 'a'.utf8Size = 1 from rfl, show 'b'.utf8Size = 1 from rfl,
      show 'é'.utf8Size = 2 from rfl] at short
    omega
  · have whole : (splitChunks n m).flatten =
        List.replicate n 'a' ++ 'é' :: (List.replicate m 'b' ++ ['b']) := by
      unfold splitChunks wideOutput
      rw [List.flatten_cons, List.flatten_singleton, List.append_assoc, List.append_assoc]
      rfl
    have inside := not_isCharBoundary_inside (List.replicate n 'a')
      (List.replicate m 'b' ++ ['b']) 'é' (k := 1) (by decide) (by decide)
    rw [ascii, front, ← whole] at inside
    exact inside boundary

/-- Chunks of output of an item, as they arrive. -/
def outputArrivals (thread : ThreadId) (turnId : TurnId) (id : ItemId)
    (chunks : List (List Char)) : List Arrival :=
  chunks.map fun chunk =>
    ⟨.itemDelta thread turnId id (.commandOutput (String.ofList chunk)), none, none⟩

theorem chunksOf_outputArrivals (thread : ThreadId) (turnId : TurnId) (id : ItemId)
    (chunks : List (List Char)) :
    chunksOf id (outputArrivals thread turnId id chunks) = chunks := by
  unfold chunksOf outputArrivals
  rw [List.filterMap_map]
  conv_rhs => rw [← List.filterMap_some (l := chunks)]
  apply List.filterMap_congr
  intro chunk _
  dsimp only [Function.comp_apply, LiveTurn.chunkOf]
  rw [if_pos rfl, String.toList_ofList]

theorem not_completes_outputArrivals {thread : ThreadId} {turnId : TurnId} {id : ItemId}
    {chunks : List (List Char)} {arrival : Arrival}
    (member : arrival ∈ outputArrivals thread turnId id chunks) :
    ¬LiveTurn.Completes id arrival.event := by
  obtain ⟨chunk, -, rfl⟩ := List.mem_map.1 member
  exact not_false

/-- What a live turn holds of an item's output, with no completion of the item since its buffer was
empty, is the output, or a true head and tail of it around the marker, exactly when the chunks keep
the edges. SOURCE: live.rs:400-405, 930-962. -/
theorem outputOf_keeps_edges_iff {turnId : TurnId} {userInput : Option UserInput}
    {before arrivals : List Arrival} {id : ItemId}
    (starts : ((LiveTurn.new turnId userInput).replay before).outputOf id = [])
    (goesOn : ∀ arrival ∈ arrivals, ¬LiveTurn.Completes id arrival.event) :
    LiveOutput (chunksOf id arrivals).flatten
        (((LiveTurn.new turnId userInput).replay (before ++ arrivals)).outputOf id) ↔
      KeepsEdges (chunksOf id arrivals) := by
  have valid := LiveTurn.Rebuilt.valid_replay (LiveTurn.valid_new turnId userInput) before
  rw [LiveTurn.replay_append, LiveTurn.outputOf_replay valid goesOn, starts]
  exact liveOutput_foldl_iff _

theorem outputOf_keeps_edges_iff_sample :
    LiveOutput (chunksOf (sampleItem 0).id (outputArrivals sampleThread sampleTurn (sampleItem 0).id
        [['a'], ['b']])).flatten
      (((LiveTurn.new sampleTurn none).replay ([] ++ outputArrivals sampleThread sampleTurn
        (sampleItem 0).id [['a'], ['b']])).outputOf (sampleItem 0).id) ↔
      KeepsEdges (chunksOf (sampleItem 0).id (outputArrivals sampleThread sampleTurn
        (sampleItem 0).id [['a'], ['b']])) :=
  outputOf_keeps_edges_iff rfl fun _ member => not_completes_outputArrivals member

/-- After 8191 one-byte characters, a two-byte one and 8192 one-byte ones, one more byte makes the
buffer's head end in a byte of the marker. -/
theorem live_head_takes_in_marker :
    ¬LiveOutput (splitChunks 8191 8192).flatten
      (((LiveTurn.new sampleTurn none).replay (outputArrivals sampleThread sampleTurn
        (sampleItem 0).id (splitChunks 8191 8192))).outputOf (sampleItem 0).id) := by
  rw [LiveTurn.outputOf_replay (LiveTurn.valid_new sampleTurn none)
    fun _ member => not_completes_outputArrivals member]
  change ¬LiveOutput _ ((chunksOf _ _).foldl LiveTurn.pushChunk [])
  rw [chunksOf_outputArrivals, liveOutput_foldl_iff]
  exact not_keepsEdges_splitChunks rfl rfl

end Analysis

end Giskard
