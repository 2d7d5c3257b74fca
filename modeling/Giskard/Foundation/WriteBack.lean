import Mathlib
import Giskard.Foundation.Schedule

/-!
# Write-back copies

A writer reads what is stored once in a session, absorbs batches of records into its copy and writes
the copy after each of them. If the read fails, the copy starts blank; if a write fails, what is
stored stays. The written values grow exactly when no session whose read failed writes before its
own records catch up with the value written last.
-/

set_option autoImplicit false

namespace Foundation

namespace WriteBack

/-- What is stored. -/
inductive Stored (V : Type) where
  | missing
  | holds (value : V)
  | unreadable
  deriving DecidableEq

/-- A session: whether its read fails, and its batches, each with whether its write fails. -/
structure Session (R : Type) where
  readFails : Bool
  batches : List (List R × Bool)

/-- What is stored, and the values written so far. -/
structure Desk (V : Type) where
  stored : Stored V
  written : List V

variable {V R : Type}

/-- What a copy starts from. -/
def Stored.start (stored : Stored V) (blank : V) (readFails : Bool) : V :=
  match stored with
  | .missing => blank
  | .holds value => if readFails then blank else value
  | .unreadable => blank

/-- What is stored after writes. -/
def Stored.after (stored : Stored V) (written : List V) : Stored V :=
  match written.getLast? with
  | some value => .holds value
  | none => stored

/-- A desk after writes. -/
def Desk.put (desk : Desk V) (written : List V) : Desk V :=
  ⟨desk.stored.after written, desk.written ++ written⟩

/-- The records of a session. -/
def Session.records (session : Session R) : List R := session.batches.flatMap Prod.fst

/-- The records up to the first write that succeeds; a batch without records writes nothing. -/
def firstSave : List (List R × Bool) → Option (List R)
  | [] => none
  | (records, fails) :: batches =>
    if fails || records.isEmpty then (firstSave batches).map (records ++ ·) else some records

variable (absorb : V → R → V) (blank : V)

/-- The values that batches write. -/
def saves : V → List (List R × Bool) → List V
  | _, [] => []
  | copy, (records, fails) :: batches =>
    let next := records.foldl absorb copy
    if fails || records.isEmpty then saves next batches else next :: saves next batches

/-- A session of the writer. -/
def step (desk : Desk V) (session : Session R) : Desk V :=
  desk.put (saves absorb (desk.stored.start blank session.readFails) session.batches)

/-- If its read fails, a session writes only what catches up with the value written last. -/
def CatchesUp [LE V] (desk : Desk V) (session : Session R) : Prop :=
  session.readFails = true → ∀ old ∈ desk.written.getLast?,
    ∀ records ∈ firstSave session.batches, old ≤ records.foldl absorb blank

/-- Values grow while there is room for the records. -/
structure Grows [LE V] (Room : V → List R → Prop) : Prop where
  absorb : ∀ value record rest, Room value (record :: rest) →
    value ≤ absorb value record ∧ Room (absorb value record) rest
  drop : ∀ value record rest, Room value (record :: rest) → Room value rest

variable {absorb blank}

/-! ## The values of a session -/

@[simp] theorem Desk.put_nil (desk : Desk V) : desk.put [] = desk := by
  unfold Desk.put Stored.after
  rw [List.append_nil]
  rfl

theorem Desk.put_cons (desk : Desk V) (value : V) (written : List V) :
    desk.put (value :: written) =
      Desk.put ⟨.holds value, desk.written ++ [value]⟩ written := by
  unfold Desk.put Stored.after
  rw [List.getLast?_cons, List.append_assoc, List.singleton_append]
  cases written.getLast? <;> rfl

theorem firstSave_cons {records : List R} {fails : Bool} {batches : List (List R × Bool)} :
    firstSave ((records, fails) :: batches) =
      if fails || records.isEmpty then (firstSave batches).map (records ++ ·) else some records :=
  rfl

theorem saves_cons {copy : V} {records : List R} {fails : Bool} {batches : List (List R × Bool)} :
    saves absorb copy ((records, fails) :: batches) =
      if fails || records.isEmpty then saves absorb (records.foldl absorb copy) batches
      else records.foldl absorb copy :: saves absorb (records.foldl absorb copy) batches := rfl

theorem head?_saves (copy : V) (batches : List (List R × Bool)) :
    (saves absorb copy batches).head? =
      (firstSave batches).map fun records => records.foldl absorb copy := by
  induction batches generalizing copy with
  | nil => rfl
  | cons batch batches ih =>
    obtain ⟨records, fails⟩ := batch
    rw [saves_cons, firstSave_cons]
    split
    · rw [ih, Option.map_map]
      congr 1
      funext more
      exact List.foldl_append.symm
    · rfl

theorem firstSave_start {batches : List (List R × Bool)} {records : List R}
    (save : firstSave batches = some records) :
    ∃ rest, batches.flatMap Prod.fst = records ++ rest := by
  induction batches generalizing records with
  | nil => cases save
  | cons batch batches ih =>
    obtain ⟨first, fails⟩ := batch
    rw [firstSave_cons] at save
    rw [List.flatMap_cons]
    split at save
    · obtain ⟨more, later, rfl⟩ := Option.map_eq_some_iff.1 save
      obtain ⟨rest, split⟩ := ih later
      exact ⟨rest, by rw [split, List.append_assoc]⟩
    · obtain rfl : first = records := Option.some.inj save
      exact ⟨_, rfl⟩

/-- If no write of records fails, the last value has absorbed all of them. -/
theorem getLast?_saves (copy : V) {batches : List (List R × Bool)}
    (saved : ∀ batch ∈ batches, batch.1 ≠ [] → batch.2 = false) :
    (saves absorb copy batches).getLast? =
      if (batches.flatMap Prod.fst).isEmpty then none
      else some ((batches.flatMap Prod.fst).foldl absorb copy) := by
  induction batches generalizing copy with
  | nil => rfl
  | cons batch batches ih =>
    obtain ⟨records, fails⟩ := batch
    have later := ih (records.foldl absorb copy) fun other member =>
      saved other (List.mem_cons_of_mem _ member)
    rw [saves_cons, List.flatMap_cons, List.foldl_append]
    cases records with
    | nil =>
      rw [List.isEmpty_nil, Bool.or_true, if_pos rfl, later]
      rfl
    | cons record records =>
      have written : fails = false := saved _ List.mem_cons_self (List.cons_ne_nil _ _)
      rw [written, List.isEmpty_cons, Bool.or_false, if_neg Bool.false_ne_true,
        List.getLast?_cons, later]
      dsimp only [List.cons_append, List.isEmpty_cons]
      rw [if_neg Bool.false_ne_true]
      split
      · next none =>
        rw [List.isEmpty_iff.1 none]
        rfl
      · rfl

theorem step_stored {desk : Desk V} {session : Session R}
    (read : session.records ≠ [] → session.readFails = false)
    (saved : ∀ batch ∈ session.batches, batch.1 ≠ [] → batch.2 = false) :
    (step absorb blank desk session).stored =
      if session.records.isEmpty then desk.stored
      else .holds (session.records.foldl absorb (desk.stored.start blank false)) := by
  unfold step Desk.put Stored.after
  dsimp only
  rw [getLast?_saves _ saved]
  change (match (if session.records.isEmpty then none else _) with
    | some value => Stored.holds value
    | none => desk.stored) = _
  split
  · next value last =>
    split at last
    · cases last
    · next some =>
      rw [if_neg some, ← Option.some.inj last,
        ← read fun none => some (List.isEmpty_iff.2 none)]
      rfl
  · next last =>
    split at last
    · next none => rw [if_pos none]
    · cases last

/-! ## Growth -/

section Growth

variable [Preorder V] {Room : V → List R → Prop}

theorem Grows.foldl (grows : Grows absorb Room) {copy : V} {records rest : List R}
    (room : Room copy (records ++ rest)) :
    copy ≤ records.foldl absorb copy ∧ Room (records.foldl absorb copy) rest := by
  induction records generalizing copy with
  | nil => exact ⟨le_rfl, room⟩
  | cons record records ih =>
    obtain ⟨more, left⟩ := grows.absorb copy record (records ++ rest) room
    obtain ⟨most, last⟩ := ih left
    exact ⟨more.trans most, last⟩

theorem Grows.drop_append (grows : Grows absorb Room) {value : V} {records rest : List R}
    (room : Room value (records ++ rest)) : Room value rest := by
  induction records with
  | nil => exact room
  | cons record records ih => exact ih (grows.drop value record _ room)

theorem saves_grow (grows : Grows absorb Room) {copy : V} {batches : List (List R × Bool)}
    {rest : List R} (room : Room copy (batches.flatMap Prod.fst ++ rest)) :
    List.IsChain (· ≤ ·) (copy :: saves absorb copy batches) ∧
      ∀ value ∈ saves absorb copy batches, Room value rest := by
  induction batches generalizing copy with
  | nil => exact ⟨List.isChain_singleton copy, fun _ member => nomatch member⟩
  | cons batch batches ih =>
    obtain ⟨records, fails⟩ := batch
    rw [List.flatMap_cons, List.append_assoc] at room
    obtain ⟨more, left⟩ := grows.foldl room
    obtain ⟨chain, roomy⟩ := ih left
    rw [saves_cons]
    split
    · refine ⟨List.isChain_cons.2 ⟨?_, (List.isChain_cons.1 chain).2⟩, roomy⟩
      exact fun value member => more.trans ((List.isChain_cons.1 chain).1 value member)
    · refine ⟨List.isChain_cons.2 ⟨?_, chain⟩, ?_⟩
      · intro value member
        obtain rfl : records.foldl absorb copy = value := Option.some.inj member
        exact more
      · intro value member
        rcases List.mem_cons.1 member with rfl | later
        · exact grows.drop_append left
        · exact roomy value later

/-- The stored value is the last one written, and there is room for records. -/
structure Sound (Room : V → List R → Prop) (blank : V) (desk : Desk V) (rest : List R) :
    Prop where
  last : ∀ value ∈ desk.written.getLast?, desk.stored = .holds value
  blank : Room blank rest
  stored : ∀ value, desk.stored = .holds value → Room value rest

omit [Preorder V] in
theorem Sound.start {desk : Desk V} {rest : List R} (sound : Sound Room blank desk rest)
    (readFails : Bool) : Room (desk.stored.start blank readFails) rest := by
  unfold Stored.start
  split
  · exact sound.blank
  · next value holds =>
    split
    · exact sound.blank
    · exact sound.stored value holds
  · exact sound.blank

theorem Sound.step (grows : Grows absorb Room) {desk : Desk V} {session : Session R}
    {rest : List R} (sound : Sound Room blank desk (session.records ++ rest)) :
    Sound Room blank (step absorb blank desk session) rest := by
  obtain ⟨-, roomy⟩ := saves_grow grows (sound.start session.readFails)
  unfold WriteBack.step Desk.put Stored.after
  refine ⟨?_, grows.drop_append sound.blank, ?_⟩
  · intro value last
    dsimp only at last ⊢
    rw [List.getLast?_append] at last
    cases new : (saves absorb (desk.stored.start blank session.readFails)
      session.batches).getLast? with
    | none =>
      rw [new, Option.none_or] at last
      exact sound.last value last
    | some written =>
      rw [new] at last
      exact congrArg Stored.holds (Option.some.inj last)
  · intro value holds
    dsimp only at holds
    split at holds
    · next written last =>
      cases holds
      exact roomy value (List.mem_of_getLast? last)
    · exact grows.drop_append (sound.stored value holds)

/-- A session goes on with growing values exactly if it catches up. -/
theorem step_grows_iff (grows : Grows absorb Room) {desk : Desk V} {session : Session R}
    {rest : List R} (sound : Sound Room blank desk (session.records ++ rest)) :
    List.IsChain (· ≤ ·) (step absorb blank desk session).written ↔
      List.IsChain (· ≤ ·) desk.written ∧ CatchesUp absorb blank desk session := by
  obtain ⟨chain, -⟩ := saves_grow grows (sound.start session.readFails)
  obtain ⟨first, new⟩ := List.isChain_cons.1 chain
  have seam : (∀ old ∈ desk.written.getLast?, ∀ value ∈ (saves absorb
      (desk.stored.start blank session.readFails) session.batches).head?, old ≤ value) ↔
      CatchesUp absorb blank desk session := by
    constructor
    · intro follows fails old last records save
      have stored := sound.last old last
      have copy : desk.stored.start blank session.readFails = blank := by
        rw [stored, fails]
        rfl
      have value := follows old last (records.foldl absorb blank)
      rw [copy, head?_saves] at value
      exact value (Option.mem_map_of_mem _ save)
    · intro catches old last value there
      have stored := sound.last old last
      cases fails : session.readFails with
      | false =>
        -- the copy started from the value written last
        have copy : desk.stored.start blank session.readFails = old := by
          rw [stored, fails]
          rfl
        rw [copy] at first there
        exact first value there
      | true =>
        have copy : desk.stored.start blank session.readFails = blank := by
          rw [stored, fails]
          rfl
        rw [copy, head?_saves] at there
        obtain ⟨records, save, rfl⟩ := Option.mem_map.1 there
        exact catches fails old last records save
  change List.IsChain _ (desk.written ++ _) ↔ _
  rw [List.isChain_append, seam]
  exact ⟨fun ⟨old, _, catches⟩ => ⟨old, catches⟩, fun ⟨old, catches⟩ => ⟨old, new, catches⟩⟩

theorem run_grows_iff (grows : Grows absorb Room) {desk : Desk V} {sessions : List (Session R)}
    (sound : Sound Room blank desk (sessions.flatMap Session.records)) :
    List.IsChain (· ≤ ·) (Schedule.run (step absorb blank) desk sessions).written ↔
      List.IsChain (· ≤ ·) desk.written ∧
        Schedule.Meets (step absorb blank) (CatchesUp absorb blank) desk sessions := by
  induction sessions generalizing desk with
  | nil => exact ⟨fun chain => ⟨chain, trivial⟩, And.left⟩
  | cons session sessions ih =>
    rw [List.flatMap_cons] at sound
    rw [Schedule.run_cons, ih (sound.step grows), step_grows_iff grows sound, Schedule.Meets,
      and_assoc]

end Growth

end WriteBack

end Foundation
