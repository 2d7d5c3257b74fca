import Mathlib
import Giskard.Foundation.WriteBack
import Giskard.Model.LedgerActor
import Giskard.Analysis.TokenLedgers

/-!
# The history of a ledger

For each file the ledger actor is a writer with a write-back copy: a run is a session over the
records of that file. Adding usage makes no part of a ledger smaller while the sums fit in 64 bits,
so what is recorded stays recorded as long as no run that could not read a file replaces it by less.
-/

set_option autoImplicit false

namespace Giskard

open Foundation Foundation.Buckets Foundation.WriteBack

/-! ## The parts of a ledger -/

/-- A usage that a ledger keeps. -/
inductive LedgerPart where
  | total
  | model (provider model : String)
  | unattributed
  | day (date : String)

/-- What a ledger keeps under a part; an entry that is not there is zero. -/
def DailyTokenLedger.part (ledger : DailyTokenLedger) : LedgerPart → TokenUsage
  | .total => ledger.total
  | .model provider model => bucket (bucket ledger.byModel ∅ provider) .zero model
  | .unattributed => ledger.unattributed
  | .day date => bucket ledger.byDay .zero date

/-- Whether a call adds to a part. -/
def UsageCall.touches (call : UsageCall) : LedgerPart → Bool
  | .total => true
  | .model provider model => call.model = some (provider, model)
  | .unattributed => call.model = none
  | .day date => call.date = date

/-- No part of a ledger has less than in an earlier one. -/
def DailyTokenLedger.AtMost (old new : DailyTokenLedger) : Prop :=
  ∀ part kind, (old.part part).count kind ≤ (new.part part).count kind

instance : Preorder DailyTokenLedger where
  le := DailyTokenLedger.AtMost
  le_refl _ _ _ := le_rfl
  le_trans _ _ _ more most part kind := (more part kind).trans (most part kind)

namespace Analysis

/-- What calls add to a count of a part. -/
def partCount (part : LedgerPart) (kind : TokenKind) (calls : List UsageCall) : ℕ :=
  ((calls.filter fun call => call.touches part).map fun call => call.usage.count kind).sum

/-- The sums of a ledger and calls fit in 64 bits. -/
def Fits (ledger : DailyTokenLedger) (calls : List UsageCall) : Prop :=
  ∀ part kind, (ledger.part part).count kind + partCount part kind calls < 2 ^ 64

/-! ## The runs of a file -/

/-- The records that arrive before a shutdown. -/
def receivedRecords : List LedgerMsg → List LedgerRecord
  | [] => []
  | .record rec :: queued => rec :: receivedRecords queued
  | .shutdown :: _ => []

/-- Whether a shutdown arrives. -/
def shutsDown : List LedgerMsg → Bool
  | [] => false
  | .record _ :: queued => shutsDown queued
  | .shutdown :: _ => true

/-- The batches of records of a run, each with the wake it came with. -/
def batchesOf : List Wake → List (List LedgerRecord × Wake)
  | [] => []
  | wake :: wakes =>
    match wake.first with
    | .shutdown => []
    | .record first =>
      (first :: receivedRecords wake.queued, wake) ::
        if shutsDown wake.queued then [] else batchesOf wakes

/-- Whether a record goes into a file. -/
def goesInto (file : LedgerFile) (rec : LedgerRecord) : Bool :=
  match file with
  | .global => true
  | .project id => rec.project = id

/-- The calls of the records that go into a file. -/
def callsOf (file : LedgerFile) (records : List LedgerRecord) : List UsageCall :=
  (records.filter (goesInto file)).map (·.toUsageCall)

/-- The fault of a write of a file. -/
def writeFault (wake : Wake) : LedgerFile → Option WriteStep
  | .global => wake.globalFault
  | .project id => wake.projectFault id

/-- Whether a read of a file fails. -/
def readFault (run : ActorRun) : LedgerFile → Bool
  | .global => run.globalReadFault
  | .project id => run.projectReadFault id

/-- The batches of a file, each with whether its write fails. -/
def batchesFor (file : LedgerFile) (wakes : List Wake) : List (List UsageCall × Bool) :=
  (batchesOf wakes).map fun batch => (callsOf file batch.1, (writeFault batch.2 file).isSome)

/-- What a run is for a file. -/
def session (file : LedgerFile) (run : ActorRun) : Session UsageCall :=
  ⟨readFault run file, batchesFor file run.wakes⟩

/-- The ledgers written to a file. -/
def writesOf (store : TokenStore) (file : LedgerFile) : List DailyTokenLedger :=
  (store.written.filter fun write => write.1 = file).map Prod.snd

/-- What the store has of a file. -/
def desk (store : TokenStore) (file : LedgerFile) : Desk DailyTokenLedger :=
  ⟨store.files file, writesOf store file⟩

/-- The actor's copy of a file, or what it would read. -/
def copyOf (fault : ProjectId → Bool) (actor : LedgerActor) : LedgerFile → DailyTokenLedger
  | .global => actor.global
  | .project id => match actor.projects id with
    | some ledger => ledger
    | none => hydrate (loadProjectTokens actor.store id (fault id))

variable {fault : ProjectId → Bool} {actor : LedgerActor} {dirty : List ProjectId}
  {file : LedgerFile}

theorem callsOf_append (records more : List LedgerRecord) :
    callsOf file (records ++ more) = callsOf file records ++ callsOf file more := by
  unfold callsOf
  rw [List.filter_append, List.map_append]

theorem hydrate_readJson (stored : TokenFile) (readFails : Bool) :
    hydrate (readJson stored readFails) = stored.start .empty readFails := by
  unfold readJson
  cases readFails <;> cases stored <;> rfl

/-- The actor absorbed records: the copies have them, the projects of the records have become dirty
and have copies, and nothing was written. -/
structure Absorbed (fault : ProjectId → Bool) (before : LedgerActor) (dirty : List ProjectId)
    (records : List LedgerRecord) (after : LedgerActor) (dirty' : List ProjectId) : Prop where
  store : after.store = before.store
  copy : ∀ file, copyOf fault after file =
    (callsOf file records).foldl DailyTokenLedger.apply (copyOf fault before file)
  nodup : dirty.Nodup → dirty'.Nodup
  touched : ∀ id, id ∈ dirty' ↔ id ∈ dirty ∨ ∃ rec ∈ records, rec.project = id
  owned : ∀ id, (after.projects id).isSome ↔
    (before.projects id).isSome ∨ ∃ rec ∈ records, rec.project = id

theorem absorbed_nil : Absorbed fault actor dirty [] actor dirty where
  store := rfl
  copy _ := rfl
  touched _ := by simp
  nodup := id
  owned _ := by simp

theorem absorbed_cons {before after : LedgerActor} {dirty' dirty'' : List ProjectId}
    {rec : LedgerRecord} {records : List LedgerRecord}
    (one : Absorbed fault before dirty [rec] actor dirty')
    (more : Absorbed fault actor dirty' records after dirty'') :
    Absorbed fault before dirty (rec :: records) after dirty'' where
  store := more.store.trans one.store
  copy file := by
    rw [more.copy, one.copy, ← List.foldl_append, ← callsOf_append]
    rfl
  touched id := by
    rw [more.touched, one.touched, or_assoc]
    simp
  nodup distinct := more.nodup (one.nodup distinct)
  owned id := by
    rw [more.owned, one.owned, or_assoc]
    simp

theorem absorbed_apply (rec : LedgerRecord) :
    Absorbed fault actor dirty [rec] (actor.apply fault dirty rec).1
      (actor.apply fault dirty rec).2 where
  store := rfl
  copy file := by
    unfold LedgerActor.apply copyOf
    cases file with
    | global => rfl
    | project id =>
      dsimp only
      by_cases same : rec.project = id
      · subst same
        have calls : callsOf (.project rec.project) [rec] = [rec.toUsageCall] := by
          simp [callsOf, goesInto]
        rw [Function.update_self, calls]
        rfl
      · have calls : callsOf (.project id) [rec] = [] := by
          simp [callsOf, goesInto, same]
        rw [Function.update_of_ne (Ne.symm same), calls]
        rfl
  touched id := by
    change id ∈ dirty.insert rec.project ↔ _
    rw [List.mem_insert_iff]
    simp [or_comm, eq_comm]
  nodup := List.Nodup.insert
  owned id := by
    unfold LedgerActor.apply
    dsimp only
    by_cases same : rec.project = id
    · subst same
      simp
    · rw [Function.update_of_ne (Ne.symm same)]
      simp [same]

theorem absorbed_drain (queued : List LedgerMsg) :
    Absorbed fault actor dirty (receivedRecords queued) (actor.drain fault dirty queued).1
      (actor.drain fault dirty queued).2.1 := by
  induction queued generalizing actor dirty with
  | nil => exact absorbed_nil
  | cons message queued ih =>
    cases message with
    | record rec => exact absorbed_cons (absorbed_apply rec) ih
    | shutdown => exact absorbed_nil

theorem drain_stops (queued : List LedgerMsg) :
    (actor.drain fault dirty queued).2.2 = shutsDown queued := by
  induction queued generalizing actor dirty with
  | nil => rfl
  | cons message queued ih =>
    cases message with
    | record rec => exact ih
    | shutdown => rfl

/-! ## Writing -/

theorem desk_atomicWriteJson {store : TokenStore} {path : LedgerFile} {ledger : DailyTokenLedger}
    {fault : Option WriteStep} :
    desk (atomicWriteJson store path ledger fault).1 file =
      if file = path ∧ fault = none then ⟨.holds ledger, writesOf store file ++ [ledger]⟩
      else desk store file := by
  unfold atomicWriteJson desk writesOf
  cases fault with
  | some step => simp
  | none =>
    by_cases same : file = path
    · subst same
      simp
    · simp [same, Ne.symm same]

theorem desk_saveProjects {projects : ProjectId → Option DailyTokenLedger}
    {faults : ProjectId → Option WriteStep} (dirty : List ProjectId) (nodup : dirty.Nodup)
    (owned : ∀ id ∈ dirty, (projects id).isSome) (store : TokenStore) :
    desk (dirty.foldl (fun store pid => match projects pid with
        | some ledger => (saveProjectTokens store pid ledger (faults pid)).1
        | none => store) store) file =
      match file with
      | .global => desk store .global
      | .project id => match projects id with
        | some ledger =>
          if id ∈ dirty ∧ faults id = none then
            ⟨.holds ledger, writesOf store (.project id) ++ [ledger]⟩
          else desk store (.project id)
        | none => desk store (.project id) := by
  induction dirty generalizing store with
  | nil =>
    rw [List.foldl_nil]
    cases file with
    | global => rfl
    | project id =>
      dsimp only
      split
      · rw [if_neg fun both => nomatch both.1]
      · rfl
  | cons pid dirty ih =>
    obtain ⟨apart, distinct⟩ := List.nodup_cons.1 nodup
    obtain ⟨ledger, there⟩ := Option.isSome_iff_exists.1 (owned pid List.mem_cons_self)
    rw [List.foldl_cons, ih distinct fun id member => owned id (List.mem_cons_of_mem _ member),
      there]
    dsimp only [saveProjectTokens]
    have written (other : LedgerFile) :=
      @desk_atomicWriteJson other store (.project pid) ledger (faults pid)
    cases file with
    | global =>
      dsimp only
      rw [written, if_neg fun both => nomatch both.1]
    | project id =>
      dsimp only
      by_cases same : id = pid
      · subst same
        rw [there]
        dsimp only
        rw [if_neg fun both => apart both.1, written]
        simp
      · have other : ¬ (LedgerFile.project id = .project pid ∧ faults pid = none) :=
          fun both => same (LedgerFile.project.inj both.1)
        have unchanged := written (.project id)
        rw [if_neg other] at unchanged
        have writes : writesOf (atomicWriteJson store (.project pid) ledger (faults pid)).1
            (.project id) = writesOf store (.project id) := congrArg Desk.written unchanged
        rw [unchanged, writes]
        simp [List.mem_cons, same]

theorem touched_iff {id : ProjectId} {records : List LedgerRecord} :
    (∃ rec ∈ records, rec.project = id) ↔ callsOf (.project id) records ≠ [] := by
  unfold callsOf
  rw [Ne, List.map_eq_nil_iff, List.filter_eq_nil_iff]
  simp [goesInto]

/-- A batch writes a file's copy if the batch has records of the file and the write succeeds, and
leaves the copies. -/
theorem flush_batch {after : LedgerActor} {records : List LedgerRecord} {wake : Wake}
    (some : records ≠ []) (absorbed : Absorbed fault actor [] records after dirty) :
    (desk (after.flush wake dirty).store file =
      if (writeFault wake file).isSome || (callsOf file records).isEmpty then desk actor.store file
      else ⟨.holds (copyOf fault after file),
        writesOf actor.store file ++ [copyOf fault after file]⟩) ∧
    copyOf fault (after.flush wake dirty) file = copyOf fault after file := by
  have owned : ∀ id ∈ dirty, (after.projects id).isSome := by
    intro id member
    rcases (absorbed.touched id).1 member with member | touched
    · cases member
    · exact (absorbed.owned id).2 (Or.inr touched)
  have saved := @desk_saveProjects file after.projects wake.projectFault dirty
    (absorbed.nodup List.nodup_nil) owned
    (saveGlobalTokens after.store after.global wake.globalFault).1
  have first (other : LedgerFile) :=
    @desk_atomicWriteJson other after.store .global after.global wake.globalFault
  rw [absorbed.store] at first
  change desk (after.flush wake dirty).store file = _ at saved
  unfold saveGlobalTokens at saved
  rw [saved]
  cases file with
  | global =>
    have calls : (callsOf .global records).isEmpty = false := by
      cases records with
      | nil => exact absurd rfl some
      | cons rec records => rfl
    refine ⟨?_, rfl⟩
    rw [calls, Bool.or_false, absorbed.store]
    dsimp only
    rw [first]
    unfold writeFault copyOf
    cases wake.globalFault with
    | none => rfl
    | some step => rfl
  | project id =>
    have unchanged := first (.project id)
    rw [if_neg fun both => nomatch both.1] at unchanged
    have writes : writesOf (atomicWriteJson actor.store .global after.global wake.globalFault).1
        (.project id) = writesOf actor.store (.project id) := congrArg Desk.written unchanged
    have member : id ∈ dirty ↔ (callsOf (.project id) records).isEmpty = false := by
      rw [absorbed.touched, touched_iff, Ne, ← List.isEmpty_iff, Bool.not_eq_true]
      simp
    rw [absorbed.store] at saved ⊢
    dsimp only at saved ⊢
    cases there : after.projects id with
    | some ledger =>
      have copy : copyOf fault after (.project id) = ledger := by
        unfold copyOf
        dsimp only
        rw [there]
      refine ⟨?_, ?_⟩
      · dsimp only
        rw [unchanged, writes, copy]
        by_cases inside : id ∈ dirty
        · rw [member.1 inside, Bool.or_false]
          have same : writeFault wake (.project id) = wake.projectFault id := rfl
          rw [same]
          cases fails : wake.projectFault id with
          | none => exact if_pos ⟨inside, rfl⟩
          | some step => exact if_neg fun both => nomatch both.2
        · have empty : (callsOf (.project id) records).isEmpty = true := by
            rw [member, Bool.not_eq_false] at inside
            exact inside
          rw [empty, Bool.or_true, if_pos rfl]
          exact if_neg fun both => inside both.1
      · rw [copy]
        unfold copyOf LedgerActor.flush
        dsimp only
        rw [there]
    | none =>
      rw [there] at saved
      dsimp only at saved ⊢
      have untouched : (callsOf (.project id) records).isEmpty = true := by
        cases empty : (callsOf (.project id) records).isEmpty with
        | true => rfl
        | false =>
          have owner := owned id (member.2 empty)
          rw [there] at owner
          cases owner
      refine ⟨?_, ?_⟩
      · rw [untouched, Bool.or_true, if_pos rfl, unchanged]
      · have same : (after.flush wake dirty).store.files (.project id) =
            actor.store.files (.project id) := congrArg Desk.stored (saved.trans unchanged)
        have copies : (after.flush wake dirty).projects = after.projects := rfl
        unfold copyOf loadProjectTokens
        dsimp only
        rw [copies, there, same, absorbed.store]

/-! ## A run is a session -/

theorem batchesFor_record {wake : Wake} {first : LedgerRecord} (starts : wake.first = .record first)
    (wakes : List Wake) : batchesFor file (wake :: wakes) =
      (callsOf file (first :: receivedRecords wake.queued), (writeFault wake file).isSome) ::
        if shutsDown wake.queued then [] else batchesFor file wakes := by
  unfold batchesFor
  rw [batchesOf, starts]
  dsimp only
  rw [List.map_cons]
  split <;> rfl

theorem desk_loop (wakes : List Wake) :
    desk (actor.loop fault wakes).store file = (desk actor.store file).put
      (saves DailyTokenLedger.apply (copyOf fault actor file) (batchesFor file wakes)) := by
  induction wakes generalizing actor with
  | nil => exact (Desk.put_nil _).symm
  | cons wake wakes ih =>
    cases starts : wake.first with
    | shutdown =>
      have none : batchesFor file (wake :: wakes) = [] := by
        unfold batchesFor
        rw [batchesOf, starts]
        rfl
      rw [none, LedgerActor.loop, starts]
      exact (Desk.put_nil _).symm
    | record first =>
      let applied := actor.apply fault [] first
      have absorbed := absorbed_cons (@absorbed_apply fault actor [] first)
        (@absorbed_drain fault applied.1 applied.2 wake.queued)
      have stops := @drain_stops fault applied.1 applied.2 wake.queued
      rw [batchesFor_record starts, saves_cons, LedgerActor.loop, starts]
      dsimp only
      cases drained : applied.1.drain fault applied.2 wake.queued with
      | mk after rest =>
        obtain ⟨dirty, stopped⟩ := rest
        rw [drained] at absorbed stops
        obtain ⟨written, kept⟩ := @flush_batch fault actor dirty file after _ wake
          (List.cons_ne_nil _ _) absorbed
        have next (values : List DailyTokenLedger) :
            (desk (after.flush wake dirty).store file).put values = (desk actor.store file).put
              (if (writeFault wake file).isSome ||
                (callsOf file (first :: receivedRecords wake.queued)).isEmpty then values
              else copyOf fault after file :: values) := by
          rw [written]
          split
          · rfl
          · rw [Desk.put_cons]
            rfl
        rw [← absorbed.copy, ← next, ← stops]
        cases stopped with
        | true => exact (Desk.put_nil _).symm
        | false =>
          rw [if_neg Bool.false_ne_true, ← kept]
          exact ih

theorem desk_runActor (store : TokenStore) (run : ActorRun) :
    desk (runActor store run) file =
      WriteBack.step DailyTokenLedger.apply .empty (desk store file) (session file run) := by
  unfold runActor WriteBack.step
  rw [desk_loop]
  congr 2
  unfold copyOf session readFault desk
  cases file with
  | global => exact hydrate_readJson _ _
  | project id => exact hydrate_readJson _ _

/-! ## Adding to a part -/

variable {ledger : DailyTokenLedger} {call : UsageCall} {calls : List UsageCall}
  {part : LedgerPart} {kind : TokenKind}

theorem part_apply : (ledger.apply call).part part =
    if call.touches part then (ledger.part part).add call.usage else ledger.part part := by
  unfold DailyTokenLedger.apply UsageCall.touches DailyTokenLedger.part
  cases part with
  | total => cases call.model <;> rfl
  | unattributed => cases call.model <;> rfl
  | day date =>
    have days : bucket (UsageTable.bump ledger.byDay call.date call.usage) .zero date =
        if decide (call.date = date) = true then (bucket ledger.byDay .zero date).add call.usage
        else bucket ledger.byDay .zero date := by
      rw [bump_eq, bucket_modify]
      by_cases same : date = call.date
      · rw [if_pos same, if_pos (decide_eq_true same.symm), same]
      · rw [if_neg same, if_neg fun equal => same (of_decide_eq_true equal).symm]
    cases call.model <;> exact days
  | model provider model =>
    cases named : call.model with
    | none => rfl
    | some other =>
      obtain ⟨provider', model'⟩ := other
      change bucket (bucket (ByModel.record ledger.byModel provider' model' call.usage) ∅ provider)
        .zero model = if decide (some (provider', model') = some (provider, model)) = true then _
          else _
      rw [record_eq, bucket_modify]
      by_cases same : provider = provider'
      · subst same
        rw [if_pos rfl, bump_eq, bucket_modify]
        by_cases same : model = model'
        · subst same
          rw [if_pos rfl, decide_eq_true rfl, if_pos rfl]
        · rw [if_neg same, if_neg]
          simp [Ne.symm same]
      · rw [if_neg same, if_neg]
        simp [Ne.symm same]

theorem partCount_cons : partCount part kind (call :: calls) =
    (if call.touches part then call.usage.count kind else 0) + partCount part kind calls := by
  unfold partCount
  rw [List.filter_cons]
  split
  · rw [List.map_cons, List.sum_cons]
  · rw [Nat.zero_add]

theorem partCount_append (more : List UsageCall) : partCount part kind (calls ++ more) =
    partCount part kind calls + partCount part kind more := by
  unfold partCount
  rw [List.filter_append, List.map_append, List.sum_append]

theorem count_part_apply (fits : Fits ledger (call :: calls)) :
    ((ledger.apply call).part part).count kind = (ledger.part part).count kind +
      if call.touches part then call.usage.count kind else 0 := by
  have room := fits part kind
  rw [partCount_cons] at room
  rw [part_apply]
  split
  · next touched =>
    rw [if_pos touched] at room
    exact count_add (by omega)
  · rw [Nat.add_zero]

theorem grows_apply : Grows DailyTokenLedger.apply Fits where
  absorb ledger call calls fits := by
    constructor
    · intro part kind
      rw [count_part_apply fits]
      exact Nat.le_add_right _ _
    · intro part kind
      have room := fits part kind
      rw [partCount_cons, ← Nat.add_assoc] at room
      rw [count_part_apply fits]
      exact room
  drop ledger call calls fits part kind := by
    have room := fits part kind
    rw [partCount_cons] at room
    omega

@[simp] theorem count_part_empty : (DailyTokenLedger.empty.part part).count kind = 0 := by
  cases part <;> exact count_zero

theorem count_part_foldl (fits : Fits ledger calls) :
    ((calls.foldl DailyTokenLedger.apply ledger).part part).count kind =
      (ledger.part part).count kind + partCount part kind calls := by
  induction calls generalizing ledger with
  | nil => rfl
  | cons call calls ih =>
    rw [List.foldl_cons, ih (grows_apply.absorb ledger call calls fits).2, count_part_apply fits,
      partCount_cons, Nat.add_assoc]

/-! ## What is recorded stays recorded -/

/-- The calls of the records that a run receives for a file. -/
def receivedCalls (file : LedgerFile) (run : ActorRun) : List UsageCall :=
  (session file run).records

/-- After a run whose read of a file and whose writes of it succeed, the file has what it had with
exactly the received records folded in. -/
def Folds (file : LedgerFile) (store : TokenStore) (run : ActorRun) : Prop :=
  ∀ loaded, (receivedCalls file run ≠ [] →
      readJson (store.files file) (readFault run file) = .ok loaded) →
    (∀ batch ∈ batchesOf run.wakes, callsOf file batch.1 ≠ [] → writeFault batch.2 file = none) →
    (runActor store run).files file =
      if (receivedCalls file run).isEmpty then store.files file
      else .holds ((receivedCalls file run).foldl DailyTokenLedger.apply (loaded.getD .empty))

/-- If a run cannot read a file that was written before, then the records it received for the file
up to its first successful write reach every count of the ledger written last. -/
def Recovers (file : LedgerFile) (store : TokenStore) (run : ActorRun) : Prop :=
  readFault run file = true → ∀ old ∈ (writesOf store file).getLast?,
    ∀ calls ∈ firstSave (batchesFor file run.wakes),
      ∀ part kind, (old.part part).count kind ≤ partCount part kind calls

theorem folds (file : LedgerFile) (store : TokenStore) (run : ActorRun) : Folds file store run := by
  intro loaded read saved
  have success (some : receivedCalls file run ≠ []) : readFault run file = false := by
    have read := read some
    unfold readJson at read
    split at read
    · cases read
    · next fine => exact Bool.eq_false_of_not_eq_true fine
  have stored := congrArg Desk.stored (@desk_runActor file store run)
  rw [step_stored success ?_] at stored
  · refine stored.trans ?_
    change (if (receivedCalls file run).isEmpty then _ else _) = _
    split
    · rfl
    · next some =>
      have some : receivedCalls file run ≠ [] := fun none => some (List.isEmpty_iff.2 none)
      have start := hydrate_readJson (store.files file) (readFault run file)
      rw [read some, success some] at start
      change Stored.holds (List.foldl _ (Stored.start (store.files file) .empty false) _) = _
      rw [← start]
      cases loaded <;> rfl
  · intro batch member some
    obtain ⟨origin, inside, rfl⟩ := List.mem_map.1 member
    dsimp only at some ⊢
    rw [saved origin inside some]
    rfl

theorem catchesUp_iff {store : TokenStore} {run : ActorRun}
    (fits : Fits .empty (receivedCalls file run)) :
    CatchesUp DailyTokenLedger.apply .empty (desk store file) (session file run) ↔
      Recovers file store run := by
  have count (calls : List UsageCall) (save : calls ∈ firstSave (batchesFor file run.wakes))
      (part : LedgerPart) (kind : TokenKind) :
      ((calls.foldl DailyTokenLedger.apply .empty).part part).count kind =
        partCount part kind calls := by
    obtain ⟨rest, split⟩ := firstSave_start save
    rw [count_part_foldl, count_part_empty, Nat.zero_add]
    intro part kind
    have room := fits part kind
    unfold receivedCalls Session.records session at room
    rw [split, partCount_append] at room
    omega
  constructor
  · intro catches fails old last calls save part kind
    rw [← count calls save]
    exact catches fails old last calls save part kind
  · intro recovers fails old last calls save part kind
    rw [count calls save]
    exact recovers fails old last calls save part kind

/-- Over any runs of the actor whose sums fit in 64 bits, exactly if every run recovers: no write of
a file has less in a part than the write before it, and each run that reads and writes a file
without a fault folds exactly its records into it. SOURCE: ledger.rs:136-227. -/
theorem recorded_usage_kept_iff (files : LedgerFile → TokenFile) (runs : List ActorRun)
    (fits : ∀ file, Fits ((files file).start .empty false) (runs.flatMap (receivedCalls file))) :
    ((∀ file, List.IsChain DailyTokenLedger.AtMost
        (writesOf (Schedule.run runActor (.opened files) runs) file)) ∧
      Schedule.Meets runActor (fun store run => ∀ file, Folds file store run)
        (.opened files) runs) ↔
      Schedule.Meets runActor (fun store run => ∀ file, Recovers file store run)
        (.opened files) runs := by
  have room (file : LedgerFile) : Fits .empty (runs.flatMap (receivedCalls file)) := by
    intro part kind
    have room := fits file part kind
    rw [count_part_empty]
    omega
  have roomOf (file : LedgerFile) (run : ActorRun) (member : run ∈ runs) :
      Fits .empty (receivedCalls file run) := by
    intro part kind
    have room := room file part kind
    obtain ⟨before, after, split⟩ := List.append_of_mem member
    rw [split, List.flatMap_append, List.flatMap_cons, partCount_append, partCount_append] at room
    omega
  rw [and_iff_left (Schedule.meets_of_forall (fun store run file => folds file store run) _ _),
    Schedule.meets_forall]
  apply forall_congr'
  intro file
  have follows (store : TokenStore) (run : ActorRun) := @desk_runActor file store run
  have sound : Sound Fits DailyTokenLedger.empty (desk (.opened files) file)
      ((runs.map (session file)).flatMap Session.records) := by
    rw [List.flatMap_map]
    refine ⟨fun _ last => (nomatch last), room file, ?_⟩
    intro ledger holds part kind
    have room := fits file part kind
    rw [show files file = .holds ledger from holds] at room
    exact room
  have iff := run_grows_iff grows_apply sound
  have none : List.IsChain (· ≤ ·) (desk (.opened files) file).written := List.isChain_nil
  rw [← Schedule.view_run (fun store => desk store file) follows, and_iff_right none,
    ← Schedule.meets_view (fun store => desk store file) follows] at iff
  refine iff.trans (Schedule.meets_congr ?_)
  intro store run member
  exact catchesUp_iff (roomOf file run member)

/-! ## A failed read -/

/-- A record without a model. -/
def sampleRecord (usage : TokenUsage) : LedgerRecord := ⟨⟨"2026-08-26", none, usage⟩, ⟨⟨1⟩⟩⟩

/-- A run that receives one record and whose writes succeed. -/
def sampleRun (globalReadFault : Bool) (usage : TokenUsage) : ActorRun :=
  ⟨globalReadFault, fun _ => false, [⟨.record (sampleRecord usage), [], none, fun _ => none⟩]⟩

theorem partCount_le (calls : List UsageCall) :
    partCount part kind calls ≤ callCount kind calls := by
  induction calls with
  | nil => exact le_rfl
  | cons call calls ih =>
    unfold callCount at ih ⊢
    rw [partCount_cons, List.map_cons, List.sum_cons]
    split <;> omega

theorem fits_sampleRuns {first second : TokenUsage} (one two : Bool)
    (small : ∀ kind, first.count kind + second.count kind < 2 ^ 64) (file : LedgerFile) :
    Fits .empty ([sampleRun one first, sampleRun two second].flatMap (receivedCalls file)) := by
  have received (fails : Bool) (usage : TokenUsage) : receivedCalls file (sampleRun fails usage) =
      callsOf file [sampleRecord usage] := by
    change [callsOf file [sampleRecord usage]].flatten = _
    rw [List.flatten_singleton]
  have bound (usage : TokenUsage) (kind : TokenKind) :
      callCount kind (callsOf file [sampleRecord usage]) ≤ usage.count kind := by
    unfold callsOf callCount
    rw [List.filter_singleton]
    cases goesInto file (sampleRecord usage) with
    | false => exact Nat.zero_le _
    | true => exact le_rfl
  intro part kind
  rw [List.flatMap_cons, List.flatMap_singleton, received, received, partCount_append,
    count_part_empty]
  have first := (@partCount_le part kind (callsOf file [sampleRecord first])).trans (bound _ kind)
  have second := (@partCount_le part kind (callsOf file [sampleRecord second])).trans (bound _ kind)
  have small := small kind
  omega

theorem recorded_usage_kept_iff_sample :
    ((∀ file, List.IsChain DailyTokenLedger.AtMost (writesOf (Schedule.run runActor
        (.opened fun _ => .missing) [sampleRun false ⟨12, 3, 15⟩, sampleRun false ⟨1, 1, 2⟩]) file)) ∧
      Schedule.Meets runActor (fun store run => ∀ file, Folds file store run)
        (.opened fun _ => .missing) [sampleRun false ⟨12, 3, 15⟩, sampleRun false ⟨1, 1, 2⟩]) ↔
      Schedule.Meets runActor (fun store run => ∀ file, Recovers file store run)
        (.opened fun _ => .missing) [sampleRun false ⟨12, 3, 15⟩, sampleRun false ⟨1, 1, 2⟩] :=
  recorded_usage_kept_iff _ _
    (fits_sampleRuns false false fun kind => by cases kind <;> decide)

/-- Once a run cannot read the global file, its first write replaces the history by its own
record. -/
theorem failed_read_erases_usage :
    (∀ file, Fits .empty ([sampleRun false ⟨12, 3, 15⟩, sampleRun true ⟨1, 1, 2⟩].flatMap
      (receivedCalls file))) ∧
    ¬ ∀ file, List.IsChain DailyTokenLedger.AtMost (writesOf (Schedule.run runActor
      (.opened fun _ => .missing) [sampleRun false ⟨12, 3, 15⟩, sampleRun true ⟨1, 1, 2⟩]) file) := by
  refine ⟨fits_sampleRuns false true fun kind => by cases kind <;> decide, ?_⟩
  intro kept
  have less := (List.isChain_pair.1 (kept .global)) .total .input
  revert less
  decide +kernel

end Analysis

end Giskard
