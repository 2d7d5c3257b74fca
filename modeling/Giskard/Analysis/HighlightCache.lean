import Mathlib
import Giskard.Foundation.Schedule
import Giskard.Model.Highlighter

/-!
# The cache of the highlighter

A run is a list of requests, each with what the file system answers it, so that files change
between requests in any way. A store appends an entry without looking for one of the same file: a
file that is stored again while its older entry stays in the cache has two entries from then on, and
lookups find the older one.
-/

set_option autoImplicit false

namespace Giskard

open Foundation

namespace Analysis

/-- A request of the overlay, with the answers of the file system. -/
structure HighlightRequest where
  files : FileAnswers
  path : List Char
  start : Option ℕ
  stop : Option ℕ

section

variable (env : HighlightEnv)

/-- The answer to a request, and the highlighter after it. -/
def answer (self : Highlighter) (request : HighlightRequest) : Highlighter.Answer × Highlighter :=
  self.highlightFile env request.files request.path request.start request.stop

def serve (self : Highlighter) (request : HighlightRequest) : Highlighter :=
  (answer env self request).2

/-- The highlighter after a list of requests. -/
def served (self : Highlighter) (requests : List HighlightRequest) : Highlighter :=
  Schedule.run (serve env) self requests

/-- What a request reads, highlights and stores. -/
def Stores (self : Highlighter) (request : HighlightRequest) (mtime : ℤ)
    (cached : CachedHighlight) : Prop :=
  ∃ len, request.files.metadata request.path = .ok ⟨.ok mtime, len⟩ ∧ len ≤ self.maxSize ∧
    self.lookup request.path mtime = none ∧
    readHighlight env request.files request.path len = .ok cached

/-- A request stores a file of which an older entry stays in the cache. -/
def Supersedes (self : Highlighter) (request : HighlightRequest) : Prop :=
  (∃ mtime cached, Stores env self request mtime cached) ∧
    request.path ∈ (AgeCache.evict maxCacheEntries self.cache).map Prod.fst

/-- The cache keeps one current entry per file: no two for a path, at most 128, and a file that was
stored is answered from the cache until it changes or 128 other files are requested. -/
structure CacheCurrent (start : Highlighter) (requests : List HighlightRequest) : Prop where
  single : ∀ done, done <+: requests → ((served env start done).cache.map Prod.fst).Nodup
  bounded : ∀ done, done <+: requests → (served env start done).cache.length ≤ 128
  answers : ∀ before stored between again mtime cached,
    before ++ stored :: (between ++ [again]) <+: requests →
    Stores env (served env start before) stored mtime cached →
    stored.path = again.path →
    (∀ request ∈ between ++ [again],
      request.files.metadata stored.path = stored.files.metadata stored.path) →
    (between.countP fun request => request.path ≠ stored.path) < 128 →
    (answer env (served env start (before ++ stored :: between)) again).1 =
      ⟨.ok (applyRange cached again.start again.stop), false⟩

end

variable {env : HighlightEnv} {self : Highlighter} {request : HighlightRequest} {mtime : ℤ}
  {cached : CachedHighlight}

/-! ## One request -/

/-- A request stores what it read, or leaves the highlighter alone. -/
theorem serve_cases (env : HighlightEnv) (self : Highlighter) (request : HighlightRequest) :
    (∃ mtime cached, Stores env self request mtime cached ∧
      serve env self request = self.storeCache request.path mtime cached) ∨
    ((∀ mtime cached, ¬Stores env self request mtime cached) ∧ serve env self request = self) := by
  unfold serve answer Highlighter.highlightFile Stores
  cases known : request.files.metadata request.path with
  | error e =>
    refine .inr ⟨?_, rfl⟩
    rintro _ _ ⟨_, same, -⟩
    cases same
  | ok metadata =>
    obtain ⟨modified, len⟩ := metadata
    cases modified with
    | error e =>
      refine .inr ⟨?_, rfl⟩
      rintro _ _ ⟨_, same, -⟩
      cases same
    | ok mtime =>
      dsimp only
      by_cases large : self.maxSize < len
      · rw [if_pos large]
        refine .inr ⟨?_, rfl⟩
        rintro _ _ ⟨_, same, small, -⟩
        cases same
        omega
      · rw [if_neg large]
        cases found : self.lookup request.path mtime with
        | some cached =>
          refine .inr ⟨?_, rfl⟩
          rintro _ _ ⟨_, same, -, missed, -⟩
          cases same
          cases found.symm.trans missed
        | none =>
          dsimp only
          cases highlighted : readHighlight env request.files request.path len with
          | error e =>
            refine .inr ⟨?_, rfl⟩
            rintro _ _ ⟨_, same, -, -, done⟩
            cases same
            cases highlighted.symm.trans done
          | ok cached =>
            exact .inl ⟨mtime, cached, ⟨len, rfl, Nat.not_lt.1 large, found, highlighted⟩, rfl⟩

theorem Stores.serve (stores : Stores env self request mtime cached) :
    serve env self request = self.storeCache request.path mtime cached := by
  obtain ⟨len, known, small, missed, highlighted⟩ := stores
  unfold Analysis.serve answer Highlighter.highlightFile
  rw [known]
  dsimp only
  rw [if_neg (Nat.not_lt.2 small), missed]
  dsimp only
  rw [highlighted]

theorem maxSize_serve (env : HighlightEnv) (self : Highlighter) (request : HighlightRequest) :
    (serve env self request).maxSize = self.maxSize := by
  rcases serve_cases env self request with ⟨_, _, -, same⟩ | ⟨-, same⟩
  · rw [same]
    rfl
  · rw [same]

theorem maxSize_served (env : HighlightEnv) (self : Highlighter)
    (requests : List HighlightRequest) : (served env self requests).maxSize = self.maxSize := by
  unfold served
  refine @Schedule.run_preserves _ _ _ (fun state => state.maxSize = self.maxSize) self rfl ?_ _
  intro state request same
  rw [maxSize_serve, same]

theorem answer_of_lookup {len : ℕ} {entry : CacheEntry}
    (known : request.files.metadata request.path = .ok ⟨.ok entry.mtime, len⟩)
    (small : len ≤ self.maxSize) (found : AgeCache.lookup self.cache request.path = some entry) :
    answer env self request =
      (⟨.ok (applyRange entry.cached request.start request.stop), false⟩, self) := by
  have hit : self.lookup request.path entry.mtime = some entry.cached := by
    unfold Highlighter.lookup
    rw [found, Option.filter_some, if_pos (decide_eq_true rfl), Option.map_some]
  unfold answer Highlighter.highlightFile
  rw [known]
  dsimp only
  rw [if_neg (Nat.not_lt.2 small), hit]

theorem length_serve (fits : self.cache.length ≤ maxCacheEntries) :
    (serve env self request).cache.length ≤ maxCacheEntries := by
  rcases serve_cases env self request with ⟨_, _, -, same⟩ | ⟨-, same⟩
  · rw [same]
    exact AgeCache.length_store_le (by decide) fits
  · rwa [same]

theorem nodup_serve_iff (single : (self.cache.map Prod.fst).Nodup) :
    ((serve env self request).cache.map Prod.fst).Nodup ↔ ¬Supersedes env self request := by
  unfold Supersedes
  rcases serve_cases env self request with ⟨mtime, cached, stores, same⟩ | ⟨quiet, same⟩
  · rw [same]
    unfold Highlighter.storeCache
    rw [AgeCache.nodup_store_iff single, not_and]
    exact ⟨fun absent _ => absent, fun absent => absent ⟨mtime, cached, stores⟩⟩
  · rw [same]
    refine iff_of_true single ?_
    rintro ⟨⟨mtime, cached, stores⟩, -⟩
    exact quiet mtime cached stores

/-! ## Runs of requests -/

/-- What holds between requests: one entry per path, and at most 128. -/
def Tidy (self : Highlighter) : Prop :=
  (self.cache.map Prod.fst).Nodup ∧ self.cache.length ≤ maxCacheEntries

/-- No request of a run supersedes an entry. -/
def Steady (env : HighlightEnv) (self : Highlighter) (requests : List HighlightRequest) : Prop :=
  Schedule.Meets (serve env) (fun self request => ¬Supersedes env self request) self requests

variable {requests done before between : List HighlightRequest}

theorem Steady.front (steady : Steady env self requests) (front : done <+: requests) :
    Steady env self done := by
  obtain ⟨rest, rfl⟩ := front
  exact (Schedule.meets_append.1 steady).1

theorem tidy_served (tidy : Tidy self) (steady : Steady env self requests) :
    Tidy (served env self requests) := by
  apply Schedule.run_invariant tidy steady
  intro state request kept quiet
  exact ⟨(nodup_serve_iff kept.1).2 quiet, length_serve kept.2⟩

/-- While a file does not change, its entry stays, with at most as many younger ones as other files
were requested. -/
theorem behind_served {path : List Char} {entry : CacheEntry} {len n : ℕ} (tidy : Tidy self)
    (steady : Steady env self between) (small : len ≤ self.maxSize)
    (behind : AgeCache.Behind n path entry self.cache)
    (unchanged : ∀ request ∈ between,
      request.files.metadata path = .ok ⟨.ok entry.mtime, len⟩)
    (few : n + (between.countP fun request => request.path ≠ path) < 128) :
    AgeCache.Behind (n + between.countP fun request => request.path ≠ path) path entry
      (served env self between).cache := by
  induction between generalizing self n with
  | nil => exact behind
  | cons request between ih =>
    have next := tidy_served tidy (steady.front (show [request] <+: _ from ⟨between, rfl⟩))
    have small' : len ≤ (serve env self request).maxSize := by rwa [maxSize_serve]
    have later := fun request member => unchanged request (List.mem_cons_of_mem _ member)
    by_cases same : request.path = path
    · have hit : serve env self request = self := by
        have known := unchanged request List.mem_cons_self
        have found := behind.lookup tidy.1
        rw [← same] at known found
        unfold serve
        rw [answer_of_lookup known small found]
      rw [List.countP_cons_of_neg (by simpa using same)] at few ⊢
      change AgeCache.Behind _ path entry (served env (serve env self request) between).cache
      rw [hit]
      apply ih tidy _ small behind later few
      rw [← hit]
      exact steady.2
    · rw [List.countP_cons_of_pos (by simpa using same)] at few ⊢
      have kept : AgeCache.Behind (n + 1) path entry (serve env self request).cache := by
        rcases serve_cases env self request with ⟨_, _, -, stored⟩ | ⟨-, stored⟩
        · rw [stored]
          apply behind.store
          unfold maxCacheEntries
          omega
        · rw [stored]
          exact behind.mono (Nat.le_succ n)
      have whole := ih next steady.2 small' kept later (by omega)
      rwa [show n + 1 + between.countP (fun request => request.path ≠ path) =
        n + (between.countP (fun request => request.path ≠ path) + 1) by omega] at whole

/-- A file that was stored is answered from the cache while it does not change and fewer than 128
other files are requested. -/
theorem answer_of_stored {stored again : HighlightRequest} (tidy : Tidy self)
    (steady : Steady env self (stored :: (between ++ [again])))
    (stores : Stores env self stored mtime cached) (same : stored.path = again.path)
    (unchanged : ∀ request ∈ between ++ [again],
      request.files.metadata stored.path = stored.files.metadata stored.path)
    (few : (between.countP fun request => request.path ≠ stored.path) < 128) :
    (answer env (served env self (stored :: between)) again).1 =
      ⟨.ok (applyRange cached again.start again.stop), false⟩ := by
  have steps := stores.serve
  obtain ⟨len, known, small, -, -⟩ := stores
  have first := steady.front (show [stored] <+: _ from ⟨_, rfl⟩)
  have next := tidy_served tidy first
  have rest : Steady env (serve env self stored) between := by
    have after := steady.2
    exact Steady.front after ⟨[again], rfl⟩
  have roomy : len ≤ (serve env self stored).maxSize := by rwa [maxSize_serve]
  have begun : AgeCache.Behind 0 stored.path ⟨mtime, cached⟩ (serve env self stored).cache := by
    rw [steps]
    exact AgeCache.behind_store
  have kept := behind_served next rest roomy begun
    (fun request member => (unchanged request (List.mem_append_left _ member)).trans known)
    (by rwa [Nat.zero_add])
  have tidy' := tidy_served next rest
  have found := kept.lookup tidy'.1
  have current := (unchanged again (by simp)).trans known
  rw [same] at current found
  have fits : len ≤ (served env (serve env self stored) between).maxSize := by
    rwa [maxSize_served, maxSize_serve]
  change (answer env (served env (serve env self stored) between) again).1 = _
  rw [answer_of_lookup current fits found]

/-! ## The cache of a new highlighter -/

/-- The cache of a new highlighter keeps one current entry per file exactly while no request stores
a file of which an older entry stays in the cache. SOURCE: highlight.rs:115-230. -/
theorem cacheCurrent_iff (env : HighlightEnv) (maxSize : ℕ) (requests : List HighlightRequest) :
    CacheCurrent env (Highlighter.withMaxSize maxSize) requests ↔
      Steady env (Highlighter.withMaxSize maxSize) requests := by
  have tidy : Tidy (Highlighter.withMaxSize maxSize) := ⟨List.nodup_nil, Nat.zero_le _⟩
  constructor
  · intro current
    have single := current.single
    clear current
    induction requests using List.reverseRecOn with
    | nil => trivial
    | append_singleton requests request ih =>
      have before := ih fun done front => single done (front.trans (List.prefix_append _ _))
      refine Schedule.meets_append.2 ⟨before, ?_, trivial⟩
      have last := single _ List.prefix_rfl
      unfold served at last
      rw [Schedule.run_append] at last
      exact (nodup_serve_iff (tidy_served tidy before).1).1 last
  · intro steady
    constructor
    · intro done front
      exact (tidy_served tidy (steady.front front)).1
    · intro done front
      exact (tidy_served tidy (steady.front front)).2
    · intro before stored between again mtime cached front stores same unchanged few
      obtain ⟨first, second⟩ := Schedule.meets_append.1 (steady.front front)
      unfold served
      rw [Schedule.run_append]
      exact answer_of_stored (tidy_served tidy first) second stores same unchanged few

/-- One file with a byte that is not text, modified at a time. -/
def nullFile (mtime : ℤ) : HighlightRequest where
  files := ⟨fun _ => .ok ⟨.ok mtime, 1⟩, fun _ => .ok [0], fun _ => none⟩
  path := ['a']
  start := none
  stop := none

/-- A file that is requested before and after a change has two entries. -/
theorem changed_file_has_two_entries :
    ¬CacheCurrent ⟨[], [], fun _ _ _ => none⟩ (Highlighter.withMaxSize 1)
      [nullFile 1, nullFile 2] := by
  intro current
  have single := current.single _ List.prefix_rfl
  exact absurd single (by decide +kernel)

end Analysis

end Giskard
