import Mathlib
import Giskard.Model.NativeRoutes

/-!
# The native thread routes stay bijective

What a call of the routes can do is one of five things, so what every call keeps is shown once for
each. The epochs of the routes that were established never exceed the counter, so that a route that
is issued is later than all others.
-/

set_option autoImplicit false

namespace Giskard

open Foundation

/-! ## Trimmed ids -/

theorem dropWhile_trimText (text : List Char) :
    (trimText text).dropWhile isWhiteSpace = trimText text := by
  rw [List.dropWhile_eq_self_iff]
  intro long blank
  have front : trimText text <+: text.dropWhile isWhiteSpace := List.rdropWhile_prefix _ _
  have same := front.getElem long
  have first := List.dropWhile_get_zero_not isWhiteSpace text
    (Nat.lt_of_lt_of_le long front.length_le)
  rw [same] at blank
  exact first blank

theorem trimText_idem (text : List Char) : trimText (trimText text) = trimText text := by
  have right : (trimText text).rdropWhile isWhiteSpace = trimText text :=
    List.rdropWhile_idempotent _ _
  unfold trimText at right ⊢
  rw [show ((((text.dropWhile isWhiteSpace).reverse.dropWhile isWhiteSpace).reverse).dropWhile
    isWhiteSpace) = _ from dropWhile_trimText text]
  exact right

/-- A native id without white space around it, and not empty. -/
def NativeThreadId.Named (native : NativeThreadId) : Prop :=
  native.text ≠ "" ∧ NativeThreadId.trimmed native.text = native

theorem NativeThreadId.trimmed_named {text : String}
    (present : (NativeThreadId.trimmed text).text ≠ "") : (NativeThreadId.trimmed text).Named := by
  refine ⟨present, ?_⟩
  unfold NativeThreadId.trimmed
  rw [String.toList_ofList, trimText_idem]

/-! ## What a call can do -/

theorem NativeRouteEpoch.checkedNext_lt {epoch next : NativeRouteEpoch}
    (advanced : epoch.checkedNext = some next) : epoch.value < next.value := by
  unfold NativeRouteEpoch.checkedNext at advanced
  split at advanced
  · cases advanced
  · next room =>
    cases advanced
    rw [UInt64.lt_iff_toNat_lt, UInt64.toNat_add]
    have below := epoch.value.toNat_lt
    have other : epoch.value.toNat ≠ 2 ^ 64 - 1 := by
      intro same
      exact room (UInt64.toNat_inj.1 same)
    have one : (1 : UInt64).toNat = 1 := rfl
    rw [one]
    omega

namespace NativeThreadRoutes

/-- The state after a route was issued, on the routes by native id that stay. -/
def withRoute (routes : NativeThreadRoutes) (byNative : IndexMap NativeThreadId NativeRoute)
    (native : NativeThreadId) (thread : ThreadId) (epoch : NativeRouteEpoch) :
    NativeThreadRoutes :=
  ⟨byNative.insert native ⟨thread, epoch, none⟩, routes.nativeByThread.insert thread native, epoch⟩

/-- What a call leaves behind, and what it returns. -/
inductive Moves (before : NativeThreadRoutes) :
    NativeRouteCall → NativeThreadRoutes → Except HarnessError (Option NativeRoute) → Prop
  | refused (request : NativeRouteCall) (error : HarnessError) : Moves before request before (.error error)
  | kept {request : NativeRouteCall} {native : NativeThreadId} {route : NativeRoute}
      (found : before.byNative.get? native = some route) :
      Moves before request before (.ok (some route))
  | claimed {request : NativeRouteCall} {native : NativeThreadId} {thread : ThreadId}
      {epoch : NativeRouteEpoch} (named : native.Named)
      (newNative : before.byNative.get? native = none)
      (newThread : before.nativeByThread.get? thread = none)
      (next : before.nextEpoch.checkedNext = some epoch) :
      Moves before request (before.withRoute before.byNative native thread epoch)
        (.ok (some ⟨thread, epoch, none⟩))
  | replaced {request : NativeRouteCall} {expected native : NativeThreadId} {route : NativeRoute}
      {epoch : NativeRouteEpoch} (named : native.Named)
      (found : before.byNative.get? expected = some route)
      (bound : before.nativeByThread.get? route.threadId = some expected)
      (newNative : native ≠ expected → before.byNative.get? native = none)
      (next : before.nextEpoch.checkedNext = some epoch) :
      Moves before request
        (before.withRoute (before.byNative.shiftRemove expected) native route.threadId epoch)
        (.ok (some ⟨route.threadId, epoch, none⟩))
  | configured {native : String} {route : NativeRoute} {value : Option UInt32}
      (found : before.byNative.get? ⟨native⟩ = some route) :
      Moves before (.setContextWindow native route.threadId value)
        { before with
          byNative := before.byNative.insert ⟨native⟩ { route with contextWindow := value } }
        (.ok none)

variable {crates : Crates} {before : NativeThreadRoutes}

theorem moves_claim (request : NativeRouteCall) (native : String) (thread : ThreadId) :
    Moves before request (before.claim crates native thread).1
      ((before.claim crates native thread).2.map some) := by
  unfold claim
  dsimp only
  split
  · exact .refused _ _
  · next present =>
    split
    · next existing found =>
      split
      · exact .refused _ _
      · exact .kept found
    · next newNative =>
      split
      · exact .refused _ _
      · next newThread =>
        split
        · exact .refused _ _
        · next epoch next' =>
          exact .claimed (NativeThreadId.trimmed_named present) newNative newThread next'

theorem moves_claimOrAdopt (request : NativeRouteCall) (native : String) (thread : ThreadId) :
    Moves before request (before.claimOrAdopt crates native thread).1
      ((before.claimOrAdopt crates native thread).2.map some) := by
  unfold claimOrAdopt
  dsimp only
  split
  · exact .refused _ _
  · split
    · next existing found => exact .kept found
    · exact moves_claim _ _ _

theorem moves_replace (request : NativeRouteCall) (expected new : String) (thread : ThreadId) :
    Moves before request (before.replace crates expected new thread).1
      ((before.replace crates expected new thread).2.map some) := by
  unfold replace
  dsimp only
  split
  · exact .refused _ _
  · next present =>
    rw [not_or] at present
    split
    · exact .refused _ _
    · next route found =>
      split
      · exact .refused _ _
      · next same =>
        rw [not_not] at same
        subst same
        split
        · exact .refused _ _
        · next bound =>
          rw [not_not] at bound
          split
          · exact .refused _ _
          · next newNative =>
            split
            · exact .refused _ _
            · next epoch next' =>
              refine .replaced (NativeThreadId.trimmed_named present.2) found bound (fun other => ?_) next'
              rwa [if_pos other] at newNative

theorem moves_setContextWindow (native : String) (thread : ThreadId) (value : Option UInt32) :
    Moves before (.setContextWindow native thread value)
      (before.setContextWindow native thread value).1
      ((before.setContextWindow native thread value).2.map fun _ => none) := by
  unfold setContextWindow
  split
  · exact .refused _ _
  · next route found =>
    rw [Option.filter_eq_some_iff, decide_eq_true_eq] at found
    obtain ⟨found, rfl⟩ := found
    exact .configured found

theorem call_moves (request : NativeRouteCall) :
    Moves before request (before.call crates request).1 (before.call crates request).2 := by
  unfold call
  cases request with
  | claim native thread =>
    simp only [Prod.map_fst, Prod.map_snd, id_eq]
    exact moves_claim _ native thread
  | claimOrAdopt native thread =>
    simp only [Prod.map_fst, Prod.map_snd, id_eq]
    exact moves_claimOrAdopt _ native thread
  | replace expected new thread =>
    simp only [Prod.map_fst, Prod.map_snd, id_eq]
    exact moves_replace _ expected new thread
  | setContextWindow native thread value =>
    simp only [Prod.map_fst, Prod.map_snd, id_eq]
    exact moves_setContextWindow native thread value

/-! ## What every call keeps -/

/-- The two maps are inverse to each other, on named native ids, and no route is later than the
counter. -/
structure Bijective (routes : NativeThreadRoutes) : Prop where
  forward : ∀ native route, routes.byNative.get? native = some route →
    routes.nativeByThread.get? route.threadId = some native
  backward : ∀ thread native, routes.nativeByThread.get? thread = some native →
    ∃ route, routes.byNative.get? native = some route ∧ route.threadId = thread
  named : ∀ native route, routes.byNative.get? native = some route → native.Named
  counted : ∀ native route, routes.byNative.get? native = some route →
    route.epoch.value ≤ routes.nextEpoch.value

theorem Bijective.default : NativeThreadRoutes.default.Bijective where
  forward := by simp [NativeThreadRoutes.default]
  backward := by simp [NativeThreadRoutes.default]
  named := by simp [NativeThreadRoutes.default]
  counted := by simp [NativeThreadRoutes.default]

section Steps

variable {after : NativeThreadRoutes} {request : NativeRouteCall}
  {result : Except HarnessError (Option NativeRoute)}

/-- A route is issued for a thread whose other native ids were given up. -/
theorem Bijective.withRoute {byNative : IndexMap NativeThreadId NativeRoute}
    {native : NativeThreadId} {thread : ThreadId} {epoch : NativeRouteEpoch}
    (bijective : before.Bijective) (named : native.Named)
    (next : before.nextEpoch.checkedNext = some epoch)
    (stays : ∀ other route, byNative.get? other = some route ↔
      before.byNative.get? other = some route ∧ route.threadId ≠ thread)
    (newNative : ∀ route, before.byNative.get? native = some route → route.threadId = thread) :
    (before.withRoute byNative native thread epoch).Bijective where
  forward := by
    intro other route found
    unfold NativeThreadRoutes.withRoute at found ⊢
    dsimp only at found ⊢
    rw [IndexMap.get?_insert] at found
    split at found
    · next same =>
      cases found
      rw [IndexMap.get?_insert_self, same]
    · obtain ⟨found, apart⟩ := (stays other route).1 found
      rw [IndexMap.get?_insert_of_ne _ apart]
      exact bijective.forward other route found
  backward := by
    intro held other found
    unfold NativeThreadRoutes.withRoute at found ⊢
    dsimp only at found ⊢
    rw [IndexMap.get?_insert] at found
    split at found
    · next same =>
      cases found
      exact ⟨_, IndexMap.get?_insert_self _ _ _, same.symm⟩
    · next apart =>
      obtain ⟨route, at', rfl⟩ := bijective.backward held other found
      have distinct : other ≠ native := by
        rintro rfl
        exact apart (newNative route at')
      exact ⟨route, by rw [IndexMap.get?_insert_of_ne _ distinct]; exact (stays _ _).2 ⟨at', apart⟩,
        rfl⟩
  named := by
    intro other route found
    unfold NativeThreadRoutes.withRoute at found
    dsimp only at found
    rw [IndexMap.get?_insert] at found
    split at found
    · next same => exact same ▸ named
    · exact bijective.named other route ((stays other route).1 found).1
  counted := by
    intro other route found
    unfold NativeThreadRoutes.withRoute at found ⊢
    dsimp only at found ⊢
    rw [IndexMap.get?_insert] at found
    split at found
    · cases found
      exact UInt64.le_refl _
    · have old := bijective.counted other route ((stays other route).1 found).1
      exact UInt64.le_trans old (UInt64.le_of_lt (NativeRouteEpoch.checkedNext_lt next))

theorem Moves.bijective (moves : Moves before request after result)
    (bijective : before.Bijective) : after.Bijective := by
  cases moves with
  | refused => exact bijective
  | kept => exact bijective
  | @claimed _ native thread epoch named newNative newThread next =>
    refine bijective.withRoute named next (fun other route => ?_) (fun route found => ?_)
    · constructor
      · intro found
        refine ⟨found, ?_⟩
        rintro rfl
        rw [bijective.forward other route found] at newThread
        cases newThread
      · exact And.left
    · rw [newNative] at found
      cases found
  | @replaced _ expected native old epoch named found bound newNative next =>
    refine bijective.withRoute named next (fun other route => ?_) (fun route there => ?_)
    · rw [IndexMap.get?_shiftRemove]
      constructor
      · intro stays
        split at stays
        · cases stays
        · next apart =>
          refine ⟨stays, fun same => apart ?_⟩
          have mine := bijective.forward other route stays
          rw [same, bound, Option.some_inj] at mine
          exact mine.symm
      · rintro ⟨there, apart⟩
        rw [if_neg ?_]
        · exact there
        · rintro rfl
          rw [found, Option.some_inj] at there
          exact apart (there ▸ rfl)
    · by_cases same : native = expected
      · rw [same, found, Option.some_inj] at there
        rw [there]
      · rw [newNative same] at there
        cases there
  | @configured native route value found =>
    have view (other : NativeThreadId) (now : NativeRoute)
        (there : (before.byNative.insert ⟨native⟩ { route with contextWindow := value }).get? other =
          some now) : ∃ old, before.byNative.get? other = some old ∧ now.threadId = old.threadId ∧
          now.epoch = old.epoch := by
      rw [IndexMap.get?_insert] at there
      split at there
      · next same =>
        cases there
        exact ⟨route, same ▸ found, rfl, rfl⟩
      · exact ⟨now, there, rfl, rfl⟩
    refine ⟨fun other now there => ?_, fun thread other bound => ?_, fun other now there => ?_,
      fun other now there => ?_⟩
    · obtain ⟨old, there, thread, -⟩ := view other now there
      rw [thread]
      exact bijective.forward other old there
    · obtain ⟨old, there, thread⟩ := bijective.backward thread other bound
      dsimp only
      rw [IndexMap.get?_insert]
      split
      · next same =>
        rw [same, found, Option.some_inj] at there
        exact ⟨_, rfl, there ▸ thread⟩
      · exact ⟨old, there, thread⟩
    · obtain ⟨old, there, -⟩ := view other now there
      exact bijective.named other old there
    · obtain ⟨old, there, -, epoch⟩ := view other now there
      rw [epoch]
      exact bijective.counted other old there

/-- The counter never goes back, and a route that was not there before has the counter's epoch,
which then went forward. -/
theorem Moves.epoch (moves : Moves before request after result) :
    before.nextEpoch.value ≤ after.nextEpoch.value ∧
      ∀ route, result = .ok (some route) → route ∉ before.byNative.values →
        route.epoch = after.nextEpoch ∧ before.nextEpoch.value < after.nextEpoch.value ∧
        route.contextWindow = none ∧ route ∈ after.byNative.values := by
  have held {routes : NativeThreadRoutes} {byNative : IndexMap NativeThreadId NativeRoute}
      {native : NativeThreadId} {thread : ThreadId} {epoch : NativeRouteEpoch} :
      (⟨thread, epoch, none⟩ : NativeRoute) ∈
        (routes.withRoute byNative native thread epoch).byNative.values :=
    IndexMap.mem_values_iff.2 ⟨native, IndexMap.get?_insert_self _ _ _⟩
  cases moves with
  | refused => exact ⟨UInt64.le_refl _, by simp⟩
  | kept found =>
    refine ⟨UInt64.le_refl _, fun route same new => ?_⟩
    cases same
    exact absurd (IndexMap.mem_values_iff.2 ⟨_, found⟩) new
  | claimed named newNative newThread next =>
    have later := NativeRouteEpoch.checkedNext_lt next
    refine ⟨UInt64.le_of_lt later, fun route same _ => ?_⟩
    cases same
    exact ⟨rfl, later, rfl, held⟩
  | replaced named found bound newNative next =>
    have later := NativeRouteEpoch.checkedNext_lt next
    refine ⟨UInt64.le_of_lt later, fun route same _ => ?_⟩
    cases same
    exact ⟨rfl, later, rfl, held⟩
  | configured => exact ⟨UInt64.le_refl _, by simp⟩

/-- The routes after a call: those before it, the one it issued, and the one whose context window
it changed. -/
theorem Moves.window (moves : Moves before request after result) (native : NativeThreadId)
    (route : NativeRoute) (found : after.byNative.get? native = some route) :
    before.byNative.get? native = some route ∨
      (result = .ok (some route) ∧ route.contextWindow = none ∧
        before.nextEpoch.value < route.epoch.value) ∨
      ∃ old, before.byNative.get? native = some old ∧
        request = .setContextWindow native.text old.threadId route.contextWindow ∧
        route = { old with contextWindow := route.contextWindow } := by
  cases moves with
  | refused => exact .inl found
  | kept => exact .inl found
  | claimed named newNative newThread next =>
    unfold NativeThreadRoutes.withRoute at found
    dsimp only at found
    rw [IndexMap.get?_insert] at found
    split at found
    · cases found
      exact .inr (.inl ⟨rfl, rfl, NativeRouteEpoch.checkedNext_lt next⟩)
    · exact .inl found
  | replaced named old bound newNative next =>
    unfold NativeThreadRoutes.withRoute at found
    dsimp only at found
    rw [IndexMap.get?_insert] at found
    split at found
    · cases found
      exact .inr (.inl ⟨rfl, rfl, NativeRouteEpoch.checkedNext_lt next⟩)
    · exact .inl (IndexMap.get?_of_shiftRemove found)
  | configured old =>
    dsimp only at found
    rw [IndexMap.get?_insert] at found
    split at found
    · next same =>
      cases found
      exact .inr (.inr ⟨_, same ▸ old, by rw [same], rfl⟩)
    · exact .inl found

end Steps

/-! ## Runs -/

theorem calls_bijective (requests : List NativeRouteCall) :
    (NativeThreadRoutes.default.calls crates requests).Bijective :=
  Schedule.run_preserves Bijective.default
    (fun _ request bijective => (call_moves request).bijective bijective) requests

theorem epoch_of_issued {request : NativeRouteCall} {route : NativeRoute}
    (issues : before.issued crates request = some route) :
    (before.call crates request).2 = .ok (some route) ∧ route ∉ before.byNative.values := by
  unfold issued at issues
  split at issues
  · next found result =>
    split at issues
    · cases issues
    · next new =>
      cases issues
      exact ⟨result, new⟩
  · cases issues

/-- The routes that some calls issue are later than the counter before them, each later than the
ones before it. -/
theorem issuedBy_increasing (requests : List NativeRouteCall) :
    (∀ route ∈ before.issuedBy crates requests, before.nextEpoch.value < route.epoch.value) ∧
      (before.issuedBy crates requests).Pairwise
        fun earlier later => earlier.epoch.value < later.epoch.value := by
  induction requests generalizing before with
  | nil => exact ⟨by simp [issuedBy], List.Pairwise.nil⟩
  | cons request requests ih =>
    obtain ⟨grows, fresh⟩ := (@call_moves crates before request).epoch
    obtain ⟨later, sorted⟩ := @ih (before.call crates request).1
    unfold issuedBy
    cases issues : before.issued crates request with
    | none =>
      refine ⟨fun route member => ?_, sorted⟩
      exact UInt64.lt_of_le_of_lt grows (later route member)
    | some first =>
      obtain ⟨result, new⟩ := epoch_of_issued issues
      obtain ⟨epoch, advanced, -, -⟩ := fresh first result new
      rw [Option.toList_some, List.singleton_append]
      refine ⟨fun route member => ?_, List.pairwise_cons.2 ⟨fun route member => ?_, sorted⟩⟩
      · rcases List.mem_cons.1 member with rfl | member
        · rw [epoch]
          exact advanced
        · exact UInt64.lt_of_le_of_lt grows (later route member)
      · rw [epoch]
        exact later route member

end NativeThreadRoutes

open NativeThreadRoutes in
/-- After any calls the two maps are inverse to each other, on trimmed and non-empty native ids;
each route that was issued is later than the ones before it and starts without a context window,
which only a change for its own thread gives it; and a call that is refused changes nothing. -/
theorem nativeRoutes_stay_bijective (crates : Crates) (requests : List NativeRouteCall) :
    (NativeThreadRoutes.default.issuedBy crates requests).Pairwise
        (fun earlier later => earlier.epoch.value < later.epoch.value) ∧
      ∀ before, before = NativeThreadRoutes.default.calls crates requests →
        (∀ native thread, (∃ route, before.byNative.get? native = some route ∧
            route.threadId = thread) ↔ before.nativeByThread.get? thread = some native) ∧
        (∀ native ∈ before.byNative.keys, native.Named) ∧
        (∀ native ∈ before.nativeByThread.values, native.Named) ∧
        ∀ request after result, before.call crates request = (after, result) →
          (∀ error, result = .error error → after = before) ∧
          (∀ route, before.issued crates request = some route →
            route.contextWindow = none ∧ route ∈ after.byNative.values) ∧
          ∀ native route, after.byNative.get? native = some route →
            before.byNative.get? native = some route ∨
            before.issued crates request = some route ∨
            ∃ old, before.byNative.get? native = some old ∧
              request = .setContextWindow native.text old.threadId route.contextWindow ∧
              route = { old with contextWindow := route.contextWindow } := by
  refine ⟨(issuedBy_increasing requests).2, fun before reached => ?_⟩
  have bijective : before.Bijective := reached ▸ calls_bijective requests
  refine ⟨fun native thread => ⟨?_, bijective.backward thread native⟩, fun native member => ?_,
    fun native member => ?_, fun request after result ran => ?_⟩
  · rintro ⟨route, found, rfl⟩
    exact bijective.forward native route found
  · obtain ⟨route, found⟩ := IndexMap.mem_keys_iff.1 member
    exact bijective.named native route found
  · obtain ⟨thread, found⟩ := IndexMap.mem_values_iff.1 member
    obtain ⟨route, there, -⟩ := bijective.backward thread native found
    exact bijective.named native route there
  · have moves := @call_moves crates before request
    rw [ran] at moves
    dsimp only at moves
    refine ⟨fun error failed => ?_, fun route issues => ?_, fun native route found => ?_⟩
    · cases moves with
      | refused => rfl
      | kept => cases failed
      | claimed => cases failed
      | replaced => cases failed
      | configured => cases failed
    · obtain ⟨returned, new⟩ := epoch_of_issued issues
      rw [ran] at returned
      exact (moves.epoch.2 route returned new).2.2
    · rcases moves.window native route found with old | ⟨returned, -, later⟩ | changed
      · exact .inl old
      · right
        left
        have new : route ∉ before.byNative.values := by
          intro member
          obtain ⟨other, there⟩ := IndexMap.mem_values_iff.1 member
          exact absurd later (UInt64.not_lt.2 (bijective.counted other route there))
        unfold NativeThreadRoutes.issued
        rw [ran]
        dsimp only
        rw [returned]
        dsimp only
        rw [if_neg new]
      · exact .inr (.inr changed)

end Giskard
