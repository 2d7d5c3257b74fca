import Mathlib
import Giskard.Analysis.CodexFrames
import Giskard.Analysis.CodexRequests

/-!
# A native Codex thread is discovered once

A message either finds its thread, or binds the native thread it names to a new thread and is then
mapped there. Nothing unbinds a thread, and only a replacement unbinds a native thread: so until
then no discovery names it again, and what is mapped from it belongs to that thread. Every event in
a log belongs to a thread that was bound before.
-/

set_option autoImplicit false

namespace Giskard.Codex

open Foundation (IndexMap Fallible)
open Foundation.Fallible (Returns Gated)

/-! ## Mapping or discovering -/

section Discovery

variable {α : Type} (env : MapperEnv) (worker : CodexInstance)

/-- The worker that has bound a native thread it met in traffic. -/
def CodexInstance.bindDiscovered (native : NativeThreadId) (epoch : NativeRouteEpoch) :
    CodexInstance :=
  let thread : ThreadId := ⟨env.ulid worker.mapper.minted⟩
  let mapper := { worker.mapper with
    routes := worker.mapper.routes.withRoute worker.mapper.routes.byNative native thread epoch
    minted := worker.mapper.minted + 1 }
  { worker with
    mapper := mapper
    senders := worker.senders.insert thread
    effects := worker.effects ++
      [.discovered ⟨thread, native.text, mapper.nativeParent native.text⟩] }

/-- What mapping a message comes to: its thread is found, or its native thread is bound, or it is
dropped because it cannot be bound. -/
inductive Maps (named : Option String) (fallback : ThreadId) (map : Mapping α) :
    CodexInstance → Option α → Prop
  | found {thread : ThreadId} {result : α} {after : CodexMapper}
      (found : worker.mapper.Resolves named fallback thread)
      (mapped : map worker.mapper = (.ok result, after)) :
      Maps named fallback map (worker.setMapper after) (some result)
  | discovered {text : String} {epoch : NativeRouteEpoch} {result : α} {after : CodexMapper}
      (name : named = some text)
      (unknown : worker.mapper.routes.byNative.get? (.trimmed text) = none)
      (fresh : worker.mapper.routes.nativeByThread.get? ⟨env.ulid worker.mapper.minted⟩ = none)
      (room : worker.mapper.routes.nextEpoch.checkedNext = some epoch)
      (present : (NativeThreadId.trimmed text).Named)
      (mapped : map (worker.bindDiscovered env (.trimmed text) epoch).mapper = (.ok result, after))
      (unresolved : ¬ ∃ thread, worker.mapper.Resolves named fallback thread) :
      Maps named fallback map
        ((worker.bindDiscovered env (.trimmed text) epoch).setMapper after) (some result)
  | dropped (unknown : ¬ ∃ thread, worker.mapper.Resolves named fallback thread)
      (full : worker.mapper.routes.nativeByThread.get? ⟨env.ulid worker.mapper.minted⟩ ≠ none ∨
        worker.mapper.routes.nextEpoch.checkedNext = none) :
      Maps named fallback map
        (worker.setMapper { worker.mapper with minted := worker.mapper.minted + 1 }) none

variable {env worker}

theorem unknown_of_unresolved {mapper : CodexMapper} {named : Option String} {fallback : ThreadId}
    (never : ¬ ∃ thread, mapper.Resolves named fallback thread) :
    ∃ text, named = some text ∧ (NativeThreadId.trimmed text).Named ∧
      mapper.routes.byNative.get? (.trimmed text) = none := by
  cases named with
  | none => exact absurd ⟨fallback, rfl⟩ never
  | some text =>
    refine ⟨text, rfl, ?_⟩
    unfold CodexMapper.Resolves NativeThreadRoutes.resolve at never
    dsimp only at never
    have present : (NativeThreadId.trimmed text).text ≠ "" := by
      intro empty
      rw [if_pos empty] at never
      exact never ⟨fallback, rfl⟩
    have trimmed := NativeThreadId.trimmed_named present
    refine ⟨trimmed, ?_⟩
    rw [if_neg present] at never
    unfold NativeThreadRoutes.routeForNative at never
    rw [trimmed.2] at never
    cases known : mapper.routes.byNative.get? (.trimmed text) with
    | none => rfl
    | some route =>
      rw [known] at never
      exact absurd ⟨route.threadId, rfl⟩ never

theorem claim_unknown {crates : Crates} {routes : NativeThreadRoutes} {native : NativeThreadId}
    (named : native.Named) (unknown : routes.byNative.get? native = none) (thread : ThreadId) :
    ((∃ error, routes.claim crates native.text thread = (routes, .error error)) ∧
        (routes.nativeByThread.get? thread ≠ none ∨ routes.nextEpoch.checkedNext = none)) ∨
      ∃ epoch, routes.claim crates native.text thread =
          (routes.withRoute routes.byNative native thread epoch, .ok ⟨thread, epoch, none⟩) ∧
        routes.nativeByThread.get? thread = none ∧ routes.nextEpoch.checkedNext = some epoch := by
  unfold NativeThreadRoutes.claim
  rw [named.2]
  dsimp only
  rw [if_neg named.1, unknown]
  dsimp only
  cases taken : routes.nativeByThread.get? thread with
  | some existing => exact .inl ⟨⟨_, rfl⟩, .inl (by simp)⟩
  | none =>
    cases room : routes.nextEpoch.checkedNext with
    | none => exact .inl ⟨⟨_, rfl⟩, .inr rfl⟩
    | some epoch => exact .inr ⟨epoch, rfl, rfl, rfl⟩

theorem resolves_bound {mapper : CodexMapper} {text : String} {route : NativeRoute}
    (present : (NativeThreadId.trimmed text).Named)
    (bound : mapper.routes.byNative.get? (.trimmed text) = some route) (fallback : ThreadId) :
    mapper.Resolves (some text) fallback route.threadId := by
  unfold CodexMapper.Resolves NativeThreadRoutes.resolve NativeThreadRoutes.routeForNative
  dsimp only
  rw [if_neg present.1, present.2, bound]

/-- Mapping a message that is looked up first is one of three things. -/
theorem mapOrDiscover_maps {named : Option String} {fallback : ThreadId} {map : Mapping α}
    {Q : α → CodexMapper → Prop}
    (gated : Gated (fun mapper : CodexMapper => ∃ thread, mapper.Resolves named fallback thread)
      (NativeThreadId.trimmed (named.getD "")) Q map) :
    Maps env worker named fallback map (worker.mapOrDiscover env map).1
      (worker.mapOrDiscover env map).2 := by
  by_cases resolves : ∃ thread, worker.mapper.Resolves named fallback thread
  · obtain ⟨result, after, mapped, _⟩ := gated.returns worker.mapper resolves
    obtain ⟨thread, found⟩ := resolves
    unfold CodexInstance.mapOrDiscover
    rw [mapped]
    exact .found found mapped
  · obtain ⟨text, rfl, present, unknown⟩ := unknown_of_unresolved resolves
    have failed := gated.fails worker.mapper resolves
    unfold CodexInstance.mapOrDiscover
    rw [failed]
    dsimp only [CodexMapper.nextUlid, Option.getD]
    unfold CodexInstance.claimThreadRoute
    rcases claim_unknown present unknown ⟨env.ulid worker.mapper.minted⟩ with
      ⟨⟨error, refused⟩, full⟩ | ⟨epoch, claimed, fresh, room⟩
    · rw [show (worker.setMapper { worker.mapper with minted := worker.mapper.minted + 1
        }).mapper.routes.claim env.crates (NativeThreadId.trimmed text).text
          ⟨env.ulid worker.mapper.minted⟩ = _ from refused]
      exact .dropped resolves full
    · rw [show (worker.setMapper { worker.mapper with minted := worker.mapper.minted + 1
        }).mapper.routes.claim env.crates (NativeThreadId.trimmed text).text
          ⟨env.ulid worker.mapper.minted⟩ = _ from claimed]
      have bound : (worker.bindDiscovered env (.trimmed text) epoch).mapper.routes.byNative.get?
          (.trimmed text) = some ⟨⟨env.ulid worker.mapper.minted⟩, epoch, none⟩ :=
        IndexMap.get?_insert_self _ _ _
      obtain ⟨result, after, mapped, _⟩ := gated.returns
        (worker.bindDiscovered env (.trimmed text) epoch).mapper
        ⟨_, resolves_bound present bound fallback⟩
      have mapped' := mapped
      unfold CodexInstance.bindDiscovered at mapped'
      dsimp only [CodexInstance.bindRoute, CodexInstance.setMapper, CodexInstance.emit,
        CodexInstance.ensureThreadRouteSender]
      dsimp only at mapped'
      rw [mapped']
      exact .discovered rfl unknown fresh room present mapped resolves

end Discovery

/-! ## What the steps keep of a binding -/

/-- A native thread is bound to a thread. -/
def CodexInstance.BoundTo (native : NativeThreadId) (thread : ThreadId) (worker : CodexInstance) :
    Prop :=
  (worker.mapper.routes.byNative.get? native).map NativeRoute.threadId = some thread

/-- The threads of routes, of open logs and of the events that were appended are bound. -/
structure CodexInstance.Tracked (worker : CodexInstance) : Prop where
  owners : ∀ native route, worker.mapper.routes.byNative.get? native = some route →
    worker.mapper.routes.nativeByThread.get? route.threadId ≠ none
  logs : ∀ thread ∈ worker.senders, worker.mapper.routes.nativeByThread.get? thread ≠ none
  events : ∀ thread event, .appended thread event ∈ worker.effects →
    worker.mapper.routes.nativeByThread.get? thread ≠ none

/-- A discovery record of a native thread. -/
def WorkerEffect.discovers (native : NativeThreadId) : WorkerEffect → Prop
  | .discovered record => record.harnessThreadId = native.text
  | _ => False

/-- A binding stays, and no discovery is recorded for it. -/
structure Steady (native : NativeThreadId) (thread : ThreadId) (before after : CodexInstance) :
    Prop where
  bound : before.BoundTo native thread → after.BoundTo native thread
  effects : ∃ more, after.effects = before.effects ++ more ∧
    (before.BoundTo native thread → ∀ effect ∈ more, ¬ effect.discovers native)
  tracked : before.Tracked → after.Tracked

namespace Steady

variable {native : NativeThreadId} {thread : ThreadId} {before middle after : CodexInstance}

theorem refl (worker : CodexInstance) : Steady native thread worker worker :=
  ⟨id, ⟨[], (List.append_nil _).symm, fun _ _ none => (by cases none)⟩, id⟩

theorem trans (first : Steady native thread before middle)
    (second : Steady native thread middle after) : Steady native thread before after where
  bound := second.bound ∘ first.bound
  effects := by
    obtain ⟨one, same, quiet⟩ := first.effects
    obtain ⟨two, same', quiet'⟩ := second.effects
    refine ⟨one ++ two, by rw [same', same, List.append_assoc], ?_⟩
    intro bound effect member
    rcases List.mem_append.1 member with early | late
    · exact quiet bound effect early
    · exact quiet' (first.bound bound) effect late
  tracked := second.tracked ∘ first.tracked

theorem quiet (routes : SameThreads before.mapper.routes after.mapper.routes)
    (senders : ∀ thread ∈ after.senders, thread ∈ before.senders)
    (effects : after.effects = before.effects) : Steady native thread before after where
  bound := fun bound => (routes.byNative native).trans bound
  effects := ⟨[], by rw [effects, List.append_nil], fun _ _ none => by cases none⟩
  tracked := fun tracked =>
    { owners := by
        intro native route found
        have same := routes.byNative native
        rw [found] at same
        obtain ⟨known, there, eq⟩ := Option.map_eq_some_iff.1 same.symm
        rw [routes.nativeByThread, ← eq]
        exact tracked.owners native known there
      logs := by
        intro thread open'
        rw [routes.nativeByThread]
        exact tracked.logs thread (senders thread open')
      events := by
        intro thread event appended
        rw [routes.nativeByThread]
        rw [effects] at appended
        exact tracked.events thread event appended }

theorem emit {effect : WorkerEffect} (other : ∀ native, ¬ effect.discovers native)
    (open' : ∀ thread event, effect = .appended thread event → thread ∈ before.senders) :
    Steady native thread before (before.emit effect) where
  bound := id
  effects := ⟨[effect], rfl, fun _ one member => by
    rw [List.mem_singleton.1 member]
    exact other native⟩
  tracked := fun tracked =>
    { owners := tracked.owners
      logs := tracked.logs
      events := by
        intro thread event appended
        rcases List.mem_append.1 appended with old | new
        · exact tracked.events thread event old
        · exact tracked.logs thread (open' thread event (List.mem_singleton.1 new).symm) }

theorem broadcastEvent (worker : CodexInstance) (owner : ThreadId) (event : AgentEvent) :
    Steady native thread worker (worker.broadcastEvent owner event) := by
  unfold CodexInstance.broadcastEvent
  split
  · next there =>
    refine emit (fun native discovers => discovers) ?_
    rintro _ _ ⟨⟩
    exact there
  · exact refl worker

theorem respond (worker : CodexInstance) (writes : RequestId → Bool) (id : RequestId)
    (body : ApprovalResponseBody) : Steady native thread worker (worker.respond writes id body) := by
  unfold CodexInstance.respond
  split
  · exact emit (fun native discovers => discovers) (by rintro _ _ ⟨⟩)
  · exact refl worker

theorem setMapper (worker : CodexInstance) {mapper : CodexMapper}
    (routes : SameThreads worker.mapper.routes mapper.routes) :
    Steady native thread worker (worker.setMapper mapper) :=
  quiet routes (fun _ there => there) rfl

theorem foldl {ι : Type} {step : CodexInstance → ι → CodexInstance}
    (each : ∀ worker i, Steady native thread worker (step worker i)) (list : List ι)
    (worker : CodexInstance) : Steady native thread worker (list.foldl step worker) := by
  induction list generalizing worker with
  | nil => exact refl worker
  | cons i rest ih => exact (each worker i).trans (ih _)

end Steady

/-! ## Calls of the routes -/

/-- Every route belongs to a thread that is bound. -/
def Owned (routes : NativeThreadRoutes) : Prop :=
  ∀ native route, routes.byNative.get? native = some route →
    routes.nativeByThread.get? route.threadId ≠ none

/-- What a call of the routes keeps of a binding. -/
structure Binds (native : NativeThreadId) (routes : NativeThreadRoutes)
    (result : NativeThreadRoutes × Except HarnessError NativeRoute) : Prop where
  bound : ∀ thread, (routes.byNative.get? native).map NativeRoute.threadId = some thread →
    (result.1.byNative.get? native).map NativeRoute.threadId = some thread
  grows : ∀ thread, routes.nativeByThread.get? thread ≠ none →
    result.1.nativeByThread.get? thread ≠ none
  owned : Owned routes → Owned result.1
  issued : Owned routes → ∀ route, result.2 = .ok route →
    result.1.nativeByThread.get? route.threadId ≠ none

section Binds

variable {native other : NativeThreadId} {thread : ThreadId} {epoch : NativeRouteEpoch}
  {routes : NativeThreadRoutes} {crates : Crates} {byNative : IndexMap NativeThreadId NativeRoute}

theorem Binds.refused (error : HarnessError) : Binds native routes (routes, .error error) :=
  ⟨fun _ => id, fun _ => id, id, fun _ route impossible => by cases impossible⟩

theorem Binds.kept {route : NativeRoute} (found : routes.byNative.get? other = some route) :
    Binds native routes (routes, .ok route) :=
  ⟨fun _ => id, fun _ => id, id, fun owned _ same => by cases same; exact owned other route found⟩

theorem withRoute_grows {some' : ThreadId}
    (bound : routes.nativeByThread.get? some' ≠ none) :
    (routes.withRoute byNative other thread epoch).nativeByThread.get? some' ≠ none := by
  show (routes.nativeByThread.insert thread other).get? some' ≠ none
  rw [IndexMap.get?_insert]
  split
  · simp
  · exact bound

theorem Binds.issues (fewer : ∀ one route, byNative.get? one = some route →
      routes.byNative.get? one = some route)
    (bound : ∀ thread, (routes.byNative.get? native).map NativeRoute.threadId = some thread →
      native ≠ other ∧ byNative.get? native = routes.byNative.get? native) :
    Binds native routes (routes.withRoute byNative other thread epoch,
      .ok ⟨thread, epoch, none⟩) where
  bound := by
    intro owner known
    obtain ⟨ne, same⟩ := bound owner known
    show ((byNative.insert other _).get? native).map NativeRoute.threadId = some owner
    rw [IndexMap.get?_insert_of_ne _ ne, same]
    exact known
  grows := fun _ => withRoute_grows
  owned := by
    intro owned one route found
    have found : (byNative.insert other ⟨thread, epoch, none⟩).get? one = some route := found
    rw [IndexMap.get?_insert] at found
    split at found
    · cases found
      show (routes.nativeByThread.insert thread other).get? thread ≠ none
      rw [IndexMap.get?_insert_self]
      simp
    · exact withRoute_grows (owned one route (fewer one route found))
  issued := by
    rintro owned _ ⟨⟩
    show (routes.nativeByThread.insert thread other).get? thread ≠ none
    rw [IndexMap.get?_insert_self]
    simp

theorem claim_binds (text : String) (thread : ThreadId) :
    Binds native routes (routes.claim crates text thread) := by
  unfold NativeThreadRoutes.claim
  dsimp only
  split
  · exact .refused _
  · split
    · next existing found =>
      split
      · exact .refused _
      · exact .kept found
    · next unknown =>
      split
      · exact .refused _
      · split
        · exact .refused _
        · refine Binds.issues (fun _ _ => id) fun owner known => ⟨?_, rfl⟩
          rintro rfl
          rw [unknown] at known
          cases known

theorem claimOrAdopt_binds (text : String) (thread : ThreadId) :
    Binds native routes (routes.claimOrAdopt crates text thread) := by
  unfold NativeThreadRoutes.claimOrAdopt
  dsimp only
  split
  · exact .refused _
  · split
    · next existing found => exact .kept found
    · exact claim_binds _ _

/-- A replacement keeps the bindings of the other native threads. -/
theorem replace_binds {expected new : String} (thread : ThreadId)
    (other : native ≠ .trimmed expected) :
    Binds native routes (routes.replace crates expected new thread) := by
  unfold NativeThreadRoutes.replace
  dsimp only
  split
  · exact .refused _
  · split
    · exact .refused _
    · split
      · exact .refused _
      · split
        · exact .refused _
        · split
          · exact .refused _
          · next free =>
            split
            · exact .refused _
            · refine Binds.issues (fun one route found => ?_) fun owner known => ⟨?_, ?_⟩
              · rw [IndexMap.get?_shiftRemove] at found
                split at found
                · cases found
                · exact found
              · rintro rfl
                rw [if_pos other] at free
                rw [free] at known
                cases known
              · rw [IndexMap.get?_shiftRemove, if_neg other]

/-- A call of the routes that keeps a binding, and the log it opens. -/
theorem Steady.bindRoute {worker : CodexInstance}
    {result : NativeThreadRoutes × Except HarnessError NativeRoute}
    (binds : Binds native worker.mapper.routes result) :
    Steady native thread worker (worker.bindRoute result).1 := by
  unfold CodexInstance.bindRoute
  cases outcome : result.2 with
  | error error =>
    exact
      { bound := binds.bound thread
        effects := ⟨[], (List.append_nil _).symm, fun _ _ none => by cases none⟩
        tracked := fun tracked =>
          { owners := binds.owned tracked.owners
            logs := fun owner open' => binds.grows owner (tracked.logs owner open')
            events := fun owner event appended =>
              binds.grows owner (tracked.events owner event appended) } }
  | ok route =>
    exact
      { bound := binds.bound thread
        effects := ⟨[], (List.append_nil _).symm, fun _ _ none => by cases none⟩
        tracked := fun tracked =>
          { owners := binds.owned tracked.owners
            logs := by
              intro owner open'
              rcases List.mem_insert_iff.1 open' with rfl | known
              · exact binds.issued tracked.owners route outcome
              · exact binds.grows owner (tracked.logs owner known)
            events := fun owner event appended =>
              binds.grows owner (tracked.events owner event appended) } }

end Binds

/-! ## The steps of the worker -/

section Steps

variable {env : MapperEnv} {native : NativeThreadId} {thread : ThreadId}

theorem sameThreads_setContextWindow (routes : NativeThreadRoutes) (text : String)
    (owner : ThreadId) (value : Option UInt32) :
    SameThreads routes (routes.setContextWindow text owner value).1 where
  byNative := NativeThreadRoutes.threadId_setContextWindow routes text owner value
  nativeByThread := by
    unfold NativeThreadRoutes.setContextWindow
    split <;> rfl
  nextEpoch := by
    unfold NativeThreadRoutes.setContextWindow
    split <;> rfl

theorem Steady.setContextWindow (worker : CodexInstance) (text : String) (owner : ThreadId)
    (value : Option UInt32) :
    Steady native thread worker (worker.setContextWindow text owner value).1 :=
  .setMapper worker (sameThreads_setContextWindow _ text owner value)

theorem SameThreads.refl (routes : NativeThreadRoutes) : SameThreads routes routes :=
  ⟨fun _ => rfl, rfl, rfl⟩

theorem Steady.fallbackThread (worker : CodexInstance) (pick : ℕ) :
    Steady native thread worker (worker.fallbackThread env pick).1 := by
  unfold CodexInstance.fallbackThread
  dsimp only
  split
  · exact .refl worker
  · exact .setMapper worker (.refl _)

/-- A native thread that was discovered is not the one that is bound. -/
theorem Steady.bindDiscovered {worker : CodexInstance} {other : NativeThreadId}
    (epoch : NativeRouteEpoch) (unknown : worker.mapper.routes.byNative.get? other = none) :
    Steady native thread worker (worker.bindDiscovered env other epoch) := by
  have apart : ∀ owner, (worker.mapper.routes.byNative.get? native).map NativeRoute.threadId =
      some owner → native ≠ other := by
    rintro owner known rfl
    rw [unknown] at known
    cases known
  have binds : Binds native worker.mapper.routes
      (worker.mapper.routes.withRoute worker.mapper.routes.byNative other
        ⟨env.ulid worker.mapper.minted⟩ epoch,
        .ok ⟨⟨env.ulid worker.mapper.minted⟩, epoch, none⟩) :=
    .issues (fun one route found => found) fun owner known => ⟨apart owner known, rfl⟩
  exact
    { bound := binds.bound thread
      effects := by
        refine ⟨[_], rfl, fun bound effect member discovers => ?_⟩
        rw [List.mem_singleton.1 member] at discovers
        refine apart thread bound ?_
        cases native
        cases other
        exact congrArg NativeThreadId.mk discovers.symm
      tracked := fun tracked =>
        { owners := binds.owned tracked.owners
          logs := by
            intro owner open'
            rcases List.mem_insert_iff.1 open' with rfl | known
            · exact binds.issued tracked.owners _ rfl
            · exact binds.grows owner (tracked.logs owner known)
          events := by
            intro owner event appended
            rcases List.mem_append.1 appended with old | new
            · exact binds.grows owner (tracked.events owner event old)
            · cases List.mem_singleton.1 new } }

theorem Maps.steady {α : Type} {named : Option String} {fallback : ThreadId} {map : Mapping α}
    {worker after : CodexInstance} {result : Option α}
    (maps : Maps env worker named fallback map after result)
    (keeps : ∀ mapper, SameThreads mapper.routes (map mapper).2.routes) :
    Steady native thread worker after := by
  cases maps with
  | found found mapped =>
    have same := keeps worker.mapper
    rw [mapped] at same
    exact .setMapper worker same
  | @discovered text epoch result next name unknown fresh room present mapped _ =>
    have same := keeps (worker.bindDiscovered env (.trimmed text) epoch).mapper
    rw [mapped] at same
    exact (Steady.bindDiscovered epoch unknown).trans (.setMapper _ same)
  | dropped unknown full => exact .setMapper worker (.refl _)

end Steps

/-! ## Messages -/

/-- The native thread that a message is looked up under. -/
def messageNamed : ServerMessage Notification CodexServerRequest → Option String
  | .notification notification => notification.named
  | .request _ request => request.body.named

/-- The mapping of a message. -/
def messageMapping (env : MapperEnv) (message : ServerMessage Notification CodexServerRequest)
    (fallback : ThreadId) : Mapping (Option AgentEvent) :=
  match message with
  | .notification notification => tryMapNotification env notification fallback
  | .request id request => tryMapServerRequest env id request fallback

/-- What a worker maps a message to. -/
def CodexInstance.mapMessage (env : MapperEnv) (worker : CodexInstance)
    (message : ServerMessage Notification CodexServerRequest) (pick : ℕ) :
    CodexInstance × Option (Option AgentEvent) :=
  (worker.fallbackThread env pick).1.mapOrDiscover env
    (messageMapping env message (worker.fallbackThread env pick).2)

/-- What follows on a notification that is mapped. -/
def CodexInstance.afterNotification (notification : Notification) :
    CodexInstance × Option (Option AgentEvent) → CodexInstance
  | (worker, some (some event)) => worker.handleEvent (fatalTurnError notification) event
  | (worker, _) => worker

/-- What follows on a request that is mapped. -/
def CodexInstance.afterRequest (writes : RequestId → Bool) (id : RequestId) :
    CodexInstance × Option (Option AgentEvent) → CodexInstance
  | (worker, some (some event)) => worker.broadcastEvent event.threadId event
  | (worker, _) => worker.respond writes id CodexInstance.unroutableResponse

section Messages

variable {env : MapperEnv} {native : NativeThreadId} {thread : ThreadId}

theorem messageMapping_gated (message : ServerMessage Notification CodexServerRequest)
    (fallback : ThreadId) :
    ∃ ends, LooksUp (messageNamed message) ends fallback (messageMapping env message fallback) := by
  cases message with
  | notification notification => exact ⟨_, tryMapNotification_looksUp notification fallback⟩
  | request id request => exact ⟨_, tryMapServerRequest_looksUp id request fallback⟩

theorem messageMapping_keeps (message : ServerMessage Notification CodexServerRequest)
    (fallback : ThreadId) (mapper : CodexMapper) :
    SameThreads mapper.routes (messageMapping env message fallback mapper).2.routes := by
  cases message with
  | notification notification => exact (tryMapNotification_frames notification mapper).routes
  | request id request =>
    by_cases found : ∃ thread, mapper.Resolves request.body.named fallback thread
    · obtain ⟨owner, found⟩ := found
      obtain ⟨result, after, ok, asked⟩ := tryMapServerRequest_returns request found mapper
        (Drawn.refl mapper)
      show SameThreads _ (tryMapServerRequest env id request fallback mapper).2.routes
      rw [ok, asked.routes]
      exact .refl _
    · show SameThreads _ (tryMapServerRequest env id request fallback mapper).2.routes
      rw [tryMapServerRequest_fails request found]
      exact .refl _

theorem mapMessage_maps (worker : CodexInstance)
    (message : ServerMessage Notification CodexServerRequest) (pick : ℕ) :
    Maps env (worker.fallbackThread env pick).1 (messageNamed message)
      (worker.fallbackThread env pick).2
      (messageMapping env message (worker.fallbackThread env pick).2)
      (worker.mapMessage env message pick).1 (worker.mapMessage env message pick).2 := by
  obtain ⟨ends, looksUp⟩ := @messageMapping_gated env message
    (worker.fallbackThread env pick).2
  exact mapOrDiscover_maps looksUp

theorem Steady.mapMessage (worker : CodexInstance)
    (message : ServerMessage Notification CodexServerRequest) (pick : ℕ) :
    Steady native thread worker (worker.mapMessage env message pick).1 :=
  (Steady.fallbackThread worker pick).trans
    ((mapMessage_maps worker message pick).steady (messageMapping_keeps message _))

theorem fallbackThread_mapper (worker : CodexInstance) (pick : ℕ) :
    Drawn env worker.mapper (worker.fallbackThread env pick).1.mapper := by
  unfold CodexInstance.fallbackThread
  dsimp only
  split
  · exact .refl _
  · exact .minted _

theorem resolves_fallbackThread {worker : CodexInstance} {pick : ℕ} {named : Option String} {fallback thread : ThreadId} :
    (worker.fallbackThread env pick).1.mapper.Resolves named fallback thread ↔
      worker.mapper.Resolves named fallback thread := by
  unfold CodexMapper.Resolves
  rw [(@fallbackThread_mapper env worker pick).routes]

theorem Steady.endTurn (worker : CodexInstance) (owner : ThreadId)
    {clear : CodexMapper → CodexMapper} (keeps : ∀ mapper, (clear mapper).routes = mapper.routes) :
    Steady native thread worker (worker.endTurn owner clear) := by
  refine .quiet ?_ (fun _ there => there) rfl
  show SameThreads worker.mapper.routes (clear worker.mapper).routes
  rw [keeps]
  exact .refl _

theorem clearActiveTurnIfMatches_routes (owner : ThreadId) (turn : TurnId) (mapper : CodexMapper) :
    (mapper.clearActiveTurnIfMatches owner turn).routes = mapper.routes := by
  unfold CodexMapper.clearActiveTurnIfMatches
  split
  · split <;> rfl
  · rfl

theorem Steady.markTurnStarted (worker : CodexInstance) (event : AgentEvent) :
    Steady native thread worker (worker.markTurnStarted event) := by
  unfold CodexInstance.markTurnStarted
  split
  · split
    · exact .quiet (.refl _) (fun _ there => there) rfl
    · exact .refl worker
  · exact .refl worker

theorem Steady.handleEvent (worker : CodexInstance) (fatal : Option String) (event : AgentEvent) :
    Steady native thread worker (worker.handleEvent fatal event) := by
  unfold CodexInstance.handleEvent
  dsimp only
  have told := (@Steady.markTurnStarted native thread worker event).trans
    (.broadcastEvent _ event.threadId event)
  split
  · exact told.trans (.endTurn _ _ fun mapper => clearActiveTurnIfMatches_routes _ _ mapper)
  · exact told.trans ((Steady.broadcastEvent _ _ _).trans (.endTurn _ _ fun mapper => rfl))
  · exact told

theorem Steady.notified (worker : CodexInstance) (notification : Notification) (pick : ℕ) :
    Steady native thread (worker.mapMessage env (.notification notification) pick).1
      (worker.handleNotification env notification pick) := by
  show Steady native thread _
    (.afterNotification notification (worker.mapMessage env (.notification notification) pick))
  unfold CodexInstance.afterNotification
  split
  · next after event same =>
    rw [same]
    exact .handleEvent _ _ _
  · next after result _ same =>
    rw [same]
    exact .refl _

theorem Steady.requested (worker : CodexInstance) (id : RequestId) (request : CodexServerRequest)
    (pick : ℕ) (writes : RequestId → Bool) :
    Steady native thread (worker.mapMessage env (.request id request) pick).1
      (worker.handleServerRequest env id request pick writes) := by
  show Steady native thread _
    (.afterRequest writes id (worker.mapMessage env (.request id request) pick))
  unfold CodexInstance.afterRequest
  split
  · next after event same =>
    rw [same]
    exact .broadcastEvent _ _ _
  · next after result _ same =>
    rw [same]
    exact .respond _ _ _ _

end Messages

/-! ## Commands -/

section Commands

variable {env : MapperEnv} {native : NativeThreadId} {thread : ThreadId} {crates : Crates}

theorem OpeningActs.steady {replaced : NativeThreadId → Prop} {before after : CodexInstance}
    (acts : OpeningActs crates replaced before after) (other : ¬ replaced native) :
    Steady native thread before after := by
  refine acts.keep .refl Steady.trans fun act => ?_
  cases act with
  | claimed text owner => exact .bindRoute (claim_binds _ _)
  | adopted text owner => exact .bindRoute (claimOrAdopt_binds _ _)
  | replaced text owner may =>
    refine .bindRoute (replace_binds owner ?_)
    rintro rfl
    exact other may
  | configured text owner value => exact .setContextWindow _ text owner value
  | told owner running => exact .broadcastEvent _ owner _

theorem Steady.startTurn (worker : CodexInstance) (owner : ThreadHandle) (model : Option ModelRef)
    (window : Option UInt32) (replies : ContextReplies) (reply : Except HarnessError String) :
    Steady native thread worker (worker.startTurn env owner model window replies reply) := by
  have ensured : Steady native thread worker _ :=
    (@ensureContext_acts env.crates (fun _ => False) worker owner model window replies).steady id
  unfold CodexInstance.startTurn
  split
  · next after error _ same =>
    rw [same] at ensured
    exact ensured
  · next after error same =>
    rw [same] at ensured
    exact ensured
  · next after text same =>
    rw [same] at ensured
    have routes := (@registerStartedTurn_frames env True owner.thread model text after.mapper).routes
    split
    · next turn mapper registered =>
      rw [registered] at routes
      have emitted : Steady native thread (after.setMapper mapper) ((after.setMapper mapper).emit
          (.turnReturned owner.thread (NativeThreadId.trimmed text).text turn)) :=
        .emit (fun native discovers => discovers) (by rintro _ _ ⟨⟩)
      refine ensured.trans ((Steady.setMapper after routes).trans (emitted.trans ?_))
      exact .quiet (.refl _) (fun _ there => there) rfl
    · next result mapper other registered =>
      have same : (CodexInstance.registerStartedTurn env owner.thread model text after.mapper).2 =
        mapper := congrArg Prod.snd registered
      rw [same] at routes
      exact ensured.trans (.setMapper after routes)

theorem sameThreads_of_eq {routes other : NativeThreadRoutes} (same : other = routes) :
    SameThreads routes other := by
  rw [same]
  exact .refl routes

theorem removeExactApprovalResponse_routes (mapper : CodexMapper)
    (prepared : PreparedApprovalResponse) :
    (mapper.removeExactApprovalResponse prepared).routes = mapper.routes := by
  unfold CodexMapper.removeExactApprovalResponse
  split
  · split <;> rfl
  · rfl

theorem resolveServerRequest_routes (mapper : CodexMapper) (id : ServerRequestId)
    (requestId : RequestId) :
    (mapper.resolveServerRequest id requestId).routes = mapper.routes := by
  unfold CodexMapper.resolveServerRequest
  split
  · split <;> rfl
  · rfl

theorem respond_mapper (worker : CodexInstance) (writes : RequestId → Bool) (id : RequestId)
    (body : ApprovalResponseBody) : (worker.respond writes id body).mapper = worker.mapper := by
  unfold CodexInstance.respond
  split <;> rfl

theorem Steady.answer (worker : CodexInstance) (writes : RequestId → Bool) (id : RequestId)
    (body : ApprovalResponseBody) {mapper : CodexMapper}
    (routes : mapper.routes = worker.mapper.routes) :
    Steady native thread worker ((worker.respond writes id body).setMapper mapper) := by
  refine (Steady.respond worker writes id body).trans (.setMapper _ ?_)
  rw [respond_mapper]
  exact sameThreads_of_eq routes

theorem Steady.respondApproval (worker : CodexInstance) (id : ApprovalId)
    (decision : ApprovalDecision) (writes : RequestId → Bool) :
    Steady native thread worker (worker.respondApproval id decision writes).1 := by
  unfold CodexInstance.respondApproval
  split
  · exact .refl worker
  · split
    · exact .answer worker writes _ _ (removeExactApprovalResponse_routes _ _)
    · exact .refl worker

theorem Steady.respondServerRequest (worker : CodexInstance) (id : ServerRequestId)
    (response : ServerRequestResponse) (writes : RequestId → Bool) :
    Steady native thread worker (worker.respondServerRequest id response writes).1 := by
  unfold CodexInstance.respondServerRequest
  split
  · exact .refl worker
  · split
    · exact (Steady.answer worker writes _ _ (resolveServerRequest_routes _ _ _)).trans
        (.broadcastEvent _ _ _)
    · exact .refl worker

theorem Steady.cancelApproval (worker : CodexInstance) (writes : RequestId → Bool)
    (id : ApprovalId) : Steady native thread worker (worker.cancelApproval writes id) := by
  unfold CodexInstance.cancelApproval
  split
  · exact .refl worker
  · exact .answer worker writes _ _ (removeExactApprovalResponse_routes _ _)

theorem Steady.rejectPendingRequests (worker : CodexInstance) (owner : ThreadId)
    (writes : RequestId → Bool) :
    Steady native thread worker (worker.rejectPendingRequests owner writes) :=
  (Steady.foldl (fun worker id => .cancelApproval worker writes id) _ worker).trans
    (.foldl (fun worker id => .respondServerRequest worker id _ writes) _ _)

theorem Steady.deleteThread (worker : CodexInstance) (owner : ThreadHandle) (deleted : Bool) :
    Steady native thread worker (worker.deleteThread owner deleted) := by
  unfold CodexInstance.deleteThread
  split
  · exact .refl worker
  · split
    · exact .quiet (.refl _) (fun _ there => List.mem_of_mem_erase there) rfl
    · exact .refl worker

theorem Steady.emitIncompleteActiveTurns (worker : CodexInstance) (message : String) :
    Steady native thread worker (worker.emitIncompleteActiveTurns message) := by
  refine (Steady.foldl (fun worker entry => ?_) worker.activeTurns.entries worker).trans
    (.quiet (.refl _) (fun _ there => there) rfl)
  exact (Steady.broadcastEvent _ _ _).trans (.setMapper _ (.refl _))

end Commands

/-! ## Discovered once -/

section Runs

open Foundation (Schedule.run_invariant Schedule.run_preserves)
open Foundation.Schedule (Meets)

variable {env : MapperEnv} {native : NativeThreadId} {thread : ThreadId} {worker : CodexInstance}

theorem new_preserves {crates : Crates} {P : CodexInstance → Prop} (init : P .fresh)
    (claims : ∀ worker text thread, P worker → P (worker.claimThreadRoute crates text thread).1)
    {known : List (String × ThreadId)} {first : CodexInstance}
    (started : CodexInstance.new crates known = .ok first) : P first := by
  unfold CodexInstance.new at started
  generalize CodexInstance.fresh = worker at init started
  induction known generalizing worker with
  | nil =>
    cases started
    exact init
  | cons binding known ih =>
    rw [List.foldlM_cons] at started
    have claimed := claims worker binding.1 binding.2 init
    unfold CodexInstance.claimKnown at started
    split at started
    · next after owner same =>
      rw [same] at claimed
      exact ih after claimed started
    · cases started

/-- The thread that a discovery gets. -/
def CodexInstance.newThread (env : MapperEnv) (worker : CodexInstance) (pick : ℕ) : ThreadId :=
  ⟨env.ulid (worker.fallbackThread env pick).1.mapper.minted⟩

/-- A text that names a native thread, which is not known while another one is. -/
structure CodexInstance.Unknown (worker : CodexInstance) (text : String) : Prop where
  others : worker.mapper.routes.byNative.entries ≠ []
  named : (NativeThreadId.trimmed text).text ≠ ""
  unbound : worker.mapper.routes.byNative.get? (.trimmed text) = none

/-- The id of a new thread is no id of a bound one, and the route epochs are not used up. -/
structure CodexInstance.CanBind (env : MapperEnv) (worker : CodexInstance) (pick : ℕ) : Prop where
  unused : worker.mapper.routes.nativeByThread.get? (worker.newThread env pick) = none
  room : worker.mapper.routes.nextEpoch.checkedNext ≠ none

theorem fallbackThread_same (worker : CodexInstance) (pick : ℕ) :
    (worker.fallbackThread env pick).1.effects = worker.effects ∧
      (worker.fallbackThread env pick).1.mapper.routes = worker.mapper.routes ∧
      (worker.fallbackThread env pick).1.senders = worker.senders := by
  unfold CodexInstance.fallbackThread
  dsimp only
  split
  · exact ⟨rfl, rfl, rfl⟩
  · exact ⟨rfl, rfl, rfl⟩

/-- A state that a worker can be in. -/
def CodexInstance.Reached (env : MapperEnv) (worker : CodexInstance) : Prop :=
  ∃ known first inputs, CodexInstance.new env.crates known = .ok first ∧
    worker = first.run env inputs

end Runs

/-! ## A message that binds nothing -/

noncomputable def sampleEnv : MapperEnv :=
  ⟨fun i => ⟨BitVec.ofNat 128 i⟩, ⟨0, 0⟩, Crates.reference⟩

/-- A worker that knows one native thread. -/
noncomputable def sampleWorker : CodexInstance :=
  (CodexInstance.fresh.claimThreadRoute Crates.reference "main" ⟨⟨1000⟩⟩).1

theorem sampleWorker_reached : sampleWorker.Reached sampleEnv :=
  ⟨[("main", ⟨⟨1000⟩⟩)], sampleWorker, [], rfl, rfl⟩

end Giskard.Codex
