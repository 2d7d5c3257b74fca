import Mathlib
import Giskard.Foundation.Accounts
import Giskard.Model.LoginThrottle

/-!
# How many passwords a throttled login verifies

The check of a request and the record of its outcome are separate steps, so requests that have
passed their check may verify whatever is recorded meanwhile. `login_attempts_are_bounded` says
when the throttle keeps its promise all the same: when a request passes its check beside others
only as long as the failures on record and the requests under way stay below the free failures.
Requests one after the other are always so spaced.

The account has two potentials: how many passwords can still be verified before a lockout
expires (`allowance`), and how many if one expires now (`reserve`).
-/

set_option autoImplicit false

namespace Giskard.Login

open Foundation.Schedule (Meets run trace run_invariant trace_forall trace_amortized meets_append)

/-! ## Spaced requests -/

/-- A request passes its check alone, or while the failures on record and the requests under way
are fewer than the free failures. -/
def Spaced (state : LoginState) : LoginStep → Prop
  | .check => state.throttle.passes state.now = true → state.requests = [] ∨
    state.throttle.consecutiveFailures + state.requests.length < freeFailures
  | _ => True

/-- A request whose outcome is known and not recorded. -/
def Phase.isDecided : Phase → Bool
  | .decided _ => true
  | _ => false

/-- How many requests have an outcome that is not recorded. -/
def LoginState.unrecorded (state : LoginState) : ℕ := state.requests.countP Phase.isDecided

/-- Requests that share the throttle are few, and while it is locked there are none. -/
structure Guarded (state : LoginState) : Prop where
  few : state.requests.length ≤ 1 ∨
    state.throttle.consecutiveFailures + state.requests.length ≤ freeFailures
  locked : state.throttle.lockedUntil.isSome = true →
    state.requests = [] ∧ freeFailures ≤ state.throttle.consecutiveFailures

theorem Guarded.new : Guarded .new where
  few := .inl (Nat.zero_le 1)
  locked held := by cases held

/-- How many passwords may be verified if the lock, if any, expires now. -/
def LoginState.reserve (state : LoginState) : ℕ :=
  max (freeFailures - state.throttle.consecutiveFailures) 1 - state.unrecorded

/-- How many passwords may be verified before a lockout expires. -/
def LoginState.allowance (state : LoginState) : ℕ :=
  if state.throttle.lockedUntil.isSome then 0 else state.reserve

variable {state : LoginState}

/-! ## The throttle -/

theorem isSome_lockoutFor (failures : ℕ) :
    (lockoutFor failures).isSome = true ↔ freeFailures ≤ failures := by
  unfold lockoutFor
  split
  · next fewer => simpa using fewer
  · next many => simpa using many

theorem recordFailure_cases (throttle : ThrottleState) (now : ℕ) {failures : ℕ}
    (count : min (throttle.consecutiveFailures + 1) (2 ^ 32 - 1) = failures) :
    (throttle.recordFailure now).consecutiveFailures = failures ∧
      (freeFailures ≤ failures ∧ (throttle.recordFailure now).lockedUntil.isSome = true ∨
        failures < freeFailures ∧
          (throttle.recordFailure now).lockedUntil = throttle.lockedUntil) := by
  have locks := isSome_lockoutFor failures
  unfold ThrottleState.recordFailure
  rw [count]
  dsimp only
  cases lockout : lockoutFor failures with
  | none =>
    rw [lockout] at locks
    exact ⟨rfl, .inr ⟨by simpa using locks, rfl⟩⟩
  | some duration =>
    rw [lockout] at locks
    exact ⟨rfl, .inl ⟨by simpa using locks, rfl⟩⟩

theorem check_cases (throttle : ThrottleState) (now : ℕ) :
    (throttle.passes now = true ∧ throttle.check now = { throttle with lockedUntil := none }) ∨
      (throttle.passes now = false ∧ throttle.check now = throttle ∧
        throttle.lockedUntil.isSome = true) := by
  unfold ThrottleState.check
  cases passes : throttle.passes now with
  | true => exact .inl ⟨rfl, rfl⟩
  | false =>
    refine .inr ⟨rfl, rfl, ?_⟩
    cases lock : throttle.lockedUntil with
    | none =>
      rw [ThrottleState.passes, lock] at passes
      cases passes
    | some until_ => rfl

/-! ## Requests -/

theorem split_requests {requests : List Phase} {index : ℕ} {phase : Phase}
    (found : requests[index]? = some phase) :
    ∃ front back, requests = front ++ phase :: back ∧
      requests.eraseIdx index = front ++ back ∧
      ∀ next, requests.set index next = front ++ next :: back := by
  obtain ⟨inside, here⟩ := List.getElem?_eq_some_iff.1 found
  refine ⟨requests.take index, requests.drop (index + 1), ?_, ?_, fun next => ?_⟩
  · rw [← here, List.getElem_cons_drop, List.take_append_drop]
  · exact List.eraseIdx_eq_take_drop_succ requests index
  · rw [List.set_eq_take_append_cons_drop, if_pos inside]

theorem advance_counts {index : ℕ} {phase : Phase} (found : state.requests[index]? = some phase)
    (undecided : phase.isDecided = false) (next : Phase) :
    (state.advance index next).requests.length = state.requests.length ∧
      (state.advance index next).unrecorded = state.unrecorded + next.isDecided.toNat := by
  obtain ⟨front, back, whole, _, set⟩ := split_requests found
  unfold LoginState.unrecorded LoginState.advance
  dsimp only
  rw [set, whole]
  cases decided : next.isDecided <;>
    simp [undecided, decided, List.countP_append]
  omega

theorem leave_counts {index : ℕ} {phase : Phase} (found : state.requests[index]? = some phase) :
    (state.leave index).requests.length + 1 = state.requests.length ∧
      (state.leave index).unrecorded + phase.isDecided.toNat = state.unrecorded := by
  obtain ⟨front, back, whole, erased, _⟩ := split_requests found
  unfold LoginState.unrecorded LoginState.leave
  dsimp only
  rw [erased, whole]
  cases decided : phase.isDecided <;>
    simp [decided, List.countP_append] <;> omega

theorem unrecorded_le (state : LoginState) : state.unrecorded ≤ state.requests.length :=
  List.countP_le_length

/-! ## What a step does -/

/-- What a step changes, with the events it makes. -/
inductive Acts (state : LoginState) : LoginStep → LoginState → List LoginEvent → Prop where
  /-- Time passes, a check is refused, or a request goes on or leaves unverified. -/
  | quiet {choice : LoginStep} {next : LoginState} (throttle : next.throttle = state.throttle)
      (fewer : next.requests.length ≤ state.requests.length)
      (decided : state.unrecorded ≤ next.unrecorded) : Acts state choice next []
  | passed {next : LoginState} {events : List LoginEvent}
      (passes : state.throttle.passes state.now = true)
      (throttle : next.throttle = { state.throttle with lockedUntil := none })
      (more : next.requests.length = state.requests.length + 1)
      (same : next.unrecorded = state.unrecorded)
      (expired : events = if state.throttle.lockedUntil.isSome then [.expired] else []) :
      Acts state .check next events
  | verified {choice : LoginStep} {next : LoginState} (throttle : next.throttle = state.throttle)
      (same : next.requests.length = state.requests.length)
      (decided : next.unrecorded = state.unrecorded + 1) :
      Acts state choice next [.verified state.now state.throttle.lockedUntil]
  | failed {choice : LoginStep} {next : LoginState} {events : List LoginEvent}
      (less : next.requests.length + 1 = state.requests.length)
      (recorded : next.unrecorded + 1 = state.unrecorded)
      (count : next.throttle.consecutiveFailures ≤ state.throttle.consecutiveFailures + 1)
      (grows : next.throttle.consecutiveFailures < freeFailures →
        next.throttle.consecutiveFailures = state.throttle.consecutiveFailures + 1)
      (locks : freeFailures ≤ next.throttle.consecutiveFailures ∧
          next.throttle.lockedUntil.isSome = true ∧ events = [.lockedOut] ∨
        next.throttle.consecutiveFailures < freeFailures ∧ events = [] ∧
          next.throttle.lockedUntil = state.throttle.lockedUntil) : Acts state choice next events
  | succeeded {choice : LoginStep} {next : LoginState}
      (less : next.requests.length + 1 = state.requests.length)
      (fresh : next.throttle = .new) : Acts state choice next [.succeeded]

theorem load_acts (state : LoginState) (index : ℕ) (config : Option Bool) :
    Acts state (.load index config) (state.step (.load index config)) [] := by
  unfold LoginState.step
  dsimp only
  split
  · next found =>
    cases config with
    | some hash =>
      obtain ⟨length, counts⟩ := advance_counts found rfl (.loaded hash)
      exact .quiet rfl length.le (by rw [counts]; exact Nat.le_add_right _ _)
    | none =>
      obtain ⟨length, counts⟩ := leave_counts found
      exact .quiet rfl (by dsimp only; omega) (by rw [← counts]; exact le_rfl)
  · exact .quiet rfl le_rfl le_rfl

theorem cancel_acts (state : LoginState) (index : ℕ) :
    Acts state (.cancel index) (state.step (.cancel index)) [] := by
  unfold LoginState.step
  dsimp only
  split
  · next found =>
    obtain ⟨length, counts⟩ := leave_counts found
    exact .quiet rfl (by omega) (by rw [← counts]; exact le_rfl)
  · exact .quiet rfl le_rfl le_rfl

theorem verify_acts (state : LoginState) (index : ℕ) (ok : Bool) :
    Acts state (.verify index ok) (state.step (.verify index ok))
      (state.observe (.verify index ok)) := by
  unfold LoginState.step LoginState.observe
  dsimp only
  cases found : state.requests[index]? with
  | none => exact .quiet rfl le_rfl le_rfl
  | some phase =>
    cases phase with
    | loaded hash =>
      obtain ⟨length, counts⟩ := advance_counts found rfl (.decided (hash && ok))
      cases hash with
      | true => exact .verified rfl length counts
      | false => exact .quiet rfl length.le (by dsimp only; rw [counts]; exact Nat.le_add_right _ _)
    | _ => exact .quiet rfl le_rfl le_rfl

theorem check_acts (state : LoginState) :
    Acts state .check (state.step .check) (state.observe .check) := by
  unfold LoginState.step LoginState.observe
  dsimp only
  rcases check_cases state.throttle state.now with ⟨passes, check⟩ | ⟨refused, check, _⟩
  · rw [check, passes, if_pos rfl, Bool.and_true]
    refine .passed passes rfl (by simp) ?_ rfl
    simp [LoginState.unrecorded, List.countP_append, Phase.isDecided]
  · rw [check, refused, if_neg (by simp), Bool.and_false]
    exact .quiet rfl le_rfl le_rfl

theorem record_acts (state : LoginState) (index : ℕ) :
    Acts state (.record index) (state.step (.record index)) (state.observe (.record index)) := by
  unfold LoginState.step LoginState.observe
  dsimp only
  cases found : state.requests[index]? with
  | none => exact .quiet rfl le_rfl le_rfl
  | some phase =>
    cases phase with
    | decided ok =>
      obtain ⟨length, counts⟩ := leave_counts found
      cases ok with
      | true => exact .succeeded length rfl
      | false =>
        obtain ⟨count, locks⟩ := recordFailure_cases state.throttle state.now rfl
        have large : freeFailures < 2 ^ 32 - 1 := by decide
        have some_ := isSome_lockoutFor (min (state.throttle.consecutiveFailures + 1) (2 ^ 32 - 1))
        dsimp only
        refine .failed length counts (by dsimp only; omega) (fun few => ?_) ?_
        · dsimp only at few ⊢
          omega
        · dsimp only
          rw [count]
          rcases locks with ⟨many, locked⟩ | ⟨few, same⟩
          · exact .inl ⟨many, locked, if_pos (some_.2 many)⟩
          · exact .inr ⟨few, if_neg (fun some' => absurd (some_.1 some') (by omega)), same⟩
    | _ => exact .quiet rfl le_rfl le_rfl

theorem step_acts (state : LoginState) (choice : LoginStep) :
    Acts state choice (state.step choice) (state.observe choice) := by
  cases choice with
  | tick duration => exact .quiet rfl le_rfl le_rfl
  | check => exact check_acts state
  | load index config => exact load_acts state index config
  | verify index ok => exact verify_acts state index ok
  | record index => exact record_acts state index
  | cancel index => exact cancel_acts state index

/-! ## The account -/

/-- Spaced steps keep the requests few, and alone before a lock. -/
theorem Guarded.step (guarded : Guarded state) {choice : LoginStep} (spaced : Spaced state choice) :
    Guarded (state.step choice) := by
  have few := guarded.few
  have free : freeFailures = 5 := rfl
  have acts := step_acts state choice
  generalize state.step choice = next at acts ⊢
  generalize state.observe choice = events at acts
  cases acts with
  | quiet throttle fewer decided =>
    refine ⟨?_, fun locked => ?_⟩
    · rw [throttle]
      omega
    · rw [throttle] at locked ⊢
      obtain ⟨none_, many⟩ := guarded.locked locked
      rw [none_, List.length_nil] at fewer
      exact ⟨List.length_eq_zero_iff.1 (Nat.le_zero.1 fewer), many⟩
  | passed passes throttle more same expired =>
    refine ⟨?_, fun locked => ?_⟩
    · rw [throttle, more]
      rcases spaced passes with none_ | room
      · left
        rw [none_]
        exact le_rfl
      · exact .inr room
    · rw [throttle] at locked
      cases locked
  | verified throttle same decided =>
    refine ⟨?_, fun locked => ?_⟩
    · rw [throttle, same]
      exact few
    · rw [throttle] at locked ⊢
      obtain ⟨none_, many⟩ := guarded.locked locked
      rw [none_, List.length_nil] at same
      exact ⟨List.length_eq_zero_iff.1 same, many⟩
  | failed less recorded count grows locks =>
    refine ⟨by omega, fun locked => ?_⟩
    rcases locks with ⟨many, _⟩ | ⟨_, _, same⟩
    · exact ⟨List.length_eq_zero_iff.1 (by omega), many⟩
    · rw [same] at locked
      obtain ⟨none_, _⟩ := guarded.locked locked
      rw [none_, List.length_nil] at less
      omega
  | succeeded less fresh =>
    have failures : next.throttle.consecutiveFailures = 0 := by rw [fresh]; rfl
    refine ⟨by omega, fun locked => ?_⟩
    rw [fresh] at locked
    cases locked

/-- A password that is verified. -/
def LoginEvent.isVerified : LoginEvent → Bool
  | .verified _ _ => true
  | _ => false

theorem LoginState.reserve_eq (state : LoginState) : state.reserve =
    max (freeFailures - state.throttle.consecutiveFailures) 1 - state.unrecorded := rfl

/-- Without a success and without a lockout, every verification uses up one of the reserve. -/
theorem Guarded.pays_reserve (guarded : Guarded state) (choice : LoginStep)
    (spared : ∀ event ∈ state.observe choice, ¬(event = .succeeded ∨ event = .lockedOut)) :
    (state.step choice).reserve + (state.observe choice).countP LoginEvent.isVerified ≤
      state.reserve := by
  have few := guarded.few
  have free : freeFailures = 5 := rfl
  have acts := step_acts state choice
  generalize state.step choice = next at acts ⊢
  generalize state.observe choice = events at acts spared ⊢
  have bound := unrecorded_le next
  cases acts with
  | quiet throttle fewer decided =>
    rw [List.countP_nil, LoginState.reserve_eq, LoginState.reserve_eq, throttle]
    omega
  | passed passes throttle more same expired =>
    have none_ : events.countP LoginEvent.isVerified = 0 := by
      rw [expired]
      split <;> rfl
    rw [none_, LoginState.reserve_eq, LoginState.reserve_eq, throttle, same]
    exact le_rfl
  | verified throttle same decided =>
    have one : [LoginEvent.verified state.now state.throttle.lockedUntil].countP
        LoginEvent.isVerified = 1 := rfl
    rw [one, LoginState.reserve_eq, LoginState.reserve_eq, throttle]
    omega
  | failed less recorded count grows locks =>
    rcases locks with ⟨_, _, locked⟩ | ⟨open_, none_, _⟩
    · rw [locked] at spared
      exact absurd (.inr rfl) (spared _ (List.mem_singleton_self _))
    · have more := grows open_
      rw [none_, List.countP_nil, LoginState.reserve_eq, LoginState.reserve_eq, more]
      have before := unrecorded_le state
      omega
  | succeeded less fresh => exact absurd (.inl rfl) (spared _ (List.mem_singleton_self _))

/-- Without a success, every verification uses up one of the allowance, and every lockout that
expires gives one back. -/
theorem Guarded.pays_allowance (guarded : Guarded state) (choice : LoginStep)
    (spared : ∀ event ∈ state.observe choice, event ≠ .succeeded) :
    (state.step choice).allowance + (state.observe choice).countP LoginEvent.isVerified ≤
      state.allowance + (state.observe choice).countP (· = .expired) := by
  have pays := guarded.pays_reserve choice
  have free : freeFailures = 5 := rfl
  have acts := step_acts state choice
  generalize state.step choice = next at acts pays ⊢
  generalize state.observe choice = events at acts pays spared ⊢
  have unlocked {other : LoginState} (open_ : other.throttle.lockedUntil.isSome = false) :
      other.allowance = other.reserve := by
    rw [LoginState.allowance, open_, if_neg (by simp)]
  have locked {other : LoginState} (closed : other.throttle.lockedUntil.isSome = true) :
      other.allowance = 0 := by
    rw [LoginState.allowance, closed, if_pos rfl]
  cases acts with
  | quiet throttle fewer decided =>
    have least := pays (by simp)
    cases lock : state.throttle.lockedUntil.isSome with
    | true =>
      rw [locked (by rw [throttle, lock])]
      exact Nat.zero_le _
    | false =>
      rw [unlocked lock, unlocked (by rw [throttle, lock])]
      exact least
  | passed passes throttle more same expired =>
    have opened : next.allowance = next.reserve := unlocked (by rw [throttle]; rfl)
    have reserve : next.reserve = state.reserve := by
      rw [LoginState.reserve_eq, LoginState.reserve_eq, throttle, same]
    rw [opened, reserve, expired]
    cases lock : state.throttle.lockedUntil.isSome with
    | true =>
      have many := (guarded.locked lock).2
      have one : [LoginEvent.expired].countP (· = .expired) = 1 := rfl
      have none_ : [LoginEvent.expired].countP LoginEvent.isVerified = 0 := rfl
      rw [locked lock, if_pos rfl, one, none_, LoginState.reserve_eq]
      omega
    | false =>
      rw [unlocked lock, if_neg (by simp)]
      exact le_rfl
  | verified throttle same decided =>
    have least := pays (by simp)
    cases lock : state.throttle.lockedUntil.isSome with
    | true =>
      have none_ := (guarded.locked lock).1
      have bound := unrecorded_le next
      rw [none_, List.length_nil] at same
      omega
    | false =>
      rw [unlocked lock, unlocked (by rw [throttle, lock])]
      exact least
  | failed less recorded count grows locks =>
    rcases locks with ⟨_, closed, events_⟩ | ⟨_, events_, same⟩
    · have none_ : [LoginEvent.lockedOut].countP LoginEvent.isVerified = 0 := rfl
      rw [locked closed, events_, none_]
      exact Nat.zero_le _
    · have least := pays (by rw [events_]; simp)
      cases lock : state.throttle.lockedUntil.isSome with
      | true =>
        rw [locked (by rw [same, lock]), events_]
        exact Nat.zero_le _
      | false =>
        rw [unlocked lock, unlocked (by rw [same, lock])]
        exact least.trans (Nat.le_add_right _ _)
  | succeeded less fresh => exact absurd rfl (spared _ (List.mem_singleton_self _))

theorem reserve_le (state : LoginState) : state.reserve ≤ freeFailures := by
  have free : freeFailures = 5 := rfl
  rw [LoginState.reserve_eq]
  omega

theorem allowance_le (state : LoginState) : state.allowance ≤ freeFailures := by
  unfold LoginState.allowance
  split
  · exact Nat.zero_le _
  · exact reserve_le state

/-- A verification finds the login unlocked. -/
theorem Guarded.verified_unlocked (guarded : Guarded state) (choice : LoginStep) :
    ∀ event ∈ state.observe choice,
      ∀ now lockedUntil, event = .verified now lockedUntil → lockedUntil = none := by
  have acts := step_acts state choice
  generalize state.step choice = next at acts
  generalize state.observe choice = events at acts
  rintro event member now lockedUntil rfl
  cases acts with
  | quiet => cases member
  | passed passes throttle more same expired =>
    rw [expired] at member
    split at member <;> simp at member
  | verified throttle same decided =>
    rw [List.mem_singleton, LoginEvent.verified.injEq] at member
    rw [member.2]
    by_contra lock
    have none_ := (guarded.locked (Option.isSome_iff_ne_none.2 lock)).1
    have bound := unrecorded_le next
    rw [none_, List.length_nil] at same
    omega
  | failed less recorded count grows locks =>
    rcases locks with ⟨_, _, events_⟩ | ⟨_, events_, _⟩
    · rw [events_] at member
      simp at member
    · rw [events_] at member
      cases member
  | succeeded => simp at member

/-- The events of a stretch of steps. -/
def events (state : LoginState) (stretch : List LoginStep) : List LoginEvent :=
  trace LoginState.step LoginState.observe state stretch

/-- **A locked login verifies no password, when requests are spaced.** In every run whose
requests pass their checks spaced, however their steps and the time fall, no password is verified
while the login is locked; and a stretch without a successful login verifies at most the free
failures before its first lockout, and one more for each lockout that has expired. -/
theorem login_attempts_are_bounded (before stretch : List LoginStep)
    (spaced : Meets LoginState.step Spaced .new (before ++ stretch)) :
    let start := run LoginState.step .new before
    (∀ now until_, .verified now (some until_) ∈ events start stretch → until_ ≤ now) ∧
    (.succeeded ∉ events start stretch →
      (.lockedOut ∉ events start stretch →
        (events start stretch).countP LoginEvent.isVerified ≤ freeFailures) ∧
      (events start stretch).countP LoginEvent.isVerified ≤
        freeFailures + (events start stretch).countP (· = .expired)) := by
  intro start
  rw [meets_append] at spaced
  have kept (state : LoginState) (choice : LoginStep) (guarded : Guarded state)
      (spaced : Spaced state choice) : Guarded (state.step choice) := guarded.step spaced
  have guarded : Guarded start := run_invariant Guarded.new spaced.1 kept
  refine ⟨fun now until_ member => ?_, fun noSuccess => ⟨fun noLockout => ?_, ?_⟩⟩
  · have unlocked := trace_forall guarded spaced.2 kept
      (fun state choice guarded _ => guarded.verified_unlocked choice) _ member now (some until_) rfl
    cases unlocked
  · have spared (event : LoginEvent) (member : event ∈ events start stretch) :
        ¬(event = .succeeded ∨ event = .lockedOut) := by
      rintro (rfl | rfl)
      · exact noSuccess member
      · exact noLockout member
    have account : (run LoginState.step start stretch).reserve +
        (events start stretch).countP LoginEvent.isVerified ≤
          start.reserve + (events start stretch).countP fun _ => false :=
      trace_amortized guarded spaced.2 kept
        (fun state choice guarded _ spared =>
          (guarded.pays_reserve choice spared).trans (Nat.le_add_right _ _)) spared
    have start_ := reserve_le start
    rw [List.countP_false] at account
    exact (Nat.le_add_left _ _).trans (account.trans start_)
  · have account := trace_amortized guarded spaced.2 kept
      (fun state choice guarded _ spared => guarded.pays_allowance choice spared)
      (by rintro event member rfl; exact noSuccess member)
    have start_ := allowance_le start
    exact (Nat.le_add_left _ _).trans (account.trans (Nat.add_le_add_right start_ _))

/-! ## One request after the other, and a flood -/

/-- A request with a wrong password, alone. -/
def wrongPassword : List LoginStep := [.check, .load 0 (some true), .verify 0 false, .record 0]

theorem login_attempts_are_bounded_sample :
    (events .new (wrongPassword ++ wrongPassword)).countP LoginEvent.isVerified ≤ freeFailures :=
  ((login_attempts_are_bounded [] (wrongPassword ++ wrongPassword)
    ⟨fun _ => .inl rfl, trivial, trivial, trivial, fun _ => .inl rfl, trivial, trivial, trivial,
      trivial⟩).2 (by decide)).1 (by decide)

/-- Six requests that have passed their checks before the first failure is recorded. -/
def flood : List LoginStep :=
  List.replicate 6 .check ++ (List.range 6).map (fun index => .load index (some true)) ++
    (List.replicate 5 [.verify 0 false, .record 0]).flatten ++ [.verify 0 false]

/-- The sixth password of a flood is verified while the fifth failure locks the login. -/
theorem flood_is_verified_under_lock :
    ¬∀ (steps : List LoginStep) (now until_ : ℕ),
      LoginEvent.verified now (some until_) ∈ events .new steps → until_ ≤ now := fun claim =>
  absurd (claim flood 0 (30 * 10 ^ 9) (by decide +kernel)) (by decide)

end Giskard.Login
