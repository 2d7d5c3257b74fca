import Mathlib

/-!
# Logins under the throttle

The failures of the one shared password lock the login for growing times. A request checks the
lock, loads the configuration, verifies the password and records the outcome; each of the four is
atomic, and the steps of other requests and any amount of time may fall between them.

Instants and durations are nanoseconds.

SOURCE: crates/giskard-server/src/throttle.rs, routes.rs:323-382.
-/

set_option autoImplicit false

namespace Giskard.Login

/-- SOURCE: throttle.rs:21. -/
def freeFailures : ℕ := 5

/-- SOURCE: throttle.rs:23. -/
def baseLockoutSecs : ℕ := 30

/-- SOURCE: throttle.rs:26. -/
def maxLockoutSecs : ℕ := 900

/-- SOURCE: throttle.rs:28-31. -/
structure ThrottleState where
  consecutiveFailures : ℕ
  lockedUntil : Option ℕ
  deriving DecidableEq

/-- The power of two that `checked_shl` gives, or the largest number. -/
def shifted (excess : ℕ) : ℕ := if excess < 64 then 2 ^ excess else 2 ^ 64 - 1

/-- SOURCE: throttle.rs:87-93. -/
def lockoutFor (consecutiveFailures : ℕ) : Option ℕ :=
  if consecutiveFailures < freeFailures then none
  else
    some (min (min (baseLockoutSecs * shifted (consecutiveFailures - freeFailures)) (2 ^ 64 - 1))
      maxLockoutSecs * 10 ^ 9)

namespace ThrottleState

def new : ThrottleState := ⟨0, none⟩

/-- Whether a check at some instant lets a request pass. -/
def passes (state : ThrottleState) (now : ℕ) : Bool :=
  match state.lockedUntil with
  | some until_ => !(decide (now < until_))
  | none => true

/-- SOURCE: throttle.rs:45-55. -/
def check (state : ThrottleState) (now : ℕ) : ThrottleState :=
  if state.passes now then { state with lockedUntil := none } else state

/-- SOURCE: throttle.rs:59-68. -/
def recordFailure (state : ThrottleState) (now : ℕ) : ThrottleState :=
  let failures := min (state.consecutiveFailures + 1) (2 ^ 32 - 1)
  match lockoutFor failures with
  | some duration => ⟨failures, some (now + duration)⟩
  | none => { state with consecutiveFailures := failures }

/-- SOURCE: throttle.rs:71-75. -/
def recordSuccess (_ : ThrottleState) : ThrottleState := ⟨0, none⟩

end ThrottleState

/-- Where a request stands that has passed its check. Without a configured hash there is no
verification, and the request fails. SOURCE: routes.rs:351-369. -/
inductive Phase where
  | passed
  | loaded (hash : Bool)
  | decided (ok : Bool)
  deriving DecidableEq

/-- The clock, the throttle, and the requests between their check and their record. -/
structure LoginState where
  now : ℕ
  throttle : ThrottleState
  requests : List Phase
  deriving DecidableEq

def LoginState.new : LoginState := ⟨0, .new, []⟩

/-- A step: time passes, a request arrives and checks, or one of those that passed goes on. -/
inductive LoginStep where
  | tick (duration : ℕ)
  | check
  /-- The configuration is loaded, with or without a password hash; loading may fail. -/
  | load (index : ℕ) (config : Option Bool)
  /-- The password is right or wrong. -/
  | verify (index : ℕ) (ok : Bool)
  | record (index : ℕ)
  /-- The connection goes away while the configuration is being loaded. -/
  | cancel (index : ℕ)

/-- What can be seen of a login. -/
inductive LoginEvent where
  /-- A password is verified, with the throttle as it stands. -/
  | verified (now : ℕ) (lockedUntil : Option ℕ)
  /-- A failure locks the login. -/
  | lockedOut
  /-- A check finds that a lockout has expired. -/
  | expired
  | succeeded
  deriving DecidableEq

namespace LoginState

/-- A request goes on to its next phase. -/
def advance (state : LoginState) (index : ℕ) (phase : Phase) : LoginState :=
  { state with requests := state.requests.set index phase }

/-- A request ends. -/
def leave (state : LoginState) (index : ℕ) : LoginState :=
  { state with requests := state.requests.eraseIdx index }

/-- SOURCE: routes.rs:323-382. -/
def step (state : LoginState) : LoginStep → LoginState
  | .tick duration => { state with now := state.now + duration }
  | .check =>
    { state with
      throttle := state.throttle.check state.now
      requests :=
        if state.throttle.passes state.now then state.requests ++ [.passed] else state.requests }
  | .load index config =>
    if state.requests[index]? = some .passed then
      match config with
      | some hash => state.advance index (.loaded hash)
      | none => state.leave index
    else state
  | .verify index ok =>
    match state.requests[index]? with
    | some (.loaded hash) => state.advance index (.decided (hash && ok))
    | _ => state
  | .record index =>
    match state.requests[index]? with
    | some (.decided true) =>
      { state.leave index with throttle := state.throttle.recordSuccess }
    | some (.decided false) =>
      { state.leave index with throttle := state.throttle.recordFailure state.now }
    | _ => state
  | .cancel index =>
    if state.requests[index]? = some .passed then state.leave index else state

/-- The events of a step. -/
def observe (state : LoginState) : LoginStep → List LoginEvent
  | .check =>
    if state.throttle.lockedUntil.isSome && state.throttle.passes state.now then [.expired] else []
  | .verify index _ =>
    if state.requests[index]? = some (.loaded true) then
      [.verified state.now state.throttle.lockedUntil]
    else []
  | .record index =>
    match state.requests[index]? with
    | some (.decided true) => [.succeeded]
    | some (.decided false) =>
      if (lockoutFor (min (state.throttle.consecutiveFailures + 1) (2 ^ 32 - 1))).isSome then
        [.lockedOut]
      else []
    | _ => []
  | _ => []

end LoginState

end Giskard.Login
