import Mathlib.Data.Rat.Defs
import Mathlib.Algebra.Order.Ring.Rat
import Mathlib.Tactic.Linarith
import UyuniAgent.Support.Run

/-!
# Dependency circuit breakers

`CircuitBreaker` of `resilience.py` and the part of `DependencyManager.execute`
that touches it.  Every reading of the clock is an argument; the run model at
the end lets the calls of one dependency overlap in any order and only asks
that the clock never goes backwards.
-/

namespace UyuniAgent.Resilience

inductive CircuitState
  | closed
  | opened
  | halfOpen
  deriving DecidableEq, Repr

structure CircuitSnapshot where
  state : CircuitState
  consecutiveFailures : ℕ
  retryAfterSeconds : ℚ
  deriving DecidableEq

/-- The constructor arguments of `CircuitBreaker`, with the two bounds its
`__init__` checks. -/
structure BreakerSettings where
  failureThreshold : ℕ
  recoveryTimeoutSeconds : ℚ
  one_le_failureThreshold : 1 ≤ failureThreshold
  recoveryTimeoutSeconds_pos : 0 < recoveryTimeoutSeconds

structure CircuitBreaker where
  state : CircuitState
  consecutiveFailures : ℕ
  openedAt : Option ℚ
  probeInFlight : Bool
  deriving DecidableEq

namespace CircuitBreaker

def initial : CircuitBreaker where
  state := .closed
  consecutiveFailures := 0
  openedAt := none
  probeInFlight := false

variable (cfg : BreakerSettings)

/-- `_effective_state`: the breaker it leaves behind; the state it returns is
the `state` field. -/
def effectiveState (b : CircuitBreaker) (now : ℚ) : CircuitBreaker :=
  match b.state, b.openedAt with
  | .opened, some openedAt =>
      if cfg.recoveryTimeoutSeconds ≤ now - openedAt then
        { b with state := .halfOpen, probeInFlight := false }
      else b
  | _, _ => b

def snapshot (b : CircuitBreaker) (now : ℚ) :
    CircuitSnapshot × CircuitBreaker :=
  let b' := b.effectiveState cfg now
  let retryAfter :=
    match b'.state, b'.openedAt with
    | .opened, some openedAt =>
        max 0 (cfg.recoveryTimeoutSeconds - (now - openedAt))
    | _, _ => 0
  (⟨b'.state, b'.consecutiveFailures, retryAfter⟩, b')

def acquire (b : CircuitBreaker) (now : ℚ) :
    CircuitSnapshot × CircuitBreaker :=
  let (snap, b') := b.snapshot cfg now
  match snap.state with
  | .opened => (snap, b')
  | .halfOpen =>
      if b'.probeInFlight then
        (⟨.opened, snap.consecutiveFailures, cfg.recoveryTimeoutSeconds⟩, b')
      else (snap, { b' with probeInFlight := true })
  | .closed => (snap, b')

def recordSuccess (_ : CircuitBreaker) : CircuitBreaker where
  state := .closed
  consecutiveFailures := 0
  openedAt := none
  probeInFlight := false

def recordFailure (b : CircuitBreaker) (now : ℚ) : CircuitBreaker :=
  let failures := b.consecutiveFailures + 1
  if b.state = .halfOpen ∨ cfg.failureThreshold ≤ failures then
    { state := .opened
      consecutiveFailures := failures
      openedAt := some now
      probeInFlight := false }
  else
    { b with consecutiveFailures := failures, probeInFlight := false }

/-! ## What the operations do to a breaker -/

variable {cfg} {b : CircuitBreaker} {now : ℚ}

theorem effectiveState_cases
    (cfg : BreakerSettings) (b : CircuitBreaker) (now : ℚ) :
    b.effectiveState cfg now = b ∨
      (b.state = .opened ∧
        b.effectiveState cfg now =
          { b with state := .halfOpen, probeInFlight := false }) := by
  unfold effectiveState
  split
  next hstate _ =>
    split
    · exact Or.inr ⟨hstate, rfl⟩
    · exact Or.inl rfl
  next => exact Or.inl rfl

theorem effectiveState_of_elapsed {openedAt : ℚ}
    (hstate : b.state = .opened) (hopened : b.openedAt = some openedAt)
    (helapsed : cfg.recoveryTimeoutSeconds ≤ now - openedAt) :
    b.effectiveState cfg now =
      { b with state := .halfOpen, probeInFlight := false } := by
  unfold effectiveState
  rw [hstate, hopened]
  exact if_pos helapsed

theorem effectiveState_of_ne_opened (hstate : b.state ≠ .opened) :
    b.effectiveState cfg now = b := by
  rcases effectiveState_cases cfg b now with h | ⟨hopened, -⟩
  · exact h
  · exact absurd hopened hstate

@[simp] theorem snapshot_breaker :
    (b.snapshot cfg now).2 = b.effectiveState cfg now := rfl

@[simp] theorem snapshot_state :
    (b.snapshot cfg now).1.state = (b.effectiveState cfg now).state := rfl

/-- `acquire` admits the call exactly when the effective state is closed, or
half-open with no probe in flight. -/
theorem acquire_admits_iff :
    (b.acquire cfg now).1.state ≠ .opened ↔
      (b.effectiveState cfg now).state = .closed ∨
        ((b.effectiveState cfg now).state = .halfOpen ∧
          (b.effectiveState cfg now).probeInFlight = false) := by
  cases hstate : (b.effectiveState cfg now).state with
  | closed => simp [acquire, hstate]
  | opened => simp [acquire, hstate]
  | halfOpen =>
      cases hprobe : (b.effectiveState cfg now).probeInFlight with
      | true => simp [acquire, hstate, hprobe]
      | false => simp [acquire, hstate, hprobe]

/-- The breaker after `acquire` is the refreshed one, with the probe flag set
when the call is admitted as the half-open probe. -/
theorem acquire_breaker_cases
    (cfg : BreakerSettings) (b : CircuitBreaker) (now : ℚ) :
    (b.acquire cfg now).2 = b.effectiveState cfg now ∨
      ((b.acquire cfg now).1.state = .halfOpen ∧
        (b.effectiveState cfg now).state = .halfOpen ∧
        (b.acquire cfg now).2 =
          { b.effectiveState cfg now with probeInFlight := true }) := by
  cases hstate : (b.effectiveState cfg now).state with
  | closed => simp [acquire, hstate]
  | opened => simp [acquire, hstate]
  | halfOpen =>
      cases hprobe : (b.effectiveState cfg now).probeInFlight with
      | true => simp [acquire, hstate, hprobe]
      | false => simp [acquire, hstate, hprobe]

end CircuitBreaker

/-! ## Overlapping calls of one dependency -/

/-- The five ways an admitted call of `DependencyManager.execute` can end. -/
inductive CallEnding
  | success
  | refused
  | error
  | timeout
  | cancelled
  deriving DecidableEq, Repr

/-- The breaker after the end of a call.  `_observe` takes a snapshot after
the outcome is recorded; a cancelled call re-raises before recording one. -/
def CallEnding.settle (cfg : BreakerSettings) (ending : CallEnding)
    (b : CircuitBreaker) (recordedAt observedAt : ℚ) : CircuitBreaker :=
  match ending with
  | .cancelled => b
  | .success => (b.recordSuccess.snapshot cfg observedAt).2
  | .refused | .error | .timeout =>
      ((b.recordFailure cfg recordedAt).snapshot cfg observedAt).2

structure Call where
  id : ℕ
  admittedAs : CircuitState
  deriving DecidableEq

/-- A dependency's circuit together with the calls in progress.  `clock` is
the latest reading and `lastFailure` the time of the last recorded failure. -/
structure CircuitRun where
  breaker : CircuitBreaker
  outstanding : List Call
  clock : ℚ
  lastFailure : Option ℚ
  deriving DecidableEq

inductive CircuitEvent
  | execute (id : ℕ) (now : ℚ)
  | finish (id : ℕ) (ending : CallEnding) (recordedAt observedAt : ℚ)
  | snapshot (now : ℚ)
  deriving DecidableEq

def CircuitRun.initial (clock : ℚ) : CircuitRun where
  breaker := .initial
  outstanding := []
  clock := clock
  lastFailure := none

def CallEnding.failureTime (ending : CallEnding) (recordedAt : ℚ)
    (before : Option ℚ) : Option ℚ :=
  match ending with
  | .success | .cancelled => before
  | .refused | .error | .timeout => some recordedAt

/-- One event of the circuit; `none` when the clock would go backwards, the
call to finish is not outstanding, or a call identity is reused. -/
def circuitStep (cfg : BreakerSettings) (s : CircuitRun) :
    CircuitEvent → Option CircuitRun
  | .execute id now =>
      if s.clock ≤ now ∧ ∀ call ∈ s.outstanding, call.id ≠ id then
        let (snap, breaker) := s.breaker.acquire cfg now
        if snap.state = .opened then
          some { s with breaker := breaker, clock := now }
        else
          some { s with
            breaker := breaker
            clock := now
            outstanding := ⟨id, snap.state⟩ :: s.outstanding }
      else none
  | .finish id ending recordedAt observedAt =>
      if s.clock ≤ recordedAt ∧ recordedAt ≤ observedAt ∧
          ∃ call ∈ s.outstanding, call.id = id then
        some {
          breaker := ending.settle cfg s.breaker recordedAt observedAt
          outstanding := s.outstanding.filter fun call => call.id ≠ id
          clock := observedAt
          lastFailure := ending.failureTime recordedAt s.lastFailure }
      else none
  | .snapshot now =>
      if s.clock ≤ now then
        some { s with breaker := (s.breaker.snapshot cfg now).2, clock := now }
      else none

end UyuniAgent.Resilience
