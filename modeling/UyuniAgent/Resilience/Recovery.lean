import UyuniAgent.Resilience.Circuit

/-!
# Recovery of a dependency's circuit

A half-open circuit admits one probe and refuses every other call until the
probe's outcome is recorded.  A cancelled call records no outcome, so a probe
cancelled as the last outstanding call leaves the circuit refusing calls for
good.  This is the only way a circuit can get stuck.
-/

namespace UyuniAgent.Resilience

open Transition

variable {cfg : BreakerSettings}

/-- The next `acquire` admits a call, at any time the clock can show once
`recoveryTimeoutSeconds` have passed since the last recorded failure. -/
def AdmitsAfterRecovery (cfg : BreakerSettings) (s : CircuitRun) : Prop :=
  s.outstanding = [] → ∀ now, s.clock ≤ now →
    (∀ failedAt, s.lastFailure = some failedAt →
      cfg.recoveryTimeoutSeconds ≤ now - failedAt) →
    (s.breaker.acquire cfg now).1.state ≠ .opened

/-- The step does not cancel the only outstanding call while the half-open
probe flag is set. -/
def KeepsProbeOwned (s : CircuitRun) (e : CircuitEvent) : Prop :=
  ∀ id recordedAt observedAt, e = .finish id .cancelled recordedAt observedAt →
    s.breaker.probeInFlight = true →
    ∃ call ∈ s.outstanding, call.id ≠ id

/-! ## What holds of every reachable circuit -/

/-- The probe flag is only set in the half-open state, and a breaker that is
not closed was opened by the last recorded failure. -/
structure BreakerInvariant (cfg : BreakerSettings)
    (b : CircuitBreaker) (lastFailure : Option ℚ) : Prop where
  probe : b.probeInFlight = true → b.state = .halfOpen
  failures : b.state ≠ .closed → cfg.failureThreshold ≤ b.consecutiveFailures
  openedAt : b.state ≠ .closed → b.openedAt = lastFailure
  failedOnce : b.state ≠ .closed → ∃ failedAt, lastFailure = some failedAt

namespace BreakerInvariant

variable {b : CircuitBreaker} {lastFailure : Option ℚ}

theorem initial : BreakerInvariant cfg .initial lastFailure := by
  constructor <;> simp [CircuitBreaker.initial]

theorem effectiveState
    (hb : BreakerInvariant cfg b lastFailure) (now : ℚ) :
    BreakerInvariant cfg (b.effectiveState cfg now) lastFailure := by
  rcases CircuitBreaker.effectiveState_cases cfg b now with
    hsame | ⟨hopened, hrefreshed⟩
  · rw [hsame]
    exact hb
  · have hne : b.state ≠ .closed := by simp [hopened]
    rw [hrefreshed]
    exact ⟨by simp, fun _ => hb.failures hne, fun _ => hb.openedAt hne,
      fun _ => hb.failedOnce hne⟩

theorem acquire
    (hb : BreakerInvariant cfg b lastFailure) (now : ℚ) :
    BreakerInvariant cfg (b.acquire cfg now).2 lastFailure := by
  have hrefreshed := hb.effectiveState now
  rcases CircuitBreaker.acquire_breaker_cases cfg b now
    with hsame | ⟨-, hhalf, hprobe⟩
  · rw [hsame]
    exact hrefreshed
  · rw [hprobe]
    exact ⟨fun _ => hhalf, hrefreshed.failures, hrefreshed.openedAt,
      hrefreshed.failedOnce⟩

theorem recordFailure
    (hb : BreakerInvariant cfg b lastFailure) (now : ℚ) :
    BreakerInvariant cfg (b.recordFailure cfg now) (some now) := by
  simp only [CircuitBreaker.recordFailure]
  split
  next hopen =>
    refine ⟨by simp, fun _ => ?_, fun _ => rfl, fun _ => ⟨now, rfl⟩⟩
    rcases hopen with hhalf | hthreshold
    · have hbefore := hb.failures (by simp [hhalf])
      exact le_trans hbefore (Nat.le_succ _)
    · exact hthreshold
  next hstay =>
    obtain ⟨-, hbelow⟩ := not_or.mp hstay
    have hclosed : b.state = .closed := by
      by_contra hne
      have hbefore := hb.failures hne
      omega
    exact ⟨by simp, by simp [hclosed], by simp [hclosed], by simp [hclosed]⟩

theorem settle
    (hb : BreakerInvariant cfg b lastFailure) (ending : CallEnding)
    (recordedAt observedAt : ℚ) :
    BreakerInvariant cfg (ending.settle cfg b recordedAt observedAt)
      (ending.failureTime recordedAt lastFailure) := by
  have hclosed : BreakerInvariant cfg b.recordSuccess lastFailure := by
    constructor <;> simp [CircuitBreaker.recordSuccess]
  cases ending with
  | cancelled => exact hb
  | success => exact hclosed.effectiveState observedAt
  | refused => exact (hb.recordFailure recordedAt).effectiveState observedAt
  | error => exact (hb.recordFailure recordedAt).effectiveState observedAt
  | timeout => exact (hb.recordFailure recordedAt).effectiveState observedAt

end BreakerInvariant

/-- Recording an outcome releases the probe flag; only cancellation keeps it. -/
theorem settle_releases_probe
    (cfg : BreakerSettings) {ending : CallEnding} (hending : ending ≠ .cancelled)
    (b : CircuitBreaker) (recordedAt observedAt : ℚ) :
    (ending.settle cfg b recordedAt observedAt).probeInFlight = false := by
  have hkeep : ∀ b' : CircuitBreaker, b'.probeInFlight = false →
      (b'.effectiveState cfg observedAt).probeInFlight = false := by
    intro b' hb'
    rcases CircuitBreaker.effectiveState_cases cfg b' observedAt with
      hsame | ⟨-, hrefreshed⟩
    · rw [hsame]
      exact hb'
    · rw [hrefreshed]
  have hfailure : (b.recordFailure cfg recordedAt).probeInFlight = false := by
    simp only [CircuitBreaker.recordFailure]
    split <;> rfl
  cases ending with
  | cancelled => exact absurd rfl hending
  | success => exact hkeep _ rfl
  | refused => exact hkeep _ hfailure
  | error => exact hkeep _ hfailure
  | timeout => exact hkeep _ hfailure

theorem effectiveState_probe_of_probe
    {b : CircuitBreaker} {now : ℚ}
    (h : (b.effectiveState cfg now).probeInFlight = true) :
    b.probeInFlight = true := by
  rcases CircuitBreaker.effectiveState_cases cfg b now with
    hsame | ⟨-, hrefreshed⟩
  · rwa [hsame] at h
  · simp [hrefreshed] at h

/-- One step of the circuit, by event. -/
theorem circuitStep_cases
    {s s' : CircuitRun} {e : CircuitEvent}
    (hstep : circuitStep cfg s e = some s') :
    (∃ id now, e = .execute id now ∧ s.clock ≤ now ∧
        (s.breaker.acquire cfg now).1.state = .opened ∧
        s' = { s with breaker := (s.breaker.acquire cfg now).2, clock := now }) ∨
    (∃ id now, e = .execute id now ∧ s.clock ≤ now ∧
        (s.breaker.acquire cfg now).1.state ≠ .opened ∧
        s' = { s with
          breaker := (s.breaker.acquire cfg now).2
          clock := now
          outstanding :=
            ⟨id, (s.breaker.acquire cfg now).1.state⟩ :: s.outstanding }) ∨
    (∃ id ending recordedAt observedAt,
        e = .finish id ending recordedAt observedAt ∧
        s.clock ≤ recordedAt ∧ recordedAt ≤ observedAt ∧
        (∃ call ∈ s.outstanding, call.id = id) ∧
        s' = {
          breaker := ending.settle cfg s.breaker recordedAt observedAt
          outstanding := s.outstanding.filter fun call => call.id ≠ id
          clock := observedAt
          lastFailure := ending.failureTime recordedAt s.lastFailure }) ∨
    (∃ now, e = .snapshot now ∧ s.clock ≤ now ∧
        s' = { s with
          breaker := s.breaker.effectiveState cfg now
          clock := now }) := by
  cases e with
  | execute id now =>
      simp only [circuitStep] at hstep
      split at hstep
      next hguard =>
        split at hstep
        next hopened =>
          exact Or.inl ⟨id, now, rfl, hguard.1, hopened,
            (Option.some.inj hstep).symm⟩
        next hadmitted =>
          exact Or.inr (Or.inl ⟨id, now, rfl, hguard.1, hadmitted,
            (Option.some.inj hstep).symm⟩)
      next => cases hstep
  | finish id ending recordedAt observedAt =>
      simp only [circuitStep] at hstep
      split at hstep
      next hguard =>
        exact Or.inr (Or.inr (Or.inl ⟨id, ending, recordedAt, observedAt, rfl,
          hguard.1, hguard.2.1, hguard.2.2, (Option.some.inj hstep).symm⟩))
      next => cases hstep
  | snapshot now =>
      simp only [circuitStep] at hstep
      split at hstep
      next hguard =>
        exact Or.inr (Or.inr (Or.inr ⟨now, rfl, hguard,
          (Option.some.inj hstep).symm⟩))
      next => cases hstep

theorem breakerInvariant_step
    {s s' : CircuitRun} {e : CircuitEvent}
    (hInv : BreakerInvariant cfg s.breaker s.lastFailure)
    (hstep : circuitStep cfg s e = some s') :
    BreakerInvariant cfg s'.breaker s'.lastFailure := by
  rcases circuitStep_cases hstep with
    ⟨_, now, -, -, -, rfl⟩ | ⟨_, now, -, -, -, rfl⟩ |
    ⟨_, ending, recordedAt, observedAt, -, -, -, -, rfl⟩ | ⟨now, -, -, rfl⟩
  · exact hInv.acquire now
  · exact hInv.acquire now
  · exact hInv.settle ending recordedAt observedAt
  · exact hInv.effectiveState now

theorem breakerInvariant_exec
    {clock : ℚ} {trace : List CircuitEvent} {s : CircuitRun}
    (hs : exec (circuitStep cfg) (.initial clock) trace = some s) :
    BreakerInvariant cfg s.breaker s.lastFailure :=
  exec_invariant_always
    (P := fun s => BreakerInvariant cfg s.breaker s.lastFailure)
    BreakerInvariant.initial
    (fun _ _ _ hInv he => breakerInvariant_step hInv he) hs

/-! ## The probe flag and the calls in progress -/

/-- A set probe flag belongs to some call still in progress. -/
def ProbeOwned (s : CircuitRun) : Prop :=
  s.breaker.probeInFlight = true → s.outstanding ≠ []

theorem probeOwned_step
    {s s' : CircuitRun} {e : CircuitEvent}
    (hInv : ProbeOwned s) (hkeeps : KeepsProbeOwned s e)
    (hstep : circuitStep cfg s e = some s') : ProbeOwned s' := by
  rcases circuitStep_cases hstep with
    ⟨_, now, -, -, hopened, rfl⟩ | ⟨_, now, -, -, -, rfl⟩ |
    ⟨id, ending, recordedAt, observedAt, rfl, -, -, -, rfl⟩ | ⟨now, -, -, rfl⟩
  · intro hprobe
    rcases CircuitBreaker.acquire_breaker_cases cfg s.breaker now
      with hsame | ⟨hhalf, -, -⟩
    · rw [hsame] at hprobe
      exact hInv (effectiveState_probe_of_probe hprobe)
    · simp [hhalf] at hopened
  · intro _
    simp
  · intro hprobe
    have hcancelled : ending = .cancelled := by
      by_contra hending
      have hreleased := settle_releases_probe cfg hending s.breaker
        recordedAt observedAt
      simp [hreleased] at hprobe
    subst hcancelled
    obtain ⟨call, hcall, hne⟩ := hkeeps id recordedAt observedAt rfl hprobe
    exact List.ne_nil_of_mem (List.mem_filter.mpr ⟨hcall, by simpa using hne⟩)
  · intro hprobe
    exact hInv (effectiveState_probe_of_probe hprobe)

/-- A circuit that is not closed and whose probe flag is clear is ready for a
probe once the recovery timeout has passed. -/
theorem admitsAfterRecovery_of_probeOwned
    {s : CircuitRun}
    (hInv : BreakerInvariant cfg s.breaker s.lastFailure)
    (howned : ProbeOwned s) : AdmitsAfterRecovery cfg s := by
  intro hnone now _ helapsed
  have hflag : s.breaker.probeInFlight = false := by
    by_contra hset
    exact howned (by simpa using hset) hnone
  rw [CircuitBreaker.acquire_admits_iff]
  cases hstate : s.breaker.state with
  | closed =>
      left
      rw [CircuitBreaker.effectiveState_of_ne_opened (by simp [hstate])]
      exact hstate
  | opened =>
      have hne : s.breaker.state ≠ .closed := by simp [hstate]
      obtain ⟨failedAt, hfailed⟩ := hInv.failedOnce hne
      have hopenedAt := (hInv.openedAt hne).trans hfailed
      right
      rw [CircuitBreaker.effectiveState_of_elapsed hstate hopenedAt
        (helapsed failedAt hfailed)]
      exact ⟨rfl, rfl⟩
  | halfOpen =>
      right
      rw [CircuitBreaker.effectiveState_of_ne_opened (by simp [hstate])]
      exact ⟨hstate, hflag⟩

/-- With the probe flag set and no call in progress, no later call is ever
admitted. -/
theorem not_admitsAfterRecovery_of_leaked_probe
    {s : CircuitRun}
    (hInv : BreakerInvariant cfg s.breaker s.lastFailure)
    (hprobe : s.breaker.probeInFlight = true) (hnone : s.outstanding = []) :
    ¬AdmitsAfterRecovery cfg s := by
  intro hadmits
  have hhalf : s.breaker.state = .halfOpen := hInv.probe hprobe
  obtain ⟨failedAt, hfailed⟩ := hInv.failedOnce (by simp [hhalf])
  let now := max s.clock (failedAt + cfg.recoveryTimeoutSeconds)
  have helapsed : ∀ t, s.lastFailure = some t →
      cfg.recoveryTimeoutSeconds ≤ now - t := by
    intro t ht
    obtain rfl : failedAt = t := Option.some.inj (hfailed.symm.trans ht)
    have hle : failedAt + cfg.recoveryTimeoutSeconds ≤ now := le_max_right _ _
    linarith
  have hadmitted := hadmits hnone now (le_max_left _ _) helapsed
  rw [CircuitBreaker.acquire_admits_iff,
    CircuitBreaker.effectiveState_of_ne_opened (by simp [hhalf])] at hadmitted
  simp [hhalf, hprobe] at hadmitted

/-! ## No dependency is locked out -/

/-- A circuit admits the next call in every state of a run in which no call is
in progress and the recovery timeout has passed, if and only if no step of the
run cancels the only outstanding call while it holds the half-open probe. -/
theorem circuit_recovers_iff
    (cfg : BreakerSettings) (clock : ℚ) (trace : List CircuitEvent) :
    EveryState (circuitStep cfg) (.initial clock) trace
        (AdmitsAfterRecovery cfg) ↔
      EveryStep (circuitStep cfg) (.initial clock) trace KeepsProbeOwned := by
  constructor
  · intro hall past e hpast s s' hs hstep id recordedAt observedAt he hprobe
    by_contra hlast
    push Not at hlast
    have hInv' := breakerInvariant_step (breakerInvariant_exec hs) hstep
    have hadmits := hall.after_step hpast hs hstep
    subst he
    rcases circuitStep_cases hstep with
      ⟨_, _, h, -⟩ | ⟨_, _, h, -⟩ |
      ⟨id', ending, recordedAt', observedAt', h, -, -, -, rfl⟩ | ⟨_, h, -⟩
    · cases h
    · cases h
    · cases h
      have hnone : (s.outstanding.filter fun call => call.id ≠ id) = [] := by
        rw [List.filter_eq_nil_iff]
        intro call hcall
        simpa using hlast call hcall
      exact absurd hadmits
        (not_admitsAfterRecovery_of_leaked_probe hInv' hprobe hnone)
    · cases h
  · intro hsteps past hpast s hs
    have howned : ProbeOwned s :=
      exec_invariant (P := ProbeOwned) (C := KeepsProbeOwned)
        (by simp [ProbeOwned, CircuitRun.initial, CircuitBreaker.initial])
        (fun _ _ _ hInv hC he => probeOwned_step hInv hC he)
        (hsteps.of_prefix hpast) hs
    exact admitsAfterRecovery_of_probeOwned (breakerInvariant_exec hs) howned

/-- Two failures open the circuit, the recovery timeout passes, and the task
running the half-open probe is cancelled. -/
def cancelledProbeTrace : List CircuitEvent :=
  [.execute 0 0, .finish 0 .error 1 1, .execute 1 1, .finish 1 .timeout 2 2,
    .execute 2 7, .finish 2 .cancelled 8 8]

def testSettings : BreakerSettings where
  failureThreshold := 2
  recoveryTimeoutSeconds := 5
  one_le_failureThreshold := Nat.le_succ 1
  recoveryTimeoutSeconds_pos := by norm_num

/-- After a cancelled probe the circuit still refuses calls 992 seconds
later. -/
theorem cancelled_probe_locks_out :
    ¬∀ (cfg : BreakerSettings) (clock : ℚ) (trace : List CircuitEvent),
      EveryState (circuitStep cfg) (.initial clock) trace
        (AdmitsAfterRecovery cfg) := by
  intro hall
  have hend := hall testSettings 0 cancelledProbeTrace cancelledProbeTrace
    (List.prefix_refl _)
    { breaker := ⟨.halfOpen, 2, some 2, true⟩
      outstanding := []
      clock := 8
      lastFailure := some 2 } (by decide +kernel)
  have hadmitted := hend rfl 1000 (by norm_num) (by
    intro failedAt hfailed
    cases hfailed
    norm_num [testSettings])
  exact hadmitted (by decide +kernel)

end UyuniAgent.Resilience
