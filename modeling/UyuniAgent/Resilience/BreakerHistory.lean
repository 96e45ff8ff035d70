import UyuniAgent.Resilience.Recovery

/-!
# A circuit breaker as a function of its history

The breaker refreshes its state lazily, whenever somebody looks at it.  Here
the state it reports is read off the calls made so far: how many failures were
recorded since the last success, and when the last one was.  Looking at the
breaker is not part of that history.

Histories are listed latest call first.
-/

namespace UyuniAgent.Resilience

inductive BreakerCall
  | acquire (now : ℚ)
  | snapshot (now : ℚ)
  | recordSuccess
  | recordFailure (now : ℚ)
  deriving DecidableEq

/-- The reading of the clock in a call; `record_success` makes none. -/
def BreakerCall.time : BreakerCall → Option ℚ
  | .acquire now => some now
  | .snapshot now => some now
  | .recordSuccess => none
  | .recordFailure now => some now

/-- What a call returns, and the breaker it leaves behind. -/
def BreakerCall.run (cfg : BreakerSettings) (call : BreakerCall)
    (b : CircuitBreaker) : Option CircuitSnapshot × CircuitBreaker :=
  match call with
  | .acquire now => (some (b.acquire cfg now).1, (b.acquire cfg now).2)
  | .snapshot now => (some (b.snapshot cfg now).1, (b.snapshot cfg now).2)
  | .recordSuccess => (none, b.recordSuccess)
  | .recordFailure now => (none, b.recordFailure cfg now)

def breakerAfter (cfg : BreakerSettings) (past : List BreakerCall) :
    CircuitBreaker :=
  past.foldr (fun call b => (call.run cfg b).2) .initial

/-- What a call returns after a history. -/
def resultAfter (cfg : BreakerSettings) (past : List BreakerCall)
    (call : BreakerCall) : Option CircuitSnapshot :=
  (call.run cfg (breakerAfter cfg past)).1

/-- The clock never goes backwards. -/
def ClockForward (past : List BreakerCall) : Prop :=
  (past.filterMap BreakerCall.time).Pairwise fun later earlier =>
    earlier ≤ later

instance (past : List BreakerCall) : Decidable (ClockForward past) :=
  inferInstanceAs (Decidable (List.Pairwise _ _))

/-- The calls that are more than a look at the breaker. -/
def withoutSnapshots (past : List BreakerCall) : List BreakerCall :=
  past.filter fun call =>
    match call with
    | .snapshot _ => false
    | _ => true

/-! ## What a history says -/

/-- The failures recorded since the last success, or since the start. -/
def failuresSinceSuccess : List BreakerCall → ℕ
  | [] => 0
  | .recordSuccess :: _ => 0
  | .recordFailure _ :: past => failuresSinceSuccess past + 1
  | .acquire _ :: past => failuresSinceSuccess past
  | .snapshot _ :: past => failuresSinceSuccess past

/-- The time of the most recent failure. -/
def lastFailure : List BreakerCall → Option ℚ
  | [] => none
  | .recordFailure now :: _ => some now
  | .recordSuccess :: past => lastFailure past
  | .acquire _ :: past => lastFailure past
  | .snapshot _ :: past => lastFailure past

/-- Less than `recovery_timeout_seconds` have passed since the most recent
failure. -/
def Recovering (cfg : BreakerSettings) (past : List BreakerCall) (now : ℚ) :
    Prop :=
  ∀ failedAt, lastFailure past = some failedAt →
    now - failedAt < cfg.recoveryTimeoutSeconds

instance (cfg : BreakerSettings) (past : List BreakerCall) (now : ℚ) :
    Decidable (Recovering cfg past now) :=
  match h : lastFailure past with
  | none => isTrue fun failedAt hsome => by
      rw [h] at hsome
      cases hsome
  | some failedAt =>
      decidable_of_iff (now - failedAt < cfg.recoveryTimeoutSeconds)
        ⟨fun hlt failedAt' hsome => by
          rw [h] at hsome
          rwa [← Option.some.inj hsome],
        fun hall => hall failedAt h⟩

/-- The state that the history calls for. -/
def stateFromHistory (cfg : BreakerSettings) (past : List BreakerCall)
    (now : ℚ) : CircuitState :=
  if failuresSinceSuccess past < cfg.failureThreshold then .closed
  else if Recovering cfg past now then .opened
  else .halfOpen

/-- A call was admitted in the half-open state, and no outcome was recorded
since. -/
def probeFromHistory (cfg : BreakerSettings) : List BreakerCall → Bool
  | [] => false
  | .recordSuccess :: _ => false
  | .recordFailure _ :: _ => false
  | .acquire now :: past =>
      probeFromHistory cfg past || stateFromHistory cfg past now = .halfOpen
  | .snapshot _ :: past => probeFromHistory cfg past

/-- The refreshed breaker that the history calls for. -/
def breakerFromHistory (cfg : BreakerSettings) (past : List BreakerCall)
    (now : ℚ) : CircuitBreaker where
  state := stateFromHistory cfg past now
  consecutiveFailures := failuresSinceSuccess past
  openedAt :=
    if failuresSinceSuccess past < cfg.failureThreshold then none
    else lastFailure past
  probeInFlight := probeFromHistory cfg past

/-! ## Refreshing -/

section Refresh

variable {cfg : BreakerSettings} {b : CircuitBreaker} {t now : ℚ}

/-- A refresh is made good for by any later one. -/
theorem effectiveState_effectiveState (hle : t ≤ now) :
    (b.effectiveState cfg t).effectiveState cfg now =
      b.effectiveState cfg now := by
  by_cases hopened : b.state = .opened
  · rcases hat : b.openedAt with _ | openedAt
    · have hsame : b.effectiveState cfg t = b := by
        simp [CircuitBreaker.effectiveState, hopened, hat]
      rw [hsame]
    · by_cases helapsed : cfg.recoveryTimeoutSeconds ≤ t - openedAt
      · have hlater : cfg.recoveryTimeoutSeconds ≤ now - openedAt := by
          linarith
        rw [CircuitBreaker.effectiveState_of_elapsed hopened hat helapsed,
          CircuitBreaker.effectiveState_of_elapsed hopened hat hlater]
        exact CircuitBreaker.effectiveState_of_ne_opened (by simp)
      · have hsame : b.effectiveState cfg t = b := by
          simp [CircuitBreaker.effectiveState, hopened, hat, helapsed]
        rw [hsame]
  · rw [CircuitBreaker.effectiveState_of_ne_opened hopened]

/-- `snapshot` and `acquire` see a breaker only through its refreshed state. -/
theorem run_eq_of_effectiveState {b' : CircuitBreaker} {call : BreakerCall}
    (h : ∀ now, call.time = some now →
      b.effectiveState cfg now = b'.effectiveState cfg now) :
    (call.run cfg b).1 = (call.run cfg b').1 := by
  have hsnapshot (now : ℚ) (hnow : call.time = some now) :
      b.snapshot cfg now = b'.snapshot cfg now := by
    unfold CircuitBreaker.snapshot
    rw [h now hnow]
  rcases call with now | now | _ | now
  · simp only [BreakerCall.run, CircuitBreaker.acquire, hsnapshot now rfl]
  · simp only [BreakerCall.run, hsnapshot now rfl]
  · rfl
  · rfl

end Refresh

/-! ## The breaker equals its history -/

section History

variable {cfg : BreakerSettings} {past : List BreakerCall} {t now : ℚ}

theorem ClockForward.tail {call : BreakerCall}
    (h : ClockForward (call :: past)) : ClockForward past := by
  apply List.Pairwise.sublist _ h
  exact (List.sublist_cons_self call past).filterMap _

theorem ClockForward.cons {call : BreakerCall} (h : ClockForward past)
    (hle : ∀ now, call.time = some now →
      ∀ t ∈ past.filterMap BreakerCall.time, t ≤ now) :
    ClockForward (call :: past) := by
  rw [ClockForward]
  rcases hcall : call.time with _ | now
  · rw [List.filterMap_cons_none hcall]
    exact h
  · rw [List.filterMap_cons_some hcall]
    exact List.pairwise_cons.mpr ⟨hle now hcall, h⟩

/-- A later reading may take the place of the last one. -/
theorem ClockForward.later (h : ClockForward (.snapshot t :: past))
    (hle : t ≤ now) : ClockForward (.snapshot now :: past) := by
  have hpast : ∀ t' ∈ past.filterMap BreakerCall.time, t' ≤ t :=
    (List.pairwise_cons.mp h).1
  apply h.tail.cons
  intro now' hnow' t' ht'
  obtain rfl := Option.some.inj hnow'
  exact (hpast t' ht').trans hle

/-- The reading of a call is not after a snapshot that follows it. -/
theorem ClockForward.le_of_snapshot {call : BreakerCall}
    (h : ClockForward (.snapshot now :: call :: past))
    (hcall : call.time = some t) : t ≤ now := by
  apply (List.pairwise_cons.mp h).1
  rw [List.filterMap_cons_some hcall]
  exact List.mem_cons_self

/-- The snapshot could have been taken before the call as well. -/
theorem ClockForward.skip {call : BreakerCall}
    (h : ClockForward (.snapshot now :: call :: past)) :
    ClockForward (.snapshot now :: past) := by
  apply List.Pairwise.sublist _ h
  exact ((List.sublist_cons_self call past).cons_cons _).filterMap _

/-- Once half-open, a breaker without a new outcome stays half-open. -/
theorem stateFromHistory_halfOpen_later
    (h : stateFromHistory cfg past t = .halfOpen) (hle : t ≤ now) :
    stateFromHistory cfg past now = .halfOpen := by
  unfold stateFromHistory at h ⊢
  split at h
  · cases h
  next hfailures =>
    rw [if_neg hfailures]
    split at h
    · cases h
    next hrecovered =>
      rw [if_neg]
      intro hrecovering
      apply hrecovered
      intro failedAt hfailed
      have hlt := hrecovering failedAt hfailed
      linarith

/-- What `acquire` leaves behind, seen later. -/
theorem effectiveState_acquire {b : CircuitBreaker}
    (hb : b.effectiveState cfg t = breakerFromHistory cfg past t)
    (hlater : b.effectiveState cfg now = breakerFromHistory cfg past now)
    (hle : t ≤ now) :
    (b.acquire cfg t).2.effectiveState cfg now =
      breakerFromHistory cfg (.acquire t :: past) now := by
  have hhistory : breakerFromHistory cfg (.acquire t :: past) now =
      { breakerFromHistory cfg past now with
        probeInFlight := probeFromHistory cfg past ||
          decide (stateFromHistory cfg past t = .halfOpen) } := rfl
  have hkept : (b.effectiveState cfg t).effectiveState cfg now =
      breakerFromHistory cfg past now := by
    rw [effectiveState_effectiveState hle, hlater]
  by_cases hhalf : stateFromHistory cfg past t = .halfOpen
  · have hstate : (b.effectiveState cfg t).state = .halfOpen := by
      rw [hb]
      exact hhalf
    have hsame : b.effectiveState cfg t = breakerFromHistory cfg past now := by
      rw [← hkept]
      exact (CircuitBreaker.effectiveState_of_ne_opened
        (by simp [hstate])).symm
    have hacquired : (b.acquire cfg t).2 =
        { breakerFromHistory cfg past now with probeInFlight := true } := by
      rw [← hsame]
      rcases hprobe : (b.effectiveState cfg t).probeInFlight with _ | _
      · simp [CircuitBreaker.acquire, hstate, hprobe]
      · have hrefused : (b.acquire cfg t).2 = b.effectiveState cfg t := by
          simp [CircuitBreaker.acquire, hstate, hprobe]
        rw [hrefused, ← hprobe]
    rw [hacquired, hhistory]
    simp only [hhalf, decide_true, Bool.or_true]
    apply CircuitBreaker.effectiveState_of_ne_opened
    have hnow := stateFromHistory_halfOpen_later hhalf hle
    simp [breakerFromHistory, hnow]
  · have hacquired : (b.acquire cfg t).2 = b.effectiveState cfg t := by
      rcases CircuitBreaker.acquire_breaker_cases cfg b t with
        hsame | ⟨-, hstate, -⟩
      · exact hsame
      · rw [hb] at hstate
        exact absurd hstate hhalf
    rw [hacquired, hkept, hhistory]
    simp [hhalf, breakerFromHistory]

/-- What `record_failure` leaves behind, seen later. -/
theorem effectiveState_recordFailure {b : CircuitBreaker}
    (hb : b.effectiveState cfg t = breakerFromHistory cfg past t) :
    (b.recordFailure cfg t).effectiveState cfg now =
      breakerFromHistory cfg (.recordFailure t :: past) now := by
  have hcount : b.consecutiveFailures = failuresSinceSuccess past := by
    have hfield := congrArg CircuitBreaker.consecutiveFailures hb
    rcases CircuitBreaker.effectiveState_cases cfg b t with h | ⟨-, h⟩
    · rwa [h] at hfield
    · rwa [h] at hfield
  have hfailed (hthreshold :
      cfg.failureThreshold ≤ failuresSinceSuccess past + 1) :
      (b.recordFailure cfg t).effectiveState cfg now =
        breakerFromHistory cfg (.recordFailure t :: past) now := by
    have hnot : ¬failuresSinceSuccess past + 1 < cfg.failureThreshold :=
      not_lt.mpr hthreshold
    by_cases helapsed : cfg.recoveryTimeoutSeconds ≤ now - t
    · simp [CircuitBreaker.recordFailure, CircuitBreaker.effectiveState,
        breakerFromHistory, stateFromHistory, Recovering, probeFromHistory,
        failuresSinceSuccess, lastFailure, hcount, hthreshold, hnot, helapsed]
    · have hrecovering : now - t < cfg.recoveryTimeoutSeconds :=
        not_le.mp helapsed
      simp [CircuitBreaker.recordFailure, CircuitBreaker.effectiveState,
        breakerFromHistory, stateFromHistory, Recovering, probeFromHistory,
        failuresSinceSuccess, lastFailure, hcount, hthreshold, hnot, helapsed,
        hrecovering]
  by_cases hbefore : failuresSinceSuccess past < cfg.failureThreshold
  · have hstate : (b.effectiveState cfg t).state = .closed := by
      rw [hb]
      exact if_pos hbefore
    have hclosed : b.state = .closed := by
      rcases CircuitBreaker.effectiveState_cases cfg b t with h | ⟨-, h⟩
      · rwa [h] at hstate
      · rw [h] at hstate
        cases hstate
    have hsame : b = breakerFromHistory cfg past t := by
      rw [← hb]
      exact (CircuitBreaker.effectiveState_of_ne_opened
        (by simp [hclosed])).symm
    by_cases hthreshold : failuresSinceSuccess past + 1 < cfg.failureThreshold
    · have hnot : ¬cfg.failureThreshold ≤ failuresSinceSuccess past + 1 :=
        not_le.mpr hthreshold
      rw [hsame]
      simp [CircuitBreaker.recordFailure, CircuitBreaker.effectiveState,
        breakerFromHistory, stateFromHistory, probeFromHistory,
        failuresSinceSuccess, hbefore, hthreshold, hnot]
    · exact hfailed (not_lt.mp hthreshold)
  · exact hfailed (by omega)

/-- Refreshed at any time that the clock may show next, the breaker is what
the history calls for. -/
theorem effectiveState_breakerAfter
    (hclock : ClockForward (.snapshot now :: past)) :
    (breakerAfter cfg past).effectiveState cfg now =
      breakerFromHistory cfg past now := by
  induction past generalizing now with
  | nil =>
      have hthreshold : 0 < cfg.failureThreshold := cfg.one_le_failureThreshold
      simp [breakerAfter, CircuitBreaker.initial,
        CircuitBreaker.effectiveState, breakerFromHistory, stateFromHistory,
        failuresSinceSuccess, probeFromHistory, hthreshold]
  | cons call past ih =>
      have hskip : ClockForward (.snapshot now :: past) := hclock.skip
      have hbefore {t : ℚ} (hcall : call.time = some t) :
          (breakerAfter cfg past).effectiveState cfg t =
            breakerFromHistory cfg past t := by
        apply ih
        apply hclock.tail.tail.cons
        intro now' hnow' t' ht'
        obtain rfl := Option.some.inj hnow'
        have hpast := hclock.tail
        rw [ClockForward, List.filterMap_cons_some hcall] at hpast
        exact (List.pairwise_cons.mp hpast).1 t' ht'
      rcases call with t | t | _ | t
      · exact effectiveState_acquire (hbefore rfl) (ih hskip)
          (hclock.le_of_snapshot rfl)
      · have hrefreshed : breakerAfter cfg (.snapshot t :: past) =
            (breakerAfter cfg past).effectiveState cfg t := rfl
        rw [hrefreshed,
          effectiveState_effectiveState (hclock.le_of_snapshot rfl), ih hskip]
        rfl
      · have hthreshold : 0 < cfg.failureThreshold :=
          cfg.one_le_failureThreshold
        have hclosed : breakerAfter cfg (.recordSuccess :: past) =
            (breakerAfter cfg past).recordSuccess := rfl
        rw [hclosed]
        simp [CircuitBreaker.recordSuccess, CircuitBreaker.effectiveState,
          breakerFromHistory, stateFromHistory, failuresSinceSuccess,
          probeFromHistory, hthreshold]
      · exact effectiveState_recordFailure (hbefore rfl)

/-! ## Snapshots leave no trace -/

theorem failuresSinceSuccess_withoutSnapshots (past : List BreakerCall) :
    failuresSinceSuccess (withoutSnapshots past) =
      failuresSinceSuccess past := by
  induction past with
  | nil => rfl
  | cons call past ih =>
      rcases call with t | t | _ | t
      · exact ih
      · exact ih
      · rfl
      · exact congrArg (· + 1) ih

theorem lastFailure_withoutSnapshots (past : List BreakerCall) :
    lastFailure (withoutSnapshots past) = lastFailure past := by
  induction past with
  | nil => rfl
  | cons call past ih =>
      rcases call with t | t | _ | t
      · exact ih
      · exact ih
      · exact ih
      · rfl

theorem stateFromHistory_withoutSnapshots (past : List BreakerCall) :
    stateFromHistory cfg (withoutSnapshots past) now =
      stateFromHistory cfg past now := by
  have hrecovering : Recovering cfg (withoutSnapshots past) now ↔
      Recovering cfg past now := by
    rw [Recovering, Recovering, lastFailure_withoutSnapshots]
  simp only [stateFromHistory, failuresSinceSuccess_withoutSnapshots,
    hrecovering]

theorem probeFromHistory_withoutSnapshots (past : List BreakerCall) :
    probeFromHistory cfg (withoutSnapshots past) =
      probeFromHistory cfg past := by
  induction past with
  | nil => rfl
  | cons call past ih =>
      rcases call with t | t | _ | t
      · have hkept : withoutSnapshots (.acquire t :: past) =
            .acquire t :: withoutSnapshots past := rfl
        rw [hkept, probeFromHistory, probeFromHistory, ih,
          stateFromHistory_withoutSnapshots]
      · exact ih
      · rfl
      · rfl

theorem breakerFromHistory_withoutSnapshots (past : List BreakerCall) :
    breakerFromHistory cfg (withoutSnapshots past) now =
      breakerFromHistory cfg past now := by
  simp only [breakerFromHistory, stateFromHistory_withoutSnapshots,
    failuresSinceSuccess_withoutSnapshots, lastFailure_withoutSnapshots,
    probeFromHistory_withoutSnapshots]

/-- A snapshot reports the state that the history calls for, and what a call
returns depends only on the calls before it that are not snapshots. -/
theorem breaker_equals_history (cfg : BreakerSettings) :
    (∀ past now, ClockForward (.snapshot now :: past) →
      ((breakerAfter cfg past).snapshot cfg now).1.state =
        stateFromHistory cfg past now) ∧
    (∀ past past' call, ClockForward (call :: past) →
      ClockForward (call :: past') →
      withoutSnapshots past = withoutSnapshots past' →
      resultAfter cfg past call = resultAfter cfg past' call) := by
  constructor
  · intro past now hclock
    have hrefreshed : (breakerAfter cfg past).effectiveState cfg now =
        breakerFromHistory cfg past now :=
      effectiveState_breakerAfter hclock
    exact congrArg CircuitBreaker.state hrefreshed
  · intro past past' call hclock hclock' hsame
    apply run_eq_of_effectiveState
    intro now hcall
    have hsnapshot {history : List BreakerCall}
        (h : ClockForward (call :: history)) :
        ClockForward (.snapshot now :: history) := by
      rw [ClockForward, List.filterMap_cons_some hcall] at h
      exact h
    rw [effectiveState_breakerAfter (hsnapshot hclock),
      effectiveState_breakerAfter (hsnapshot hclock'),
      ← breakerFromHistory_withoutSnapshots past, hsame,
      breakerFromHistory_withoutSnapshots]

end History

/-- Two failures open the circuit, and the probe that follows fails. -/
def reopenedHistory : List BreakerCall :=
  [.recordFailure 8, .snapshot 8, .acquire 7, .recordFailure 1, .snapshot 1,
    .recordFailure 0, .acquire 0]

theorem breaker_equals_history_reopened :
    ((breakerAfter testSettings reopenedHistory).snapshot
        testSettings 12).1.state = .opened ∧
      resultAfter testSettings reopenedHistory (.acquire 13) =
        resultAfter testSettings (withoutSnapshots reopenedHistory)
          (.acquire 13) := by
  have hequal := breaker_equals_history testSettings
  constructor
  · rw [hequal.1 reopenedHistory 12 (by decide +kernel)]
    decide +kernel
  · exact hequal.2 reopenedHistory (withoutSnapshots reopenedHistory)
      (.acquire 13) (by decide +kernel) (by decide +kernel) (by decide +kernel)

end UyuniAgent.Resilience
