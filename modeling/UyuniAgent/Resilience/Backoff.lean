import UyuniAgent.Support.PyFloat
import UyuniAgent.Support.Run

/-!
# The recovery of the Salt session

`ExponentialBackoff` of `resilience.py` with the settings that its arguments
come from, and `maintain_salt_session` of `main.py`, the task that logs in
again for as long as the agent runs.  A delay is a float: the power of two in
it is an exact integer until the multiplication converts it.
-/

namespace UyuniAgent.Resilience

open Transition

/-! ## `ExponentialBackoff` -/

/-- The fields of `ResilienceSettings` for the backoff, as its bounds and
`validate_backoff_bounds` accept them. -/
structure BackoffSettings where
  initialBackoffSeconds : PyFloat
  maximumBackoffSeconds : PyFloat
  jitterRatio : PyFloat
  initial_gt : (PyFloat.finite 0).lt initialBackoffSeconds = true
  maximum_gt : (PyFloat.finite 0).lt maximumBackoffSeconds = true
  jitter_ge : (PyFloat.finite 0).le jitterRatio = true
  jitter_le : jitterRatio.le (.finite 1) = true
  bounds : maximumBackoffSeconds.lt initialBackoffSeconds = false

structure ExponentialBackoff where
  initialSeconds : PyFloat
  maximumSeconds : PyFloat
  jitterRatio : PyFloat
  deriving DecidableEq

namespace ExponentialBackoff

/-- `__init__`. -/
def init (initialSeconds maximumSeconds jitterRatio : PyFloat) :
    Except PyException ExponentialBackoff :=
  if initialSeconds.le (.finite 0) then .error .valueError
  else if maximumSeconds.lt initialSeconds then .error .valueError
  else if !((PyFloat.finite 0).le jitterRatio &&
      jitterRatio.le (.finite 1)) then .error .valueError
  else .ok ⟨initialSeconds, maximumSeconds, jitterRatio⟩

/-- `delay`, with what `self._random()` returns. -/
def delay (backoff : ExponentialBackoff) (random : PyFloat)
    (failureNumber : ℤ) : Except PyException PyFloat := do
  let exponent := (max 0 (failureNumber - 1)).toNat
  let grown ← backoff.initialSeconds.mulInt (2 ^ exponent)
  let base := PyFloat.min2 backoff.maximumSeconds grown
  let spread := base.mul backoff.jitterRatio
  let jittered := (base.sub spread).add
    (((PyFloat.finite 2).mul spread).mul random)
  return PyFloat.min2 backoff.maximumSeconds
    (PyFloat.max2 (.finite 0) jittered)

/-- A delay between zero and the maximum. -/
def IsDelay (backoff : ExponentialBackoff) (seconds : PyFloat) : Prop :=
  (PyFloat.finite 0).le seconds = true ∧
    seconds.le backoff.maximumSeconds = true

/-- `delay` raises from the 1025th failure on, and is bounded before that. -/
theorem delay_cases {backoff : ExponentialBackoff}
    (hmaximum : (PyFloat.finite 0).lt backoff.maximumSeconds = true)
    (random : PyFloat) (failureNumber : ℤ) :
    (failureNumber ≤ 1024 ∧ ∃ seconds,
        backoff.delay random failureNumber = .ok seconds ∧
          backoff.IsDelay seconds) ∨
      (1024 < failureNumber ∧
        backoff.delay random failureNumber = .error .overflowError) := by
  have hpower := PyValue.floatOfInt_two_pow (max 0 (failureNumber - 1)).toNat
  rcases hfactor : PyValue.floatOfInt
    (2 ^ (max 0 (failureNumber - 1)).toNat) with e | factor
  · right
    have hraised : e = .overflowError := by
      rw [PyValue.floatOfInt] at hfactor
      split at hfactor
      · cases hfactor
      · exact (Except.error.inj hfactor).symm
    rw [hfactor] at hpower
    have hlarge : ¬(max 0 (failureNumber - 1)).toNat < 1024 := by
      rw [← hpower]
      rintro ⟨_, h⟩
      cases h
    refine ⟨by omega, ?_⟩
    rw [delay, PyFloat.mulInt, hfactor, hraised]
    rfl
  · left
    have hsmall := hpower.mp ⟨factor, hfactor⟩
    refine ⟨by omega, ?_⟩
    rw [delay, PyFloat.mulInt, hfactor]
    exact ⟨_, rfl, PyFloat.bounded_spec hmaximum _⟩

theorem delay_bounded_iff {backoff : ExponentialBackoff}
    (hmaximum : (PyFloat.finite 0).lt backoff.maximumSeconds = true)
    (random : PyFloat) (failureNumber : ℤ) :
    (∃ seconds, backoff.delay random failureNumber = .ok seconds ∧
        backoff.IsDelay seconds) ↔
      failureNumber ≤ 1024 := by
  rcases delay_cases hmaximum random failureNumber with
    ⟨hfew, hdelay⟩ | ⟨hmany, hraises⟩
  · exact ⟨fun _ => hfew, fun _ => hdelay⟩
  · constructor
    · rintro ⟨seconds, hdelay, -⟩
      rw [hraises] at hdelay
      cases hdelay
    · intro hfew
      omega

end ExponentialBackoff

namespace BackoffSettings

def backoff (settings : BackoffSettings) : ExponentialBackoff where
  initialSeconds := settings.initialBackoffSeconds
  maximumSeconds := settings.maximumBackoffSeconds
  jitterRatio := settings.jitterRatio

/-- What the settings accept, `__init__` accepts. -/
theorem init_eq_ok (settings : BackoffSettings) :
    ExponentialBackoff.init settings.initialBackoffSeconds
        settings.maximumBackoffSeconds settings.jitterRatio =
      .ok settings.backoff := by
  have hpositive :
      settings.initialBackoffSeconds.le (.finite 0) = false := by
    have hinitial := settings.initial_gt
    rcases hvalue : settings.initialBackoffSeconds with value | negative | _
    · rw [hvalue] at hinitial
      simpa [PyFloat.le] using hinitial
    · rw [hvalue] at hinitial
      simpa [PyFloat.le, PyFloat.lt] using hinitial
    · rfl
  rw [ExponentialBackoff.init, hpositive, settings.bounds,
    settings.jitter_ge, settings.jitter_le]
  rfl

end BackoffSettings

/-! ## `maintain_salt_session` -/

/-- Where the task is: about to test `stop`, in `wait_or_stop`, in an attempt
to log in, or at its end. -/
inductive MaintainerPoint
  | testing
  | waiting (timeout : PyFloat)
  | loggingIn
  | returned
  | cancelled
  | raised (e : PyException)
  deriving DecidableEq

namespace MaintainerPoint

def isRaised : MaintainerPoint → Bool
  | .raised _ => true
  | _ => false

def hasEnded : MaintainerPoint → Bool
  | .returned => true
  | .cancelled => true
  | .raised _ => true
  | _ => false

end MaintainerPoint

structure SessionMaintainer where
  point : MaintainerPoint
  failures : ℕ
  stop : Bool
  initialSaltAttempt : Bool
  deriving DecidableEq

inductive MaintainerEvent
  /-- `stop.set()`. -/
  | setStop
  /-- `salt_recovery_task.cancel()`, which `run` does after `stop.set()`. -/
  | cancel
  /-- The test of `stop`, and then of `salt.logged_in`. -/
  | resume (loggedIn : Bool)
  | waited
  /-- Any exception of `execute`, and the next number of `random`. -/
  | loginFailed (random : PyFloat)
  | loginSucceeded
  deriving DecidableEq

namespace SessionMaintainer

def initial : SessionMaintainer where
  point := .testing
  failures := 0
  stop := false
  initialSaltAttempt := false

/-- `wait_or_stop`. -/
def waitOrStop (seconds : PyFloat) : MaintainerPoint :=
  .waiting (PyFloat.max2 (Binary64.round (1 / 100)) seconds)

/-- The handler of a failed attempt; what `delay` raises ends the task. -/
def handleFailure (backoff : ExponentialBackoff) (random : PyFloat)
    (s : SessionMaintainer) : SessionMaintainer :=
  { s with
    failures := s.failures + 1
    initialSaltAttempt := true
    point :=
      match backoff.delay random (s.failures + 1 : ℕ) with
      | .ok delay => waitOrStop delay
      | .error e => .raised e }

@[simp] theorem failures_handleFailure (backoff : ExponentialBackoff)
    (random : PyFloat) (s : SessionMaintainer) :
    (s.handleFailure backoff random).failures = s.failures + 1 := by
  rw [handleFailure]

@[simp] theorem stop_handleFailure (backoff : ExponentialBackoff)
    (random : PyFloat) (s : SessionMaintainer) :
    (s.handleFailure backoff random).stop = s.stop := by
  rw [handleFailure]

/-- The handler waits after at most 1024 failures in a row, and raises after
more. -/
theorem point_handleFailure {backoff : ExponentialBackoff}
    (hmaximum : (PyFloat.finite 0).lt backoff.maximumSeconds = true)
    (random : PyFloat) (s : SessionMaintainer) :
    (s.failures < 1024 ∧ ∃ delay,
        (s.handleFailure backoff random).point = waitOrStop delay) ∨
      (1024 ≤ s.failures ∧
        (s.handleFailure backoff random).point = .raised .overflowError) := by
  rcases ExponentialBackoff.delay_cases hmaximum random
      (s.failures + 1 : ℕ) with ⟨hfew, delay, hdelay, -⟩ | ⟨hmany, hraises⟩
  · exact Or.inl ⟨by omega, delay, by simp only [handleFailure, hdelay]⟩
  · exact Or.inr ⟨by omega, by simp only [handleFailure, hraises]⟩

def step (backoff : ExponentialBackoff) (s : SessionMaintainer) :
    MaintainerEvent → Option SessionMaintainer
  | .setStop => some { s with stop := true }
  | .cancel =>
      if s.stop ∧ s.point.hasEnded = false then
        some { s with point := .cancelled }
      else none
  | .resume loggedIn =>
      if s.point = .testing then
        some { s with
          point :=
            if s.stop then .returned
            else if loggedIn then waitOrStop (.finite 1)
            else .loggingIn }
      else none
  | .waited =>
      match s.point with
      | .waiting _ => some { s with point := .testing }
      | _ => none
  | .loginFailed random =>
      if s.point = .loggingIn then some (s.handleFailure backoff random)
      else none
  | .loginSucceeded =>
      if s.point = .loggingIn then
        some { s with
          point := .testing
          failures := 0
          initialSaltAttempt := true }
      else none

/-- The attempts of a trace that have failed since one has succeeded. -/
def consecutiveFailures (trace : List MaintainerEvent) : ℕ :=
  trace.foldl (fun failures event =>
    match event with
    | .loginFailed _ => failures + 1
    | .loginSucceeded => 0
    | _ => failures) 0

/-- The task has not ended before `stop` is set. -/
def EndsAfterStop (s : SessionMaintainer) : Prop :=
  s.point.hasEnded = true → s.stop = true

/-- The history of a run in its state: the task has raised exactly when too
many attempts have failed in a row. -/
structure MaintainerInvariant (past : List MaintainerEvent)
    (s : SessionMaintainer) : Prop where
  failures : s.failures = consecutiveFailures past
  stop : s.stop = true ↔ .setStop ∈ past
  raised : s.point.isRaised = true ↔ 1024 < s.failures
  ended : s.point.hasEnded = true → s.point.isRaised = true ∨ s.stop = true

theorem consecutiveFailures_concat (past : List MaintainerEvent)
    (e : MaintainerEvent) :
    consecutiveFailures (past ++ [e]) =
      match e with
      | .loginFailed _ => consecutiveFailures past + 1
      | .loginSucceeded => 0
      | _ => consecutiveFailures past := by
  rw [consecutiveFailures, List.foldl_append]
  rfl

/-- A step that is no attempt to log in, from a task that goes on to one that
goes on or that `stop` has ended. -/
theorem MaintainerInvariant.move {past : List MaintainerEvent}
    {s : SessionMaintainer} (h : MaintainerInvariant past s)
    {e : MaintainerEvent} (hstop : e ≠ .setStop)
    (hattempt : consecutiveFailures (past ++ [e]) = consecutiveFailures past)
    (hrunning : s.point.isRaised = false) {point : MaintainerPoint}
    (hraised : point.isRaised = false)
    (hended : point.hasEnded = true → s.stop = true) :
    MaintainerInvariant (past ++ [e]) { s with point := point } where
  failures := h.failures.trans hattempt.symm
  stop := by
    rw [List.mem_append, List.mem_singleton]
    simp [h.stop, hstop.symm]
  raised := by
    rw [hraised, ← h.raised, hrunning]
  ended hpoint := Or.inr (hended hpoint)

theorem MaintainerInvariant.step {backoff : ExponentialBackoff}
    (hmaximum : (PyFloat.finite 0).lt backoff.maximumSeconds = true)
    {past : List MaintainerEvent} {s s' : SessionMaintainer}
    {e : MaintainerEvent} (h : MaintainerInvariant past s)
    (hstep : s.step backoff e = some s') :
    MaintainerInvariant (past ++ [e]) s' := by
  have hkept : ∀ e', e' ≠ MaintainerEvent.setStop →
      (s.stop = true ↔ .setStop ∈ past ++ [e']) := by
    intro e' he'
    rw [List.mem_append, List.mem_singleton]
    simp [h.stop, he'.symm]
  rcases e with _ | _ | loggedIn | _ | random | _
  case setStop =>
    obtain rfl := Option.some.inj hstep
    exact ⟨by rw [consecutiveFailures_concat]; exact h.failures, by simp,
      h.raised, fun _ => Or.inr rfl⟩
  case cancel =>
    rw [SessionMaintainer.step, Option.ite_none_right_eq_some] at hstep
    obtain ⟨⟨hstop, hrunning⟩, hs'⟩ := hstep
    obtain rfl := Option.some.inj hs'
    refine h.move (by simp) (consecutiveFailures_concat _ _) ?_ rfl
      fun _ => hstop
    rcases hpoint : s.point
    all_goals simp_all [MaintainerPoint.hasEnded, MaintainerPoint.isRaised]
  case resume =>
    rw [SessionMaintainer.step, Option.ite_none_right_eq_some] at hstep
    obtain ⟨hpoint, hs'⟩ := hstep
    obtain rfl := Option.some.inj hs'
    refine h.move (by simp) (consecutiveFailures_concat _ _)
      (by rw [hpoint]; rfl) ?_ ?_
    · split
      · rfl
      · split
        · rfl
        · rfl
    · split
      next hstop => exact fun _ => hstop
      next =>
        split
        · intro hended
          cases hended
        · intro hended
          cases hended
  case waited =>
    rw [SessionMaintainer.step] at hstep
    split at hstep
    next timeout hpoint =>
      obtain rfl := Option.some.inj hstep
      refine h.move (by simp) (consecutiveFailures_concat _ _)
        (by rw [hpoint]; rfl) rfl ?_
      intro hended
      cases hended
    next => cases hstep
  case loginFailed =>
    rw [SessionMaintainer.step, Option.ite_none_right_eq_some] at hstep
    obtain ⟨hpoint, hs'⟩ := hstep
    obtain rfl := Option.some.inj hs'
    have hfailures : (s.handleFailure backoff random).failures =
        consecutiveFailures (past ++ [.loginFailed random]) := by
      rw [consecutiveFailures_concat, ← h.failures, failures_handleFailure]
    have hstop : (s.handleFailure backoff random).stop = true ↔
        .setStop ∈ past ++ [.loginFailed random] := by
      rw [stop_handleFailure]
      exact hkept _ (by simp)
    rcases point_handleFailure hmaximum random s with
      ⟨hfew, delay, hnext⟩ | ⟨hmany, hnext⟩
    · refine ⟨hfailures, hstop, ?_, ?_⟩
      · rw [hnext, failures_handleFailure]
        simp only [waitOrStop, MaintainerPoint.isRaised, Bool.false_eq_true,
          false_iff]
        omega
      · rw [hnext]
        intro hended
        cases hended
    · refine ⟨hfailures, hstop, ?_, ?_⟩
      · rw [hnext, failures_handleFailure]
        simp only [MaintainerPoint.isRaised, true_iff]
        omega
      · intro _
        left
        rw [hnext]
        rfl
  case loginSucceeded =>
    rw [SessionMaintainer.step, Option.ite_none_right_eq_some] at hstep
    obtain ⟨hpoint, hs'⟩ := hstep
    obtain rfl := Option.some.inj hs'
    refine ⟨?_, hkept _ (by simp), ?_, ?_⟩
    · rw [consecutiveFailures_concat]
    · simp [MaintainerPoint.isRaised]
    · intro hended
      cases hended

/-- After a whole run, the task goes on unless it has been stopped, or too
many attempts have failed in a row. -/
theorem endsAfterStop_iff {backoff : ExponentialBackoff}
    (hmaximum : (PyFloat.finite 0).lt backoff.maximumSeconds = true)
    {past : List MaintainerEvent} {s : SessionMaintainer}
    (hs : exec (SessionMaintainer.step backoff) initial past = some s) :
    s.EndsAfterStop ↔
      (.setStop ∉ past → consecutiveFailures past ≤ 1024) := by
  have h : MaintainerInvariant past s := by
    refine exec_induction (C := fun _ _ => True)
      (P := MaintainerInvariant) ?_ ?_ (everyStep_true _ _ _) hs
    · exact ⟨rfl, by simp [initial], by simp [initial,
        MaintainerPoint.isRaised], by simp [initial, MaintainerPoint.hasEnded]⟩
    · intro past s e s' _ hpast _ hstep
      exact hpast.step hmaximum hstep
  rw [EndsAfterStop, ← h.failures, ← h.stop]
  constructor
  · intro hends hstop
    by_contra hmany
    have hraised := h.raised.mpr (not_le.mp hmany)
    apply hstop
    apply hends
    rcases hpoint : s.point
    all_goals simp_all [MaintainerPoint.isRaised, MaintainerPoint.hasEnded]
  · intro hfew hended
    by_contra hstop
    rcases h.ended hended with hraised | hset
    · exact absurd (h.raised.mp hraised) (not_lt.mpr (hfew hstop))
    · exact hstop hset

/-- The delays are bounded up to the 1024th failure in a row, and a run ends
only after `stop` exactly when no more attempts than that fail in a row. -/
theorem login_recovery_iff (settings : BackoffSettings) :
    (∀ (random : PyFloat) (failureNumber : ℕ),
      (∃ seconds,
        settings.backoff.delay random failureNumber = .ok seconds ∧
          settings.backoff.IsDelay seconds) ↔ failureNumber ≤ 1024) ∧
    ∀ trace final,
      exec (step settings.backoff) initial trace = some final →
      (EveryState (step settings.backoff) initial trace EndsAfterStop ↔
        ∀ past, past <+: trace → .setStop ∉ past →
          consecutiveFailures past ≤ 1024) := by
  have hmaximum :
      (PyFloat.finite 0).lt settings.backoff.maximumSeconds = true :=
    settings.maximum_gt
  constructor
  · intro random failureNumber
    rw [ExponentialBackoff.delay_bounded_iff hmaximum, Nat.cast_le_ofNat]
  · intro trace final hfinal
    constructor
    · intro hall past hpast
      obtain ⟨future, rfl⟩ := hpast
      rw [exec_append, Option.bind_eq_some_iff] at hfinal
      obtain ⟨s, hs, -⟩ := hfinal
      exact (endsAfterStop_iff hmaximum hs).mp
        (hall past (List.prefix_append _ _) s hs)
    · intro hfew past hpast s hs
      exact (endsAfterStop_iff hmaximum hs).mpr (hfew past hpast)

/-! ## A short outage, and a long one -/

/-- The settings of `settings.yaml`. -/
def standardSettings : BackoffSettings where
  initialBackoffSeconds := .finite 1
  maximumBackoffSeconds := .finite 60
  jitterRatio := Binary64.round (1 / 5)
  initial_gt := by decide +kernel
  maximum_gt := by decide +kernel
  jitter_ge := by decide +kernel
  jitter_le := by decide +kernel
  bounds := by decide +kernel

theorem recovery_after_one_failure :
    EveryState (step standardSettings.backoff) initial
      [.resume false, .loginFailed (.finite 0), .waited, .resume false,
        .loginSucceeded, .setStop, .resume true] EndsAfterStop := by
  refine ((login_recovery_iff standardSettings).2 _
    ⟨.returned, 0, true, true⟩ (by decide +kernel)).mpr ?_
  intro past hpast
  have hfew : ∀ past ∈ List.inits [.resume false, .loginFailed (.finite 0),
      .waited, .resume false, .loginSucceeded, .setStop, .resume true],
      consecutiveFailures past ≤ 1024 := by
    decide +kernel
  exact fun _ => hfew past ((List.mem_inits past _).mpr hpast)

def outageRound : List MaintainerEvent :=
  [.resume false, .loginFailed (.finite 0), .waited]

/-- An outage that lasts for some attempts. -/
def outage (attempts : ℕ) : List MaintainerEvent :=
  (List.replicate attempts outageRound).flatten

theorem outage_succ (attempts : ℕ) :
    outage (attempts + 1) = outage attempts ++ outageRound := by
  rw [outage, outage, List.replicate_succ', List.flatten_append,
    List.flatten_singleton]

/-- One more attempt of a task that goes on. -/
theorem exec_failure {backoff : ExponentialBackoff} {s : SessionMaintainer}
    (hpoint : s.point = .testing) (hstop : s.stop = false) :
    exec (step backoff) s [.resume false, .loginFailed (.finite 0)] =
      some (({ s with point := .loggingIn } : SessionMaintainer).handleFailure
        backoff (.finite 0)) := by
  rw [exec_cons, step, if_pos hpoint, hstop]
  rfl

theorem exec_outage {backoff : ExponentialBackoff}
    (hmaximum : (PyFloat.finite 0).lt backoff.maximumSeconds = true)
    {attempts : ℕ} (hfew : attempts ≤ 1024) :
    ∃ s, exec (step backoff) initial (outage attempts) = some s ∧
      s.point = .testing ∧ s.failures = attempts ∧ s.stop = false := by
  induction attempts with
  | zero => exact ⟨initial, rfl, rfl, rfl, rfl⟩
  | succ attempts ih =>
      obtain ⟨s, hs, hpoint, hfailures, hstop⟩ := ih (by omega)
      let trying : SessionMaintainer := { s with point := .loggingIn }
      rcases point_handleFailure hmaximum (.finite 0) trying with
        ⟨-, delay, hdelay⟩ | ⟨hmany, -⟩
      · refine ⟨{ trying.handleFailure backoff (.finite 0) with
          point := .testing }, ?_, rfl, ?_, ?_⟩
        · have hround : outageRound =
            [.resume false, .loginFailed (.finite 0)] ++ [.waited] := rfl
          rw [outage_succ, hround, exec_append, hs, Option.bind_some,
            exec_append, exec_failure hpoint hstop, Option.bind_some,
            exec_cons, step, hdelay]
          rfl
        · rw [failures_handleFailure]
          exact congrArg (· + 1) hfailures
        · rw [stop_handleFailure]
          exact hstop
      · change 1024 ≤ s.failures at hmany
        omega

/-- The 1025th failure in a row raises, and ends the task of the agent. -/
theorem long_outage_ends_recovery :
    standardSettings.backoff.delay (.finite 0) 1025 =
        .error .overflowError ∧
      ¬EveryState (step standardSettings.backoff) initial (outage 1025)
        EndsAfterStop := by
  have hmaximum :
      (PyFloat.finite 0).lt standardSettings.backoff.maximumSeconds = true :=
    standardSettings.maximum_gt
  constructor
  · rcases ExponentialBackoff.delay_cases hmaximum (.finite 0) 1025 with
      ⟨hfew, -⟩ | ⟨-, hraises⟩
    · omega
    · exact hraises
  · intro hall
    obtain ⟨s, hs, hpoint, hfailures, hstop⟩ :=
      exec_outage hmaximum (le_refl 1024)
    have hpast : outage 1024 ++
        [.resume false, .loginFailed (.finite 0)] <+: outage 1025 := by
      rw [outage_succ 1024]
      exact (List.prefix_append_right_inj _).mpr ⟨[.waited], rfl⟩
    have hended := hall _ hpast _ (by
      rw [exec_append, hs]
      exact exec_failure hpoint hstop)
    rcases point_handleFailure hmaximum (.finite 0)
        { s with point := .loggingIn } with ⟨hfew, -⟩ | ⟨-, hraised⟩
    · exact absurd hfew (not_lt.mpr hfailures.ge)
    · have hset := hended (by rw [hraised]; rfl)
      rw [stop_handleFailure] at hset
      exact absurd (hstop.symm.trans hset) Bool.false_ne_true

end SessionMaintainer

end UyuniAgent.Resilience
