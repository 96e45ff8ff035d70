import UyuniAgent.Resilience.Recovery

/-!
# The half-open probe

A half-open circuit admits one call as its probe.  The flag that keeps other
calls out belongs to the breaker and not to the probe: the failure of a call
that was admitted before the circuit opened clears it, and after another
recovery period a second probe is admitted next to the first.
-/

namespace UyuniAgent.Resilience

open Transition

variable {cfg : BreakerSettings}

/-! ## Probes in progress -/

/-- A circuit with the calls in progress that were admitted in the half-open
state since the circuit last closed. -/
structure ProbeRun where
  circuit : CircuitRun
  probes : List ℕ
  deriving DecidableEq

def ProbeRun.initial (clock : ℚ) : ProbeRun := ⟨.initial clock, []⟩

/-- The probes after an event; a success closes the circuit. -/
def probesAfter (cfg : BreakerSettings) (s : ProbeRun) :
    CircuitEvent → List ℕ
  | .execute id now =>
      if (s.circuit.breaker.acquire cfg now).1.state = .halfOpen then
        id :: s.probes
      else s.probes
  | .finish _ .success _ _ => []
  | .finish id _ _ _ => s.probes.filter (· ≠ id)
  | .snapshot _ => s.probes

def probeStep (cfg : BreakerSettings) (s : ProbeRun) (e : CircuitEvent) :
    Option ProbeRun :=
  (circuitStep cfg s.circuit e).map fun circuit =>
    ⟨circuit, probesAfter cfg s e⟩

def SingleProbe (s : ProbeRun) : Prop := s.probes.length ≤ 1

/-- While a probe is in progress, no other call fails or runs out of time. -/
def NoLateFailure (s : ProbeRun) (e : CircuitEvent) : Prop :=
  ∀ id ending recordedAt observedAt,
    e = .finish id ending recordedAt observedAt →
    ending ≠ .success → ending ≠ .cancelled → s.probes ≠ [] → id ∈ s.probes

/-! ## The flag guards the probe -/

/-- At most one probe is in progress, and its flag is set. -/
structure ProbeGuarded (s : ProbeRun) : Prop where
  single : SingleProbe s
  halfOpen : s.probes ≠ [] → s.circuit.breaker.state = .halfOpen
  flagged : s.probes ≠ [] → s.circuit.breaker.probeInFlight = true

/-- A call that finds the flag set is refused, and the flag stays set. -/
theorem acquire_of_flagged {b : CircuitBreaker} (hhalf : b.state = .halfOpen)
    (hflag : b.probeInFlight = true) (now : ℚ) :
    (b.acquire cfg now).1.state = .opened ∧ (b.acquire cfg now).2 = b := by
  have hsame : b.effectiveState cfg now = b :=
    CircuitBreaker.effectiveState_of_ne_opened (by simp [hhalf])
  simp [CircuitBreaker.acquire, hsame, hhalf, hflag]

/-- A call admitted as a probe sets the flag. -/
theorem acquire_flags_probe {b : CircuitBreaker} {now : ℚ}
    (hprobe : (b.acquire cfg now).1.state = .halfOpen) :
    (b.acquire cfg now).2.state = .halfOpen ∧
      (b.acquire cfg now).2.probeInFlight = true := by
  have hadmitted : (b.acquire cfg now).1.state ≠ .opened := by simp [hprobe]
  rcases CircuitBreaker.acquire_admits_iff.mp hadmitted with
    hclosed | ⟨hhalf, hfree⟩
  · simp [CircuitBreaker.acquire, hclosed] at hprobe
  · simp [CircuitBreaker.acquire, hhalf, hfree]

namespace ProbeGuarded

variable {s s' : ProbeRun}

theorem initial (clock : ℚ) : ProbeGuarded (.initial clock) := by
  have hnone : (ProbeRun.initial clock).probes = [] := rfl
  exact ⟨Nat.zero_le 1, fun h => absurd hnone h, fun h => absurd hnone h⟩

/-- A step that leaves no probe behind keeps the guard. -/
theorem of_no_probe (h : s.probes = []) : ProbeGuarded s := by
  refine ⟨?_, fun hne => absurd h hne, fun hne => absurd h hne⟩
  rw [SingleProbe, h]
  exact Nat.zero_le 1

theorem execute (h : ProbeGuarded s) {id : ℕ} {now : ℚ}
    {circuit : CircuitRun}
    (hbreaker : circuit.breaker = (s.circuit.breaker.acquire cfg now).2) :
    ProbeGuarded ⟨circuit, probesAfter cfg s (.execute id now)⟩ := by
  by_cases hnone : s.probes = []
  · by_cases hprobe : (s.circuit.breaker.acquire cfg now).1.state = .halfOpen
    · obtain ⟨hhalf, hflag⟩ := acquire_flags_probe hprobe
      refine ⟨?_, fun _ => ?_, fun _ => ?_⟩
      · simp [SingleProbe, probesAfter, hprobe, hnone]
      · rw [hbreaker, hhalf]
      · rw [hbreaker, hflag]
    · apply of_no_probe
      simp [probesAfter, hprobe, hnone]
  · have hrefused : (s.circuit.breaker.acquire cfg now).1.state = .opened :=
      (acquire_of_flagged (h.halfOpen hnone) (h.flagged hnone) now).1
    have hsame : (s.circuit.breaker.acquire cfg now).2 = s.circuit.breaker :=
      (acquire_of_flagged (h.halfOpen hnone) (h.flagged hnone) now).2
    have hkept : probesAfter cfg s (.execute id now) = s.probes := by
      simp [probesAfter, hrefused]
    rw [hkept]
    refine ⟨h.single, fun _ => ?_, fun _ => ?_⟩
    · rw [hbreaker, hsame, h.halfOpen hnone]
    · rw [hbreaker, hsame, h.flagged hnone]

/-- The failure of the probe itself ends it. -/
theorem probesAfter_of_failure (h : ProbeGuarded s) {id : ℕ}
    {ending : CallEnding} {recordedAt observedAt : ℚ}
    (hlate : NoLateFailure s (.finish id ending recordedAt observedAt))
    (hsuccess : ending ≠ .success) (hcancelled : ending ≠ .cancelled) :
    probesAfter cfg s (.finish id ending recordedAt observedAt) = [] := by
  have hfilter : probesAfter cfg s (.finish id ending recordedAt observedAt) =
      s.probes.filter (· ≠ id) := by
    rcases ending with _ | _ | _ | _ | _
    · exact absurd rfl hsuccess
    all_goals rfl
  rw [hfilter, List.filter_eq_nil_iff]
  intro probe hprobe
  have hid : id ∈ s.probes :=
    hlate id ending recordedAt observedAt rfl hsuccess hcancelled
      (List.ne_nil_of_mem hprobe)
  have hone : s.probes.length = 1 :=
    le_antisymm h.single (List.length_pos_of_mem hprobe)
  obtain ⟨only, honly⟩ := List.length_eq_one_iff.mp hone
  rw [honly, List.mem_singleton] at hid hprobe
  simp [hid, hprobe]

theorem finish (h : ProbeGuarded s) {id : ℕ} {ending : CallEnding}
    {recordedAt observedAt : ℚ} {circuit : CircuitRun}
    (hlate : NoLateFailure s (.finish id ending recordedAt observedAt))
    (hbreaker : circuit.breaker =
      ending.settle cfg s.circuit.breaker recordedAt observedAt) :
    ProbeGuarded ⟨circuit,
      probesAfter cfg s (.finish id ending recordedAt observedAt)⟩ := by
  by_cases hsuccess : ending = .success
  · subst hsuccess
    exact of_no_probe rfl
  · by_cases hcancelled : ending = .cancelled
    · -- a cancelled call leaves the breaker alone
      subst hcancelled
      have hsame : circuit.breaker = s.circuit.breaker := hbreaker
      have hprobes : probesAfter cfg s
          (.finish id .cancelled recordedAt observedAt) =
            s.probes.filter (· ≠ id) := rfl
      have hleft (hne : s.probes.filter (· ≠ id) ≠ []) : s.probes ≠ [] := by
        rintro hnone
        rw [hnone] at hne
        exact hne rfl
      rw [hprobes]
      refine ⟨?_, fun hne => ?_, fun hne => ?_⟩
      · exact le_trans (List.length_filter_le _ _) h.single
      · rw [hsame, h.halfOpen (hleft hne)]
      · rw [hsame, h.flagged (hleft hne)]
    · exact of_no_probe (h.probesAfter_of_failure hlate hsuccess hcancelled)

theorem snapshot (h : ProbeGuarded s) {now : ℚ} {circuit : CircuitRun}
    (hbreaker : circuit.breaker = s.circuit.breaker.effectiveState cfg now) :
    ProbeGuarded ⟨circuit, s.probes⟩ := by
  have hsame (hne : s.probes ≠ []) :
      circuit.breaker = s.circuit.breaker := by
    rw [hbreaker]
    apply CircuitBreaker.effectiveState_of_ne_opened
    simp [h.halfOpen hne]
  refine ⟨h.single, fun hne => ?_, fun hne => ?_⟩
  · rw [hsame hne, h.halfOpen hne]
  · rw [hsame hne, h.flagged hne]

theorem step (h : ProbeGuarded s) {e : CircuitEvent}
    (hlate : NoLateFailure s e) (hstep : probeStep cfg s e = some s') :
    ProbeGuarded s' := by
  obtain ⟨circuit, hcircuit, rfl⟩ := Option.map_eq_some_iff.mp hstep
  rcases circuitStep_cases hcircuit with
    ⟨id, now, rfl, -, -, rfl⟩ | ⟨id, now, rfl, -, -, rfl⟩ |
    ⟨id, ending, recordedAt, observedAt, rfl, -, -, -, rfl⟩ |
    ⟨now, rfl, -, rfl⟩
  · exact h.execute rfl
  · exact h.execute rfl
  · exact h.finish hlate rfl
  · exact h.snapshot rfl

end ProbeGuarded

/-- In every run in which no other call fails while a probe is in progress,
there is at most one probe at any moment. -/
theorem single_probe_of_no_late_failure
    (cfg : BreakerSettings) (clock : ℚ) (trace : List CircuitEvent)
    (hlate : EveryStep (probeStep cfg) (.initial clock) trace NoLateFailure) :
    EveryState (probeStep cfg) (.initial clock) trace SingleProbe := by
  have hall : EveryState (probeStep cfg) (.initial clock) trace ProbeGuarded :=
    everyState_of_everyStep (ProbeGuarded.initial clock)
      (fun _ _ _ h hC hstep => h.step hC hstep) hlate
  intro past hpast s hs
  exact (hall past hpast s hs).single

/-- A test of `NoLateFailure`. -/
def testsLateFailure (s : ProbeRun) : CircuitEvent → Bool
  | .finish id ending _ _ =>
      ending = .success || ending = .cancelled || s.probes.isEmpty ||
        id ∈ s.probes
  | _ => true

theorem noLateFailure_of_test (s : ProbeRun) (e : CircuitEvent)
    (h : testsLateFailure s e = true) : NoLateFailure s e := by
  rintro id ending recordedAt observedAt rfl hsuccess hcancelled hsome
  simpa [testsLateFailure, hsuccess, hcancelled, hsome] using h

/-! ## Sample runs -/

/-- Two failures open the circuit, and a probe closes it again. -/
def probedTrace : List CircuitEvent :=
  [.execute 0 0, .finish 0 .error 1 1, .execute 1 1, .finish 1 .timeout 2 2,
    .execute 2 7, .execute 3 8, .finish 2 .success 9 9]

/-- The run is possible, and its one probe is never joined by another. -/
theorem single_probe_of_no_late_failure_probed :
    (exec (probeStep testSettings) (.initial 0) probedTrace).isSome ∧
      EveryState (probeStep testSettings) (.initial 0) probedTrace
        SingleProbe := by
  refine ⟨by decide +kernel, ?_⟩
  exact single_probe_of_no_late_failure testSettings 0 probedTrace
    (everyStep_of_testSteps noLateFailure_of_test (by decide +kernel))

/-- Three calls are admitted while the circuit is closed.  Two of them open
it, and the third runs out of time while the first probe is in progress. -/
def lateFailureTrace : List CircuitEvent :=
  [.execute 0 0, .execute 1 0, .execute 2 0, .finish 0 .error 1 1,
    .finish 1 .error 1 1, .execute 3 6, .finish 2 .timeout 7 7, .execute 4 12]

/-- Two probes are in progress at once. -/
theorem late_failure_admits_second_probe :
    ¬∀ (cfg : BreakerSettings) (clock : ℚ) (trace : List CircuitEvent),
      EveryState (probeStep cfg) (.initial clock) trace SingleProbe := by
  intro hall
  have hreached : (exec (probeStep testSettings) (.initial 0)
      lateFailureTrace).any (fun s => decide (s.probes = [4, 3])) = true := by
    decide +kernel
  obtain ⟨s, hs, hprobes⟩ := Option.any_eq_true _ _ |>.mp hreached
  have hsingle := hall testSettings 0 lateFailureTrace lateFailureTrace
    (List.prefix_refl _) s hs
  rw [SingleProbe, of_decide_eq_true hprobes] at hsingle
  exact absurd hsingle (by decide)

end UyuniAgent.Resilience
