import UyuniAgent.Agent.PollCycle

/-!
# Held candidates and the absence counter

The window hides a candidate from the store while it holds it.  The store
counts the cycle as one without the anomaly, so a candidate whose incident is
already open is resolved by being held.  After a restart this happens to every
open incident that is still a candidate: the window has forgotten that its
grace period is over.
-/

namespace UyuniAgent.Agent

open Incident Transition DependencyCorrelationWindow

variable {F T : Type} [DecidableEq F]

/-! ## The property and its condition -/

/-- The detectors did not produce the anomaly in this cycle, or it was
absorbed into the chain of the cycle. -/
def AbsentOrAbsorbed (cfg : PollSettings F) (cycle : CycleAnomalies) (f : F) :
    Prop :=
  (∀ a ∈ cycle.raw, cfg.store.scheme.incidentFingerprint a ≠ f) ∨
    ∃ pair, selectedPair cycle.raw cycle.edges
        cfg.correlation.apacheTrafficThreshold = some pair ∧
      ∀ i a, cycle.raw[i]? = some a →
        cfg.store.scheme.incidentFingerprint a = f → i = pair.1 ∨ i = pair.2

/-- An incident is resolved only after cycles without its anomaly. -/
def HoldingIsNoRecovery (cfg : PollSettings F) :
    PollState F T → PollEvent F T → Prop :=
  ResolvesOnlyAfter cfg fun c f => AbsentOrAbsorbed cfg c.cycle f

/-- No anomaly that the window holds in a cycle belongs to an open incident. -/
def HoldsNoOpenIncident (cfg : PollSettings F) (s : PollState F T)
    (e : PollEvent F T) : Prop :=
  ∀ snapshots edges now, e = .correlate snapshots edges now →
    ∀ a ∈ snapshots.flatMap (·.anomalies),
      s.window.holds cfg.correlation (snapshots.flatMap (·.anomalies)) edges
        now a = true →
      ∀ row, s.table.get? (cfg.store.scheme.incidentFingerprint a) =
        some row → row.status = .resolved

/-! ## Holding no open incident is enough -/

/-- An open incident that is not reported is absent or absorbed. -/
theorem missesOnlyWhen_absentOrAbsorbed {cfg : PollSettings F}
    {s : PollState F T} {e : PollEvent F T}
    (hholds : HoldsNoOpenIncident cfg s e) :
    MissesOnlyWhen cfg (fun c f => AbsentOrAbsorbed cfg c.cycle f) s e := by
  rintro snapshots edges now s' rfl hstep snapshot - f row hactive hmissed
  obtain ⟨hrow, hmine⟩ := activeRow_eq_some_iff.mp hactive
  simp only [Row.activeFor, Bool.and_eq_true, decide_eq_true_eq] at hmine
  simp only [pollStep] at hstep
  split at hstep
  next =>
    obtain rfl := Option.some.inj hstep
    dsimp only at hmissed ⊢
    -- an occurrence of the anomaly is neither reported nor held
    have habsorbed : ∀ i a, (snapshots.flatMap (·.anomalies))[i]? = some a →
        cfg.store.scheme.incidentFingerprint a = f →
        ∃ pair, selectedPair (snapshots.flatMap (·.anomalies)) edges
            cfg.correlation.apacheTrafficThreshold = some pair ∧
          (i = pair.1 ∨ i = pair.2) := by
      intro i a hi heq
      by_contra hout
      have hfree : s.window.holds cfg.correlation
          (snapshots.flatMap (·.anomalies)) edges now a = false := by
        by_contra hheld
        rw [Bool.not_eq_false] at hheld
        have hclosed := hholds snapshots edges now rfl a
          (List.mem_of_getElem? hi) hheld row (by rw [heq]; exact hrow)
        rw [hmine.2] at hclosed
        cases hclosed
      refine hmissed a (mem_correlate hi ?_ hfree) heq
      intro pair hpair
      exact not_or.mp fun hin => hout ⟨pair, hpair, hin⟩
    by_cases habsent : ∀ a ∈ snapshots.flatMap (·.anomalies),
        cfg.store.scheme.incidentFingerprint a ≠ f
    · exact Or.inl habsent
    · simp only [not_forall, not_not] at habsent
      obtain ⟨a, ha, heq⟩ := habsent
      obtain ⟨i, hi⟩ := List.mem_iff_getElem?.mp ha
      obtain ⟨pair, hpair, -⟩ := habsorbed i a hi heq
      refine Or.inr ⟨pair, hpair, ?_⟩
      intro j b hj hb
      obtain ⟨pair', hpair', hin⟩ := habsorbed j b hj hb
      obtain rfl := Option.some.inj (hpair.symm.trans hpair')
      exact hin
  next => cases hstep

/-- In every run that holds no anomaly of an open incident, holding is no
recovery. -/
theorem holding_is_no_recovery_of_holds_no_open_incident
    (cfg : PollSettings F) (trace : List (PollEvent F T))
    (hholds : EveryStep (pollStep cfg) PollState.initial trace
      (HoldsNoOpenIncident cfg)) :
    EveryStep (pollStep cfg) PollState.initial trace
      (HoldingIsNoRecovery cfg) := by
  apply resolvesOnlyAfter_of_missesOnlyWhen
  intro past e hpast s s' hs hstep
  exact missesOnlyWhen_absentOrAbsorbed (hholds past e hpast s s' hs hstep)

/-- A test of `HoldsNoOpenIncident`. -/
def testsHeld (cfg : PollSettings F) (s : PollState F T) :
    PollEvent F T → Bool
  | .correlate snapshots edges now =>
      let raw := snapshots.flatMap (·.anomalies)
      raw.all fun a =>
        !s.window.holds cfg.correlation raw edges now a ||
          (s.table.get? (cfg.store.scheme.incidentFingerprint a)).all
            (·.status = .resolved)
  | _ => true

theorem holdsNoOpenIncident_of_test {cfg : PollSettings F}
    (s : PollState F T) (e : PollEvent F T) (h : testsHeld cfg s e = true) :
    HoldsNoOpenIncident cfg s e := by
  rintro snapshots edges now rfl a ha hheld row hrow
  simp only [testsHeld, List.all_eq_true] at h
  simpa [hheld, hrow] using h a ha

/-! ## Sample runs -/

/-- Apache on `web` is saturated without much traffic. -/
def busyApache : Anomaly where
  minionId := "web"
  metricName := "apache_busy_workers"
  currentValue := 96
  threshold := 95
  severity := .critical
  description := "Apache busy workers at 96.0"
  serviceName := some "apache2"
  resource := some "apache:workers"
  context := .apache "web:9117" (some 96) (some 20)

/-- One cycle of `web`, which depends on the database of `db`. -/
def webCycle (anomalies : List Anomaly) (now : ℚ) :
    List (PollEvent IdentityKey Unit) :=
  [.correlate [⟨"web", anomalies, ()⟩, ⟨"db", [], ()⟩]
      [⟨some "db", some "web"⟩] now,
    .reconcile "web" now, .reconcile "db" now]

/-- Apache is held for the grace period, opened, and recovers. -/
def recoveredTrace : List (PollEvent IdentityKey Unit) :=
  webCycle [busyApache] 0 ++ webCycle [busyApache] 60 ++
    webCycle [busyApache] 120 ++ webCycle [] 180 ++ webCycle [] 240

/-- The run is possible, and what it holds is no recovery. -/
theorem holding_is_no_recovery_recovered :
    (exec (pollStep .plain) PollState.initial recoveredTrace).isSome ∧
      EveryStep (pollStep .plain) PollState.initial recoveredTrace
        (HoldsNoOpenIncident .plain) ∧
      EveryStep (pollStep .plain) PollState.initial recoveredTrace
        (HoldingIsNoRecovery .plain) := by
  have hholds : EveryStep (pollStep .plain) PollState.initial recoveredTrace
      (HoldsNoOpenIncident .plain) :=
    everyStep_of_testSteps holdsNoOpenIncident_of_test (by decide +kernel)
  exact ⟨by decide +kernel, hholds,
    holding_is_no_recovery_of_holds_no_open_incident .plain recoveredTrace
      hholds⟩

/-- The process restarts after the incident was opened, and holds Apache for
two more cycles. -/
def restartedTrace : List (PollEvent IdentityKey Unit) :=
  webCycle [busyApache] 0 ++ webCycle [busyApache] 60 ++
    webCycle [busyApache] 120 ++ [.restart] ++ webCycle [busyApache] 180 ++
    [.correlate [⟨"web", [busyApache], ()⟩, ⟨"db", [], ()⟩]
      [⟨some "db", some "web"⟩] 240]

/-- The next reconciliation resolves the incident whose anomaly the detectors
have just produced, and which was absorbed into nothing. -/
def resolvesHeld (s : PollState IdentityKey Unit) : Bool :=
  (s.waiting.find? (·.minion = "web")).isSome &&
    (pollReport .plain s "web" 240).1.resolved.any
      (·.fingerprint = busyApache.identityKey) &&
    s.cycle.raw.any (· = busyApache) &&
    (selectedPair s.cycle.raw s.cycle.edges 500).isNone

/-- An incident is resolved while its anomaly is being held. -/
theorem held_candidate_is_resolved :
    ¬∀ (cfg : PollSettings IdentityKey)
      (trace : List (PollEvent IdentityKey Unit)),
      EveryStep (pollStep cfg) PollState.initial trace
        (HoldingIsNoRecovery cfg) := by
  intro hall
  have hreached : (exec (pollStep .plain) PollState.initial
      restartedTrace).any resolvesHeld = true := by decide +kernel
  obtain ⟨s, hs, hheld⟩ := Option.any_eq_true _ _ |>.mp hreached
  simp only [resolvesHeld, Bool.and_eq_true, List.any_eq_true,
    decide_eq_true_eq, Option.isNone_iff_eq_none,
    Option.isSome_iff_exists] at hheld
  obtain ⟨⟨⟨⟨snapshot, hsnapshot⟩, record, hrecord, hkey⟩, a, ha, rfl⟩, hpair⟩ :=
    hheld
  have hstep : pollStep .plain s (.reconcile "web" 240) = some { s with
      table := (pollReport .plain s "web" 240).2
      waiting := s.waiting.filter (·.minion ≠ "web")
      log := ⟨"web", snapshot.telemetry, s.cycle⟩ :: s.log } := by
    simp only [pollStep, hsnapshot]
  obtain ⟨-, hrecent⟩ := hall .plain
    (restartedTrace ++ [.reconcile "web" 240]) restartedTrace
    (.reconcile "web" 240) (List.prefix_refl _) s _ hs hstep "web" 240 _ rfl
    hstep record hrecord
  have hnow := hrecent ⟨"web", snapshot.telemetry, s.cycle⟩ (by
    have hcons := recentCycles_cons_self
      ⟨"web", snapshot.telemetry, s.cycle⟩ s.log 1
    change _ ∈ recentCycles _ "web" (1 + 1)
    rw [hcons]
    exact List.mem_cons_self)
  rcases hnow with habsent | ⟨pair, hsome, -⟩
  · exact habsent busyApache ha hkey.symm
  · have hnone : selectedPair s.cycle.raw s.cycle.edges 500 = some pair := hsome
    rw [hpair] at hnone
    cases hnone

end UyuniAgent.Agent
