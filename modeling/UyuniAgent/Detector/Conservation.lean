import UyuniAgent.Detector.Locality

/-!
# Correlation conserves anomalies

A correlated anomaly replaces exactly one pair and leaves everything else in
its place.  In a cycle without a pair the window only delays: each anomaly is
passed on or held, and the held ones are counted.
-/

namespace UyuniAgent

/-- The order of severities. -/
def AlertSeverity.rank : AlertSeverity → ℕ
  | .info => 0
  | .warning => 1
  | .critical => 2

theorem AlertSeverity.rank_le_critical (severity : AlertSeverity) :
    severity.rank ≤ AlertSeverity.critical.rank := by
  rcases severity with _ | _ | _
  · decide
  · decide
  · decide

theorem AlertSeverity.rank_le_warning {severity : AlertSeverity}
    (h : severity ≠ .critical) :
    severity.rank ≤ AlertSeverity.warning.rank := by
  rcases severity with _ | _ | _
  · decide
  · decide
  · exact absurd rfl h

/-! ## The absorbed pair -/

variable {edges : List DependencyEdge} {threshold : ℚ}
  {anomalies result : List Anomaly}

/-- Two of the anomalies belong together. -/
def HasPair (edges : List DependencyEdge) (threshold : ℚ)
    (anomalies : List Anomaly) : Prop :=
  ∃ apache ∈ anomalies, ∃ postgres ∈ anomalies,
    pairable threshold edges apache postgres = true

/-- `chain` stands for the pair, on the Apache minion and with a severity that
an operator is alerted of, not below those of the two. -/
structure StandsFor (chain apache postgres : Anomaly) : Prop where
  metricName : chain.metricName = "postgres_apache_chain"
  minionId : chain.minionId = apache.minionId
  alerting : chain.severity = .warning ∨ chain.severity = .critical
  apache_le : apache.severity.rank ≤ chain.severity.rank
  postgres_le : postgres.severity.rank ≤ chain.severity.rank

/-- One pair is gone from the anomalies, a chain stands where the first of the
two stood, and everything else is in its place. -/
def PairAbsorbed (edges : List DependencyEdge) (threshold : ℚ)
    (anomalies result : List Anomaly) : Prop :=
  ∃ apache postgres chain before between after,
    pairable threshold edges apache postgres = true ∧
      StandsFor chain apache postgres ∧
      (anomalies = before ++ apache :: (between ++ postgres :: after) ∨
        anomalies = before ++ postgres :: (between ++ apache :: after)) ∧
      result = before ++ chain :: (between ++ after)

theorem standsFor_correlatedAnomaly (apache postgres : Anomaly) :
    StandsFor (correlatedAnomaly apache postgres) apache postgres := by
  by_cases hcritical : apache.severity = .critical ∨
      postgres.severity = .critical
  · have hseverity : (correlatedAnomaly apache postgres).severity =
        .critical := if_pos hcritical
    refine ⟨rfl, rfl, Or.inr hseverity, ?_, ?_⟩
    · rw [hseverity]
      exact AlertSeverity.rank_le_critical _
    · rw [hseverity]
      exact AlertSeverity.rank_le_critical _
  · have hseverity : (correlatedAnomaly apache postgres).severity =
        .warning := if_neg hcritical
    rw [not_or] at hcritical
    refine ⟨rfl, rfl, Or.inl hseverity, ?_, ?_⟩
    · rw [hseverity]
      exact AlertSeverity.rank_le_warning hcritical.1
    · rw [hseverity]
      exact AlertSeverity.rank_le_warning hcritical.2

theorem selectedPair_ne_none_iff :
    selectedPair anomalies edges threshold ≠ none ↔
      HasPair edges threshold anomalies := by
  rw [ne_eq, selectedPair_eq_none_iff, HasPair]
  push Not
  simp only [Bool.not_eq_false]

theorem selectedPair_eq_none_of (h : ¬HasPair edges threshold anomalies) :
    selectedPair anomalies edges threshold = none :=
  not_ne_iff.mp (mt selectedPair_ne_none_iff.mp h)

/-- What the selected pair leaves behind. -/
theorem pairAbsorbed_of_selectedPair {pair : ℕ × ℕ}
    (hpair : selectedPair anomalies edges threshold = some pair) :
    PairAbsorbed edges threshold anomalies
      (correlateDependencyAnomalies anomalies edges threshold) := by
  obtain ⟨apache, postgres, before, before', hfirst, rfl⟩ :=
    selectedPair_eq_some_iff.mp hpair
  obtain ⟨after, hleft⟩ := hfirst.apacheAt
  obtain ⟨after', hright⟩ := hfirst.postgresAt
  have hstands := standsFor_correlatedAnomaly apache postgres
  have hresult : correlateDependencyAnomalies anomalies edges threshold =
      absorbPair (correlatedAnomaly apache postgres)
        (before.length, before'.length) anomalies := by
    have happ : anomalies[before.length]? = some apache := by simp [hleft]
    have hpost : anomalies[before'.length]? = some postgres := by
      simp [hright]
    simp only [correlateDependencyAnomalies, hpair, happ, hpost]
  rcases two_places (hleft.symm.trans hright) (ne_of_pairable hfirst.pair) with
    ⟨between, rfl, rfl⟩ | ⟨between, rfl, rfl⟩
  · refine ⟨apache, postgres, _, before, between, after', hfirst.pair,
      hstands, Or.inl hleft, ?_⟩
    rw [hresult, hleft, List.length_append, List.length_cons,
      ← add_assoc, add_right_comm]
    exact absorbPair_eq
  · refine ⟨apache, postgres, _, before', between, after, hfirst.pair,
      hstands, Or.inr hright, ?_⟩
    rw [hresult, absorbPair_swap, hright, List.length_append,
      List.length_cons, ← add_assoc, add_right_comm]
    exact absorbPair_eq

/-- Two anomalies give way to one. -/
theorem PairAbsorbed.length_eq
    (h : PairAbsorbed edges threshold anomalies result) :
    anomalies.length = result.length + 1 := by
  obtain ⟨apache, postgres, chain, before, between, after, -, -,
    hanomalies, rfl⟩ := h
  rcases hanomalies with rfl | rfl
  · simp only [List.length_append, List.length_cons]
    omega
  · simp only [List.length_append, List.length_cons]
    omega

theorem pairAbsorbed_of_hasPair (h : HasPair edges threshold anomalies) :
    PairAbsorbed edges threshold anomalies
      (correlateDependencyAnomalies anomalies edges threshold) := by
  obtain ⟨pair, hpair⟩ :=
    Option.ne_none_iff_exists'.mp (selectedPair_ne_none_iff.mpr h)
  exact pairAbsorbed_of_selectedPair hpair

theorem correlate_eq_self_iff :
    correlateDependencyAnomalies anomalies edges threshold = anomalies ↔
      ¬HasPair edges threshold anomalies := by
  constructor
  · intro hsame hpair
    have hlength := (pairAbsorbed_of_hasPair hpair).length_eq
    rw [hsame] at hlength
    omega
  · intro hnone
    exact correlate_of_no_pair (selectedPair_eq_none_of hnone)

/-! ## The held anomalies -/

namespace DependencyCorrelationWindow

variable {cfg : CorrelationSettings} {window : DependencyCorrelationWindow}
  {now : ℚ}

/-- A cycle with a pair holds nothing. -/
theorem correlate_of_hasPair
    (h : HasPair edges cfg.apacheTrafficThreshold anomalies) :
    PairAbsorbed edges cfg.apacheTrafficThreshold anomalies
        (window.correlate cfg anomalies edges now).1 ∧
      (window.correlate cfg anomalies edges now).2.lastHeldCount = 0 := by
  obtain ⟨pair, hpair⟩ :=
    Option.ne_none_iff_exists'.mp (selectedPair_ne_none_iff.mpr h)
  rw [correlate_of_chain (any_chain_of_pair hpair)]
  exact ⟨pairAbsorbed_of_selectedPair hpair, rfl⟩

/-- A cycle without a pair passes on what it does not hold. -/
theorem correlate_of_not_hasPair
    (h : ¬HasPair edges cfg.apacheTrafficThreshold anomalies) :
    (window.correlate cfg anomalies edges now).1 = anomalies.filter
        (fun a => !holds cfg window anomalies edges now a) ∧
      (window.correlate cfg anomalies edges now).2.lastHeldCount =
        anomalies.countP (holds cfg window anomalies edges now) := by
  have hsame := correlate_eq_self_iff.mpr h
  rcases hchain : (correlateDependencyAnomalies anomalies edges
    cfg.apacheTrafficThreshold).any (·.metricName = "postgres_apache_chain")
      with _ | _
  · have hholds : holds cfg window anomalies edges now =
        isHeldBack cfg (candidateKeys cfg edges anomalies) now
          (window.firstSeen.filter fun entry =>
            entry.1 ∈ candidateKeys cfg edges anomalies) :=
      funext (holds_eq_isHeldBack hchain)
    rw [hsame] at hchain
    rw [correlate_of_no_chain (selectedPair_eq_none_of h) hchain, hholds]
    exact holdCandidates_eq
  · have hfree : holds cfg window anomalies edges now = fun _ => false := by
      funext a
      simp [holds, hchain]
    rw [correlate_of_chain hchain, hfree, hsame]
    simp [initial]

end DependencyCorrelationWindow

/-- Correlation changes its input exactly when two anomalies belong together,
and then absorbs one such pair; the window passes on or holds every other
anomaly, and counts the held ones. -/
theorem correlation_conserves (anomalies : List Anomaly)
    (edges : List DependencyEdge) (threshold : ℚ) :
    (correlateDependencyAnomalies anomalies edges threshold = anomalies ↔
        ¬HasPair edges threshold anomalies) ∧
      (HasPair edges threshold anomalies →
        PairAbsorbed edges threshold anomalies
          (correlateDependencyAnomalies anomalies edges threshold)) ∧
      ∀ (cfg : CorrelationSettings) (window : DependencyCorrelationWindow)
        (now : ℚ),
        (HasPair edges cfg.apacheTrafficThreshold anomalies →
          PairAbsorbed edges cfg.apacheTrafficThreshold anomalies
              (window.correlate cfg anomalies edges now).1 ∧
            (window.correlate cfg anomalies edges now).2.lastHeldCount =
              0) ∧
        (¬HasPair edges cfg.apacheTrafficThreshold anomalies →
          (window.correlate cfg anomalies edges now).1 = anomalies.filter
              (fun a => !window.holds cfg anomalies edges now a) ∧
            (window.correlate cfg anomalies edges now).2.lastHeldCount =
              anomalies.countP (window.holds cfg anomalies edges now)) :=
  ⟨correlate_eq_self_iff, pairAbsorbed_of_hasPair, fun _ _ _ =>
    ⟨DependencyCorrelationWindow.correlate_of_hasPair,
      DependencyCorrelationWindow.correlate_of_not_hasPair⟩⟩

open DependencyCorrelationWindow in
theorem correlation_conserves_shop :
    PairAbsorbed shopEdges 500
        [saturatedApache "web2", blockedBackend "db", saturatedApache "web"]
        (correlateDependencyAnomalies
          [saturatedApache "web2", blockedBackend "db", saturatedApache "web"]
          shopEdges 500) ∧
      (initial.correlate .plain [saturatedApache "web"] shopEdges
        0).2.lastHeldCount =
          [saturatedApache "web"].countP
            (initial.holds .plain [saturatedApache "web"] shopEdges 0) := by
  constructor
  · apply (correlation_conserves _ shopEdges 500).2.1
    exact ⟨saturatedApache "web", by simp, blockedBackend "db", by simp,
      by decide +kernel⟩
  · apply (((correlation_conserves _ shopEdges 500).2.2 .plain initial 0).2
      _).2
    rintro ⟨apache, -, postgres, hpostgres, hpair⟩
    obtain rfl := List.mem_singleton.mp hpostgres
    simp [pairable, isPostgresDependencyCandidate, saturatedApache] at hpair

end UyuniAgent
