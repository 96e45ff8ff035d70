import UyuniAgent.Agent.System
import UyuniAgent.Investigation.Evidence
import UyuniAgent.Resilience.Circuit

/-!
# Investigations behind the circuit of the LLM

`_process_firing_investigation` runs `investigate` as one operation of the
dependency `llm`.  A telemetry anomaly, and an anomaly whose evidence proves a
cause, are analysed inside that operation without any call of the LLM, so they
too are lost while the circuit is open.
-/

namespace UyuniAgent.Investigation

open Agent Incident Resilience

/-! ## `investigate` -/

/-- The analyzers that `investigate` is built from: the deterministic ones,
`ground_analysis` for each of its two option sets, and the setting that turns
the deterministic ones off. -/
structure Analyzers where
  tryDeterministicAnalysis : Anomaly → EvidenceLedger →
    Option RootCauseAnalysis
  groundAnalysis : RootCauseAnalysis → EvidenceLedger → RootCauseAnalysis
  groundTelemetryAnalysis : RootCauseAnalysis → EvidenceLedger →
    RootCauseAnalysis
  deterministicAnalysisEnabled : Bool

/-- The prompts, the agent and the structuring pass, with the behaviour of the
provider: what they make of an anomaly and its ledger. -/
abbrev LlmProvider := Anomaly → EvidenceLedger → InvestigationResult

/-- How `collect_required_evidence` ends. -/
inductive Collection
  | collected (ledger : EvidenceLedger)
  | timedOut
  | failed

def investigate (analyzers : Analyzers) (provider : LlmProvider)
    (anomaly : Anomaly) : Collection → InvestigationResult
  | .timedOut => .timedOut
  | .failed => .failed
  | .collected ledger =>
      if anomaly.metricName = "telemetry_unavailable" then
        .analysis (analyzers.groundTelemetryAnalysis
          (telemetryUnavailableAnalysis anomaly ledger) ledger)
      else if analyzers.deterministicAnalysisEnabled then
        match analyzers.tryDeterministicAnalysis anomaly ledger with
        | some analysis =>
            .analysis (analyzers.groundAnalysis analysis ledger)
        | none => provider anomaly ledger
      else provider anomaly ledger

/-- The anomaly is analysed without the LLM. -/
def Analyzers.Deterministic (analyzers : Analyzers) (anomaly : Anomaly)
    (ledger : EvidenceLedger) : Prop :=
  anomaly.metricName = "telemetry_unavailable" ∨
    (analyzers.deterministicAnalysisEnabled = true ∧
      (analyzers.tryDeterministicAnalysis anomaly ledger).isSome)

theorem investigate_deterministic {analyzers : Analyzers} {anomaly : Anomaly}
    {ledger : EvidenceLedger}
    (h : analyzers.Deterministic anomaly ledger) :
    ∃ analysis, ∀ provider,
      investigate analyzers provider anomaly (.collected ledger) =
        .analysis analysis := by
  by_cases htelemetry : anomaly.metricName = "telemetry_unavailable"
  · refine ⟨analyzers.groundTelemetryAnalysis
      (telemetryUnavailableAnalysis anomaly ledger) ledger, ?_⟩
    intro provider
    rw [investigate, if_pos htelemetry]
  · obtain ⟨henabled, hsome⟩ := h.resolve_left htelemetry
    obtain ⟨analysis, hanalysis⟩ := Option.isSome_iff_exists.mp hsome
    refine ⟨analyzers.groundAnalysis analysis ledger, ?_⟩
    intro provider
    rw [investigate, if_neg htelemetry, if_pos henabled, hanalysis]

/-! ## `_process_firing_investigation` -/

/-- What an investigation meets: the store at each of its three checks, the
clock, the evidence Salt yields, and the answers of Alertmanager. -/
structure Surroundings (F : Type) where
  maxJobAgeSeconds : ℚ
  dryRun : Bool
  startedAt : ℚ
  resolvedAt : ℚ
  tableAtStart : Table F
  tableAfterAnalysis : Table F
  tableAfterTransition : Table F
  collection : Collection
  accepts : AlertPayload F → Bool

/-- The circuit of the dependency `llm` when it is asked, and the behaviour of
the provider behind it. -/
structure LlmState where
  settings : BreakerSettings
  breaker : CircuitBreaker
  now : ℚ
  provider : LlmProvider

/-- `breaker.acquire()` admits the operation. -/
def LlmState.admits (llm : LlmState) : Bool :=
  (llm.breaker.acquire llm.settings llm.now).1.state ≠ .opened

/-- `execute("llm", operation)`: an open circuit raises
`DependencyUnavailable`, which is handled like any other exception. -/
def executeInvestigation (analyzers : Analyzers) (llm : LlmState)
    (anomaly : Anomaly) (collection : Collection) : InvestigationResult :=
  if llm.admits then investigate analyzers llm.provider anomaly collection
  else .failed

/-- What an investigation returns, the alerts it sent, and the alert it
acknowledged in the store. -/
structure FiringResult (F : Type) where
  outcome : JobOutcome
  sent : List (AlertPayload F)
  emitted : Option (AlertPayload F)
  deriving DecidableEq

variable {F : Type} [DecidableEq F]

/-- From the built payload on. -/
def deliver (env : Surroundings F) (payload : AlertPayload F)
    (sent : List (AlertPayload F)) : FiringResult F :=
  if env.dryRun then ⟨.dryRun, sent, some payload⟩
  else if env.accepts payload then
    ⟨.delivered, sent ++ [payload], some payload⟩
  else ⟨.deliveryFailed, sent ++ [payload], none⟩

/-- From the analysis on: the label transition and the delivery. -/
def deliverAnalysis (env : Surroundings F) (firing : FiringIncident F)
    (analysis : RootCauseAnalysis) : FiringResult F :=
  if isActionable env.tableAfterAnalysis firing.fingerprint
      firing.startsAt then
    let payload := buildAlertPayload analysis firing.anomaly
      firing.fingerprint firing.startsAt
    match firing.previousPayload with
    | none => deliver env payload []
    | some previous =>
        if previous.labels ≠ payload.labels ∧ env.dryRun = false then
          let resolution :=
            buildResolvedPayload previous (rfc3339 env.resolvedAt)
          if env.accepts resolution then
            if isActionable env.tableAfterTransition firing.fingerprint
                firing.startsAt then
              deliver env payload [resolution]
            else ⟨.recovered, [resolution], none⟩
          else ⟨.transitionFailed, [resolution], none⟩
        else deliver env payload []
  else ⟨.recovered, [], none⟩

/-- The checks before the investigation. -/
def proceeds (env : Surroundings F) (work : InvestigationWork F) : Bool :=
  !decide (env.maxJobAgeSeconds < env.startedAt - work.detectedAt) &&
    isActionable env.tableAtStart work.firing.fingerprint work.firing.startsAt

def processFiringInvestigation (analyzers : Analyzers) (env : Surroundings F)
    (llm : LlmState) (work : InvestigationWork F) : FiringResult F :=
  if env.maxJobAgeSeconds < env.startedAt - work.detectedAt then
    ⟨.stale, [], none⟩
  else if isActionable env.tableAtStart work.firing.fingerprint
      work.firing.startsAt then
    match executeInvestigation analyzers llm work.firing.anomaly
        env.collection with
    | .timedOut => ⟨.llmTimeout, [], none⟩
    | .failed => ⟨.investigationFailed, [], none⟩
    | .analysis analysis => deliverAnalysis env work.firing analysis
  else ⟨.obsolete, [], none⟩

/-! ## The jobs of the queue workers -/

/-- The phases of a job after its investigation, one after another. -/
def concludeResult (env : Surroundings F) (job : Job F)
    (result : InvestigationResult) : FiringResult F :=
  match job.conclude env.tableAfterAnalysis result env.resolvedAt with
  | .finished outcome => ⟨outcome, [], none⟩
  | .firingSent payload => deliver env payload []
  | .transitionSent resolution payload =>
      match job.afterTransition env.tableAfterTransition payload
          (env.accepts resolution) with
      | .firingSent payload => deliver env payload [resolution]
      | .finished outcome => ⟨outcome, [resolution], none⟩
      | _ => ⟨.transitionFailed, [resolution], none⟩
  | _ => ⟨.recovered, [], none⟩

/-- The phases of a job against the same surroundings. -/
def jobResult (cfg : AgentSettings F) (env : Surroundings F) (job : Job F)
    (result : InvestigationResult) : FiringResult F :=
  match job.begin cfg env.tableAtStart env.startedAt with
  | .finished outcome => ⟨outcome, [], none⟩
  | _ => concludeResult env job result

theorem deliverAnalysis_eq_concludeResult {env : Surroundings F} {job : Job F}
    (hdry : env.dryRun = false) (analysis : RootCauseAnalysis) :
    deliverAnalysis env job.work.firing analysis =
      concludeResult env job (.analysis analysis) := by
  by_cases hopen : isActionable env.tableAfterAnalysis
      job.work.firing.fingerprint job.work.firing.startsAt = true
  · rcases hprevious : job.work.firing.previousPayload with _ | previous
    · simp [deliverAnalysis, concludeResult, Job.conclude, Job.actionable,
        hopen, hprevious, Job.payload]
    · by_cases hlabels : previous.labels = (job.payload analysis).labels
      · have hbuilt := hlabels
        rw [Job.payload] at hbuilt
        simp [deliverAnalysis, concludeResult, Job.conclude, Job.actionable,
          hopen, hprevious, hbuilt, Job.payload]
      · have hbuilt := hlabels
        rw [Job.payload] at hbuilt
        simp only [deliverAnalysis, concludeResult, Job.conclude,
          Job.actionable, hopen, hprevious, Job.payload, hbuilt, hdry,
          Job.afterTransition, if_true, if_false, ne_eq, not_false_eq_true,
          and_self]
        split
        · split
          next hstill => simp [hstill]
          next hgone => simp [hgone]
        · rfl
  · simp [deliverAnalysis, concludeResult, Job.conclude, Job.actionable, hopen]

/-- The job of a worker takes the course of the function it runs. -/
theorem processFiringInvestigation_eq_jobResult {analyzers : Analyzers}
    {cfg : AgentSettings F} {env : Surroundings F} {llm : LlmState}
    {job : Job F} (hage : cfg.maxJobAgeSeconds = env.maxJobAgeSeconds)
    (hdry : env.dryRun = false) :
    processFiringInvestigation analyzers env llm job.work =
      jobResult cfg env job (executeInvestigation analyzers llm
        job.work.firing.anomaly env.collection) := by
  by_cases hstale : env.maxJobAgeSeconds < env.startedAt - job.work.detectedAt
  · simp [processFiringInvestigation, jobResult, Job.begin, hage, hstale]
  · by_cases hopen : isActionable env.tableAtStart job.work.firing.fingerprint
        job.work.firing.startsAt = true
    · have hbegin : job.begin cfg env.tableAtStart env.startedAt =
          .investigating := by
        simp [Job.begin, Job.actionable, hage, hstale, hopen]
      rw [processFiringInvestigation, if_neg hstale, if_pos hopen, jobResult,
        hbegin]
      rcases executeInvestigation analyzers llm job.work.firing.anomaly
        env.collection with analysis | _ | _
      · exact deliverAnalysis_eq_concludeResult hdry analysis
      · rfl
      · rfl
    · simp [processFiringInvestigation, jobResult, Job.begin, Job.actionable,
        hage, hstale, hopen]

/-! ## Independence of the LLM -/

omit [DecidableEq F] in
theorem deliver_ne_investigationFailed (env : Surroundings F)
    (payload : AlertPayload F) (sent : List (AlertPayload F)) :
    (deliver env payload sent).outcome ≠ .investigationFailed := by
  rw [deliver]
  split
  · simp
  · split <;> simp

theorem deliverAnalysis_ne_investigationFailed (env : Surroundings F)
    (firing : FiringIncident F) (analysis : RootCauseAnalysis) :
    (deliverAnalysis env firing analysis).outcome ≠ .investigationFailed := by
  have hdeliver := deliver_ne_investigationFailed env
  rw [deliverAnalysis]
  split
  · dsimp only
    split
    · exact hdeliver _ _
    · split
      · split
        · split
          · exact hdeliver _ _
          · simp
        · simp
      · exact hdeliver _ _
  · simp

section Deterministic

variable {analyzers : Analyzers} {env : Surroundings F}
  {work : InvestigationWork F}

theorem processFiringInvestigation_of_not_proceeds
    (h : proceeds env work = false) (llm llm' : LlmState) :
    processFiringInvestigation analyzers env llm work =
      processFiringInvestigation analyzers env llm' work := by
  simp only [proceeds, Bool.and_eq_false_iff, Bool.not_eq_false',
    decide_eq_true_eq] at h
  rcases h with hstale | hobsolete
  · simp [processFiringInvestigation, hstale]
  · simp [processFiringInvestigation, hobsolete]

/-- An investigation that proceeds is decided by whether the circuit admits
it. -/
theorem processFiringInvestigation_of_proceeds
    (h : proceeds env work = true) (llm : LlmState) :
    processFiringInvestigation analyzers env llm work =
      if llm.admits then
        match investigate analyzers llm.provider work.firing.anomaly
            env.collection with
        | .timedOut => ⟨.llmTimeout, [], none⟩
        | .failed => ⟨.investigationFailed, [], none⟩
        | .analysis analysis => deliverAnalysis env work.firing analysis
      else ⟨.investigationFailed, [], none⟩ := by
  simp only [proceeds, Bool.and_eq_true, Bool.not_eq_true',
    decide_eq_false_iff_not] at h
  rw [processFiringInvestigation, if_neg h.1, if_pos h.2,
    executeInvestigation]
  rcases llm.admits with _ | _
  · rfl
  · rfl

end Deterministic

/-- An investigation that needs no LLM has the same outcome and sends the same
alerts in two states of the LLM exactly when it stops before the analysis, or
the circuit admits it in both states or in neither. -/
theorem deterministic_investigation_same_iff
    (analyzers : Analyzers) (env : Surroundings F)
    (work : InvestigationWork F) (ledger : EvidenceLedger)
    (hcollected : env.collection = .collected ledger)
    (hdeterministic : analyzers.Deterministic work.firing.anomaly ledger)
    (llm llm' : LlmState) :
    ((processFiringInvestigation analyzers env llm work).outcome =
        (processFiringInvestigation analyzers env llm' work).outcome ∧
      (processFiringInvestigation analyzers env llm work).sent =
        (processFiringInvestigation analyzers env llm' work).sent) ↔
      proceeds env work = false ∨ llm.admits = llm'.admits := by
  rcases hproceeds : proceeds env work with _ | _
  · rw [processFiringInvestigation_of_not_proceeds hproceeds llm llm']
    simp
  · obtain ⟨analysis, hanalysis⟩ := investigate_deterministic hdeterministic
    have hrun : ∀ llm : LlmState,
        processFiringInvestigation analyzers env llm work =
          if llm.admits then deliverAnalysis env work.firing analysis
          else ⟨.investigationFailed, [], none⟩ := by
      intro llm
      rw [processFiringInvestigation_of_proceeds hproceeds, hcollected,
        hanalysis]
    have hdiffer := deliverAnalysis_ne_investigationFailed env work.firing
      analysis
    rw [hrun llm, hrun llm']
    rcases llm.admits with _ | _
    · rcases llm'.admits with _ | _
      · simp
      · simp [Ne.symm hdiffer]
    · rcases llm'.admits with _ | _
      · simp [hdiffer]
      · simp

/-! ## Sample values -/

/-- Analyzers that prove nothing and keep every analysis. -/
def Analyzers.plain : Analyzers where
  tryDeterministicAnalysis _ _ := none
  groundAnalysis analysis _ := analysis
  groundTelemetryAnalysis analysis _ := analysis
  deterministicAnalysisEnabled := true

/-- The circuit of a provider that answers nothing. -/
def silentLlm (breaker : CircuitBreaker) (now : ℚ) : LlmState where
  settings := ⟨3, 60, by norm_num, by norm_num⟩
  breaker := breaker
  now := now
  provider _ _ := .failed

/-- Salt does not answer for `web`. -/
def saltUnavailable : Anomaly where
  minionId := "web"
  metricName := "telemetry_unavailable"
  currentValue := 1
  threshold := 1
  severity := .warning
  description := "Salt inspection telemetry for web is unavailable"
  serviceName := none
  resource := some "telemetry:salt_inspection:web"
  context := .telemetry (some "salt") "salt_inspection" "web"
    [⟨"systemd_service_discovery", .error, some "no response"⟩]

def saltWork : InvestigationWork IdentityKey where
  firing := ⟨saltUnavailable, saltUnavailable.identityKey, rfc3339 0, none⟩
  detectedAt := 0

def saltSurroundings : Surroundings IdentityKey where
  maxJobAgeSeconds := 900
  dryRun := false
  startedAt := 10
  resolvedAt := 10
  tableAtStart :=
    (Incident.reconcile .plain OrderedDict.empty "web" [saltUnavailable] 0).2
  tableAfterAnalysis :=
    (Incident.reconcile .plain OrderedDict.empty "web" [saltUnavailable] 0).2
  tableAfterTransition :=
    (Incident.reconcile .plain OrderedDict.empty "web" [saltUnavailable] 0).2
  collection := .collected (ledgerForAnomaly saltUnavailable 10)
  accepts _ := true

/-- The same alert is sent whether the circuit is closed or half-open. -/
theorem deterministic_investigation_same_iff_telemetry :
    ((processFiringInvestigation .plain saltSurroundings
        (silentLlm .initial 10) saltWork).outcome =
        (processFiringInvestigation .plain saltSurroundings
          (silentLlm ⟨.halfOpen, 3, some 0, false⟩ 70) saltWork).outcome ∧
      (processFiringInvestigation .plain saltSurroundings
        (silentLlm .initial 10) saltWork).sent =
        (processFiringInvestigation .plain saltSurroundings
          (silentLlm ⟨.halfOpen, 3, some 0, false⟩ 70) saltWork).sent) ↔
      proceeds saltSurroundings saltWork = false ∨
        (silentLlm .initial 10).admits =
          (silentLlm ⟨.halfOpen, 3, some 0, false⟩ 70).admits :=
  deterministic_investigation_same_iff .plain saltSurroundings saltWork
    (ledgerForAnomaly saltUnavailable 10) rfl (Or.inl rfl) _ _

/-- The alert about missing Salt telemetry is sent while the circuit is
closed, and is not sent while it is open. -/
theorem open_circuit_drops_deterministic_investigation :
    ¬∀ (analyzers : Analyzers) (env : Surroundings IdentityKey)
      (work : InvestigationWork IdentityKey) (ledger : EvidenceLedger),
      env.collection = .collected ledger →
      analyzers.Deterministic work.firing.anomaly ledger →
      ∀ llm llm' : LlmState,
        (processFiringInvestigation analyzers env llm work).outcome =
            (processFiringInvestigation analyzers env llm' work).outcome ∧
          (processFiringInvestigation analyzers env llm work).sent =
            (processFiringInvestigation analyzers env llm' work).sent := by
  intro hall
  obtain ⟨houtcome, -⟩ := hall .plain saltSurroundings saltWork
    (ledgerForAnomaly saltUnavailable 10) rfl (Or.inl rfl)
    (silentLlm .initial 10) (silentLlm ⟨.opened, 3, some 0, false⟩ 10)
  exact absurd houtcome (by decide +kernel)

end UyuniAgent.Investigation
