import UyuniAgent.Detector.Checks
import UyuniAgent.Resilience.Recovery
import UyuniAgent.Salt.Client

/-!
# Detection of one minion

`detect_minion`: the metrics of a minion, the two inspections over Salt, and
the snapshot that is made of them.  Every exception costs the whole snapshot,
so a finding of Prometheus survives exactly when neither inspection raises.
-/

namespace UyuniAgent.Agent

open Raising Salt

/-! ## `detect_minion` -/

/-- What the two inspections of a minion meet. -/
structure SaltInspections where
  available : Bool
  allowedMinions : List String
  services : Operation
  locks : Operation

/-- What `detect_minion` reads.  Without answers of Prometheus the query of the
metrics has raised. -/
structure DetectionInputs where
  minion : Minion
  prometheus : Option PrometheusAnswers
  salt : SaltInspections

structure MinionSnapshot where
  minion : Minion
  metrics : Metrics
  anomalies : List Anomaly
  complete : Bool
  deriving DecidableEq

/-- `check_failed_services`; an exception leaves nothing. -/
def inspectServices (py : Interpreter) (config : DetectionConfig)
    (minion : Minion) (salt : SaltInspections) : Option (List Anomaly) :=
  if config.serviceMonitoringEnabled then
    match runCommand py salt.allowedMinions minion.id salt.services with
    | .ok output => some (checkFailedServices config minion.id (.str output))
    | .error _ => none
  else some []

/-- `check_postgres_blocked_transactions`. -/
def inspectLocks (py : Interpreter) (config : DetectionConfig)
    (minion : Minion) (salt : SaltInspections) : Option (List Anomaly) :=
  if config.postgresLockMonitoringEnabled then
    match runCommand py salt.allowedMinions minion.id salt.locks with
    | .ok output =>
        match checkPostgresBlockedTransactions py config minion.id
            (.str output) with
        | .ok anomalies => some anomalies
        | .error _ => none
    | .error _ => none
  else some []

def serviceAnomalies (py : Interpreter) (config : DetectionConfig)
    (minion : Minion) (salt : SaltInspections) : Option (List Anomaly) :=
  if salt.available then inspectServices py config minion salt
  else
    some [saltTelemetryAnomaly minion.id "salt_api_login"
      "Salt API authentication or connectivity is unavailable"]

def postgresLockAnomalies (py : Interpreter) (config : DetectionConfig)
    (minion : Minion) (salt : SaltInspections) : Option (List Anomaly) :=
  if (present minion.postgresInstance).isSome && salt.available then
    inspectLocks py config minion salt
  else some []

/-- `context["related_unhealthy_services"] = services`, for a disk anomaly. -/
def relateServices (services : List String) (anomaly : Anomaly) : Anomaly :=
  if anomaly.metricName = "disk" then
    match anomaly.context with
    | .filesystem filesystem _ =>
        { anomaly with context := .filesystem filesystem services }
    | _ => anomaly
  else anomaly

def restartingServices (serviceAnomalies : List Anomaly) : List String :=
  serviceAnomalies.filterMap fun anomaly => present anomaly.serviceName

def isSaltTelemetry (anomaly : Anomaly) : Bool :=
  anomaly.metricName = "telemetry_unavailable" &&
    anomaly.context.source = some "salt"

/-- The snapshot of a minion whose checks have all returned. -/
def snapshotOf (config : DetectionConfig) (minion : Minion) (metrics : Metrics)
    (saltAvailable : Bool) (services locks : List Anomaly) : MinionSnapshot :=
  let metricAnomalies := checkAllMetrics config minion metrics
  let detected := metricAnomalies ++ services ++ locks
  { minion := minion
    metrics := metrics
    anomalies :=
      metricAnomalies.map (relateServices (restartingServices services)) ++
        services ++ locks
    complete := saltAvailable && !detected.any isSaltTelemetry &&
      prometheusSnapshotAvailable metrics }

/-- `detect_minion` from its metrics on. -/
def detectWithMetrics (py : Interpreter) (config : DetectionConfig)
    (minion : Minion) (metrics : Metrics) (salt : SaltInspections) :
    Option MinionSnapshot := do
  let services ← serviceAnomalies py config minion salt
  let locks ← postgresLockAnomalies py config minion salt
  return snapshotOf config minion metrics salt.available services locks

def detectMinion (py : Interpreter) (config : DetectionConfig)
    (inputs : DetectionInputs) : Option MinionSnapshot := do
  let answers ← inputs.prometheus
  detectWithMetrics py config inputs.minion
    (getAllMetrics inputs.minion answers) inputs.salt

/-! ## When the inspections return -/

/-- The output of the lock inspection makes its check raise. -/
def LockCheckRaises (py : Interpreter) (config : DetectionConfig)
    (output : PyValue) : Prop :=
  saltInspectionFailure output = none ∧
    (LockOutputRaises py output ∨
      ¬∃ warning critical,
        config.thresholds.postgresBlockedTransactionSeconds.warning.getD
          (.finite 5) = .finite warning ∧
        config.thresholds.postgresBlockedTransactionSeconds.critical.getD
          (.finite 30) = .finite critical ∧
        ∀ pairs, parsePostgresLockPairs py output = .ok pairs →
          ∀ pair ∈ pairs,
            max 0 (PyValue.truncate warning) ≤ pair.blockedSeconds →
              pair.blockedSeconds < Binary64.overflowBound)

variable {py : Interpreter} {config : DetectionConfig}

theorem checkPostgresBlockedTransactions_returns_iff {minionId : String}
    {output : PyValue} :
    Returns (checkPostgresBlockedTransactions py config minionId output) ↔
      ¬LockCheckRaises py config output := by
  rcases hfailure : saltInspectionFailure output with _ | failure
  · have hparse : Returns (parsePostgresLockPairs py output) ↔
        ¬LockOutputRaises py output := parsePostgresLockPairs_returns_iff
    simp only [checkPostgresBlockedTransactions, hfailure, returns_bind_iff,
      postgresBlockingAnomalies_returns_iff, LockCheckRaises, true_and]
    rw [not_or, not_not, ← hparse]
    constructor
    · rintro ⟨pairs, hpairs, warning, critical, hwarning, hcritical, hall⟩
      refine ⟨⟨pairs, hpairs⟩, warning, critical, hwarning, hcritical, ?_⟩
      intro pairs' hpairs'
      obtain rfl := Except.ok.inj (hpairs.symm.trans hpairs')
      exact hall
    · rintro ⟨⟨pairs, hpairs⟩, warning, critical, hwarning, hcritical, hall⟩
      exact ⟨pairs, hpairs, warning, critical, hwarning, hcritical,
        hall pairs hpairs⟩
  · refine iff_of_true ?_ ?_
    · simp only [checkPostgresBlockedTransactions, hfailure]
      exact returns_ok _
    · rintro ⟨hnone, -⟩
      rw [hfailure] at hnone
      cases hnone

/-- The inspections that `detect_minion` makes return. -/
structure InspectionsReturn (py : Interpreter) (config : DetectionConfig)
    (minion : Minion) (salt : SaltInspections) : Prop where
  services : salt.available = true → config.serviceMonitoringEnabled = true →
    ¬salt.services.Escapes py salt.allowedMinions minion.id
  locks : salt.available = true → config.postgresLockMonitoringEnabled = true →
    (present minion.postgresInstance).isSome = true →
    ¬salt.locks.Escapes py salt.allowedMinions minion.id ∧
      ∀ output, runCommand py salt.allowedMinions minion.id salt.locks =
        .ok output → ¬LockCheckRaises py config (.str output)

variable {minion : Minion} {salt : SaltInspections}

theorem serviceAnomalies_isSome_iff :
    (serviceAnomalies py config minion salt).isSome = true ↔
      (salt.available = true → config.serviceMonitoringEnabled = true →
        ¬salt.services.Escapes py salt.allowedMinions minion.id) := by
  rw [← runCommand_returns_iff]
  rcases havailable : salt.available with _ | _
  · simp [serviceAnomalies, havailable]
  · rcases henabled : config.serviceMonitoringEnabled with _ | _
    · simp [serviceAnomalies, inspectServices, havailable, henabled]
    · rcases hrun : runCommand py salt.allowedMinions minion.id salt.services
        with e | output
      · simp [serviceAnomalies, inspectServices, havailable, henabled, hrun,
          Returns]
      · simp [serviceAnomalies, inspectServices, havailable, henabled, hrun,
          Returns]

theorem inspectLocks_isSome_iff
    (henabled : config.postgresLockMonitoringEnabled = true) :
    (inspectLocks py config minion salt).isSome = true ↔
      ¬salt.locks.Escapes py salt.allowedMinions minion.id ∧
        ∀ output, runCommand py salt.allowedMinions minion.id salt.locks =
          .ok output → ¬LockCheckRaises py config (.str output) := by
  rw [← runCommand_returns_iff]
  rcases hrun : runCommand py salt.allowedMinions minion.id salt.locks with
    e | output
  · simp [inspectLocks, henabled, hrun, Returns]
  · have hcheck : Returns (checkPostgresBlockedTransactions py config minion.id
        (.str output)) ↔ ¬LockCheckRaises py config (.str output) :=
      checkPostgresBlockedTransactions_returns_iff
    simp only [inspectLocks, henabled, hrun, if_true, Except.ok.injEq,
      forall_eq', returns_ok, true_and]
    rw [← hcheck]
    rcases hlocks : checkPostgresBlockedTransactions py config minion.id
      (.str output) with e | anomalies
    · simp [Returns]
    · simp [Returns]

theorem postgresLockAnomalies_isSome_iff :
    (postgresLockAnomalies py config minion salt).isSome = true ↔
      (salt.available = true → config.postgresLockMonitoringEnabled = true →
        (present minion.postgresInstance).isSome = true →
        ¬salt.locks.Escapes py salt.allowedMinions minion.id ∧
          ∀ output, runCommand py salt.allowedMinions minion.id salt.locks =
            .ok output → ¬LockCheckRaises py config (.str output)) := by
  rcases havailable : salt.available with _ | _
  · simp [postgresLockAnomalies, havailable]
  · rcases hpresent : (present minion.postgresInstance).isSome with _ | _
    · simp [postgresLockAnomalies, hpresent]
    · rcases henabled : config.postgresLockMonitoringEnabled with _ | _
      · simp [postgresLockAnomalies, inspectLocks, havailable, hpresent,
          henabled]
      · simp only [postgresLockAnomalies, havailable, hpresent, if_true,
          Bool.and_self, forall_const]
        exact inspectLocks_isSome_iff henabled

/-! ## Findings of Prometheus -/

/-- Detection returns a snapshot with every finding of `check_all_metrics`, up
to the services that the disk findings are related to. -/
def KeepsMetricFindings (py : Interpreter) (config : DetectionConfig)
    (minion : Minion) (answers : PrometheusAnswers) (salt : SaltInspections) :
    Prop :=
  ∃ snapshot services,
    detectMinion py config ⟨minion, some answers, salt⟩ = some snapshot ∧
    ∀ anomaly ∈ checkAllMetrics config minion (getAllMetrics minion answers),
      relateServices services anomaly ∈ snapshot.anomalies

/-- The findings of Prometheus survive exactly when the inspections that are
made return. -/
theorem keeps_metric_findings_iff (py : Interpreter)
    (config : DetectionConfig) (minion : Minion) (answers : PrometheusAnswers)
    (salt : SaltInspections) :
    KeepsMetricFindings py config minion answers salt ↔
      InspectionsReturn py config minion salt := by
  constructor
  · rintro ⟨snapshot, names, hsnapshot, -⟩
    simp only [detectMinion, detectWithMetrics, Option.bind_eq_bind,
      Option.bind_some, Option.bind_eq_some_iff] at hsnapshot
    obtain ⟨services, hservices, locks, hlocks, -⟩ := hsnapshot
    exact ⟨serviceAnomalies_isSome_iff.mp (by rw [hservices]; rfl),
      postgresLockAnomalies_isSome_iff.mp (by rw [hlocks]; rfl)⟩
  · intro hreturn
    obtain ⟨services, hservices⟩ := Option.isSome_iff_exists.mp
      (serviceAnomalies_isSome_iff.mpr hreturn.services)
    obtain ⟨locks, hlocks⟩ := Option.isSome_iff_exists.mp
      (postgresLockAnomalies_isSome_iff.mpr hreturn.locks)
    refine ⟨snapshotOf config minion (getAllMetrics minion answers)
      salt.available services locks, restartingServices services, ?_, ?_⟩
    · simp [detectMinion, detectWithMetrics, hservices, hlocks]
    · intro anomaly hanomaly
      apply List.mem_append_left
      apply List.mem_append_left
      exact List.mem_map_of_mem hanomaly

/-! ## A sample minion -/

/-- A host whose exporter answers, with the given CPU usage. -/
def hostAnswers (cpu : ℚ) : PrometheusAnswers :=
  let up : QueryOutcome ℚ := .value 1 none
  let absent : QueryOutcome ℚ :=
    .failed .missing none (some "query returned no series")
  { nodeUp := up
    filesystems := .value
      [⟨some "/", some "/dev/sda1", some "xfs", some (.finite 40)⟩] none
    memory :=
      { memoryAvailableBytes := .value 600 none
        memoryTotalBytes := .value 1000 none
        swapTotalBytes := absent
        swapFreeBytes := absent
        swapInPagesPerSecond := absent
        swapOutPagesPerSecond := absent
        systemCpuPercent := absent
        iowaitCpuPercent := absent }
    cpu := .value cpu none
    apacheUp := absent
    apacheBusyWorkers := absent
    apacheIdleWorkers := absent
    apacheRequestsPerSec := absent
    postgresUp := absent
    postgresConnections := absent
    postgresMaxConnections := absent
    postgresDeadlocksPerMin := absent }

def sampleHost : Minion := ⟨"web", "web:9100", none, none⟩

/-- A logged-in session that gets one answer. -/
def answeredExchange (answer : HttpReply) : Exchange :=
  ⟨true, true, .failed "", answer, .failed "", .failed ""⟩

def closedCircuit : Circuit where
  settings := Resilience.testSettings
  breaker := .initial
  now := 0

/-- The service inspection runs into the deadline of its operation. -/
def expiredInspections : SaltInspections where
  available := true
  allowedMinions := ["web"]
  services := ⟨answeredExchange (.failed ""), some closedCircuit, true⟩
  locks := ⟨answeredExchange (.failed ""), some closedCircuit, false⟩

/-- The CPU of the host is saturated, and a Salt operation that expires takes
the finding along. -/
theorem expired_inspection_hides_cpu :
    ¬∀ (py : Interpreter) (config : DetectionConfig) (minion : Minion)
      (answers : PrometheusAnswers) (salt : SaltInspections),
      KeepsMetricFindings py config minion answers salt := by
  intro hall
  obtain ⟨snapshot, services, hsnapshot, -⟩ := hall ⟨1000, fun _ => ""⟩ .plain
    sampleHost (hostAnswers 99) expiredInspections
  have hnone : detectMinion ⟨1000, fun _ => ""⟩ .plain
      ⟨sampleHost, some (hostAnswers 99), expiredInspections⟩ = none := by
    decide +kernel
  rw [hnone] at hsnapshot
  cases hsnapshot

/-- The finding that is lost is there. -/
example : (checkAllMetrics .plain sampleHost
    (getAllMetrics sampleHost (hostAnswers 99))).map (·.metricName) =
      ["cpu"] := by decide +kernel

end UyuniAgent.Agent
