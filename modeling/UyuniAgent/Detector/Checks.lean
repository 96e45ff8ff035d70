import UyuniAgent.Detector.PostgresInspection
import UyuniAgent.Detector.Prometheus
import Mathlib.Data.List.Dedup

/-!
# The checks

`anomaly_detector.py` up to correlation: thresholds, the checks of the
Prometheus metrics, and the two inspections that run over Salt.  The output of
a Salt command is an argument here.
-/

namespace UyuniAgent

open Raising

/-! ## Thresholds -/

/-- A configured threshold; the configuration may switch one off with
infinity. -/
inductive Limit
  | finite (value : ℚ)
  | infinite
  deriving DecidableEq

namespace Limit

/-- The limit, when the value has reached it. -/
def reached? (value : ℚ) : Limit → Option ℚ
  | .finite limit => if limit ≤ value then some limit else none
  | .infinite => none

/-- `int(limit)`. -/
def toInt : Limit → Except PyException ℤ
  | .finite limit => .ok (PyValue.truncate limit)
  | .infinite => .error .overflowError

end Limit

structure ThresholdBand where
  warning : Option Limit
  critical : Option Limit
  deriving DecidableEq

def ThresholdBand.of (warning critical : ℚ) : ThresholdBand :=
  ⟨some (.finite warning), some (.finite critical)⟩

/-- The order of limits. -/
def Limit.AtMost : Limit → Limit → Prop
  | .finite lower, .finite upper => lower ≤ upper
  | .infinite, .finite _ => False
  | _, .infinite => True

instance (lower upper : Limit) : Decidable (lower.AtMost upper) :=
  match lower, upper with
  | .finite lower, .finite upper => inferInstanceAs (Decidable (lower ≤ upper))
  | .infinite, .finite _ => inferInstanceAs (Decidable False)
  | .finite _, .infinite => inferInstanceAs (Decidable True)
  | .infinite, .infinite => inferInstanceAs (Decidable True)

/-- What the schema accepts as a `ThresholdBand`. -/
def ThresholdBand.Accepted (band : ThresholdBand) : Prop :=
  ∃ warning critical, band = ⟨some warning, some critical⟩ ∧
    (Limit.finite 0).AtMost warning ∧ (Limit.finite 0).AtMost critical ∧
    warning.AtMost critical

/-- What the schema accepts as a `PercentThresholdBand`. -/
def ThresholdBand.PercentAccepted (band : ThresholdBand) : Prop :=
  band.Accepted ∧ (band.warning.getD .infinite).AtMost (.finite 100) ∧
    (band.critical.getD .infinite).AtMost (.finite 100)

structure Thresholds where
  memory : ThresholdBand
  swapActivityPagesPerSecond : ThresholdBand
  swapUsagePercent : ThresholdBand
  cpu : ThresholdBand
  disk : ThresholdBand
  apacheBusyWorkersPercent : ThresholdBand
  apacheRequestsPerSec : ThresholdBand
  postgresActiveConnectionsPercent : ThresholdBand
  postgresDeadlocksPerMin : ThresholdBand
  postgresBlockedTransactionSeconds : ThresholdBand
  deriving DecidableEq

/-- What the schema accepts as `ThresholdSettings`. -/
structure Thresholds.Accepted (thresholds : Thresholds) : Prop where
  memory : thresholds.memory.PercentAccepted
  swapActivityPagesPerSecond : thresholds.swapActivityPagesPerSecond.Accepted
  swapUsagePercent : thresholds.swapUsagePercent.PercentAccepted
  cpu : thresholds.cpu.PercentAccepted
  disk : thresholds.disk.PercentAccepted
  apacheBusyWorkersPercent :
    thresholds.apacheBusyWorkersPercent.PercentAccepted
  apacheRequestsPerSec : thresholds.apacheRequestsPerSec.Accepted
  postgresActiveConnectionsPercent :
    thresholds.postgresActiveConnectionsPercent.PercentAccepted
  postgresDeadlocksPerMin : thresholds.postgresDeadlocksPerMin.Accepted
  postgresBlockedTransactionSeconds :
    thresholds.postgresBlockedTransactionSeconds.Accepted

structure DetectionConfig where
  thresholds : Thresholds
  serviceMonitoringEnabled : Bool
  ignoredUnits : List String
  postgresLockMonitoringEnabled : Bool
  deriving DecidableEq

/-- The settings that the repository ships. -/
def DetectionConfig.plain : DetectionConfig where
  thresholds :=
    { memory := .of 70 95
      swapActivityPagesPerSecond := .of 1 100
      swapUsagePercent := .of 5 25
      cpu := .of 70 95
      disk := .of 75 95
      apacheBusyWorkersPercent := .of 75 90
      apacheRequestsPerSec := .of 500 1000
      postgresActiveConnectionsPercent := .of 75 90
      postgresDeadlocksPerMin := .of 1 5
      postgresBlockedTransactionSeconds := .of 5 30 }
  serviceMonitoringEnabled := true
  ignoredUnits := []
  postgresLockMonitoringEnabled := true

theorem ThresholdBand.accepted_of {warning critical : ℚ} (h : 0 ≤ warning)
    (hle : warning ≤ critical) :
    (ThresholdBand.of warning critical).Accepted :=
  ⟨_, _, rfl, h, h.trans hle, hle⟩

theorem ThresholdBand.percentAccepted_of {warning critical : ℚ}
    (h : 0 ≤ warning) (hle : warning ≤ critical) (hpercent : critical ≤ 100) :
    (ThresholdBand.of warning critical).PercentAccepted :=
  ⟨accepted_of h hle, hle.trans hpercent, hpercent⟩

theorem DetectionConfig.plain_accepted :
    DetectionConfig.plain.thresholds.Accepted where
  memory := ThresholdBand.percentAccepted_of (by norm_num) (by norm_num)
    (by norm_num)
  swapActivityPagesPerSecond :=
    ThresholdBand.accepted_of (by norm_num) (by norm_num)
  swapUsagePercent := ThresholdBand.percentAccepted_of (by norm_num)
    (by norm_num) (by norm_num)
  cpu := ThresholdBand.percentAccepted_of (by norm_num) (by norm_num)
    (by norm_num)
  disk := ThresholdBand.percentAccepted_of (by norm_num) (by norm_num)
    (by norm_num)
  apacheBusyWorkersPercent := ThresholdBand.percentAccepted_of (by norm_num)
    (by norm_num) (by norm_num)
  apacheRequestsPerSec :=
    ThresholdBand.accepted_of (by norm_num) (by norm_num)
  postgresActiveConnectionsPercent := ThresholdBand.percentAccepted_of
    (by norm_num) (by norm_num) (by norm_num)
  postgresDeadlocksPerMin :=
    ThresholdBand.accepted_of (by norm_num) (by norm_num)
  postgresBlockedTransactionSeconds :=
    ThresholdBand.accepted_of (by norm_num) (by norm_num)

/-- `_check_threshold`. -/
def checkThreshold (value : Option ℚ) (thresholds : ThresholdBand)
    (minionId metricName label : String) : Option Anomaly :=
  match value with
  | none => none
  | some value =>
      let anomaly (threshold : ℚ) (severity : AlertSeverity) : Anomaly :=
        { minionId := minionId
          metricName := metricName
          currentValue := value
          threshold := threshold
          severity := severity
          description := label ++ " at " ++ Decimal.fixed 1 value
          serviceName := none
          resource := none
          context := .empty }
      match (thresholds.critical.getD .infinite).reached? value,
          (thresholds.warning.getD .infinite).reached? value with
      | some critical, _ => some (anomaly critical .critical)
      | none, some warning => some (anomaly warning .warning)
      | none, none => none

/-! ## Telemetry -/

/-- An anomaly of the monitoring itself. -/
def telemetryAnomaly (minionId description resource : String)
    (source : Option String) (exporter target : String)
    (observations : List Observation) : Anomaly where
  minionId := minionId
  metricName := "telemetry_unavailable"
  currentValue := 1
  threshold := 1
  severity := .warning
  description := description
  serviceName := none
  resource := some resource
  context := .telemetry source exporter target observations

/-- `_REQUIRED_TELEMETRY`, with the names in order. -/
def requiredTelemetry : List (String × List String) :=
  [("node_exporter",
      ["cpu_percent", "filesystems", "memory_available_bytes",
        "memory_total_bytes"]),
    ("apache_exporter",
      ["apache_busy_workers_percent", "apache_requests_per_sec"]),
    ("postgres_exporter",
      ["postgres_active_connections_percent", "postgres_deadlocks_per_min"])]

def MetricReading.observation (reading : MetricReading) : Observation :=
  ⟨reading.name, reading.status, reading.error⟩

/-- The failure of a required reading. -/
def requiredFailure (observations : List MetricReading) (name : String) :
    Option Observation :=
  match observations.find? (·.name = name) with
  | none => some ⟨name, .missing, some "metric was not collected"⟩
  | some reading =>
      if reading.status = .ok then none else some reading.observation

/-- The failures of an exporter with the given readings. -/
def exporterFailures (exporter : String) (required : List String)
    (observations : List MetricReading) : List Observation :=
  let upName := exporter ++ "_up"
  match observations.find? (·.name = upName) with
  | none =>
      [⟨upName, .missing, some "target health query was not collected"⟩]
  | some up =>
      if up.status ≠ .ok then [up.observation]
      else if up.number? ≠ some 1 then
        [⟨upName, .error, some "Prometheus target reports up=0"⟩]
      else required.filterMap (requiredFailure observations)

/-- `sorted({item["status"] ...})`. -/
def failureStatuses (failures : List Observation) : List String :=
  (failures.map (·.status.value)).dedup.insertionSort (· ≤ ·)

def exporterAnomaly (minionId : String) (telemetry : List MetricReading)
    (exporter : String) (required : List String) : Option Anomaly :=
  match telemetry.filter (·.exporter = exporter) with
  | [] => none
  | first :: rest =>
      let failures := exporterFailures exporter required (first :: rest)
      if failures.isEmpty then none
      else
        some (telemetryAnomaly minionId
          (exporter ++ " telemetry for " ++ first.target ++
            " is unavailable (" ++
            ", ".intercalate (failureStatuses failures) ++ ")")
          ("telemetry:" ++ exporter ++ ":" ++ first.target) none exporter
          first.target failures)

def telemetryAnomalies (metrics : Metrics) (minionId : String) : List Anomaly :=
  requiredTelemetry.filterMap fun entry =>
    exporterAnomaly minionId metrics.telemetry entry.1 entry.2

/-! ## Memory, CPU and filesystems -/

/-- `memory_pressure_anomaly`, with the CPU usage that `check_all_metrics` adds
to its context. -/
def memoryPressureAnomaly (memory : MemoryPressure)
    (cpuUsagePercent : Option ℚ) (thresholds : Thresholds)
    (minionId : String) : Option Anomaly :=
  match memory.memoryUsagePercent with
  | none => none
  | some usage =>
      match (thresholds.memory.warning.getD .infinite).reached? usage with
      | none => none
      | some warning =>
          let critical :=
            (thresholds.memory.critical.getD .infinite).reached? usage
          let activity := memory.swapActivityPagesPerSecond.getD 0
          let swapUsage := memory.swapUsagePercent.getD 0
          let band := thresholds.swapActivityPagesPerSecond
          let activeSwapping :=
            ((band.warning.getD (.finite 1)).reached? activity).isSome
          let intense :=
            ((band.critical.getD (.finite 100)).reached? activity).isSome
          let swapFull := ((thresholds.swapUsagePercent.critical.getD
            (.finite 25)).reached? swapUsage).isSome
          some {
            minionId := minionId
            metricName := "memory_pressure"
            currentValue := usage
            threshold := critical.getD warning
            severity :=
              if critical.isSome || (activeSwapping && intense) ||
                  (activeSwapping && swapFull) then
                .critical
              else .warning
            description :=
              "Host memory usage is " ++ Decimal.fixed 1 usage ++ "%" ++
                if activeSwapping then
                  " with active swapping at " ++ Decimal.fixed 1 activity ++
                    " pages/s"
                else ""
            serviceName := none
            resource := some "host-memory"
            context := .memory memory activeSwapping cpuUsagePercent }

def isActivelySwapping (anomaly : Anomaly) : Bool :=
  match anomaly.context with
  | .memory _ activeSwapping _ => activeSwapping
  | _ => false

/-- The anomaly of the CPU before it is folded into one of the memory. -/
def cpuAnomaly (metrics : Metrics) (thresholds : Thresholds)
    (minionId : String) : Option Anomaly :=
  (checkThreshold metrics.cpuPercent thresholds.cpu minionId "cpu"
    "CPU usage").map fun anomaly =>
      { anomaly with
        resource := some "host-cpu"
        context := .cpu anomaly.currentValue metrics.memoryPressure }

def filesystemAnomalies (filesystems : List Filesystem)
    (thresholds : ThresholdBand) (minionId : String) : List Anomaly :=
  filesystems.filterMap fun filesystem =>
    (checkThreshold (some filesystem.usagePercent) thresholds minionId "disk"
      ("Filesystem " ++ filesystem.mountpoint ++ " usage")).map fun anomaly =>
        { anomaly with
          resource := some filesystem.mountpoint
          context := .filesystem filesystem [] }

/-! ## Apache and PostgreSQL -/

/-- An Apache anomaly with its service and context. -/
def apacheAnomaly (metrics : Metrics) (apacheInstance resource : String)
    (anomaly : Anomaly) : Anomaly :=
  { anomaly with
    serviceName := some "apache2"
    resource := some resource
    context := .apache apacheInstance metrics.apacheBusyWorkersPercent
      metrics.apacheRequestsPerSec }

def apacheAnomalies (metrics : Metrics) (thresholds : Thresholds)
    (minionId apacheInstance : String) : List Anomaly :=
  ((checkThreshold metrics.apacheBusyWorkersPercent
      thresholds.apacheBusyWorkersPercent minionId "apache_busy_workers"
      "Apache busy workers").map
    (apacheAnomaly metrics apacheInstance "apache:workers")).toList ++
  ((checkThreshold metrics.apacheRequestsPerSec
      thresholds.apacheRequestsPerSec minionId "apache_requests"
      "Apache requests per second").map
    (apacheAnomaly metrics apacheInstance "apache:traffic")).toList

def postgresAnomalies (metrics : Metrics) (thresholds : Thresholds)
    (minionId postgresInstance : String) : List Anomaly :=
  ((checkThreshold metrics.postgresActiveConnectionsPercent
      thresholds.postgresActiveConnectionsPercent minionId
      "postgres_connections" "PostgreSQL connection utilization").map
    fun anomaly =>
      { anomaly with
        serviceName := some "postgresql"
        resource := some "postgresql:cluster"
        context := .postgres postgresInstance anomaly.currentValue }).toList ++
  (checkThreshold metrics.postgresDeadlocksPerMin
    thresholds.postgresDeadlocksPerMin minionId "postgres_deadlocks"
    "PostgreSQL deadlocks/min").toList

/-! ## `check_all_metrics` -/

def checkAllMetrics (config : DetectionConfig) (minion : Minion)
    (metrics : Metrics) : List Anomaly :=
  let thresholds := config.thresholds
  let memory := memoryPressureAnomaly metrics.memoryPressure
    metrics.cpuPercent thresholds minion.id
  let cpu :=
    if memory.any isActivelySwapping then none
    else cpuAnomaly metrics thresholds minion.id
  telemetryAnomalies metrics minion.id ++ memory.toList ++ cpu.toList ++
    filesystemAnomalies metrics.filesystems thresholds.disk minion.id ++
    ((present minion.apacheInstance).map
      (apacheAnomalies metrics thresholds minion.id)).getD [] ++
    ((present minion.postgresInstance).map
      (postgresAnomalies metrics thresholds minion.id)).getD []

/-! ## Salt inspections -/

def saltFailureMarkers : List String :=
  ["salt api call failed:", "minion did not return",
    "no response from any minions"]

/-- `_salt_inspection_failure`. -/
def saltInspectionFailure : PyValue → Option String
  | .bool false => some "Salt minion returned no command result"
  | .none => some "Salt minion returned no command result"
  | .str output =>
      let stripped := PyText.strip output
      if saltFailureMarkers.any (PyText.contains (PyText.lower stripped)) then
        some (PyText.take 500 stripped)
      else none
  | output => some ("Salt returned unexpected " ++ output.typeName ++ " output")

def saltTelemetryAnomaly (minionId check failure : String) : Anomaly :=
  telemetryAnomaly minionId
    ("Salt inspection telemetry for " ++ minionId ++ " is unavailable")
    ("telemetry:salt_inspection:" ++ minionId) (some "salt")
    "salt_inspection" minionId [⟨check, .error, some failure⟩]

/-- One element of `parse_failed_systemd_services`. -/
structure FailedService where
  name : String
  description : String
  subState : String
  activeState : String
  deriving DecidableEq

def failedService? (rawLine : String) : Option FailedService :=
  let line := PyText.strip (PyText.lstripChar '●' (PyText.strip rawLine))
  match PyText.split line 4 with
  | name :: loadState :: activeState :: subState :: rest =>
      let isFailed := activeState = "failed"
      let isRestartLoop :=
        activeState = "activating" ∧ subState = "auto-restart"
      if PyText.endsWith name ".service" ∧ loadState = "loaded" ∧
          (isFailed ∨ isRestartLoop) then
        some ⟨name, rest.headD name, subState, activeState⟩
      else none
  | _ => none

def parseFailedSystemdServices : PyValue → List FailedService
  | .str output =>
      let stripped := PyText.strip output
      if stripped = "" ∨ PyText.startsWith stripped "Salt API call failed:" then
        []
      else (PyText.splitlines stripped).filterMap failedService?
  | _ => []

def serviceAnomaly (minionId : String) (service : FailedService) : Anomaly where
  minionId := minionId
  metricName := "service_down"
  currentValue := 1
  threshold := 1
  severity := .critical
  description := "Systemd service " ++ service.name ++ " is " ++
    if service.activeState = "activating" then "in an automatic restart loop"
    else "in failed state"
  serviceName := some service.name
  resource := none
  context :=
    .service service.description service.activeState service.subState

/-- `check_failed_services` with the output of the inspection. -/
def checkFailedServices (config : DetectionConfig) (minionId : String)
    (output : PyValue) : List Anomaly :=
  match saltInspectionFailure output with
  | some failure =>
      [saltTelemetryAnomaly minionId "systemd_service_discovery" failure]
  | none =>
      ((parseFailedSystemdServices output).filter fun service =>
        !config.ignoredUnits.any (PyText.fnmatch service.name)).map
          (serviceAnomaly minionId)

/-! ## Blocked transactions -/

/-- `sorted({...})` of integers. -/
def sortedSet (values : List ℤ) : List ℤ :=
  values.dedup.insertionSort (· ≤ ·)

/-- The databases of the pairs in order. -/
def lockedDatabases (pairs : List LockPair) : List String :=
  (pairs.map (·.database)).dedup.insertionSort (· ≤ ·)

/-- `max(pair["blocked_seconds"] for pair in pairs)`; no wait is negative. -/
def longestWait (pairs : List LockPair) : ℤ :=
  pairs.foldr (fun pair longest => max pair.blockedSeconds longest) 0

/-- The anomaly of the waits in one database. -/
def blockedTransactionAnomaly (minionId : String) (warning critical : ℤ)
    (database : String) (pairs : List LockPair) :
    Except PyException Anomaly := do
  let blockedPids := sortedSet (pairs.map (·.blockedPid))
  let blockerPids := sortedSet (pairs.map (·.blockerPid))
  let longest := longestWait pairs
  let isCritical := critical ≤ longest
  let queryWord := if blockedPids.length = 1 then "query" else "queries"
  let currentValue ← PyValue.floatOfInt longest
  return {
    minionId := minionId
    metricName := "postgres_blocked_transaction"
    currentValue := currentValue
    -- the integer part of a float converts back exactly
    threshold := ((if isCritical then critical else warning : ℤ) : ℚ)
    severity := if isCritical then .critical else .warning
    description := "PostgreSQL database " ++ database ++ " has " ++
      toString blockedPids.length ++ " " ++ queryWord ++
      " blocked by a transaction for up to " ++ toString longest ++ "s"
    serviceName := some "postgresql"
    resource := some ("postgresql:" ++ database)
    context := .locks ⟨database, blockedPids, blockerPids, pairs⟩ }

def postgresBlockingAnomalies (lockPairs : List LockPair)
    (thresholds : ThresholdBand) (minionId : String) :
    Except PyException (List Anomaly) := do
  let warning := max 0 (← (thresholds.warning.getD (.finite 5)).toInt)
  let critical := max warning (← (thresholds.critical.getD (.finite 30)).toInt)
  let waiting := lockPairs.filter (warning ≤ ·.blockedSeconds)
  (lockedDatabases waiting).mapM fun database =>
    blockedTransactionAnomaly minionId warning critical database
      (waiting.filter (·.database = database))

/-- `check_postgres_blocked_transactions` with the output of the
inspection. -/
def checkPostgresBlockedTransactions (py : Interpreter)
    (config : DetectionConfig) (minionId : String) (output : PyValue) :
    Except PyException (List Anomaly) :=
  match saltInspectionFailure output with
  | some failure =>
      .ok [saltTelemetryAnomaly minionId "postgres_lock_discovery" failure]
  | none => do
      let pairs ← parsePostgresLockPairs py output
      postgresBlockingAnomalies pairs
        config.thresholds.postgresBlockedTransactionSeconds minionId

/-! ## When the lock check returns -/

theorem longestWait_nonneg (pairs : List LockPair) : 0 ≤ longestWait pairs := by
  induction pairs with
  | nil => exact le_refl 0
  | cons pair pairs ih => exact le_max_of_le_right ih

theorem longestWait_lt_iff {pairs : List LockPair} {bound : ℤ}
    (hbound : 0 < bound) :
    longestWait pairs < bound ↔ ∀ pair ∈ pairs, pair.blockedSeconds < bound := by
  induction pairs with
  | nil => simpa [longestWait] using hbound
  | cons pair pairs ih =>
      rw [List.forall_mem_cons, ← ih]
      exact max_lt_iff

theorem blockedTransactionAnomaly_returns_iff {minionId database : String}
    {warning critical : ℤ} {pairs : List LockPair} :
    Returns (blockedTransactionAnomaly minionId warning critical database
        pairs) ↔
      ∀ pair ∈ pairs, pair.blockedSeconds < Binary64.overflowBound := by
  have hbound : (0 : ℤ) < Binary64.overflowBound := by decide +kernel
  have hnonneg := longestWait_nonneg pairs
  rw [← longestWait_lt_iff hbound, blockedTransactionAnomaly,
    returns_bind_iff]
  constructor
  · rintro ⟨value, hvalue, -⟩
    simp only [PyValue.floatOfInt] at hvalue
    split at hvalue
    next hsmall => omega
    · cases hvalue
  · intro hsmall
    have hfits : (longestWait pairs).natAbs < Binary64.overflowBound := by
      omega
    exact ⟨_, if_pos hfits, returns_ok _⟩

/-- A wait in one of the reported groups is a wait that counts. -/
theorem forall_lockedDatabases_iff {pairs : List LockPair}
    {P : LockPair → Prop} :
    (∀ database ∈ lockedDatabases pairs,
        ∀ pair ∈ pairs.filter (·.database = database), P pair) ↔
      ∀ pair ∈ pairs, P pair := by
  constructor
  · intro hgroups pair hpair
    apply hgroups pair.database
    · rw [lockedDatabases, List.mem_insertionSort, List.mem_dedup]
      exact List.mem_map_of_mem hpair
    · simpa using hpair
  · intro hall database _ pair hpair
    exact hall pair (List.mem_of_mem_filter hpair)

theorem Limit.toInt_eq_ok_iff {limit : Limit} {n : ℤ} :
    limit.toInt = .ok n ↔
      ∃ value, limit = .finite value ∧ PyValue.truncate value = n := by
  rcases limit with value | _
  · simp [Limit.toInt]
  · simp [Limit.toInt]

/-- The check of the lock pairs returns when both thresholds are finite and
every wait that counts can be a float. -/
theorem postgresBlockingAnomalies_returns_iff {lockPairs : List LockPair}
    {band : ThresholdBand} {minionId : String} :
    Returns (postgresBlockingAnomalies lockPairs band minionId) ↔
      ∃ warning critical,
        band.warning.getD (.finite 5) = .finite warning ∧
        band.critical.getD (.finite 30) = .finite critical ∧
        ∀ pair ∈ lockPairs,
          max 0 (PyValue.truncate warning) ≤ pair.blockedSeconds →
            pair.blockedSeconds < Binary64.overflowBound := by
  have hpairs (warning critical : ℤ) :
      Returns ((lockedDatabases (lockPairs.filter
          (warning ≤ ·.blockedSeconds))).mapM fun database =>
        blockedTransactionAnomaly minionId warning critical database
          ((lockPairs.filter (warning ≤ ·.blockedSeconds)).filter
            (·.database = database))) ↔
        ∀ pair ∈ lockPairs, warning ≤ pair.blockedSeconds →
          pair.blockedSeconds < Binary64.overflowBound := by
    simp only [returns_mapM_iff, blockedTransactionAnomaly_returns_iff]
    rw [forall_lockedDatabases_iff]
    simp only [List.mem_filter, decide_eq_true_eq, and_imp]
  simp only [postgresBlockingAnomalies, returns_bind_iff, hpairs,
    Limit.toInt_eq_ok_iff]
  constructor
  · rintro ⟨_, ⟨warning, hwarning, rfl⟩, _, ⟨critical, hcritical, rfl⟩, hall⟩
    exact ⟨warning, critical, hwarning, hcritical, hall⟩
  · rintro ⟨warning, critical, hwarning, hcritical, hall⟩
    exact ⟨_, ⟨warning, hwarning, rfl⟩, _, ⟨critical, hcritical, rfl⟩, hall⟩

end UyuniAgent
