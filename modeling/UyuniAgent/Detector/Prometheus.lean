import UyuniAgent.Detector.Anomaly
import UyuniAgent.Support.PyValue
import Mathlib.Data.List.Sort

/-!
# Prometheus readings

`get_all_metrics` from the outcomes of its queries on.  Each outcome is the
value of the first sample, or the reason why there is none; the readings that
combine several queries take over the first failure among them.  Arithmetic on
sample values is exact.
-/

namespace UyuniAgent

/-! ## Outcomes of queries -/

/-- The statuses of a reading without a usable value. -/
inductive QueryFailure
  | missing
  | stale
  | error
  deriving DecidableEq, Repr

def QueryFailure.status : QueryFailure → EvidenceStatus
  | .missing => .missing
  | .stale => .stale
  | .error => .error

/-- A typed query result after its first sample has been parsed. -/
inductive QueryOutcome (V : Type)
  | value (value : V) (observedAt : Option ℚ)
  | failed (failure : QueryFailure) (observedAt : Option ℚ)
      (error : Option String)
  deriving DecidableEq

/-- `_reading_from_first_sample`. -/
def scalarReading (name target exporter : String) :
    QueryOutcome ℚ → MetricReading
  | .value value observedAt =>
      ⟨name, target, exporter, .ok, some (.number value), observedAt, none⟩
  | .failed failure observedAt error =>
      ⟨name, target, exporter, failure.status, none, observedAt, error⟩

def getTargetHealth (target exporter : String) (up : QueryOutcome ℚ) :
    MetricReading :=
  scalarReading (exporter ++ "_up") target exporter up

/-! ## Filesystems -/

/-- One sample of the filesystem query; `usage` is absent when the sample has
no number. -/
structure FilesystemSample where
  mountpoint : Option String
  device : Option String
  fstype : Option String
  usage : Option PyFloat
  deriving DecidableEq

/-- The filesystem of a valid sample. -/
def FilesystemSample.filesystem? (sample : FilesystemSample) :
    Option Filesystem :=
  match sample.usage, sample.mountpoint with
  | some (.finite usage), some mountpoint =>
      if mountpoint = "" ∨ usage < 0 ∨ 100 < usage then none
      else
        some ⟨mountpoint, sample.device.getD "unknown",
          sample.fstype.getD "unknown", usage⟩
  | _, _ => none

def getFilesystemUsagePercent (target : String) :
    QueryOutcome (List FilesystemSample) → MetricReading
  | .failed failure observedAt error =>
      ⟨"filesystems", target, "node_exporter", failure.status, none,
        observedAt, error⟩
  | .value samples observedAt =>
      let filesystems := samples.filterMap FilesystemSample.filesystem?
      let invalid := samples.length - filesystems.length
      if filesystems.isEmpty then
        ⟨"filesystems", target, "node_exporter", .error, none, observedAt,
          some ("no valid filesystem samples (" ++ toString invalid ++
            " invalid)")⟩
      else
        ⟨"filesystems", target, "node_exporter", .ok,
          some (.filesystems (filesystems.insertionSort fun a b =>
            a.mountpoint ≤ b.mountpoint)), observedAt, none⟩

/-! ## Combined readings -/

/-- The first of two readings that is not usable, under another name. -/
def firstFailure (name : String) (first second : MetricReading) :
    Option MetricReading :=
  ([first, second].find? (!·.usable)).map fun failed =>
    { failed with name := name, value := none }

def getApacheBusyWorkersPercent (target : String)
    (busy idle : QueryOutcome ℚ) : MetricReading :=
  let name := "apache_busy_workers_percent"
  let exporter := "apache_exporter"
  let busy := scalarReading "apache_busy_workers" target exporter busy
  let idle := scalarReading "apache_idle_workers" target exporter idle
  match busy.number?, idle.number? with
  | some busyWorkers, some idleWorkers =>
      if busyWorkers + idleWorkers ≤ 0 then
        ⟨name, target, exporter, .error, none, busy.observedAt,
          some "busy + idle workers is zero"⟩
      else
        ⟨name, target, exporter, .ok,
          some (.number (busyWorkers / (busyWorkers + idleWorkers) * 100)),
          busy.observedAt, none⟩
  | _, _ => (firstFailure name busy idle).getD busy

def getPostgresActiveConnectionsPercent (target : String)
    (backends maximum : QueryOutcome ℚ) : MetricReading :=
  let name := "postgres_active_connections_percent"
  let exporter := "postgres_exporter"
  let backends :=
    scalarReading "postgres_connections" target exporter backends
  let maximum :=
    scalarReading "postgres_max_connections" target exporter maximum
  match backends.number?, maximum.number? with
  | some connections, some limit =>
      if limit ≤ 0 then
        ⟨name, target, exporter, .error, none, maximum.observedAt,
          some "max_connections is not positive"⟩
      else
        ⟨name, target, exporter, .ok,
          some (.number (connections / limit * 100)), backends.observedAt,
          none⟩
  | _, _ => (firstFailure name backends maximum).getD backends

/-! ## Memory pressure -/

/-- The outcomes of the queries of `get_memory_pressure_metrics`. -/
structure MemoryAnswers where
  memoryAvailableBytes : QueryOutcome ℚ
  memoryTotalBytes : QueryOutcome ℚ
  swapTotalBytes : QueryOutcome ℚ
  swapFreeBytes : QueryOutcome ℚ
  swapInPagesPerSecond : QueryOutcome ℚ
  swapOutPagesPerSecond : QueryOutcome ℚ
  systemCpuPercent : QueryOutcome ℚ
  iowaitCpuPercent : QueryOutcome ℚ

/-- `_telemetry`. -/
def MemoryAnswers.readings (answers : MemoryAnswers) (target : String) :
    List MetricReading :=
  let reading := fun name => scalarReading name target "node_exporter"
  [reading "memory_available_bytes" answers.memoryAvailableBytes,
    reading "memory_total_bytes" answers.memoryTotalBytes,
    reading "swap_total_bytes" answers.swapTotalBytes,
    reading "swap_free_bytes" answers.swapFreeBytes,
    reading "swap_in_pages_per_second" answers.swapInPagesPerSecond,
    reading "swap_out_pages_per_second" answers.swapOutPagesPerSecond,
    reading "system_cpu_percent" answers.systemCpuPercent,
    reading "iowait_cpu_percent" answers.iowaitCpuPercent]

def QueryOutcome.number? : QueryOutcome ℚ → Option ℚ
  | .value number _ => some number
  | .failed _ _ _ => none

def memoryUsagePercent : Option ℚ → Option ℚ → Option ℚ
  | some available, some total =>
      if 0 < total then some (max 0 (min 100 (100 - available / total * 100)))
      else none
  | _, _ => none

def getMemoryPressureMetrics (answers : MemoryAnswers) : MemoryPressure :=
  let available := answers.memoryAvailableBytes.number?
  let total := answers.memoryTotalBytes.number?
  let swapTotal := answers.swapTotalBytes.number?
  let swapFree := answers.swapFreeBytes.number?
  let swapIn := answers.swapInPagesPerSecond.number?
  let swapOut := answers.swapOutPagesPerSecond.number?
  let swapUsed := swapTotal.bind fun total => swapFree.map fun free =>
    max 0 (total - min free total)
  { memoryUsagePercent := memoryUsagePercent available total
    memoryAvailableBytes := available
    memoryTotalBytes := total
    swapTotalBytes := swapTotal
    swapUsedBytes := swapUsed
    swapUsagePercent := swapTotal.bind fun total => swapUsed.map fun used =>
      if 0 < total then max 0 (min 100 (used / total * 100)) else 0
    swapInPagesPerSecond := swapIn
    swapOutPagesPerSecond := swapOut
    swapActivityPagesPerSecond :=
      swapIn.bind fun pagesIn => swapOut.map fun pagesOut => pagesIn + pagesOut
    systemCpuPercent := answers.systemCpuPercent.number?
    iowaitCpuPercent := answers.iowaitCpuPercent.number? }

/-! ## All metrics -/

/-- The outcomes of the queries of one minion.  Those of an exporter that the
minion does not have are not asked for. -/
structure PrometheusAnswers where
  nodeUp : QueryOutcome ℚ
  filesystems : QueryOutcome (List FilesystemSample)
  memory : MemoryAnswers
  cpu : QueryOutcome ℚ
  apacheUp : QueryOutcome ℚ
  apacheBusyWorkers : QueryOutcome ℚ
  apacheIdleWorkers : QueryOutcome ℚ
  apacheRequestsPerSec : QueryOutcome ℚ
  postgresUp : QueryOutcome ℚ
  postgresConnections : QueryOutcome ℚ
  postgresMaxConnections : QueryOutcome ℚ
  postgresDeadlocksPerMin : QueryOutcome ℚ

/-- What `get_all_metrics` returns; a metric without its key has no value
either.  The telemetry map is the list of its readings. -/
structure Metrics where
  memoryPressure : MemoryPressure
  cpuPercent : Option ℚ
  diskPercent : Option ℚ
  filesystems : List Filesystem
  apacheBusyWorkersPercent : Option ℚ
  apacheRequestsPerSec : Option ℚ
  postgresActiveConnectionsPercent : Option ℚ
  postgresDeadlocksPerMin : Option ℚ
  telemetry : List MetricReading
  deriving DecidableEq

/-- The configuration of a minion. -/
structure Minion where
  id : String
  instanceName : String
  apacheInstance : Option String
  postgresInstance : Option String
  deriving DecidableEq

/-- `if value:` for an optional string. -/
def present (value : Option String) : Option String :=
  value.filter (· ≠ "")

/-- The readings of the Apache exporter. -/
def apacheReadings (answers : PrometheusAnswers) (target : String) :
    List MetricReading :=
  [getTargetHealth target "apache_exporter" answers.apacheUp,
    getApacheBusyWorkersPercent target answers.apacheBusyWorkers
      answers.apacheIdleWorkers,
    scalarReading "apache_requests_per_sec" target "apache_exporter"
      answers.apacheRequestsPerSec]

/-- The readings of the PostgreSQL exporter. -/
def postgresReadings (answers : PrometheusAnswers) (target : String) :
    List MetricReading :=
  [getTargetHealth target "postgres_exporter" answers.postgresUp,
    getPostgresActiveConnectionsPercent target answers.postgresConnections
      answers.postgresMaxConnections,
    scalarReading "postgres_deadlocks_per_min" target "postgres_exporter"
      answers.postgresDeadlocksPerMin]

def getAllMetrics (minion : Minion) (answers : PrometheusAnswers) : Metrics :=
  let target := minion.instanceName
  let filesystems := getFilesystemUsagePercent target answers.filesystems
  let cpu := scalarReading "cpu_percent" target "node_exporter" answers.cpu
  let apache := present minion.apacheInstance
  let postgres := present minion.postgresInstance
  { memoryPressure := getMemoryPressureMetrics answers.memory
    cpuPercent := cpu.number?
    diskPercent :=
      (filesystems.filesystems.find? (·.mountpoint = "/")).map (·.usagePercent)
    filesystems := filesystems.filesystems
    apacheBusyWorkersPercent := apache.bind fun target =>
      (getApacheBusyWorkersPercent target answers.apacheBusyWorkers
        answers.apacheIdleWorkers).number?
    apacheRequestsPerSec := apache.bind fun _ =>
      answers.apacheRequestsPerSec.number?
    postgresActiveConnectionsPercent := postgres.bind fun target =>
      (getPostgresActiveConnectionsPercent target answers.postgresConnections
        answers.postgresMaxConnections).number?
    postgresDeadlocksPerMin := postgres.bind fun _ =>
      answers.postgresDeadlocksPerMin.number?
    telemetry :=
      [getTargetHealth target "node_exporter" answers.nodeUp, filesystems] ++
        answers.memory.readings target ++ [cpu] ++
        (apache.map (apacheReadings answers)).getD [] ++
        (postgres.map (postgresReadings answers)).getD [] }

/-- `_prometheus_snapshot_available`. -/
def prometheusSnapshotAvailable (metrics : Metrics) : Bool :=
  metrics.telemetry.any (·.status ≠ .error)

end UyuniAgent
