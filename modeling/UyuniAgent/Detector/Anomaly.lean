import Mathlib.Data.Rat.Defs

/-!
# Anomalies

The data model shared by the detectors, the incident store and the
investigations: typed telemetry readings, the findings the detectors attach to
an anomaly as its `context`, and `Anomaly` with its identity key.

The source keeps `context` as a dictionary.  Each detector fills it with a
fixed set of keys, so here it has one constructor for each of them; a key that
a detector writes with the value `None` is an `Option` field.
-/

namespace UyuniAgent

inductive AlertSeverity
  | info
  | warning
  | critical
  deriving DecidableEq, Repr

def AlertSeverity.value : AlertSeverity → String
  | .info => "info"
  | .warning => "warning"
  | .critical => "critical"

inductive EvidenceStatus
  | ok
  | missing
  | stale
  | error
  | contradictory
  deriving DecidableEq, Repr

def EvidenceStatus.value : EvidenceStatus → String
  | .ok => "ok"
  | .missing => "missing"
  | .stale => "stale"
  | .error => "error"
  | .contradictory => "contradictory"

/-! ## Telemetry readings -/

structure Filesystem where
  mountpoint : String
  device : String
  fstype : String
  usagePercent : ℚ
  deriving DecidableEq

/-- What a reading carries: a finite sample value, or the filesystems of a
host. -/
inductive ReadingValue
  | number (value : ℚ)
  | filesystems (value : List Filesystem)
  deriving DecidableEq

structure MetricReading where
  name : String
  target : String
  exporter : String
  status : EvidenceStatus
  value : Option ReadingValue
  observedAt : Option ℚ
  error : Option String
  deriving DecidableEq

def MetricReading.usable (reading : MetricReading) : Bool :=
  reading.status = .ok && reading.value.isSome

/-- `reading.value if reading.usable else None`, for a scalar reading. -/
def MetricReading.number? (reading : MetricReading) : Option ℚ :=
  match reading.usable, reading.value with
  | true, some (.number value) => some value
  | _, _ => none

/-- `reading.value if reading.usable else []`, for the filesystem reading. -/
def MetricReading.filesystems (reading : MetricReading) : List Filesystem :=
  match reading.usable, reading.value with
  | true, some (.filesystems value) => value
  | _, _ => []

/-- `get_memory_pressure_metrics` without its telemetry map. -/
structure MemoryPressure where
  memoryUsagePercent : Option ℚ
  memoryAvailableBytes : Option ℚ
  memoryTotalBytes : Option ℚ
  swapTotalBytes : Option ℚ
  swapUsedBytes : Option ℚ
  swapUsagePercent : Option ℚ
  swapInPagesPerSecond : Option ℚ
  swapOutPagesPerSecond : Option ℚ
  swapActivityPagesPerSecond : Option ℚ
  systemCpuPercent : Option ℚ
  iowaitCpuPercent : Option ℚ
  deriving DecidableEq

/-! ## Findings -/

/-- One element of `parse_postgres_lock_pairs`. -/
structure LockPair where
  blockedPid : ℤ
  database : String
  blockedUser : String
  blockedApplication : String
  blockedClient : String
  blockedState : String
  waitEvent : String
  blockedSeconds : ℤ
  blockedQueryId : String
  blockedCommand : String
  blockerPid : ℤ
  blockerUser : String
  blockerApplication : String
  blockerClient : String
  blockerState : String
  blockerWaitEventType : Option String
  blockerTransactionSeconds : ℤ
  blockerQueryId : String
  blockerCommand : String
  deriving DecidableEq

/-- An entry of a telemetry anomaly's `observations`. -/
structure Observation where
  name : String
  status : EvidenceStatus
  error : Option String
  deriving DecidableEq

structure LockContext where
  database : String
  blockedPids : List ℤ
  blockerPids : List ℤ
  blockedPairs : List LockPair
  deriving DecidableEq

/-- What a correlated anomaly adds to the context of its PostgreSQL side. -/
structure ChainContext where
  apacheMinionId : String
  postgresMinionId : String
  correlatedMinionIds : List String
  apacheBusyWorkersPercent : ℚ
  apacheRequestsPerSecond : ℚ
  correlatedMetricNames : List String
  deriving DecidableEq

inductive AnomalyContext
  | empty
  | telemetry (source : Option String) (exporter target : String)
      (observations : List Observation)
  | service (unitDescription activeState subState : String)
  | locks (waits : LockContext)
  | chain (waits : LockContext) (link : ChainContext)
  | filesystem (filesystem : Filesystem)
      (relatedUnhealthyServices : List String)
  | memory (memory : MemoryPressure) (activeSwapping : Bool)
      (cpuUsagePercent : Option ℚ)
  | cpu (cpuUsagePercent : ℚ) (memory : MemoryPressure)
  | apache (apacheInstance : String) (busyWorkersPercent : Option ℚ)
      (requestsPerSecond : Option ℚ)
  | postgres (postgresInstance : String) (connectionUtilizationPercent : ℚ)
  deriving DecidableEq

/-- `context.get("requests_per_second")`. -/
def AnomalyContext.requestsPerSecond : AnomalyContext → Option ℚ
  | .apache _ _ requestsPerSecond => requestsPerSecond
  | _ => none

/-- The lock waits of a context, with the defaults that its readers use. -/
def AnomalyContext.waits : AnomalyContext → LockContext
  | .locks waits => waits
  | .chain waits _ => waits
  | _ => ⟨"unknown", [], [], []⟩

/-- `context.get("source")`. -/
def AnomalyContext.source : AnomalyContext → Option String
  | .telemetry source _ _ _ => source
  | _ => none

/-! ## Anomalies and their identity -/

structure Anomaly where
  minionId : String
  metricName : String
  currentValue : ℚ
  threshold : ℚ
  severity : AlertSeverity
  description : String
  serviceName : Option String
  resource : Option String
  context : AnomalyContext
  deriving DecidableEq

structure IdentityKey where
  minionId : String
  metricName : String
  serviceName : String
  resource : String
  deriving DecidableEq

def Anomaly.identityKey (anomaly : Anomaly) : IdentityKey where
  minionId := anomaly.minionId
  metricName := anomaly.metricName
  serviceName := anomaly.serviceName.getD ""
  resource := anomaly.resource.getD ""

/-- `incident_fingerprint`: a digest of the identity key.  The digest is taken
to be injective, as a collision-free hash of an injective encoding is. -/
structure FingerprintScheme (F : Type) where
  digest : IdentityKey → F
  digest_injective : Function.Injective digest

def FingerprintScheme.incidentFingerprint {F : Type}
    (scheme : FingerprintScheme F) (anomaly : Anomaly) : F :=
  scheme.digest anomaly.identityKey

theorem FingerprintScheme.incidentFingerprint_inj {F : Type}
    (scheme : FingerprintScheme F) {a b : Anomaly} :
    scheme.incidentFingerprint a = scheme.incidentFingerprint b ↔
      a.identityKey = b.identityKey :=
  scheme.digest_injective.eq_iff

/-- The identity key itself serves as a fingerprint. -/
def FingerprintScheme.plain : FingerprintScheme IdentityKey where
  digest := id
  digest_injective := Function.injective_id

end UyuniAgent
