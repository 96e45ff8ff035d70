import UyuniAgent.Alert.Payload
import UyuniAgent.Support.OrderedDict

/-!
# The incident store

`IncidentStore` of `incident_store.py`.  The table `incidents` is a dictionary
keyed by its primary key, in row order, and each method is a function from the
table to the table and its return value.  A stored `payload_json` is the
payload it encodes.
-/

namespace UyuniAgent.Incident

inductive IncidentStatus
  | active
  | resolved
  deriving DecidableEq, Repr

/-- A row of the table `incidents`, without its key. -/
structure Row (F : Type) where
  minionId : String
  metricName : String
  serviceName : String
  resource : String
  severity : String
  lastEmittedSeverity : Option String
  status : IncidentStatus
  firstSeen : ℚ
  lastSeen : ℚ
  lastEmitted : Option ℚ
  consecutiveAbsent : ℕ
  startsAt : Rfc3339
  payloadJson : Option (AlertPayload F)
  resolvedAt : Option ℚ
  deriving DecidableEq

abbrev Table (F : Type) := OrderedDict F (Row F)

structure IncidentRecord (F : Type) where
  fingerprint : F
  minionId : String
  metricName : String
  serviceName : String
  resource : String
  severity : String
  startsAt : Rfc3339
  firstSeen : ℚ
  lastSeen : ℚ
  lastEmitted : Option ℚ
  consecutiveAbsent : ℕ
  payload : Option (AlertPayload F)
  deriving DecidableEq

structure FiringIncident (F : Type) where
  anomaly : Anomaly
  fingerprint : F
  startsAt : Rfc3339
  previousPayload : Option (AlertPayload F)
  deriving DecidableEq

structure IncidentChanges (F : Type) where
  firing : List (FiringIncident F)
  resolved : List (IncidentRecord F)
  deriving DecidableEq

/-- The constructor arguments of `IncidentStore` after `max(0, ...)` and
`max(1, ...)`, and the digest behind `incident_fingerprint`. -/
structure StoreSettings (F : Type) where
  scheme : FingerprintScheme F
  cooldownSeconds : ℕ
  resolveAfterHealthyCycles : ℕ
  one_le_resolveAfterHealthyCycles : 1 ≤ resolveAfterHealthyCycles

/-- The defaults of the constructor, with identity keys as fingerprints. -/
def StoreSettings.plain : StoreSettings IdentityKey where
  scheme := .plain
  cooldownSeconds := 900
  resolveAfterHealthyCycles := 2
  one_le_resolveAfterHealthyCycles := by decide

/-- `_SEVERITY_RANK.get(severity, -1)`. -/
def severityRank (severity : String) : ℤ :=
  if severity = "info" then 0
  else if severity = "warning" then 1
  else if severity = "critical" then 2
  else -1

/-- `str.lower`, for the ASCII letters that occur in severities. -/
def lower (text : String) : String :=
  String.ofList (text.toList.map Char.toLower)

@[simp] theorem lower_value (severity : AlertSeverity) :
    lower severity.value = severity.value := by
  cases severity <;> decide

variable {F : Type} [DecidableEq F] (cfg : StoreSettings F)

/-- The body of the loop of `_prefer_more_severe`. -/
def preferAnomaly (selected : OrderedDict F Anomaly) (anomaly : Anomaly) :
    OrderedDict F Anomaly :=
  let fingerprint := cfg.scheme.incidentFingerprint anomaly
  match selected.get? fingerprint with
  | none => selected.set fingerprint anomaly
  | some existing =>
      if severityRank existing.severity.value <
          severityRank anomaly.severity.value then
        selected.set fingerprint anomaly
      else selected

/-- `_prefer_more_severe`. -/
def preferMoreSevere (anomalies : List Anomaly) : OrderedDict F Anomaly :=
  anomalies.foldl (preferAnomaly cfg) OrderedDict.empty

/-- `_record`, with its `absent` argument. -/
def incidentRecord (fingerprint : F) (row : Row F) (absent : ℕ) :
    IncidentRecord F where
  fingerprint := fingerprint
  minionId := row.minionId
  metricName := row.metricName
  serviceName := row.serviceName
  resource := row.resource
  severity := row.severity
  startsAt := row.startsAt
  firstSeen := row.firstSeen
  lastSeen := row.lastSeen
  lastEmitted := row.lastEmitted
  consecutiveAbsent := absent
  payload := row.payloadJson

/-- The row selected by `minion_id = ? AND status = 'active'`. -/
def Row.activeFor (row : Row F) (minionId : String) : Bool :=
  row.minionId = minionId && row.status = .active

/-- The values of the `INSERT` for an incident that is not active. -/
def Row.opened (minionId : String) (anomaly : Anomaly) (observedAt : ℚ) :
    Row F where
  minionId := minionId
  metricName := anomaly.metricName
  serviceName := anomaly.serviceName.getD ""
  resource := anomaly.resource.getD ""
  severity := anomaly.severity.value
  lastEmittedSeverity := none
  status := .active
  firstSeen := observedAt
  lastSeen := observedAt
  lastEmitted := none
  consecutiveAbsent := 0
  startsAt := rfc3339 observedAt
  payloadJson := none
  resolvedAt := none

/-- The `ON CONFLICT(fingerprint) DO UPDATE` of the same statement. -/
def Row.reopened (row : Row F) (anomaly : Anomaly) (observedAt : ℚ) : Row F :=
  { row with
    severity := anomaly.severity.value
    lastEmittedSeverity := none
    status := .active
    firstSeen := observedAt
    lastSeen := observedAt
    lastEmitted := none
    consecutiveAbsent := 0
    startsAt := rfc3339 observedAt
    payloadJson := none
    resolvedAt := none }

def Row.observed (row : Row F) (anomaly : Anomaly) (observedAt : ℚ) : Row F :=
  { row with
    severity := anomaly.severity.value
    lastSeen := observedAt
    consecutiveAbsent := 0 }

/-- `escalated or cooldown_elapsed`, read from an active row. -/
def Row.notifiable (row : Row F) (anomaly : Anomaly) (observedAt : ℚ) : Bool :=
  let escalated :=
    decide (severityRank (row.lastEmittedSeverity.getD "") <
      severityRank anomaly.severity.value)
  let cooldownElapsed :=
    match row.lastEmitted with
    | none => true
    | some lastEmitted =>
        decide ((cfg.cooldownSeconds : ℚ) ≤ observedAt - lastEmitted)
  escalated || cooldownElapsed

/-- The body of the first loop of `reconcile`; `row?` is the active row. -/
def observeIncident (minionId : String) (observedAt : ℚ)
    (active : Table F) (acc : Table F × List (FiringIncident F))
    (entry : F × Anomaly) : Table F × List (FiringIncident F) :=
  let (fingerprint, anomaly) := entry
  let (table, firing) := acc
  match active.get? fingerprint with
  | none =>
      let row :=
        match table.get? fingerprint with
        | none => Row.opened minionId anomaly observedAt
        | some row => row.reopened anomaly observedAt
      (table.set fingerprint row,
        firing ++ [⟨anomaly, fingerprint, rfc3339 observedAt, none⟩])
  | some row =>
      (table.mapValues fun fingerprint' row' =>
          if fingerprint' = fingerprint then row'.observed anomaly observedAt
          else row',
        if row.notifiable cfg anomaly observedAt then
          firing ++ [⟨anomaly, fingerprint, row.startsAt, row.payloadJson⟩]
        else firing)

/-- The body of the second loop of `reconcile`. -/
def missIncident (current : OrderedDict F Anomaly)
    (acc : Table F × List (IncidentRecord F)) (entry : F × Row F) :
    Table F × List (IncidentRecord F) :=
  let (fingerprint, row) := entry
  let (table, resolved) := acc
  if (current.get? fingerprint).isSome then (table, resolved)
  else
    let absent := row.consecutiveAbsent + 1
    (table.mapValues fun fingerprint' row' =>
        if fingerprint' = fingerprint then
          { row' with consecutiveAbsent := absent }
        else row',
      if cfg.resolveAfterHealthyCycles ≤ absent then
        resolved ++ [incidentRecord fingerprint row absent]
      else resolved)

def reconcile (table : Table F) (minionId : String)
    (anomalies : List Anomaly) (observedAt : ℚ) :
    IncidentChanges F × Table F :=
  let current := preferMoreSevere cfg anomalies
  let active := table.filter fun entry => entry.2.activeFor minionId
  let (table, firing) :=
    current.entries.foldl (observeIncident cfg minionId observedAt active)
      (table, [])
  let (table, resolved) :=
    active.entries.foldl (missIncident cfg current) (table, [])
  (⟨firing, resolved⟩, table)

/-- The row `mark_emitted` writes when its `WHERE` clause selects the row. -/
def Row.emitted (row : Row F) (payload : AlertPayload F) (emittedAt : ℚ) :
    Row F :=
  let deliveredSeverity := lower payload.labels.severity
  { row with
    lastEmitted := some emittedAt
    lastEmittedSeverity :=
      some (if deliveredSeverity = "" then row.severity
        else deliveredSeverity)
    payloadJson := some payload }

def markEmitted (table : Table F) (fingerprint : F)
    (payload : AlertPayload F) (emittedAt : ℚ)
    (startsAt : Option Rfc3339) : Table F :=
  table.mapValues fun fingerprint' row =>
    if fingerprint' = fingerprint ∧ row.status = .active ∧
        (∀ s ∈ startsAt, row.startsAt = s) then
      row.emitted payload emittedAt
    else row

def isActionable (table : Table F) (fingerprint : F) (startsAt : Rfc3339) :
    Bool :=
  match table.get? fingerprint with
  | none => false
  | some row =>
      row.startsAt = startsAt && row.status = .active &&
        row.consecutiveAbsent = 0

def markResolved (table : Table F) (fingerprint : F) (resolvedAt : ℚ) :
    Table F :=
  table.mapValues fun fingerprint' row =>
    if fingerprint' = fingerprint ∧ row.status = .active then
      { row with status := .resolved, resolvedAt := some resolvedAt }
    else row

/-! ## Sample values -/

def failedUnit : Anomaly where
  minionId := "web"
  metricName := "service_down"
  currentValue := 1
  threshold := 1
  severity := .critical
  description := "Systemd service sshd.service is in failed state"
  serviceName := some "sshd.service"
  resource := none
  context := .service "OpenSSH server" "failed" "failed"

def busyCpu (severity : AlertSeverity) : Anomaly where
  minionId := "web"
  metricName := "cpu"
  currentValue := 97
  threshold := 80
  severity := severity
  description := "CPU usage at 97.0%"
  serviceName := none
  resource := some "host-cpu"
  context := .empty

def openQuestion : RootCauseAnalysis where
  summary := "No cause was found"
  conclusion := .inconclusive
  affectedComponent := "host"
  rootCause := "Unknown."
  supportingEvidenceIds := []
  keyEvidence := []
  remediation := []
  urgency := .high
  confidence := 1 / 2

end UyuniAgent.Incident
