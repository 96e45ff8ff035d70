import UyuniAgent.Alert.Payload

/-!
# The evidence ledger

`EvidenceRecord` and `EvidenceLedger` of `evidence.py`, and the ledger that
every investigation starts from.  Details that are not text are kept as they
are instead of as the JSON text that `add` renders them to.
-/

namespace UyuniAgent.Investigation

/-- The `details` argument of `add`. -/
inductive EvidenceDetails
  | text (rendered : String)
  | detector (value threshold : ℚ) (severity : String)
      (service resource : Option String) (context : AnomalyContext)
  | observation (observation : Observation)
  deriving DecidableEq

structure EvidenceRecord where
  id : String
  source : String
  target : String
  check : String
  status : EvidenceStatus
  summary : String
  details : EvidenceDetails
  observedAt : ℚ
  contradicts : List String
  deriving DecidableEq

structure EvidenceLedger where
  target : String
  records : List EvidenceRecord
  deriving DecidableEq

/-- `rendered[:limit] + "\n...[truncated]"`, for a text longer than that. -/
def truncated (limit : ℕ) (text : String) : String :=
  if limit < text.length then
    String.ofList (text.toList.take limit) ++ "\n...[truncated]"
  else text

def EvidenceDetails.bounded (limit : ℕ) : EvidenceDetails → EvidenceDetails
  | .text rendered => .text (truncated limit rendered)
  | details => details

def EvidenceLedger.add (ledger : EvidenceLedger) (source check : String)
    (status : EvidenceStatus) (summary : String) (details : EvidenceDetails)
    (target : Option String) (detailLimit : ℕ) (now : ℚ) : EvidenceLedger :=
  { ledger with
    records := ledger.records ++ [{
      id := "E" ++ toString (ledger.records.length + 1)
      source := source
      target := orText (target.getD "") ledger.target
      check := check
      status := status
      summary := summary
      details := details.bounded detailLimit
      observedAt := now
      contradicts := [] }] }

/-- The record of one observation of a telemetry anomaly. -/
def addObservation (source target : String) (now : ℚ)
    (ledger : EvidenceLedger) (observation : Observation) : EvidenceLedger :=
  ledger.add source observation.name observation.status
    (observation.name ++ " telemetry is " ++ observation.status.value)
    (.observation observation) (some target) 4000 now

def ledgerForAnomaly (anomaly : Anomaly) (now : ℚ) : EvidenceLedger :=
  let ledger := EvidenceLedger.add ⟨anomaly.minionId, []⟩ "detector"
    anomaly.metricName .ok anomaly.description
    (.detector anomaly.currentValue anomaly.threshold anomaly.severity.value
      anomaly.serviceName anomaly.resource anomaly.context)
    none 8000 now
  if anomaly.metricName = "telemetry_unavailable" then
    match anomaly.context with
    | .telemetry source _ target observations =>
        observations.foldl
          (addObservation (source.getD "prometheus") target now) ledger
    | _ => ledger
  else ledger

/-! ## The analysis of missing telemetry -/

/-- `", ".join(f"[{record.id}]" for record in records)`. -/
def citations (records : List EvidenceRecord) : String :=
  ", ".intercalate (records.map fun record => "[" ++ record.id ++ "]")

/-- `_telemetry_unavailable_analysis` before it is grounded. -/
def telemetryUnavailableAnalysis (anomaly : Anomaly)
    (ledger : EvidenceLedger) : RootCauseAnalysis :=
  let failed := ledger.records.filter (·.status ≠ .ok)
  let supporting :=
    (if failed.isEmpty then ledger.records else failed).take 3
  let salt := anomaly.context.source = some "salt"
  { summary := anomaly.description
    conclusion := .confirmed
    affectedComponent :=
      match anomaly.context with
      | .telemetry _ exporter _ _ => exporter
      | _ => "telemetry"
    rootCause :=
      if salt then
        "Salt cannot provide trustworthy inspection results for the " ++
          "configured minion " ++ citations supporting ++ "."
      else
        "Prometheus cannot provide trustworthy telemetry for the " ++
          "configured target " ++ citations supporting ++ "."
    supportingEvidenceIds := supporting.map (·.id)
    keyEvidence := supporting.map fun record =>
      "[" ++ record.id ++ "] " ++ record.summary
    remediation :=
      if salt then
        ["Check Salt minion connectivity and whether jobs return to the " ++
            "Uyuni server.",
          "Restore the Salt inspection path before evaluating service or " ++
            "database health."]
      else
        ["Check the Prometheus target status and the exporter process.",
          "Restore scraping, then wait for a fresh sample before " ++
            "evaluating system health."]
    urgency := .medium
    confidence := 1 }

end UyuniAgent.Investigation
