import UyuniAgent.Detector.Anomaly
import UyuniAgent.Support.Decimal

/-!
# Analyses and Alertmanager payloads

`RootCauseAnalysis` of `models.py` and the payloads that `alert_manager.py`
builds from it.  The labels of a payload are a record rather than a dictionary:
the three labels that are only written when they are non-empty are options, so
that equality of records is equality of the label dictionaries.
-/

namespace UyuniAgent

/-- The text of `_rfc3339`, which is determined by its UTC second. -/
structure Rfc3339 where
  second : ℤ
  deriving DecidableEq

/-- `_rfc3339`: `fromtimestamp` rounds to microseconds, and the rendering with
`timespec="seconds"` drops them. -/
def rfc3339 (timestamp : ℚ) : Rfc3339 where
  second := Decimal.roundHalfEven (timestamp * 10 ^ 6) / 10 ^ 6

/-- Timestamps at least one second apart have different renderings. -/
theorem rfc3339_second_lt {t t' : ℚ} (h : t + 1 ≤ t') :
    (rfc3339 t).second < (rfc3339 t').second := by
  have hmicros : t * 10 ^ 6 + ((2 * 500000 : ℤ) : ℚ) ≤ t' * 10 ^ 6 := by
    push_cast
    linarith
  have hrounded := Decimal.roundHalfEven_mono hmicros
  rw [Decimal.roundHalfEven_add_even] at hrounded
  simp only [rfc3339]
  omega

inductive Urgency
  | low
  | medium
  | high
  | critical
  deriving DecidableEq, Repr

def Urgency.value : Urgency → String
  | .low => "Low"
  | .medium => "Medium"
  | .high => "High"
  | .critical => "Critical"

inductive AnalysisConclusion
  | confirmed
  | inconclusive
  deriving DecidableEq, Repr

def AnalysisConclusion.value : AnalysisConclusion → String
  | .confirmed => "confirmed"
  | .inconclusive => "inconclusive"

structure RootCauseAnalysis where
  summary : String
  conclusion : AnalysisConclusion
  affectedComponent : String
  rootCause : String
  supportingEvidenceIds : List String
  keyEvidence : List String
  remediation : List String
  urgency : Urgency
  confidence : ℚ
  deriving DecidableEq

/-- `"\n".join(f"- {e}" for e in items)`. -/
def bulletLines (items : List String) : String :=
  "\n".intercalate (items.map fun item => "- " ++ item)

/-- `"\n".join(f"{i}. {s}" for i, s in enumerate(items, 1))`. -/
def numberedLines (items : List String) : String :=
  "\n".intercalate (items.mapIdx fun i item =>
    toString (i + 1) ++ ". " ++ item)

/-- `f"{confidence:.0%}"`. -/
def percentText (confidence : ℚ) : String :=
  Decimal.fixed 0 (confidence * 100) ++ "%"

/-- `text or fallback`. -/
def orText (text fallback : String) : String :=
  if text = "" then fallback else text

def RootCauseAnalysis.toText (analysis : RootCauseAnalysis) : String :=
  let evidence := orText (bulletLines analysis.keyEvidence) "- (none)"
  let steps := orText (numberedLines analysis.remediation) "1. (none)"
  "*Conclusion:* " ++ analysis.conclusion.value ++ "\n\n" ++
  "*Root Cause:* " ++ analysis.rootCause ++ "\n\n" ++
  "*Affected Component:* " ++ analysis.affectedComponent ++ "\n\n" ++
  "*Key Evidence:*\n" ++ evidence ++ "\n\n" ++
  "*Remediation:*\n" ++ steps ++ "\n\n" ++
  "*Urgency:* " ++ analysis.urgency.value ++ "  |  *Confidence:* " ++
  percentText analysis.confidence

/-! ## Payloads -/

structure Labels (F : Type) where
  alertname : String
  severity : String
  source : String
  minion : String
  metric : String
  incidentId : Option F
  service : Option String
  resource : Option String
  deriving DecidableEq

structure Annotations where
  summary : String
  conclusion : String
  rootCause : String
  affectedComponent : String
  supportingEvidenceIds : String
  keyEvidence : String
  remediation : String
  urgency : String
  confidence : String
  description : String
  deriving DecidableEq

structure AlertPayload (F : Type) where
  labels : Labels F
  annotations : Annotations
  startsAt : Rfc3339
  endsAt : Option Rfc3339
  deriving DecidableEq

/-- `if value: labels[...] = value`, for a text that may be empty. -/
def nonEmpty (text : String) : Option String :=
  if text = "" then none else some text

variable {F : Type}

/-- The labels `build_alert_payload` gives an incident at a severity. -/
def alertLabels (severity : AlertSeverity) (anomaly : Anomaly)
    (incidentId : F) : Labels F where
  alertname := "AIAgentResponse"
  severity := severity.value
  source := "ai-bot"
  minion := anomaly.minionId
  metric := anomaly.metricName
  incidentId := some incidentId
  service := nonEmpty (anomaly.serviceName.getD "")
  resource := nonEmpty (anomaly.resource.getD "")

def analysisAnnotations (analysis : RootCauseAnalysis) : Annotations where
  summary := analysis.summary
  conclusion := analysis.conclusion.value
  rootCause := analysis.rootCause
  affectedComponent := analysis.affectedComponent
  supportingEvidenceIds := ",".intercalate analysis.supportingEvidenceIds
  keyEvidence := bulletLines analysis.keyEvidence
  remediation := numberedLines analysis.remediation
  urgency := analysis.urgency.value
  confidence := percentText analysis.confidence
  description := analysis.toText

/-- `build_alert_payload`, as `_process_firing_investigation` calls it: for
the anomaly of a firing incident. -/
def buildAlertPayload (analysis : RootCauseAnalysis) (anomaly : Anomaly)
    (incidentId : F) (startsAt : Rfc3339) : AlertPayload F where
  labels := alertLabels anomaly.severity anomaly incidentId
  annotations := analysisAnnotations analysis
  startsAt := startsAt
  endsAt := none

/-- `build_resolved_payload`: the firing payload with an end time. -/
def buildResolvedPayload (payload : AlertPayload F) (endsAt : Rfc3339) :
    AlertPayload F :=
  { payload with endsAt := some endsAt }

@[simp] theorem buildAlertPayload_labels
    (analysis : RootCauseAnalysis) (anomaly : Anomaly) (incidentId : F)
    (startsAt : Rfc3339) :
    (buildAlertPayload analysis anomaly incidentId startsAt).labels =
      alertLabels anomaly.severity anomaly incidentId := rfl

@[simp] theorem buildResolvedPayload_labels
    (payload : AlertPayload F) (endsAt : Rfc3339) :
    (buildResolvedPayload payload endsAt).labels = payload.labels := rfl

end UyuniAgent
