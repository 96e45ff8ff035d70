import UyuniAgent.Detector.Findings

/-!
# Output that is neither a result nor a failure

The two Salt checks look for the failure texts of Salt and otherwise read what
they can.  Text that holds neither a failure nor a result is read as an empty
result.  What a result looks like is stated here from the commands of the two
inspections, not from the parsers.
-/

namespace UyuniAgent

open PyValue (get)
open Raising

/-! ## The array of the lock query -/

/-- What a column of the lock query can hold. -/
inductive LockColumn
  | pid
  | seconds
  | text
  | nullableText

def LockColumn.accepts : LockColumn → PyValue → Bool
  | .pid, .int n => 0 < n
  | .seconds, .int n => 0 ≤ n
  | .text, .str _ => true
  | .nullableText, .str _ => true
  | .nullableText, .none => true
  | _, _ => false

/-- The columns of `lock_pairs` in order. -/
def lockColumns : List (String × LockColumn) :=
  [("blocked_pid", .pid), ("database", .text), ("blocked_user", .text),
    ("blocked_application", .text), ("blocked_client", .text),
    ("blocked_state", .nullableText), ("wait_event_type", .text),
    ("wait_event", .nullableText), ("blocked_seconds", .seconds),
    ("blocked_query_id", .text), ("blocked_command", .text),
    ("blocker_pid", .pid), ("blocker_user", .text),
    ("blocker_application", .text), ("blocker_client", .text),
    ("blocker_state", .nullableText),
    ("blocker_wait_event_type", .nullableText),
    ("blocker_transaction_seconds", .seconds), ("blocker_query_id", .text),
    ("blocker_command", .text)]

def isLockRow : PyValue → Bool
  | .dict members =>
      members.map (·.1) = lockColumns.map (·.1) &&
        (lockColumns.zip members).all (fun column =>
          column.1.2.accepts column.2.2) &&
        isLockWait (get members "wait_event_type")
  | _ => false

/-- `LIMIT 100` rows of the query, or the empty array. -/
def isLockArray : PyValue → Bool
  | .list rows => rows.length ≤ 100 && rows.all isLockRow
  | _ => false

/-- The contiguous parts of a text that begin like an array. -/
def arrayTexts (text : String) : List String :=
  ((text.toList.tails.filter (·.head? = some '[')).flatMap List.inits).map
    String.ofList

/-- Some part of the text is an array that the query could have printed. -/
def holdsLockArray (py : Interpreter) (text : String) : Bool :=
  (arrayTexts text).any fun part =>
    match Json.loads py part with
    | .ok value => isLockArray value
    | .error _ => false

/-! ## The rows of `systemctl list-units` -/

def unitTypes : List String :=
  [".service", ".socket", ".device", ".mount", ".automount", ".swap",
    ".target", ".path", ".timer", ".slice", ".scope"]

def unitLoadStates : List String :=
  ["stub", "loaded", "not-found", "bad-setting", "error", "merged", "masked"]

def unitActiveStates : List String :=
  ["active", "reloading", "inactive", "failed", "activating", "deactivating",
    "maintenance", "refreshing"]

/-- The line begins with a unit name, a load, an active and a sub state. -/
def isUnitRow (rawLine : String) : Bool :=
  let line := PyText.strip (PyText.lstripChar '●' (PyText.strip rawLine))
  match PyText.split line 4 with
  | name :: loadState :: activeState :: _ :: _ =>
      unitTypes.any (PyText.endsWith name) && loadState ∈ unitLoadStates &&
        activeState ∈ unitActiveStates
  | _ => false

def holdsUnitRow (text : String) : Bool :=
  (PyText.splitlines text).any isUnitRow

/-! ## Failures -/

/-- One of the failure texts of Salt stands in the output. -/
def holdsFailure (output : String) : Bool :=
  saltFailureMarkers.any
    (PyText.contains (PyText.lower (PyText.strip output)))

theorem saltInspectionFailure_of_holdsFailure {output : String}
    (h : holdsFailure output = true) :
    ∃ failure, saltInspectionFailure (.str output) = some failure := by
  rw [holdsFailure] at h
  exact ⟨PyText.take 500 (PyText.strip output), by
    simp [saltInspectionFailure, h]⟩

theorem saltInspectionFailure_of_not_holdsFailure {output : String}
    (h : holdsFailure output = false) :
    saltInspectionFailure (.str output) = none := by
  rw [holdsFailure] at h
  simp [saltInspectionFailure, h]

/-- Some anomaly says that telemetry is unavailable. -/
def ReportsTelemetry (anomalies : List Anomaly) : Prop :=
  ∃ anomaly ∈ anomalies, anomaly.metricName = "telemetry_unavailable"

theorem postgresBlockingAnomalies_not_reports {lockPairs : List LockPair}
    {band : ThresholdBand} {minionId : String} {anomalies : List Anomaly}
    (h : postgresBlockingAnomalies lockPairs band minionId = .ok anomalies) :
    ¬ReportsTelemetry anomalies := by
  rintro ⟨anomaly, hmem, hmetric⟩
  rw [(mem_postgresBlockingAnomalies h hmem).2] at hmetric
  exact absurd hmetric (by decide)

variable {py : Interpreter} {config : DetectionConfig} {minionId : String}

/-- The lock check reports missing telemetry exactly on the failure texts. -/
theorem lockCheck_reports_iff {output : String} :
    (∃ anomalies, checkPostgresBlockedTransactions py config minionId
        (.str output) = .ok anomalies ∧ ReportsTelemetry anomalies) ↔
      holdsFailure output = true := by
  constructor
  · rintro ⟨anomalies, hcheck, hreports⟩
    by_contra hnone
    rw [Bool.not_eq_true] at hnone
    simp only [checkPostgresBlockedTransactions,
      saltInspectionFailure_of_not_holdsFailure hnone] at hcheck
    obtain ⟨pairs, -, hblocking⟩ := bind_eq_ok_iff.mp hcheck
    exact postgresBlockingAnomalies_not_reports hblocking hreports
  · intro hfailure
    obtain ⟨failure, hfound⟩ := saltInspectionFailure_of_holdsFailure hfailure
    refine ⟨[saltTelemetryAnomaly minionId "postgres_lock_discovery" failure],
      ?_, ?_⟩
    · simp only [checkPostgresBlockedTransactions, hfound]
    · exact ⟨_, List.mem_singleton_self _, rfl⟩

/-- The service check reports missing telemetry exactly on the failure
texts. -/
theorem serviceCheck_reports_iff {output : String} :
    ReportsTelemetry (checkFailedServices config minionId (.str output)) ↔
      holdsFailure output = true := by
  constructor
  · rintro ⟨anomaly, hmem, hmetric⟩
    by_contra hnone
    rw [Bool.not_eq_true] at hnone
    simp only [checkFailedServices,
      saltInspectionFailure_of_not_holdsFailure hnone] at hmem
    obtain ⟨service, -, rfl⟩ := List.mem_map.mp hmem
    exact absurd hmetric (by simp [serviceAnomaly])
  · intro hfailure
    obtain ⟨failure, hfound⟩ := saltInspectionFailure_of_holdsFailure hfailure
    refine ⟨saltTelemetryAnomaly minionId "systemd_service_discovery" failure,
      ?_, rfl⟩
    simp [checkFailedServices, hfound]

/-! ## Unrecognised output -/

/-- Output without an array of the lock query is missing telemetry. -/
def LockOutputRecognised (py : Interpreter) (config : DetectionConfig)
    (minionId output : String) : Prop :=
  holdsLockArray py output = false →
    ∃ anomalies, checkPostgresBlockedTransactions py config minionId
        (.str output) = .ok anomalies ∧ ReportsTelemetry anomalies

/-- Output without a row of `systemctl`, but not the empty one, is missing
telemetry. -/
def ServiceOutputRecognised (config : DetectionConfig)
    (minionId output : String) : Prop :=
  output ≠ "" → holdsUnitRow output = false →
    ReportsTelemetry (checkFailedServices config minionId (.str output))

/-- Output is taken for what it is when it holds a failure text of Salt, or a
result of its command; for the services also when it is empty. -/
theorem output_recognised_iff (py : Interpreter) (config : DetectionConfig)
    (minionId output : String) :
    (LockOutputRecognised py config minionId output ↔
        holdsFailure output = true ∨ holdsLockArray py output = true) ∧
      (ServiceOutputRecognised config minionId output ↔
        holdsFailure output = true ∨ output = "" ∨
          holdsUnitRow output = true) := by
  constructor
  · rw [LockOutputRecognised, lockCheck_reports_iff]
    rcases holdsLockArray py output with _ | _
    · simp
    · simp
  · rw [ServiceOutputRecognised, serviceCheck_reports_iff]
    by_cases hempty : output = ""
    · simp [hempty]
    · rcases holdsUnitRow output with _ | _
      · simp [hempty]
      · simp

/-- The error text of `psql` is read as a database without lock waits, and as a
host without failed services. -/
theorem psql_error_is_health :
    ¬∀ (py : Interpreter) (config : DetectionConfig)
      (minionId output : String),
      LockOutputRecognised py config minionId output ∧
        ServiceOutputRecognised config minionId output := by
  intro hall
  let py : Interpreter := ⟨1000, fun _ => ""⟩
  let output : String := "psql: error: connection refused"
  obtain ⟨hlock, hservice⟩ := hall py .plain "db" output
  have hunreported : holdsFailure output = false := by decide +kernel
  obtain ⟨anomalies, hanomalies⟩ := hlock (by decide +kernel)
  have hreported := lockCheck_reports_iff.mp ⟨anomalies, hanomalies⟩
  rw [hunreported] at hreported
  cases hreported

end UyuniAgent
