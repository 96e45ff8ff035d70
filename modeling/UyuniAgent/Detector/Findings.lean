import UyuniAgent.Detector.Checks

/-!
# What findings rest on

A finding carries the ID of its minion, and what its check needs has come in:
the readings of its metric, or the output of its inspection.
-/

namespace UyuniAgent

open Raising

/-! ## Readings of a check -/

/-- The readings that the check of a metric needs. -/
def neededReadings : List (String × List String) :=
  [("memory_pressure", ["memory_available_bytes", "memory_total_bytes"]),
    ("cpu", ["cpu_percent"]), ("disk", ["filesystems"]),
    ("apache_busy_workers", ["apache_busy_workers_percent"]),
    ("apache_requests", ["apache_requests_per_sec"]),
    ("postgres_connections", ["postgres_active_connections_percent"]),
    ("postgres_deadlocks", ["postgres_deadlocks_per_min"])]

/-- A reading of this name has a value. -/
def Metrics.obtained (metrics : Metrics) (name : String) : Bool :=
  metrics.telemetry.any fun reading =>
    reading.name = name && reading.status = .ok

def Metrics.obtainedFor (metrics : Metrics) (metric : String) : Bool :=
  ((neededReadings.lookup metric).getD []).all metrics.obtained

structure RestsOnData (minionId : String) (metrics : Metrics)
    (anomaly : Anomaly) : Prop where
  minion : anomaly.minionId = minionId
  metric : anomaly.metricName = "telemetry_unavailable" ∨
    (neededReadings.lookup anomaly.metricName).isSome = true
  obtained : metrics.obtainedFor anomaly.metricName = true

/-! ## Readings that have come in -/

theorem MetricReading.ok_of_number? {reading : MetricReading}
    (h : reading.number?.isSome = true) : reading.status = .ok := by
  by_contra hstatus
  simp [number?, usable, hstatus] at h

theorem MetricReading.ok_of_filesystems {reading : MetricReading}
    (h : reading.filesystems ≠ []) : reading.status = .ok := by
  by_contra hstatus
  simp [filesystems, usable, hstatus] at h

theorem scalarReading_ok {name target exporter : String}
    {outcome : QueryOutcome ℚ} (h : outcome.number?.isSome = true) :
    (scalarReading name target exporter outcome).status = .ok := by
  rcases outcome with ⟨value, observedAt⟩ | ⟨failure, observedAt, error⟩
  · rfl
  · cases h

@[simp] theorem scalarReading_name {name target exporter : String}
    {outcome : QueryOutcome ℚ} :
    (scalarReading name target exporter outcome).name = name := by
  rcases outcome with _ | _
  · rfl
  · rfl

theorem getApacheBusyWorkersPercent_name {target : String}
    {busy idle : QueryOutcome ℚ} :
    (getApacheBusyWorkersPercent target busy idle).name =
      "apache_busy_workers_percent" := by
  rcases busy with ⟨busyWorkers, busyAt⟩ | ⟨failure, failedAt, error⟩
  · rcases idle with ⟨idleWorkers, idleAt⟩ | ⟨failure, failedAt, error⟩
    · simp only [getApacheBusyWorkersPercent, scalarReading,
        MetricReading.number?, MetricReading.usable, Option.isSome_some,
        decide_true, Bool.and_self]
      split
      · rfl
      · rfl
    · rcases failure with _ | _ | _
      all_goals rfl
  · rcases failure with _ | _ | _
    all_goals rfl

theorem getPostgresActiveConnectionsPercent_name {target : String}
    {backends maximum : QueryOutcome ℚ} :
    (getPostgresActiveConnectionsPercent target backends maximum).name =
      "postgres_active_connections_percent" := by
  rcases backends with ⟨connections, backendsAt⟩ | ⟨failure, failedAt, error⟩
  · rcases maximum with ⟨limit, maximumAt⟩ | ⟨failure, failedAt, error⟩
    · simp only [getPostgresActiveConnectionsPercent, scalarReading,
        MetricReading.number?, MetricReading.usable, Option.isSome_some,
        decide_true, Bool.and_self]
      split
      · rfl
      · rfl
    · rcases failure with _ | _ | _
      all_goals rfl
  · rcases failure with _ | _ | _
    all_goals rfl

theorem getFilesystemUsagePercent_name {target : String}
    {outcome : QueryOutcome (List FilesystemSample)} :
    (getFilesystemUsagePercent target outcome).name = "filesystems" := by
  rcases outcome with ⟨samples, observedAt⟩ | ⟨failure, observedAt, error⟩
  · simp only [getFilesystemUsagePercent]
    split
    · rfl
    · rfl
  · rfl

section Obtained

variable {minion : Minion} {answers : PrometheusAnswers}

theorem Metrics.obtained_of_mem {metrics : Metrics} {reading : MetricReading}
    {name : String} (hmem : reading ∈ metrics.telemetry)
    (hname : reading.name = name) (hok : reading.status = .ok) :
    metrics.obtained name = true := by
  apply List.any_eq_true.mpr
  exact ⟨reading, hmem, by simp [hname, hok]⟩

theorem obtained_memory (h :
    (getAllMetrics minion answers).memoryPressure.memoryUsagePercent.isSome =
      true) :
    (getAllMetrics minion answers).obtainedFor "memory_pressure" = true := by
  have husage : (memoryUsagePercent
      answers.memory.memoryAvailableBytes.number?
      answers.memory.memoryTotalBytes.number?).isSome = true := h
  have hboth : answers.memory.memoryAvailableBytes.number?.isSome = true ∧
      answers.memory.memoryTotalBytes.number?.isSome = true := by
    unfold memoryUsagePercent at husage
    split at husage
    next havailable htotal => simp [havailable, htotal]
    next => cases husage
  have hreading {name : String} {outcome : QueryOutcome ℚ}
      (hmem : scalarReading name minion.instanceName "node_exporter" outcome ∈
        answers.memory.readings minion.instanceName)
      (hsome : outcome.number?.isSome = true) :
      (getAllMetrics minion answers).obtained name = true := by
    have htelemetry : scalarReading name minion.instanceName "node_exporter"
        outcome ∈ (getAllMetrics minion answers).telemetry := by
      simp [getAllMetrics, hmem]
    exact Metrics.obtained_of_mem htelemetry scalarReading_name
      (scalarReading_ok hsome)
  have hnames : neededReadings.lookup "memory_pressure" =
      some ["memory_available_bytes", "memory_total_bytes"] := rfl
  rw [Metrics.obtainedFor, hnames]
  simp only [Option.getD_some, List.all_cons, List.all_nil, Bool.and_true,
    Bool.and_eq_true]
  constructor
  · exact hreading (by simp [MemoryAnswers.readings]) hboth.1
  · exact hreading (by simp [MemoryAnswers.readings]) hboth.2

/-- A finding of a check that needs one reading. -/
theorem RestsOnData.of_reading {metric name : String} {anomaly : Anomaly}
    (reading : MetricReading)
    (hneeded : neededReadings.lookup metric = some [name])
    (hminion : anomaly.minionId = minion.id)
    (hmetric : anomaly.metricName = metric)
    (hmem : reading ∈ (getAllMetrics minion answers).telemetry)
    (hname : reading.name = name) (hok : reading.status = .ok) :
    RestsOnData minion.id (getAllMetrics minion answers) anomaly := by
  refine ⟨hminion, ?_, ?_⟩
  · rw [hmetric, hneeded]
    exact Or.inr rfl
  · rw [hmetric, Metrics.obtainedFor, hneeded]
    simpa using Metrics.obtained_of_mem hmem hname hok

end Obtained

/-! ## Findings of one check -/

theorem checkThreshold_eq_some {value : Option ℚ} {thresholds : ThresholdBand}
    {minionId metricName label : String} {anomaly : Anomaly}
    (h : checkThreshold value thresholds minionId metricName label =
      some anomaly) :
    value.isSome = true ∧ anomaly.minionId = minionId ∧
      anomaly.metricName = metricName := by
  unfold checkThreshold at h
  split at h
  · cases h
  · refine ⟨rfl, ?_⟩
    split at h
    · obtain rfl := Option.some.inj h
      exact ⟨rfl, rfl⟩
    · obtain rfl := Option.some.inj h
      exact ⟨rfl, rfl⟩
    · cases h

theorem memoryPressureAnomaly_eq_some {memory : MemoryPressure}
    {cpuUsagePercent : Option ℚ} {thresholds : Thresholds} {minionId : String}
    {anomaly : Anomaly}
    (h : memoryPressureAnomaly memory cpuUsagePercent thresholds minionId =
      some anomaly) :
    memory.memoryUsagePercent.isSome = true ∧ anomaly.minionId = minionId ∧
      anomaly.metricName = "memory_pressure" := by
  unfold memoryPressureAnomaly at h
  split at h
  · cases h
  next husage =>
    split at h
    · cases h
    · obtain rfl := Option.some.inj h
      exact ⟨by rw [husage]; rfl, rfl, rfl⟩

theorem exporterAnomaly_eq_some {minionId exporter : String}
    {telemetry : List MetricReading} {required : List String}
    {anomaly : Anomaly}
    (h : exporterAnomaly minionId telemetry exporter required =
      some anomaly) :
    anomaly.minionId = minionId ∧
      anomaly.metricName = "telemetry_unavailable" := by
  unfold exporterAnomaly at h
  split at h
  · cases h
  · simp only at h
    split at h
    · cases h
    · obtain rfl := Option.some.inj h
      exact ⟨rfl, rfl⟩

section Checks

variable {config : DetectionConfig} {minion : Minion}
  {answers : PrometheusAnswers} {anomaly : Anomaly}

theorem restsOnData_of_telemetry
    (h : anomaly ∈ telemetryAnomalies (getAllMetrics minion answers)
      minion.id) :
    RestsOnData minion.id (getAllMetrics minion answers) anomaly := by
  obtain ⟨entry, -, hentry⟩ := List.mem_filterMap.mp h
  obtain ⟨hminion, hmetric⟩ := exporterAnomaly_eq_some hentry
  refine ⟨hminion, Or.inl hmetric, ?_⟩
  rw [hmetric]
  rfl

theorem restsOnData_of_cpu {thresholds : Thresholds}
    (h : cpuAnomaly (getAllMetrics minion answers) thresholds minion.id =
      some anomaly) :
    RestsOnData minion.id (getAllMetrics minion answers) anomaly := by
  obtain ⟨checked, hchecked, rfl⟩ := Option.map_eq_some_iff.mp h
  obtain ⟨hvalue, hminion, hmetric⟩ := checkThreshold_eq_some hchecked
  refine RestsOnData.of_reading (scalarReading "cpu_percent"
    minion.instanceName "node_exporter" answers.cpu) rfl hminion hmetric ?_
    scalarReading_name (MetricReading.ok_of_number? hvalue)
  simp [getAllMetrics]

theorem restsOnData_of_filesystem {thresholds : ThresholdBand}
    (h : anomaly ∈ filesystemAnomalies
      (getAllMetrics minion answers).filesystems thresholds minion.id) :
    RestsOnData minion.id (getAllMetrics minion answers) anomaly := by
  obtain ⟨filesystem, hfilesystem, hsome⟩ := List.mem_filterMap.mp h
  obtain ⟨checked, hchecked, rfl⟩ := Option.map_eq_some_iff.mp hsome
  obtain ⟨-, hminion, hmetric⟩ := checkThreshold_eq_some hchecked
  refine RestsOnData.of_reading
    (getFilesystemUsagePercent minion.instanceName answers.filesystems) rfl
    hminion hmetric ?_ getFilesystemUsagePercent_name
    (MetricReading.ok_of_filesystems (List.ne_nil_of_mem hfilesystem))
  simp [getAllMetrics]

theorem restsOnData_of_apache {thresholds : Thresholds} {target : String}
    (htarget : present minion.apacheInstance = some target)
    (h : anomaly ∈ apacheAnomalies (getAllMetrics minion answers) thresholds
      minion.id target) :
    RestsOnData minion.id (getAllMetrics minion answers) anomaly := by
  rcases List.mem_append.mp h with hbusy | hrequests
  · obtain ⟨checked, hchecked, rfl⟩ :=
      Option.map_eq_some_iff.mp (Option.mem_toList.mp hbusy)
    obtain ⟨hvalue, hminion, hmetric⟩ := checkThreshold_eq_some hchecked
    simp only [getAllMetrics, htarget, Option.bind_some] at hvalue
    refine RestsOnData.of_reading _ rfl hminion hmetric ?_
      getApacheBusyWorkersPercent_name (MetricReading.ok_of_number? hvalue)
    simp [getAllMetrics, htarget, apacheReadings]
  · obtain ⟨checked, hchecked, rfl⟩ :=
      Option.map_eq_some_iff.mp (Option.mem_toList.mp hrequests)
    obtain ⟨hvalue, hminion, hmetric⟩ := checkThreshold_eq_some hchecked
    simp only [getAllMetrics, htarget, Option.bind_some] at hvalue
    refine RestsOnData.of_reading (scalarReading "apache_requests_per_sec"
      target "apache_exporter" answers.apacheRequestsPerSec) rfl hminion
      hmetric ?_ scalarReading_name (scalarReading_ok hvalue)
    simp [getAllMetrics, htarget, apacheReadings]

theorem restsOnData_of_postgres {thresholds : Thresholds} {target : String}
    (htarget : present minion.postgresInstance = some target)
    (h : anomaly ∈ postgresAnomalies (getAllMetrics minion answers) thresholds
      minion.id target) :
    RestsOnData minion.id (getAllMetrics minion answers) anomaly := by
  rcases List.mem_append.mp h with hconnections | hdeadlocks
  · obtain ⟨checked, hchecked, rfl⟩ :=
      Option.map_eq_some_iff.mp (Option.mem_toList.mp hconnections)
    obtain ⟨hvalue, hminion, hmetric⟩ := checkThreshold_eq_some hchecked
    simp only [getAllMetrics, htarget, Option.bind_some] at hvalue
    refine RestsOnData.of_reading _ rfl hminion hmetric ?_
      getPostgresActiveConnectionsPercent_name
      (MetricReading.ok_of_number? hvalue)
    simp [getAllMetrics, htarget, postgresReadings]
  · obtain ⟨hvalue, hminion, hmetric⟩ :=
      checkThreshold_eq_some (Option.mem_toList.mp hdeadlocks)
    simp only [getAllMetrics, htarget, Option.bind_some] at hvalue
    refine RestsOnData.of_reading (scalarReading "postgres_deadlocks_per_min"
      target "postgres_exporter" answers.postgresDeadlocksPerMin) rfl hminion
      hmetric ?_ scalarReading_name (scalarReading_ok hvalue)
    simp [getAllMetrics, htarget, postgresReadings]

/-- Every finding of the metrics rests on the readings of its check. -/
theorem checkAllMetrics_restsOnData
    (h : anomaly ∈ checkAllMetrics config minion
      (getAllMetrics minion answers)) :
    RestsOnData minion.id (getAllMetrics minion answers) anomaly := by
  simp only [checkAllMetrics, List.mem_append, Option.mem_toList] at h
  rcases h with ((((htelemetry | hmemory) | hcpu) | hdisk) | hapache) |
    hpostgres
  · exact restsOnData_of_telemetry htelemetry
  · obtain ⟨husage, hminion, hmetric⟩ := memoryPressureAnomaly_eq_some hmemory
    refine ⟨hminion, Or.inr (by rw [hmetric]; rfl), ?_⟩
    rw [hmetric]
    exact obtained_memory husage
  · split at hcpu
    · cases hcpu
    · exact restsOnData_of_cpu hcpu
  · exact restsOnData_of_filesystem hdisk
  · rcases htarget : present minion.apacheInstance with _ | target
    · simp [htarget] at hapache
    · rw [htarget] at hapache
      exact restsOnData_of_apache htarget hapache
  · rcases htarget : present minion.postgresInstance with _ | target
    · simp [htarget] at hpostgres
    · rw [htarget] at hpostgres
      exact restsOnData_of_postgres htarget hpostgres

end Checks

/-! ## Findings of Salt inspections -/

theorem mem_checkFailedServices {config : DetectionConfig} {minionId : String}
    {output : PyValue} {anomaly : Anomaly}
    (h : anomaly ∈ checkFailedServices config minionId output) :
    anomaly.minionId = minionId ∧
      (anomaly.metricName = "telemetry_unavailable" ∨
        (anomaly.metricName = "service_down" ∧
          saltInspectionFailure output = none)) := by
  unfold checkFailedServices at h
  split at h
  · obtain rfl := List.mem_singleton.mp h
    exact ⟨rfl, Or.inl rfl⟩
  next hnone =>
    obtain ⟨service, -, rfl⟩ := List.mem_map.mp h
    exact ⟨rfl, Or.inr ⟨rfl, hnone⟩⟩

theorem blockedTransactionAnomaly_eq_ok {minionId database : String}
    {warning critical : ℤ} {pairs : List LockPair} {anomaly : Anomaly}
    (h : blockedTransactionAnomaly minionId warning critical database pairs =
      .ok anomaly) :
    anomaly.minionId = minionId ∧
      anomaly.metricName = "postgres_blocked_transaction" := by
  obtain ⟨currentValue, -, h⟩ := bind_eq_ok_iff.mp h
  obtain rfl := Except.ok.inj h
  exact ⟨rfl, rfl⟩

theorem mem_postgresBlockingAnomalies {lockPairs : List LockPair}
    {band : ThresholdBand} {minionId : String} {anomalies : List Anomaly}
    (h : postgresBlockingAnomalies lockPairs band minionId = .ok anomalies)
    {anomaly : Anomaly} (hmem : anomaly ∈ anomalies) :
    anomaly.minionId = minionId ∧
      anomaly.metricName = "postgres_blocked_transaction" := by
  obtain ⟨warning, -, h⟩ := bind_eq_ok_iff.mp h
  obtain ⟨critical, -, h⟩ := bind_eq_ok_iff.mp h
  obtain ⟨database, -, hanomaly⟩ := mem_of_mapM_eq_ok h hmem
  exact blockedTransactionAnomaly_eq_ok hanomaly

theorem mem_checkPostgresBlockedTransactions {py : Interpreter}
    {config : DetectionConfig} {minionId : String} {output : PyValue}
    {anomalies : List Anomaly}
    (h : checkPostgresBlockedTransactions py config minionId output =
      .ok anomalies)
    {anomaly : Anomaly} (hmem : anomaly ∈ anomalies) :
    anomaly.minionId = minionId ∧
      (anomaly.metricName = "telemetry_unavailable" ∨
        (anomaly.metricName = "postgres_blocked_transaction" ∧
          saltInspectionFailure output = none)) := by
  unfold checkPostgresBlockedTransactions at h
  split at h
  · obtain rfl := Except.ok.inj h
    obtain rfl := List.mem_singleton.mp hmem
    exact ⟨rfl, Or.inl rfl⟩
  next hnone =>
    obtain ⟨pairs, -, h⟩ := bind_eq_ok_iff.mp h
    obtain ⟨hminion, hmetric⟩ := mem_postgresBlockingAnomalies h hmem
    exact ⟨hminion, Or.inr ⟨hmetric, hnone⟩⟩

end UyuniAgent
