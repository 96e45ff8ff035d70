import UyuniAgent.Detector.AlertLevel

/-!
# Blind spots

`telemetry_anomalies` reports an exporter by the names of its required
readings, and `check_all_metrics` evaluates numbers that are derived from
several readings.  The two views agree on Apache and PostgreSQL.  On the node
exporter they differ: the swap readings are required nowhere, and a total
memory that is not positive is a good reading without a memory usage.
-/

namespace UyuniAgent

/-! ## The signals of a minion -/

/-- What `check_all_metrics` consults. -/
inductive Signal
  | memoryUsage
  | swapActivity
  | swapUsage
  | cpu
  | filesystems
  | apacheBusyWorkers
  | apacheRequests
  | postgresConnections
  | postgresDeadlocks
  deriving DecidableEq

namespace Signal

def exporter : Signal → String
  | .memoryUsage | .swapActivity | .swapUsage | .cpu | .filesystems =>
      "node_exporter"
  | .apacheBusyWorkers | .apacheRequests => "apache_exporter"
  | .postgresConnections | .postgresDeadlocks => "postgres_exporter"

/-- The minion has the exporter of the signal. -/
def consulted (minion : Minion) : Signal → Bool
  | .apacheBusyWorkers | .apacheRequests =>
      (present minion.apacheInstance).isSome
  | .postgresConnections | .postgresDeadlocks =>
      (present minion.postgresInstance).isSome
  | _ => true

/-- The readings that the number of the signal is derived from. -/
def readings : Signal → List String
  | .memoryUsage => ["memory_available_bytes", "memory_total_bytes"]
  | .swapActivity => ["swap_in_pages_per_second", "swap_out_pages_per_second"]
  | .swapUsage => ["swap_total_bytes", "swap_free_bytes"]
  | .cpu => ["cpu_percent"]
  | .filesystems => ["filesystems"]
  | .apacheBusyWorkers => ["apache_busy_workers_percent"]
  | .apacheRequests => ["apache_requests_per_sec"]
  | .postgresConnections => ["postgres_active_connections_percent"]
  | .postgresDeadlocks => ["postgres_deadlocks_per_min"]

/-- The numbers that the check of the signal compares with its thresholds. -/
def numbers (metrics : Metrics) : Signal → List ℚ
  | .memoryUsage => metrics.memoryPressure.memoryUsagePercent.toList
  | .swapActivity => metrics.memoryPressure.swapActivityPagesPerSecond.toList
  | .swapUsage => metrics.memoryPressure.swapUsagePercent.toList
  | .cpu => metrics.cpuPercent.toList
  | .filesystems => metrics.filesystems.map (·.usagePercent)
  | .apacheBusyWorkers => metrics.apacheBusyWorkersPercent.toList
  | .apacheRequests => metrics.apacheRequestsPerSec.toList
  | .postgresConnections => metrics.postgresActiveConnectionsPercent.toList
  | .postgresDeadlocks => metrics.postgresDeadlocksPerMin.toList

/-- The check of the signal has a number. -/
def hasNumber (metrics : Metrics) (signal : Signal) : Bool :=
  !(signal.numbers metrics).isEmpty

/-- The check of the signal has a number, and it comes from good readings. -/
def evaluated (metrics : Metrics) (signal : Signal) : Bool :=
  signal.hasNumber metrics && signal.readings.all metrics.obtained

end Signal

/-- One of the anomalies says that the exporter is unavailable. -/
def ReportsExporter (exporter : String) (anomalies : List Anomaly) : Prop :=
  ∃ anomaly ∈ anomalies, anomaly.metricName = "telemetry_unavailable" ∧
    ∃ source target observations,
      anomaly.context = .telemetry source exporter target observations

/-- Every signal of the minion is evaluated, or its exporter is reported. -/
def NoBlindSpot (config : DetectionConfig) (minion : Minion)
    (answers : PrometheusAnswers) : Prop :=
  ∀ signal : Signal, signal.consulted minion = true →
    signal.evaluated (getAllMetrics minion answers) = true ∨
      ReportsExporter signal.exporter
        (checkAllMetrics config minion (getAllMetrics minion answers))

/-! ## The numbers of the checks -/

theorem not_isEmpty_toList {number : Option ℚ} :
    (!number.toList.isEmpty) = number.isSome := by
  cases number with
  | none => rfl
  | some _ => rfl

/-- `check_all_metrics` evaluates the numbers of the consulted signals and no
others: the severities that it reports depend on them and on the telemetry
alone. -/
theorem alertsAt_iff_of_numbers {config : DetectionConfig} {minion : Minion}
    {first second : Metrics}
    (htelemetry : first.telemetry = second.telemetry)
    (hnumbers : ∀ signal : Signal, signal.consulted minion = true →
      signal.numbers first = signal.numbers second)
    (level : AlertSeverity) :
    AlertsAt level (checkAllMetrics config minion first) ↔
      AlertsAt level (checkAllMetrics config minion second) := by
  have hnumber {number number' : Option ℚ}
      (h : number.toList = number'.toList) : number = number' := by
    have hhead := congrArg List.head? h
    rwa [Option.head?_toList, Option.head?_toList] at hhead
  have husage := hnumber (hnumbers .memoryUsage rfl)
  have hactivity := hnumber (hnumbers .swapActivity rfl)
  have hswap := hnumber (hnumbers .swapUsage rfl)
  have hcpu := hnumber (hnumbers .cpu rfl)
  have hfilesystems : FilesystemAlerts config.thresholds level
      first.filesystems ↔
        FilesystemAlerts config.thresholds level second.filesystems := by
    have halerts (metrics : Metrics) :
        FilesystemAlerts config.thresholds level metrics.filesystems ↔
          ∃ number ∈ Signal.filesystems.numbers metrics,
            config.thresholds.disk.Alerts level (some number) := by
      simp [FilesystemAlerts, Signal.numbers]
    rw [halerts, halerts, hnumbers .filesystems rfl]
  have hapache (hpresent : (present minion.apacheInstance).isSome = true) :
      ApacheAlerts config.thresholds level first ↔
        ApacheAlerts config.thresholds level second := by
    rw [ApacheAlerts, ApacheAlerts,
      hnumber (hnumbers .apacheBusyWorkers hpresent),
      hnumber (hnumbers .apacheRequests hpresent)]
  have hpostgres (hpresent : (present minion.postgresInstance).isSome = true) :
      PostgresAlerts config.thresholds level first ↔
        PostgresAlerts config.thresholds level second := by
    rw [PostgresAlerts, PostgresAlerts,
      hnumber (hnumbers .postgresConnections hpresent),
      hnumber (hnumbers .postgresDeadlocks hpresent)]
  have hmemory : MemoryAlerts config.thresholds level first.memoryPressure ↔
      MemoryAlerts config.thresholds level second.memoryPressure := by
    rw [MemoryAlerts, MemoryAlerts, MemoryCritical, MemoryCritical, Swapping,
      Swapping, husage, hactivity, hswap]
  rw [checkAllMetrics_alerts_iff, checkAllMetrics_alerts_iff,
    telemetryAnomalies, telemetryAnomalies, htelemetry, AlertsBesidesCpu,
    AlertsBesidesCpu, hmemory, hfilesystems, and_congr_right hapache,
    and_congr_right hpostgres, Swapping, Swapping, husage, hactivity, hcpu]

/-! ## Required readings -/

section Readings

variable {name target exporter : String}

theorem scalarReading_ok_iff {outcome : QueryOutcome ℚ} :
    (scalarReading name target exporter outcome).status = .ok ↔
      outcome.number?.isSome = true := by
  rcases outcome with ⟨value, observedAt⟩ | ⟨failure, observedAt, error⟩
  · exact iff_of_true rfl rfl
  · rcases failure with _ | _ | _
    all_goals exact iff_of_false (fun h => by cases h) (fun h => by cases h)

theorem scalarReading_number? {outcome : QueryOutcome ℚ} :
    (scalarReading name target exporter outcome).number? =
      outcome.number? := by
  rcases outcome with ⟨value, observedAt⟩ | ⟨failure, observedAt, error⟩
  · rfl
  · rcases failure with _ | _ | _
    all_goals rfl

@[simp] theorem scalarReading_exporter {outcome : QueryOutcome ℚ} :
    (scalarReading name target exporter outcome).exporter = exporter := by
  rcases outcome with _ | _
  · rfl
  · rfl

theorem getFilesystemUsagePercent_exporter
    {outcome : QueryOutcome (List FilesystemSample)} :
    (getFilesystemUsagePercent target outcome).exporter = "node_exporter" := by
  rcases outcome with ⟨samples, observedAt⟩ | ⟨failure, observedAt, error⟩
  · simp only [getFilesystemUsagePercent]
    split
    · rfl
    · rfl
  · rfl

/-- The filesystem reading is good when it has filesystems. -/
theorem getFilesystemUsagePercent_ok_iff
    {outcome : QueryOutcome (List FilesystemSample)} :
    (getFilesystemUsagePercent target outcome).status = .ok ↔
      (getFilesystemUsagePercent target outcome).filesystems ≠ [] := by
  constructor
  · intro hok hnone
    rcases outcome with ⟨samples, observedAt⟩ | ⟨failure, observedAt, error⟩
    · simp only [getFilesystemUsagePercent] at hok hnone
      split at hok
      · cases hok
      next hsome =>
        rw [if_neg hsome] at hnone
        have hlength := congrArg List.length hnone
        simp only [MetricReading.filesystems, MetricReading.usable,
          Option.isSome_some, decide_true, Bool.and_self,
          List.length_insertionSort, List.length_nil] at hlength
        exact hsome (by simpa using hlength)
    · rcases failure with _ | _ | _
      all_goals cases hok
  · exact MetricReading.ok_of_filesystems

/-- A combined reading is good when it has a number, and it is one of its
exporter. -/
theorem getApacheBusyWorkersPercent_spec {busy idle : QueryOutcome ℚ} :
    (getApacheBusyWorkersPercent target busy idle).exporter =
        "apache_exporter" ∧
      ((getApacheBusyWorkersPercent target busy idle).status = .ok →
        (getApacheBusyWorkersPercent target busy idle).number?.isSome =
          true) := by
  rcases busy with ⟨busyWorkers, busyAt⟩ | ⟨failure, failedAt, error⟩
  · rcases idle with ⟨idleWorkers, idleAt⟩ | ⟨failure, failedAt, error⟩
    · simp only [getApacheBusyWorkersPercent, scalarReading,
        MetricReading.number?, MetricReading.usable, Option.isSome_some,
        decide_true, Bool.and_self]
      split
      · exact ⟨rfl, fun h => by cases h⟩
      · exact ⟨rfl, fun _ => rfl⟩
    · rcases failure with _ | _ | _
      all_goals exact ⟨rfl, fun h => by cases h⟩
  · rcases failure with _ | _ | _
    all_goals exact ⟨rfl, fun h => by cases h⟩

theorem getPostgresActiveConnectionsPercent_spec
    {backends maximum : QueryOutcome ℚ} :
    (getPostgresActiveConnectionsPercent target backends maximum).exporter =
        "postgres_exporter" ∧
      ((getPostgresActiveConnectionsPercent target backends maximum).status =
          .ok →
        (getPostgresActiveConnectionsPercent target backends
          maximum).number?.isSome = true) := by
  rcases backends with ⟨connections, backendsAt⟩ | ⟨failure, failedAt, error⟩
  · rcases maximum with ⟨limit, maximumAt⟩ | ⟨failure, failedAt, error⟩
    · simp only [getPostgresActiveConnectionsPercent, scalarReading,
        MetricReading.number?, MetricReading.usable, Option.isSome_some,
        decide_true, Bool.and_self]
      split
      · exact ⟨rfl, fun h => by cases h⟩
      · exact ⟨rfl, fun _ => rfl⟩
    · rcases failure with _ | _ | _
      all_goals exact ⟨rfl, fun h => by cases h⟩
  · rcases failure with _ | _ | _
    all_goals exact ⟨rfl, fun h => by cases h⟩

/-- An exporter is not reported when it is up and its required readings are
good. -/
theorem exporterFailures_eq_nil_iff {required : List String}
    {observations : List MetricReading} :
    exporterFailures exporter required observations = [] ↔
      (∃ up, observations.find? (·.name = exporter ++ "_up") = some up ∧
        up.status = .ok ∧ up.number? = some 1) ∧
      ∀ name ∈ required, ∃ reading,
        observations.find? (·.name = name) = some reading ∧
          reading.status = .ok := by
  have hrequired (name : String) :
      requiredFailure observations name = none ↔
        ∃ reading, observations.find? (·.name = name) = some reading ∧
          reading.status = .ok := by
    rw [requiredFailure]
    split
    next hnone => simp [hnone]
    next reading hsome => simp [hsome]
  simp only [exporterFailures]
  split
  next hnone => simp [hnone]
  next up hsome =>
    simp only [hsome, Option.some.injEq, exists_eq_left', ne_eq]
    by_cases hok : up.status = .ok
    · by_cases hup : up.number? = some 1
      · simp only [hok, hup, not_true_eq_false, if_false, true_and,
          List.filterMap_eq_nil_iff, hrequired, and_self]
      · simp [hok, hup]
    · simp [hok]

end Readings

/-! ## Reported exporters -/

section Reports

variable {config : DetectionConfig} {minion : Minion} {metrics : Metrics}
  {anomaly : Anomaly}

theorem checkThreshold_metricName {value : Option ℚ}
    {thresholds : ThresholdBand} {metricName label : String}
    {f : Anomaly → Anomaly}
    (h : (checkThreshold value thresholds minion.id metricName label).map f =
      some anomaly) (hf : ∀ a, (f a).metricName = a.metricName) :
    anomaly.metricName = metricName := by
  obtain ⟨checked, hchecked, rfl⟩ := Option.map_eq_some_iff.mp h
  rw [hf, (checkThreshold_eq_some hchecked).2.2]

/-- A finding is one of the telemetry, or it reports a metric. -/
theorem checkAllMetrics_metricName
    (h : anomaly ∈ checkAllMetrics config minion metrics) :
    anomaly ∈ telemetryAnomalies metrics minion.id ∨
      anomaly.metricName ∈ neededReadings.map Prod.fst := by
  simp only [checkAllMetrics, List.mem_append, Option.mem_toList] at h
  rcases h with ((((htelemetry | hmemory) | hcpu) | hdisk) | hapache) |
    hpostgres
  · exact Or.inl htelemetry
  · right
    rw [(memoryPressureAnomaly_eq_some hmemory).2.2]
    decide
  · right
    split at hcpu
    · cases hcpu
    · rw [checkThreshold_metricName hcpu fun _ => rfl]
      decide
  · right
    obtain ⟨filesystem, -, hsome⟩ := List.mem_filterMap.mp hdisk
    rw [checkThreshold_metricName hsome fun _ => rfl]
    decide
  · right
    rcases htarget : present minion.apacheInstance with _ | target
    · simp [htarget] at hapache
    · rw [htarget] at hapache
      rcases List.mem_append.mp hapache with hbusy | hrequests
      · rw [checkThreshold_metricName (Option.mem_toList.mp hbusy)
          fun _ => rfl]
        decide
      · rw [checkThreshold_metricName (Option.mem_toList.mp hrequests)
          fun _ => rfl]
        decide
  · right
    rcases htarget : present minion.postgresInstance with _ | target
    · simp [htarget] at hpostgres
    · rw [htarget] at hpostgres
      rcases List.mem_append.mp hpostgres with hconnections | hdeadlocks
      · rw [checkThreshold_metricName (Option.mem_toList.mp hconnections)
          fun _ => rfl]
        decide
      · rw [(checkThreshold_eq_some (Option.mem_toList.mp hdeadlocks)).2.2]
        decide

theorem exporterAnomaly_context {minionId exporter : String}
    {telemetry : List MetricReading} {required : List String}
    (h : exporterAnomaly minionId telemetry exporter required =
      some anomaly) :
    ∃ target observations,
      anomaly.context = .telemetry none exporter target observations := by
  unfold exporterAnomaly at h
  split at h
  · cases h
  · simp only at h
    split at h
    · cases h
    · obtain rfl := Option.some.inj h
      exact ⟨_, _, rfl⟩

/-- The exporters of the table are different. -/
theorem required_eq {exporter : String} {required required' : List String}
    (h : (exporter, required) ∈ requiredTelemetry)
    (h' : (exporter, required') ∈ requiredTelemetry) : required' = required := by
  have hnodup : (requiredTelemetry.map Prod.fst).Nodup := by decide
  exact (Prod.mk.inj (List.inj_on_of_nodup_map hnodup h' h rfl)).2

/-- An exporter is reported when it has a failure. -/
theorem reportsExporter_iff {exporter : String} {required : List String}
    (hentry : (exporter, required) ∈ requiredTelemetry) :
    ReportsExporter exporter (checkAllMetrics config minion metrics) ↔
      (exporterAnomaly minion.id metrics.telemetry exporter
        required).isSome = true := by
  constructor
  · rintro ⟨anomaly, hmem, hmetric, source, target, observations, hcontext⟩
    rcases checkAllMetrics_metricName hmem with htelemetry | hother
    · obtain ⟨⟨exporter', required'⟩, hentry', hsome⟩ :=
        List.mem_filterMap.mp htelemetry
      obtain ⟨target', observations', hcontext'⟩ :=
        exporterAnomaly_context hsome
      rw [hcontext] at hcontext'
      obtain ⟨-, rfl, -, -⟩ := AnomalyContext.telemetry.inj hcontext'
      rw [required_eq hentry hentry'] at hsome
      rw [hsome]
      rfl
    · rw [hmetric] at hother
      exact absurd hother (by decide)
  · intro hsome
    obtain ⟨anomaly, hsome⟩ := Option.isSome_iff_exists.mp hsome
    obtain ⟨target, observations, hcontext⟩ := exporterAnomaly_context hsome
    have htelemetry : anomaly ∈ telemetryAnomalies metrics minion.id :=
      List.mem_filterMap.mpr ⟨_, hentry, hsome⟩
    refine ⟨anomaly, ?_, (exporterAnomaly_eq_some hsome).2, none, target,
      observations, hcontext⟩
    simp [checkAllMetrics, htelemetry]

/-- A good exporter: it is up, and its required readings are good. -/
theorem not_reportsExporter_iff {exporter : String} {required : List String}
    (hentry : (exporter, required) ∈ requiredTelemetry)
    {readings : List MetricReading} (hnonempty : readings ≠ [])
    (hreadings : metrics.telemetry.filter (·.exporter = exporter) =
      readings) :
    ¬ReportsExporter exporter (checkAllMetrics config minion metrics) ↔
      exporterFailures exporter required readings = [] := by
  rw [reportsExporter_iff hentry, exporterAnomaly, hreadings]
  rcases readings with _ | ⟨first, rest⟩
  · exact absurd rfl hnonempty
  · by_cases hnone : exporterFailures exporter required (first :: rest) = []
    · simp [hnone]
    · simp [hnone]

end Reports

/-! ## The readings of an exporter -/

section Exporters

variable {config : DetectionConfig} {minion : Minion}
  {answers : PrometheusAnswers}

/-- The readings of the node exporter. -/
def nodeReadings (answers : PrometheusAnswers) (target : String) :
    List MetricReading :=
  [getTargetHealth target "node_exporter" answers.nodeUp,
      getFilesystemUsagePercent target answers.filesystems] ++
    answers.memory.readings target ++
    [scalarReading "cpu_percent" target "node_exporter" answers.cpu]

theorem filter_of_exporter {readings : List MetricReading}
    {exporter : String} (h : ∀ reading ∈ readings, reading.exporter = exporter)
    (asked : String) :
    readings.filter (·.exporter = asked) =
      if exporter = asked then readings else [] := by
  split
  next heq =>
    rw [List.filter_eq_self]
    intro reading hmem
    rw [h reading hmem, heq, decide_eq_true_eq]
  next hne =>
    rw [List.filter_eq_nil_iff]
    intro reading hmem
    rw [h reading hmem, decide_eq_true_eq]
    exact hne

theorem nodeReadings_exporter {target : String} :
    ∀ reading ∈ nodeReadings answers target,
      reading.exporter = "node_exporter" := by
  simp [nodeReadings, MemoryAnswers.readings, getTargetHealth,
    getFilesystemUsagePercent_exporter]

theorem apacheReadings_exporter {target : String} :
    ∀ reading ∈ apacheReadings answers target,
      reading.exporter = "apache_exporter" := by
  simp [apacheReadings, getTargetHealth,
    getApacheBusyWorkersPercent_spec.1]

theorem postgresReadings_exporter {target : String} :
    ∀ reading ∈ postgresReadings answers target,
      reading.exporter = "postgres_exporter" := by
  simp [postgresReadings, getTargetHealth,
    getPostgresActiveConnectionsPercent_spec.1]

/-- The telemetry of one exporter. -/
theorem telemetry_filter (asked : String) :
    (getAllMetrics minion answers).telemetry.filter (·.exporter = asked) =
      (if "node_exporter" = asked then
        nodeReadings answers minion.instanceName else []) ++
      (if "apache_exporter" = asked then
        ((present minion.apacheInstance).map (apacheReadings answers)).getD []
        else []) ++
      (if "postgres_exporter" = asked then
        ((present minion.postgresInstance).map
          (postgresReadings answers)).getD [] else []) := by
  have htelemetry : (getAllMetrics minion answers).telemetry =
      nodeReadings answers minion.instanceName ++
        ((present minion.apacheInstance).map (apacheReadings answers)).getD
          [] ++
        ((present minion.postgresInstance).map
          (postgresReadings answers)).getD [] := rfl
  have hapache : ∀ reading ∈
      ((present minion.apacheInstance).map (apacheReadings answers)).getD [],
      reading.exporter = "apache_exporter" := by
    rcases present minion.apacheInstance with _ | target
    · simp
    · exact apacheReadings_exporter
  have hpostgres : ∀ reading ∈
      ((present minion.postgresInstance).map
        (postgresReadings answers)).getD [],
      reading.exporter = "postgres_exporter" := by
    rcases present minion.postgresInstance with _ | target
    · simp
    · exact postgresReadings_exporter
  rw [htelemetry, List.filter_append, List.filter_append,
    filter_of_exporter nodeReadings_exporter, filter_of_exporter hapache,
    filter_of_exporter hpostgres]

/-- One of the filesystem samples is valid. -/
def HasFilesystem (outcome : QueryOutcome (List FilesystemSample)) : Prop :=
  ∃ samples observedAt, outcome = .value samples observedAt ∧
    ∃ sample ∈ samples, sample.filesystem?.isSome = true

theorem getFilesystemUsagePercent_ok_iff_hasFilesystem {target : String}
    {outcome : QueryOutcome (List FilesystemSample)} :
    (getFilesystemUsagePercent target outcome).status = .ok ↔
      HasFilesystem outcome := by
  rcases outcome with ⟨samples, observedAt⟩ | ⟨failure, observedAt, error⟩
  · have hempty : (samples.filterMap FilesystemSample.filesystem?).isEmpty =
        true ↔ ¬∃ sample ∈ samples, sample.filesystem?.isSome = true := by
      simp [Option.isSome_iff_ne_none]
    simp only [getFilesystemUsagePercent, HasFilesystem,
      QueryOutcome.value.injEq]
    by_cases hsome : ∃ sample ∈ samples, sample.filesystem?.isSome = true
    · rw [if_neg (fun h => hempty.mp h hsome)]
      exact iff_of_true rfl ⟨samples, observedAt, ⟨rfl, rfl⟩, hsome⟩
    · rw [if_pos (hempty.mpr hsome)]
      refine iff_of_false (fun h => by cases h) ?_
      rintro ⟨_, _, ⟨rfl, -⟩, hvalid⟩
      exact hsome hvalid
  · rcases failure with _ | _ | _
    all_goals
      refine iff_of_false (fun h => by cases h) ?_
      rintro ⟨_, _, heq, -⟩
      cases heq

/-- The node exporter is up and all of its required readings are good. -/
structure NodeIsGood (answers : PrometheusAnswers) : Prop where
  up : answers.nodeUp.number? = some 1
  cpu : answers.cpu.number?.isSome = true
  filesystems : HasFilesystem answers.filesystems
  memoryAvailable : answers.memory.memoryAvailableBytes.number?.isSome = true
  memoryTotal : answers.memory.memoryTotalBytes.number?.isSome = true

/-- The total memory is positive, and the four swap queries have answers. -/
structure MemoryIsKnown (answers : MemoryAnswers) : Prop where
  total : ∃ total ∈ answers.memoryTotalBytes.number?, 0 < total
  swapIn : answers.swapInPagesPerSecond.number?.isSome = true
  swapOut : answers.swapOutPagesPerSecond.number?.isSome = true
  swapTotal : answers.swapTotalBytes.number?.isSome = true
  swapFree : answers.swapFreeBytes.number?.isSome = true

theorem nodeFailures_eq_nil_iff {target : String} :
    exporterFailures "node_exporter"
        ["cpu_percent", "filesystems", "memory_available_bytes",
          "memory_total_bytes"] (nodeReadings answers target) = [] ↔
      NodeIsGood answers := by
  rw [exporterFailures_eq_nil_iff]
  simp only [nodeReadings, getTargetHealth, MemoryAnswers.readings,
    List.cons_append, List.nil_append, List.find?_cons, scalarReading_name,
    getFilesystemUsagePercent_name, String.reduceAppend, String.reduceEq,
    decide_true, decide_false, Option.some.injEq, exists_eq_left',
    List.forall_mem_cons, scalarReading_ok_iff, scalarReading_number?,
    getFilesystemUsagePercent_ok_iff_hasFilesystem, List.not_mem_nil,
    false_imp_iff, implies_true, and_true]
  constructor
  · rintro ⟨⟨-, hup⟩, hcpu, hfilesystems, havailable, htotal⟩
    exact ⟨hup, hcpu, hfilesystems, havailable, htotal⟩
  · rintro ⟨hup, hcpu, hfilesystems, havailable, htotal⟩
    exact ⟨⟨by rw [hup]; rfl, hup⟩, hcpu, hfilesystems, havailable, htotal⟩

theorem not_reportsNode_iff :
    ¬ReportsExporter "node_exporter"
        (checkAllMetrics config minion (getAllMetrics minion answers)) ↔
      NodeIsGood answers := by
  rw [← @nodeFailures_eq_nil_iff answers minion.instanceName]
  apply not_reportsExporter_iff
  · decide
  · exact List.cons_ne_nil _ _
  · rw [telemetry_filter]
    simp

/-! ## Evaluated signals -/

theorem evaluated_iff {metrics : Metrics} {signal : Signal} :
    signal.evaluated metrics = true ↔ signal.hasNumber metrics = true ∧
      ∀ name ∈ signal.readings, metrics.obtained name = true := by
  rw [Signal.evaluated, Bool.and_eq_true, List.all_eq_true]

/-- A signal with a single reading is evaluated once it has its number. -/
theorem evaluated_of_reading {metrics : Metrics} {signal : Signal}
    {name : String} {reading : MetricReading}
    (hreadings : signal.readings = [name])
    (hmem : reading ∈ metrics.telemetry) (hname : reading.name = name)
    (hok : reading.status = .ok) (hnumber : signal.hasNumber metrics = true) :
    signal.evaluated metrics = true := by
  refine evaluated_iff.mpr ⟨hnumber, ?_⟩
  rw [hreadings, List.forall_mem_singleton]
  exact Metrics.obtained_of_mem hmem hname hok

theorem obtained_of_node {name : String} {outcome : QueryOutcome ℚ}
    (hmem : scalarReading name minion.instanceName "node_exporter" outcome ∈
      nodeReadings answers minion.instanceName)
    (hsome : outcome.number?.isSome = true) :
    (getAllMetrics minion answers).obtained name = true := by
  have htelemetry : scalarReading name minion.instanceName "node_exporter"
      outcome ∈ (getAllMetrics minion answers).telemetry := by
    apply List.mem_append_left
    exact List.mem_append_left _ hmem
  exact Metrics.obtained_of_mem htelemetry scalarReading_name
    (scalarReading_ok hsome)

theorem memoryUsage_isSome_iff :
    Signal.memoryUsage.hasNumber (getAllMetrics minion answers) = true ↔
      answers.memory.memoryAvailableBytes.number?.isSome = true ∧
        ∃ total ∈ answers.memory.memoryTotalBytes.number?, 0 < total := by
  simp only [Signal.hasNumber, Signal.numbers, not_isEmpty_toList,
    getAllMetrics, getMemoryPressureMetrics, memoryUsagePercent]
  rcases answers.memory.memoryAvailableBytes.number? with _ | available
  · simp
  · rcases answers.memory.memoryTotalBytes.number? with _ | total
    · simp
    · by_cases hpositive : 0 < total
      · simp [hpositive]
      · simp [hpositive]

theorem swapActivity_isSome_iff :
    Signal.swapActivity.hasNumber (getAllMetrics minion answers) = true ↔
      answers.memory.swapInPagesPerSecond.number?.isSome = true ∧
        answers.memory.swapOutPagesPerSecond.number?.isSome = true := by
  simp only [Signal.hasNumber, Signal.numbers, not_isEmpty_toList,
    getAllMetrics, getMemoryPressureMetrics]
  rcases answers.memory.swapInPagesPerSecond.number? with _ | pagesIn
  · simp
  · simp

theorem swapUsage_isSome_iff :
    Signal.swapUsage.hasNumber (getAllMetrics minion answers) = true ↔
      answers.memory.swapTotalBytes.number?.isSome = true ∧
        answers.memory.swapFreeBytes.number?.isSome = true := by
  simp only [Signal.hasNumber, Signal.numbers, not_isEmpty_toList,
    getAllMetrics, getMemoryPressureMetrics]
  rcases answers.memory.swapTotalBytes.number? with _ | total
  · simp
  · simp

/-- The signals of a good node exporter whose memory is known. -/
theorem evaluated_of_node (hgood : NodeIsGood answers)
    (hknown : MemoryIsKnown answers.memory) {signal : Signal}
    (hexporter : signal.exporter = "node_exporter") :
    signal.evaluated (getAllMetrics minion answers) = true := by
  rcases signal with _ | _ | _ | _ | _ | _ | _ | _ | _
  · refine evaluated_iff.mpr ⟨memoryUsage_isSome_iff.mpr
      ⟨hgood.memoryAvailable, hknown.total⟩, ?_⟩
    simp only [Signal.readings, List.forall_mem_cons, List.not_mem_nil,
      false_imp_iff, implies_true, and_true]
    exact ⟨obtained_of_node (by simp [nodeReadings, MemoryAnswers.readings])
      hgood.memoryAvailable,
      obtained_of_node (by simp [nodeReadings, MemoryAnswers.readings])
        hgood.memoryTotal⟩
  · refine evaluated_iff.mpr ⟨swapActivity_isSome_iff.mpr
      ⟨hknown.swapIn, hknown.swapOut⟩, ?_⟩
    simp only [Signal.readings, List.forall_mem_cons, List.not_mem_nil,
      false_imp_iff, implies_true, and_true]
    exact ⟨obtained_of_node (by simp [nodeReadings, MemoryAnswers.readings])
      hknown.swapIn,
      obtained_of_node (by simp [nodeReadings, MemoryAnswers.readings])
        hknown.swapOut⟩
  · refine evaluated_iff.mpr ⟨swapUsage_isSome_iff.mpr
      ⟨hknown.swapTotal, hknown.swapFree⟩, ?_⟩
    simp only [Signal.readings, List.forall_mem_cons, List.not_mem_nil,
      false_imp_iff, implies_true, and_true]
    exact ⟨obtained_of_node (by simp [nodeReadings, MemoryAnswers.readings])
      hknown.swapTotal,
      obtained_of_node (by simp [nodeReadings, MemoryAnswers.readings])
        hknown.swapFree⟩
  · refine evaluated_iff.mpr ⟨?_, ?_⟩
    · simpa only [Signal.hasNumber, Signal.numbers, not_isEmpty_toList,
        getAllMetrics, scalarReading_number?] using hgood.cpu
    · simp only [Signal.readings, List.forall_mem_cons, List.not_mem_nil,
        false_imp_iff, implies_true, and_true]
      exact obtained_of_node (by simp [nodeReadings]) hgood.cpu
  · have hok := (@getFilesystemUsagePercent_ok_iff_hasFilesystem
      minion.instanceName _).mpr hgood.filesystems
    refine evaluated_of_reading rfl ?_ getFilesystemUsagePercent_name hok ?_
    · simp [getAllMetrics]
    · have hsome := getFilesystemUsagePercent_ok_iff.mp hok
      simpa [Signal.hasNumber, Signal.numbers, getAllMetrics] using hsome
  all_goals exact absurd hexporter (by decide)

/-- What the telemetry knows of Apache is what the checks evaluate. -/
theorem evaluated_of_apache {target : String}
    (htarget : present minion.apacheInstance = some target)
    (hquiet : ¬ReportsExporter "apache_exporter"
      (checkAllMetrics config minion (getAllMetrics minion answers)))
    {signal : Signal} (hexporter : signal.exporter = "apache_exporter") :
    signal.evaluated (getAllMetrics minion answers) = true := by
  have hnone : exporterFailures "apache_exporter"
      ["apache_busy_workers_percent", "apache_requests_per_sec"]
      (apacheReadings answers target) = [] := by
    have hreadings : (getAllMetrics minion answers).telemetry.filter
        (·.exporter = "apache_exporter") = apacheReadings answers target := by
      rw [telemetry_filter, htarget]
      simp
    exact (not_reportsExporter_iff (by decide) (by simp [apacheReadings])
      hreadings).mp hquiet
  have hgood := (exporterFailures_eq_nil_iff.mp hnone).2
  simp only [apacheReadings, getTargetHealth, List.find?_cons,
    scalarReading_name, getApacheBusyWorkersPercent_name, String.reduceAppend,
    String.reduceEq, decide_true, decide_false, Option.some.injEq,
    exists_eq_left', List.forall_mem_cons, List.not_mem_nil, false_imp_iff,
    implies_true, and_true] at hgood
  have hmem : ∀ reading ∈ apacheReadings answers target,
      reading ∈ (getAllMetrics minion answers).telemetry := by
    intro reading hreading
    simp [getAllMetrics, htarget, hreading]
  rcases signal with _ | _ | _ | _ | _ | _ | _ | _ | _
  case apacheBusyWorkers =>
    refine evaluated_of_reading rfl (hmem _ (by simp [apacheReadings]))
      getApacheBusyWorkersPercent_name hgood.1 ?_
    have hnumber := getApacheBusyWorkersPercent_spec.2 hgood.1
    simpa [Signal.hasNumber, Signal.numbers, not_isEmpty_toList,
      getAllMetrics, htarget] using hnumber
  case apacheRequests =>
    refine evaluated_of_reading rfl
      (hmem (scalarReading "apache_requests_per_sec" target "apache_exporter"
        answers.apacheRequestsPerSec) (by simp [apacheReadings]))
      scalarReading_name hgood.2 ?_
    have hnumber := scalarReading_ok_iff.mp hgood.2
    simpa [Signal.hasNumber, Signal.numbers, not_isEmpty_toList,
      getAllMetrics, htarget] using hnumber
  all_goals exact absurd hexporter (by decide)

theorem evaluated_of_postgres {target : String}
    (htarget : present minion.postgresInstance = some target)
    (hquiet : ¬ReportsExporter "postgres_exporter"
      (checkAllMetrics config minion (getAllMetrics minion answers)))
    {signal : Signal} (hexporter : signal.exporter = "postgres_exporter") :
    signal.evaluated (getAllMetrics minion answers) = true := by
  have hnone : exporterFailures "postgres_exporter"
      ["postgres_active_connections_percent", "postgres_deadlocks_per_min"]
      (postgresReadings answers target) = [] := by
    have hreadings : (getAllMetrics minion answers).telemetry.filter
        (·.exporter = "postgres_exporter") = postgresReadings answers target := by
      rw [telemetry_filter, htarget]
      simp
    exact (not_reportsExporter_iff (by decide) (by simp [postgresReadings])
      hreadings).mp hquiet
  have hgood := (exporterFailures_eq_nil_iff.mp hnone).2
  simp only [postgresReadings, getTargetHealth, List.find?_cons,
    scalarReading_name, getPostgresActiveConnectionsPercent_name,
    String.reduceAppend, String.reduceEq, decide_true, decide_false,
    Option.some.injEq, exists_eq_left', List.forall_mem_cons,
    List.not_mem_nil, false_imp_iff, implies_true, and_true] at hgood
  have hmem : ∀ reading ∈ postgresReadings answers target,
      reading ∈ (getAllMetrics minion answers).telemetry := by
    intro reading hreading
    simp [getAllMetrics, htarget, hreading]
  rcases signal with _ | _ | _ | _ | _ | _ | _ | _ | _
  case postgresConnections =>
    refine evaluated_of_reading rfl (hmem _ (by simp [postgresReadings]))
      getPostgresActiveConnectionsPercent_name hgood.1 ?_
    have hnumber := getPostgresActiveConnectionsPercent_spec.2 hgood.1
    simpa [Signal.hasNumber, Signal.numbers, not_isEmpty_toList,
      getAllMetrics, htarget] using hnumber
  case postgresDeadlocks =>
    refine evaluated_of_reading rfl
      (hmem (scalarReading "postgres_deadlocks_per_min" target
        "postgres_exporter" answers.postgresDeadlocksPerMin)
        (by simp [postgresReadings])) scalarReading_name hgood.2 ?_
    have hnumber := scalarReading_ok_iff.mp hgood.2
    simpa [Signal.hasNumber, Signal.numbers, not_isEmpty_toList,
      getAllMetrics, htarget] using hnumber
  all_goals exact absurd hexporter (by decide)

end Exporters

/-- There is a blind spot exactly when the node exporter looks good and yet the
total memory is not positive or a swap reading is missing. -/
theorem noBlindSpot_iff (config : DetectionConfig) (minion : Minion)
    (answers : PrometheusAnswers) :
    NoBlindSpot config minion answers ↔
      (NodeIsGood answers → MemoryIsKnown answers.memory) := by
  constructor
  · intro hsees hgood
    have hnode : ∀ signal : Signal, signal.exporter = "node_exporter" →
        signal.consulted minion = true →
        signal.hasNumber (getAllMetrics minion answers) = true := by
      intro signal hexporter hconsulted
      rcases hsees signal hconsulted with hevaluated | hreported
      · exact (evaluated_iff.mp hevaluated).1
      · rw [hexporter] at hreported
        exact absurd hreported (not_reportsNode_iff.mpr hgood)
    obtain ⟨-, htotal⟩ :=
      memoryUsage_isSome_iff.mp (hnode .memoryUsage rfl rfl)
    obtain ⟨hswapIn, hswapOut⟩ :=
      swapActivity_isSome_iff.mp (hnode .swapActivity rfl rfl)
    obtain ⟨hswapTotal, hswapFree⟩ :=
      swapUsage_isSome_iff.mp (hnode .swapUsage rfl rfl)
    exact ⟨htotal, hswapIn, hswapOut, hswapTotal, hswapFree⟩
  · intro hknown signal hconsulted
    by_cases hreported : ReportsExporter signal.exporter
        (checkAllMetrics config minion (getAllMetrics minion answers))
    · exact Or.inr hreported
    left
    have hnode (hexporter : signal.exporter = "node_exporter") :
        signal.evaluated (getAllMetrics minion answers) = true := by
      rw [hexporter] at hreported
      have hgood := not_reportsNode_iff.mp hreported
      exact evaluated_of_node hgood (hknown hgood) hexporter
    rcases signal with _ | _ | _ | _ | _ | _ | _ | _ | _
    · exact hnode rfl
    · exact hnode rfl
    · exact hnode rfl
    · exact hnode rfl
    · exact hnode rfl
    · obtain ⟨target, htarget⟩ := Option.isSome_iff_exists.mp hconsulted
      exact evaluated_of_apache htarget hreported rfl
    · obtain ⟨target, htarget⟩ := Option.isSome_iff_exists.mp hconsulted
      exact evaluated_of_apache htarget hreported rfl
    · obtain ⟨target, htarget⟩ := Option.isSome_iff_exists.mp hconsulted
      exact evaluated_of_postgres htarget hreported rfl
    · obtain ⟨target, htarget⟩ := Option.isSome_iff_exists.mp hconsulted
      exact evaluated_of_postgres htarget hreported rfl

/-- The query of the pages that are swapped in fails. -/
def swapBlindHost : PrometheusAnswers where
  nodeUp := .value 1 (some 0)
  filesystems :=
    .value [⟨some "/", some "/dev/vda1", some "xfs", some (.finite 40)⟩]
      (some 0)
  memory :=
    { memoryAvailableBytes := .value 400 (some 0)
      memoryTotalBytes := .value 4000 (some 0)
      swapTotalBytes := .value 2000 (some 0)
      swapFreeBytes := .value 100 (some 0)
      swapInPagesPerSecond :=
        .failed .error none (some "Prometheus HTTP 500")
      swapOutPagesPerSecond := .value 900 (some 0)
      systemCpuPercent := .value 25 (some 0)
      iowaitCpuPercent := .value 60 (some 0) }
  cpu := .value 50 (some 0)
  apacheUp := .failed .missing none none
  apacheBusyWorkers := .failed .missing none none
  apacheIdleWorkers := .failed .missing none none
  apacheRequestsPerSec := .failed .missing none none
  postgresUp := .failed .missing none none
  postgresConnections := .failed .missing none none
  postgresMaxConnections := .failed .missing none none
  postgresDeadlocksPerMin := .failed .missing none none

/-- The swap activity of the host is read as zero, and nothing says so. -/
theorem swap_activity_is_blind_spot :
    ¬NoBlindSpot .plain ⟨"web", "web:9100", none, none⟩ swapBlindHost := by
  intro hsees
  rcases hsees .swapActivity rfl with hevaluated | ⟨anomaly, hmem, hmetric, -⟩
  · exact absurd hevaluated (by decide +kernel)
  · have hquiet : (checkAllMetrics .plain ⟨"web", "web:9100", none, none⟩
        (getAllMetrics ⟨"web", "web:9100", none, none⟩ swapBlindHost)).all
          (·.metricName ≠ "telemetry_unavailable") = true := by
      decide +kernel
    have hother := List.all_eq_true.mp hquiet anomaly hmem
    simp [hmetric] at hother

end UyuniAgent
