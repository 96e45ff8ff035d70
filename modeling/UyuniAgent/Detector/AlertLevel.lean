import UyuniAgent.Detector.Conservation
import UyuniAgent.Detector.Findings

/-!
# The alert level of a snapshot

Which severities `check_all_metrics` reports of a snapshot is a disjunction
over its signals.  Every disjunct but one persists when values rise: a CPU
alert is folded into the memory anomaly of a host that has begun to swap, and
that anomaly may be of a lower severity.
-/

namespace UyuniAgent

/-! ## Limits that are reached -/

/-- There is a value, and it has reached the limit. -/
def Reaches (limit : Limit) (value : Option ℚ) : Prop :=
  ∃ v ∈ value, (limit.reached? v).isSome = true

/-- A missing limit is never reached. -/
def ThresholdBand.Warns (band : ThresholdBand) (value : Option ℚ) : Prop :=
  Reaches (band.warning.getD .infinite) value

def ThresholdBand.Alarms (band : ThresholdBand) (value : Option ℚ) : Prop :=
  Reaches (band.critical.getD .infinite) value

/-- `_check_threshold` reports this severity or a higher one. -/
def ThresholdBand.Alerts (band : ThresholdBand) (level : AlertSeverity)
    (value : Option ℚ) : Prop :=
  band.Alarms value ∨ (level ≠ .critical ∧ band.Warns value)

/-- The second value is no lower than the first one. -/
def NoLower (first second : Option ℚ) : Prop :=
  ∀ v ∈ first, ∃ w ∈ second, v ≤ w

section Limits

variable {limit : Limit} {band : ThresholdBand} {level : AlertSeverity}
  {first second value : Option ℚ}

theorem Limit.reached?_isSome_mono {v w : ℚ} (hle : v ≤ w)
    (h : (limit.reached? v).isSome = true) :
    (limit.reached? w).isSome = true := by
  rcases limit with bound | _
  · simp only [Limit.reached?] at h ⊢
    split at h
    next hbound =>
      rw [if_pos (hbound.trans hle)]
      rfl
    next => cases h
  · cases h

theorem Reaches.mono (hrise : NoLower first second) (h : Reaches limit first) :
    Reaches limit second := by
  obtain ⟨v, hv, hreached⟩ := h
  obtain ⟨w, hw, hle⟩ := hrise v hv
  exact ⟨w, hw, Limit.reached?_isSome_mono hle hreached⟩

theorem ThresholdBand.Alerts.mono (hrise : NoLower first second)
    (h : band.Alerts level first) : band.Alerts level second := by
  rcases h with hcritical | ⟨hlevel, hwarning⟩
  · exact Or.inl (Reaches.mono hrise hcritical)
  · exact Or.inr ⟨hlevel, Reaches.mono hrise hwarning⟩

theorem AlertSeverity.rank_le_warning_iff :
    level.rank ≤ AlertSeverity.warning.rank ↔ level ≠ .critical := by
  rcases level with _ | _ | _
  · decide
  · decide
  · decide

/-- The severities that a check of one value reports. -/
theorem checkThreshold_alerts_iff {minionId metricName label : String} :
    (∃ anomaly ∈ checkThreshold value band minionId metricName label,
        level.rank ≤ anomaly.severity.rank) ↔ band.Alerts level value := by
  rw [ThresholdBand.Alerts, ThresholdBand.Alarms, ThresholdBand.Warns]
  rcases value with _ | v
  · simp [checkThreshold, Reaches]
  · simp only [checkThreshold, Reaches, Option.mem_some_iff, exists_eq_left']
    rcases (band.critical.getD .infinite).reached? v with _ | critical
    · rcases (band.warning.getD .infinite).reached? v with _ | warning
      · simp
      · simp [AlertSeverity.rank_le_warning_iff]
    · rcases (band.warning.getD .infinite).reached? v with _ | warning
      · simp [AlertSeverity.rank_le_critical]
      · simp [AlertSeverity.rank_le_critical]

end Limits

/-! ## The signals of a snapshot -/

/-- An anomaly of this severity or a higher one. -/
def AlertsAt (level : AlertSeverity) (anomalies : List Anomaly) : Prop :=
  ∃ anomaly ∈ anomalies, level.rank ≤ anomaly.severity.rank

/-- The memory anomaly of the snapshot says that the host is swapping. -/
def Swapping (thresholds : Thresholds) (memory : MemoryPressure) : Prop :=
  thresholds.memory.Warns memory.memoryUsagePercent ∧
    Reaches (thresholds.swapActivityPagesPerSecond.warning.getD (.finite 1))
      (some (memory.swapActivityPagesPerSecond.getD 0))

/-- The memory anomaly is critical. -/
def MemoryCritical (thresholds : Thresholds) (memory : MemoryPressure) :
    Prop :=
  thresholds.memory.Warns memory.memoryUsagePercent ∧
    (thresholds.memory.Alarms memory.memoryUsagePercent ∨
      (Swapping thresholds memory ∧
        (Reaches
            (thresholds.swapActivityPagesPerSecond.critical.getD (.finite 100))
            (some (memory.swapActivityPagesPerSecond.getD 0)) ∨
          Reaches (thresholds.swapUsagePercent.critical.getD (.finite 25))
            (some (memory.swapUsagePercent.getD 0)))))

def MemoryAlerts (thresholds : Thresholds) (level : AlertSeverity)
    (memory : MemoryPressure) : Prop :=
  MemoryCritical thresholds memory ∨
    (level ≠ .critical ∧ thresholds.memory.Warns memory.memoryUsagePercent)

def FilesystemAlerts (thresholds : Thresholds) (level : AlertSeverity)
    (filesystems : List Filesystem) : Prop :=
  ∃ filesystem ∈ filesystems,
    thresholds.disk.Alerts level (some filesystem.usagePercent)

def ApacheAlerts (thresholds : Thresholds) (level : AlertSeverity)
    (metrics : Metrics) : Prop :=
  thresholds.apacheBusyWorkersPercent.Alerts level
      metrics.apacheBusyWorkersPercent ∨
    thresholds.apacheRequestsPerSec.Alerts level metrics.apacheRequestsPerSec

def PostgresAlerts (thresholds : Thresholds) (level : AlertSeverity)
    (metrics : Metrics) : Prop :=
  thresholds.postgresActiveConnectionsPercent.Alerts level
      metrics.postgresActiveConnectionsPercent ∨
    thresholds.postgresDeadlocksPerMin.Alerts level
      metrics.postgresDeadlocksPerMin

/-- A signal other than the CPU reports this severity or a higher one. -/
def AlertsBesidesCpu (thresholds : Thresholds) (minion : Minion)
    (level : AlertSeverity) (metrics : Metrics) : Prop :=
  MemoryAlerts thresholds level metrics.memoryPressure ∨
    FilesystemAlerts thresholds level metrics.filesystems ∨
    ((present minion.apacheInstance).isSome = true ∧
      ApacheAlerts thresholds level metrics) ∨
    ((present minion.postgresInstance).isSome = true ∧
      PostgresAlerts thresholds level metrics)

section Signals

variable {thresholds : Thresholds} {level : AlertSeverity}
  {memory : MemoryPressure} {metrics : Metrics} {minionId : String}

theorem alertsAt_append {anomalies others : List Anomaly} :
    AlertsAt level (anomalies ++ others) ↔
      AlertsAt level anomalies ∨ AlertsAt level others := by
  simp only [AlertsAt, List.mem_append, or_and_right, exists_or]

theorem alertsAt_toList {anomaly : Option Anomaly} :
    AlertsAt level anomaly.toList ↔
      ∃ a ∈ anomaly, level.rank ≤ a.severity.rank := by
  simp only [AlertsAt, Option.mem_toList, Option.mem_def]

/-- What the memory anomaly reports. -/
theorem memoryPressureAnomaly_cases {cpuUsagePercent : Option ℚ} :
    (memoryPressureAnomaly memory cpuUsagePercent thresholds minionId =
        none ∧ ¬thresholds.memory.Warns memory.memoryUsagePercent) ∨
      ∃ anomaly, memoryPressureAnomaly memory cpuUsagePercent thresholds
          minionId = some anomaly ∧
        thresholds.memory.Warns memory.memoryUsagePercent ∧
        (isActivelySwapping anomaly = true ↔ Swapping thresholds memory) ∧
        (anomaly.severity = .critical ↔ MemoryCritical thresholds memory) ∧
        (anomaly.severity = .critical ∨ anomaly.severity = .warning) := by
  rcases husage : memory.memoryUsagePercent with _ | usage
  · left
    simp [memoryPressureAnomaly, husage, ThresholdBand.Warns, Reaches]
  · rcases hwarning : (thresholds.memory.warning.getD .infinite).reached? usage
      with _ | warning
    · left
      simp [memoryPressureAnomaly, husage, hwarning, ThresholdBand.Warns,
        Reaches]
    · right
      have hwarns : thresholds.memory.Warns (some usage) :=
        ⟨usage, rfl, by rw [hwarning]; rfl⟩
      simp only [memoryPressureAnomaly, husage, hwarning, Option.some.injEq,
        exists_eq_left', hwarns, true_and]
      refine ⟨?_, ?_, ?_⟩
      · simp [isActivelySwapping, Swapping, husage, hwarns, Reaches]
      · simp only [ite_eq_left_iff, reduceCtorEq, imp_false, not_not,
          Bool.or_eq_true, Bool.and_eq_true, MemoryCritical, husage, hwarns,
          true_and, Swapping, ThresholdBand.Alarms, Reaches,
          Option.mem_some_iff, exists_eq_left']
        tauto
      · split
        · exact Or.inl rfl
        · exact Or.inr rfl

theorem memoryPressureAnomaly_alerts_iff {cpuUsagePercent : Option ℚ} :
    (∃ a ∈ memoryPressureAnomaly memory cpuUsagePercent thresholds minionId,
        level.rank ≤ a.severity.rank) ↔
      MemoryAlerts thresholds level memory := by
  rw [MemoryAlerts]
  rcases @memoryPressureAnomaly_cases thresholds memory minionId
    cpuUsagePercent with ⟨hnone, hquiet⟩ |
      ⟨anomaly, hsome, hwarns, -, hcritical, hseverity⟩
  · simp [hnone, hquiet, MemoryCritical]
  · simp only [hsome, Option.mem_some_iff, exists_eq_left', ← hcritical,
      hwarns, and_true]
    rcases hseverity with hsevere | hmild
    · simp [hsevere, AlertSeverity.rank_le_critical]
    · simp [hmild, AlertSeverity.rank_le_warning_iff]

theorem any_isActivelySwapping_iff {cpuUsagePercent : Option ℚ} :
    (memoryPressureAnomaly memory cpuUsagePercent thresholds minionId).any
        isActivelySwapping = true ↔ Swapping thresholds memory := by
  rcases @memoryPressureAnomaly_cases thresholds memory minionId
    cpuUsagePercent with ⟨hnone, hquiet⟩ | ⟨anomaly, hsome, -, hactive, -, -⟩
  · simp [hnone, Swapping, hquiet]
  · simp [hsome, hactive]

/-- A finding with another service, resource and context alerts as before. -/
theorem map_alerts_iff {found : Option Anomaly} {f : Anomaly → Anomaly}
    (hseverity : ∀ a, (f a).severity = a.severity) :
    (∃ a ∈ found.map f, level.rank ≤ a.severity.rank) ↔
      ∃ a ∈ found, level.rank ≤ a.severity.rank := by
  simp only [Option.mem_map]
  constructor
  · rintro ⟨_, ⟨a, ha, rfl⟩, hle⟩
    exact ⟨a, ha, by rwa [hseverity] at hle⟩
  · rintro ⟨a, ha, hle⟩
    exact ⟨f a, ⟨a, ha, rfl⟩, by rwa [hseverity]⟩

theorem filesystemAnomalies_alerts_iff {filesystems : List Filesystem} :
    AlertsAt level
        (filesystemAnomalies filesystems thresholds.disk minionId) ↔
      FilesystemAlerts thresholds level filesystems := by
  have hone (filesystem : Filesystem) :=
    @checkThreshold_alerts_iff thresholds.disk level
      (some filesystem.usagePercent) minionId "disk"
      ("Filesystem " ++ filesystem.mountpoint ++ " usage")
  simp only [FilesystemAlerts, ← hone, AlertsAt, filesystemAnomalies,
    List.mem_filterMap, Option.map_eq_some_iff, Option.mem_def]
  constructor
  · rintro ⟨_, ⟨filesystem, hmem, a, ha, rfl⟩, hle⟩
    exact ⟨filesystem, hmem, a, ha, hle⟩
  · rintro ⟨filesystem, hmem, a, ha, hle⟩
    exact ⟨_, ⟨filesystem, hmem, a, ha, rfl⟩, hle⟩

theorem apacheAnomalies_alerts_iff {apacheInstance : String} :
    AlertsAt level
        (apacheAnomalies metrics thresholds minionId apacheInstance) ↔
      ApacheAlerts thresholds level metrics := by
  rw [apacheAnomalies, alertsAt_append, alertsAt_toList, alertsAt_toList,
    map_alerts_iff, map_alerts_iff, checkThreshold_alerts_iff,
    checkThreshold_alerts_iff, ApacheAlerts]
  · intro a
    rfl
  · intro a
    rfl

theorem postgresAnomalies_alerts_iff {postgresInstance : String} :
    AlertsAt level
        (postgresAnomalies metrics thresholds minionId postgresInstance) ↔
      PostgresAlerts thresholds level metrics := by
  rw [postgresAnomalies, alertsAt_append, alertsAt_toList, alertsAt_toList,
    map_alerts_iff, checkThreshold_alerts_iff, checkThreshold_alerts_iff,
    PostgresAlerts]
  intro a
  rfl

theorem cpuAnomaly_alerts_iff :
    (∃ a ∈ cpuAnomaly metrics thresholds minionId,
        level.rank ≤ a.severity.rank) ↔
      thresholds.cpu.Alerts level metrics.cpuPercent := by
  rw [cpuAnomaly, map_alerts_iff, checkThreshold_alerts_iff]
  intro a
  rfl

theorem alertsAt_configured {instanceName : Option String}
    {anomalies : String → List Anomaly} {P : Prop}
    (h : ∀ name, AlertsAt level (anomalies name) ↔ P) :
    AlertsAt level (((present instanceName).map anomalies).getD []) ↔
      (present instanceName).isSome = true ∧ P := by
  rcases present instanceName with _ | name
  · simp [AlertsAt]
  · simp [h]

/-- The severities that `check_all_metrics` reports. -/
theorem checkAllMetrics_alerts_iff {config : DetectionConfig}
    {minion : Minion} :
    AlertsAt level (checkAllMetrics config minion metrics) ↔
      AlertsAt level (telemetryAnomalies metrics minion.id) ∨
        AlertsBesidesCpu config.thresholds minion level metrics ∨
        (¬Swapping config.thresholds metrics.memoryPressure ∧
          config.thresholds.cpu.Alerts level metrics.cpuPercent) := by
  have hcpu (folded : Bool) : AlertsAt level
      (if folded = true then none
        else cpuAnomaly metrics config.thresholds minion.id).toList ↔
        ¬folded = true ∧
          config.thresholds.cpu.Alerts level metrics.cpuPercent := by
    rcases folded with _ | _
    · simpa [alertsAt_toList] using cpuAnomaly_alerts_iff
    · simp [AlertsAt]
  simp only [checkAllMetrics, alertsAt_append, hcpu, alertsAt_toList,
    memoryPressureAnomaly_alerts_iff, any_isActivelySwapping_iff,
    filesystemAnomalies_alerts_iff,
    alertsAt_configured fun _ => apacheAnomalies_alerts_iff,
    alertsAt_configured fun _ => postgresAnomalies_alerts_iff,
    AlertsBesidesCpu]
  tauto

end Signals

/-! ## Two snapshots -/

/-- Every signal of the minion has a value, and no exporter is missing one. -/
structure Complete (minion : Minion) (metrics : Metrics) : Prop where
  telemetry : telemetryAnomalies metrics minion.id = []
  memoryUsage : metrics.memoryPressure.memoryUsagePercent.isSome = true
  swapActivity :
    metrics.memoryPressure.swapActivityPagesPerSecond.isSome = true
  swapUsage : metrics.memoryPressure.swapUsagePercent.isSome = true
  cpu : metrics.cpuPercent.isSome = true
  apache : (present minion.apacheInstance).isSome = true →
    metrics.apacheBusyWorkersPercent.isSome = true ∧
      metrics.apacheRequestsPerSec.isSome = true
  postgres : (present minion.postgresInstance).isSome = true →
    metrics.postgresActiveConnectionsPercent.isSome = true ∧
      metrics.postgresDeadlocksPerMin.isSome = true

/-- No value of the second snapshot is below that of the first. -/
structure Rises (first second : Metrics) : Prop where
  memoryUsage : NoLower first.memoryPressure.memoryUsagePercent
    second.memoryPressure.memoryUsagePercent
  swapActivity : NoLower first.memoryPressure.swapActivityPagesPerSecond
    second.memoryPressure.swapActivityPagesPerSecond
  swapUsage : NoLower first.memoryPressure.swapUsagePercent
    second.memoryPressure.swapUsagePercent
  cpu : NoLower first.cpuPercent second.cpuPercent
  filesystems : ∀ filesystem ∈ first.filesystems,
    ∃ later ∈ second.filesystems, later.mountpoint = filesystem.mountpoint ∧
      later.device = filesystem.device ∧
      filesystem.usagePercent ≤ later.usagePercent
  apacheBusyWorkers : NoLower first.apacheBusyWorkersPercent
    second.apacheBusyWorkersPercent
  apacheRequests :
    NoLower first.apacheRequestsPerSec second.apacheRequestsPerSec
  postgresConnections : NoLower first.postgresActiveConnectionsPercent
    second.postgresActiveConnectionsPercent
  postgresDeadlocks :
    NoLower first.postgresDeadlocksPerMin second.postgresDeadlocksPerMin

/-- The highest severity of the later anomalies is at least that of the earlier
ones. -/
def NoLowerSeverity (earlier later : List Anomaly) : Prop :=
  ∀ anomaly ∈ earlier, AlertsAt anomaly.severity later

/-- A critical CPU alert of the first snapshot is folded into the memory anomaly
of the second one, and nothing there is critical. -/
structure FoldsCritical (thresholds : Thresholds) (minion : Minion)
    (first second : Metrics) : Prop where
  cpu : thresholds.cpu.Alarms first.cpuPercent
  separate : ¬Swapping thresholds first.memoryPressure
  folded : Swapping thresholds second.memoryPressure
  mild : ¬AlertsBesidesCpu thresholds minion .critical second

section Rise

variable {thresholds : Thresholds} {level : AlertSeverity} {minion : Minion}
  {first second : Metrics}

theorem noLowerSeverity_iff {earlier later : List Anomaly} :
    NoLowerSeverity earlier later ↔
      ∀ level, AlertsAt level earlier → AlertsAt level later := by
  constructor
  · rintro h level ⟨anomaly, hmem, hlevel⟩
    obtain ⟨worse, hworse, hle⟩ := h anomaly hmem
    exact ⟨worse, hworse, hlevel.trans hle⟩
  · intro h anomaly hmem
    exact h anomaly.severity ⟨anomaly, hmem, le_rfl⟩

/-- A value that is there can be defaulted. -/
theorem NoLower.getD {lower upper : Option ℚ} (h : NoLower lower upper)
    (hlower : lower.isSome = true) (default : ℚ) :
    NoLower (some (lower.getD default)) (some (upper.getD default)) := by
  obtain ⟨v, rfl⟩ := Option.isSome_iff_exists.mp hlower
  obtain ⟨w, hw, hle⟩ := h v rfl
  obtain rfl := Option.mem_def.mp hw
  intro x hx
  obtain rfl := Option.mem_some_iff.mp hx
  exact ⟨w, rfl, hle⟩

theorem Swapping.mono (hrises : Rises first second)
    (hcomplete : Complete minion first)
    (h : Swapping thresholds first.memoryPressure) :
    Swapping thresholds second.memoryPressure :=
  ⟨Reaches.mono hrises.memoryUsage h.1, Reaches.mono
    (hrises.swapActivity.getD hcomplete.swapActivity 0) h.2⟩

theorem MemoryCritical.mono (hrises : Rises first second)
    (hcomplete : Complete minion first)
    (h : MemoryCritical thresholds first.memoryPressure) :
    MemoryCritical thresholds second.memoryPressure := by
  have hactivity := hrises.swapActivity.getD hcomplete.swapActivity 0
  have husage := hrises.swapUsage.getD hcomplete.swapUsage 0
  refine ⟨Reaches.mono hrises.memoryUsage h.1, ?_⟩
  rcases h.2 with hfull | ⟨hswapping, hintense | hswapFull⟩
  · exact Or.inl (Reaches.mono hrises.memoryUsage hfull)
  · exact Or.inr ⟨hswapping.mono hrises hcomplete,
      Or.inl (Reaches.mono hactivity hintense)⟩
  · exact Or.inr ⟨hswapping.mono hrises hcomplete,
      Or.inr (Reaches.mono husage hswapFull)⟩

theorem AlertsBesidesCpu.mono (hrises : Rises first second)
    (hcomplete : Complete minion first)
    (h : AlertsBesidesCpu thresholds minion level first) :
    AlertsBesidesCpu thresholds minion level second := by
  rcases h with hmemory | hfilesystem | ⟨hconfigured, hapache⟩ |
    ⟨hconfigured, hpostgres⟩
  · refine Or.inl ?_
    rcases hmemory with hcritical | ⟨hlevel, hwarns⟩
    · exact Or.inl (hcritical.mono hrises hcomplete)
    · exact Or.inr ⟨hlevel, Reaches.mono hrises.memoryUsage hwarns⟩
  · obtain ⟨filesystem, hmem, halerts⟩ := hfilesystem
    obtain ⟨later, hlater, -, -, hle⟩ := hrises.filesystems filesystem hmem
    refine Or.inr (Or.inl ⟨later, hlater, halerts.mono ?_⟩)
    intro v hv
    obtain rfl := Option.mem_some_iff.mp hv
    exact ⟨later.usagePercent, rfl, hle⟩
  · refine Or.inr (Or.inr (Or.inl ⟨hconfigured, ?_⟩))
    rcases hapache with hbusy | hrequests
    · exact Or.inl (hbusy.mono hrises.apacheBusyWorkers)
    · exact Or.inr (hrequests.mono hrises.apacheRequests)
  · refine Or.inr (Or.inr (Or.inr ⟨hconfigured, ?_⟩))
    rcases hpostgres with hconnections | hdeadlocks
    · exact Or.inl (hconnections.mono hrises.postgresConnections)
    · exact Or.inr (hdeadlocks.mono hrises.postgresDeadlocks)

/-- A complete snapshot alerts of its signals only. -/
theorem Complete.alerts_iff {config : DetectionConfig} {metrics : Metrics}
    (hcomplete : Complete minion metrics) :
    AlertsAt level (checkAllMetrics config minion metrics) ↔
      AlertsBesidesCpu config.thresholds minion level metrics ∨
        (¬Swapping config.thresholds metrics.memoryPressure ∧
          config.thresholds.cpu.Alerts level metrics.cpuPercent) := by
  rw [checkAllMetrics_alerts_iff, hcomplete.telemetry]
  simp [AlertsAt]

end Rise

/-- When every value rises, the highest severity does not fall, except when the
only critical alert is one of the CPU and is folded into a memory anomaly. -/
theorem noLowerSeverity_of_rises_iff (config : DetectionConfig)
    (minion : Minion) (first second : Metrics)
    (hfirst : Complete minion first) (hsecond : Complete minion second)
    (hrises : Rises first second) :
    NoLowerSeverity (checkAllMetrics config minion first)
        (checkAllMetrics config minion second) ↔
      ¬FoldsCritical config.thresholds minion first second := by
  simp only [noLowerSeverity_iff, hfirst.alerts_iff, hsecond.alerts_iff]
  constructor
  · intro hkept hfolds
    rcases hkept .critical (Or.inr ⟨hfolds.separate, Or.inl hfolds.cpu⟩) with
      hother | ⟨hseparate, -⟩
    · exact hfolds.mild hother
    · exact hseparate hfolds.folded
  · rintro hfolds level (hother | ⟨hseparate, hcpu⟩)
    · exact Or.inl (hother.mono hrises hfirst)
    · by_cases hswapping : Swapping config.thresholds second.memoryPressure
      · left
        by_cases hlevel : level = .critical
        · subst hlevel
          by_contra hmild
          have hcritical : config.thresholds.cpu.Alarms first.cpuPercent := by
            rcases hcpu with hcritical | ⟨hne, -⟩
            · exact hcritical
            · exact absurd rfl hne
          exact hfolds ⟨hcritical, hseparate, hswapping, hmild⟩
        · exact Or.inl (Or.inr ⟨hlevel, hswapping.1⟩)
      · exact Or.inr ⟨hswapping, hcpu.mono hrises.cpu⟩

/-! ## A host that begins to swap -/

/-- The memory of the host is at eighty percent and its CPU at 96. -/
def busyHost (pagesIn : ℚ) : PrometheusAnswers where
  nodeUp := .value 1 (some 0)
  filesystems :=
    .value [⟨some "/", some "/dev/vda1", some "xfs", some (.finite 40)⟩]
      (some 0)
  memory :=
    { memoryAvailableBytes := .value 800 (some 0)
      memoryTotalBytes := .value 4000 (some 0)
      swapTotalBytes := .value 2000 (some 0)
      swapFreeBytes := .value 1800 (some 0)
      swapInPagesPerSecond := .value pagesIn (some 0)
      swapOutPagesPerSecond := .value 0 (some 0)
      systemCpuPercent := .value 25 (some 0)
      iowaitCpuPercent := .value 10 (some 0) }
  cpu := .value 96 (some 0)
  apacheUp := .failed .missing none none
  apacheBusyWorkers := .failed .missing none none
  apacheIdleWorkers := .failed .missing none none
  apacheRequestsPerSec := .failed .missing none none
  postgresUp := .failed .missing none none
  postgresConnections := .failed .missing none none
  postgresMaxConnections := .failed .missing none none
  postgresDeadlocksPerMin := .failed .missing none none

def busyMinion : Minion := ⟨"web", "web:9100", none, none⟩

theorem busyHost_complete (pagesIn : ℚ) :
    Complete busyMinion (getAllMetrics busyMinion (busyHost pagesIn)) :=
  ⟨by rfl, by rfl, by rfl, by rfl, by rfl, fun h => absurd h (by decide),
    fun h => absurd h (by decide)⟩

/-- Only the swap activity of the host rises. -/
theorem busyHost_rises {pagesIn later : ℚ} (h : pagesIn ≤ later) :
    Rises (getAllMetrics busyMinion (busyHost pagesIn))
      (getAllMetrics busyMinion (busyHost later)) := by
  have hsame (value : Option ℚ) : NoLower value value :=
    fun v hv => ⟨v, hv, le_rfl⟩
  refine ⟨hsame _, ?_, hsame _, hsame _, ?_, hsame _, hsame _, hsame _,
    hsame _⟩
  · intro v hv
    obtain rfl := Option.mem_some_iff.mp hv
    exact ⟨later + 0, rfl, by simpa using h⟩
  · intro filesystem hmem
    exact ⟨filesystem, hmem, rfl, rfl, le_rfl⟩

theorem noLowerSeverity_of_rises_iff_busyHost :
    NoLowerSeverity
        (checkAllMetrics .plain busyMinion
          (getAllMetrics busyMinion (busyHost 0)))
        (checkAllMetrics .plain busyMinion
          (getAllMetrics busyMinion (busyHost 100))) ↔
      ¬FoldsCritical DetectionConfig.plain.thresholds busyMinion
        (getAllMetrics busyMinion (busyHost 0))
        (getAllMetrics busyMinion (busyHost 100)) :=
  noLowerSeverity_of_rises_iff .plain busyMinion _ _ (busyHost_complete 0)
    (busyHost_complete 100) (busyHost_rises (by norm_num))

/-- When the host begins to swap, its critical CPU alert becomes a warning of
memory pressure. -/
theorem swapping_lowers_severity :
    ¬∀ (config : DetectionConfig) (minion : Minion) (first second : Metrics),
      config.thresholds.Accepted → Complete minion first →
      Complete minion second → Rises first second →
      NoLowerSeverity (checkAllMetrics config minion first)
        (checkAllMetrics config minion second) := by
  intro hall
  have hkept := hall .plain busyMinion
    (getAllMetrics busyMinion (busyHost 0))
    (getAllMetrics busyMinion (busyHost 10)) DetectionConfig.plain_accepted
    (busyHost_complete 0) (busyHost_complete 10) (busyHost_rises (by norm_num))
  have hfirst : (checkAllMetrics .plain busyMinion
      (getAllMetrics busyMinion (busyHost 0))).any
        (·.severity = .critical) = true := by
    decide +kernel
  have hsecond : (checkAllMetrics .plain busyMinion
      (getAllMetrics busyMinion (busyHost 10))).all
        (·.severity = .warning) = true := by
    decide +kernel
  obtain ⟨alarm, hmem, hcritical⟩ := List.any_eq_true.mp hfirst
  obtain ⟨worse, hworse, hle⟩ := hkept alarm hmem
  have hwarning := List.all_eq_true.mp hsecond worse hworse
  simp only [decide_eq_true_eq] at hcritical hwarning
  rw [hcritical, hwarning] at hle
  exact absurd hle (by decide)

end UyuniAgent
