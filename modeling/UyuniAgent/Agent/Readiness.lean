import UyuniAgent.Agent.Detection
import UyuniAgent.Investigation.Isolation

/-!
# Readiness

`AgentObservability` as far as `ready` reads it: the last poll cycle in which
a minion was detected completely, and the outcome of the last operation of each
dependency.  A snapshot counts as complete when Prometheus answered any query
without an error, and an answer without data is no error.
-/

namespace UyuniAgent.Agent

open Investigation (Dependency)

/-! ## Poll cycles -/

/-- What becomes of a poll cycle.  A minion without inputs exceeded its
deadline, and an aborted cycle ran into its own deadline or an exception. -/
inductive PollCourse
  | finished (minions : List (Option DetectionInputs))
  | aborted (minions : ℕ)

namespace PollCourse

/-- `len(cycle_minions)`. -/
def totalMinions : PollCourse → ℕ
  | .finished minions => minions.length
  | .aborted minions => minions

def snapshots (py : Interpreter) (config : DetectionConfig) :
    PollCourse → List MinionSnapshot
  | .finished minions =>
      minions.filterMap fun inputs? => inputs?.bind (detectMinion py config)
  | .aborted _ => []

/-- What `execute_poll_cycle` returns, or zero when it does not. -/
def successfulMinions (py : Interpreter) (config : DetectionConfig)
    (course : PollCourse) : ℕ :=
  (course.snapshots py config).countP (·.complete)

end PollCourse

/-! ## `AgentObservability` -/

inductive DependencyOutcome
  | success
  | error
  | timeout
  | circuitOpen
  deriving DecidableEq

inductive PollOutcome
  | success
  | partially
  | failed
  deriving DecidableEq

structure ObservabilitySettings where
  readinessMaxAgeSeconds : ℚ
  requiredDependencies : List Dependency
  readinessMaxAgeSeconds_pos : 0 < readinessMaxAgeSeconds

structure AgentObservability where
  lastSuccessfulPollAt : Option ℚ
  dependencyAvailable : Dependency → Bool

namespace AgentObservability

def initial : AgentObservability := ⟨none, fun _ => false⟩

def ready (cfg : ObservabilitySettings) (o : AgentObservability) (now : ℚ) :
    Bool :=
  match o.lastSuccessfulPollAt with
  | none => false
  | some polledAt =>
      let age := now - polledAt
      0 ≤ age && age ≤ cfg.readinessMaxAgeSeconds &&
        cfg.requiredDependencies.all o.dependencyAvailable

def recordPoll (o : AgentObservability) (now : ℚ)
    (totalMinions successfulMinions : ℕ) : PollOutcome × AgentObservability :=
  let successful := min totalMinions successfulMinions
  let outcome :=
    if 0 < totalMinions ∧ successful = totalMinions then .success
    else if 0 < successful then .partially
    else .failed
  (outcome,
    if successful = 0 then o else { o with lastSuccessfulPollAt := some now })

def recordDependency (o : AgentObservability) (dependency : Dependency)
    (outcome : DependencyOutcome) : AgentObservability :=
  { o with
    dependencyAvailable :=
      Function.update o.dependencyAvailable dependency (outcome = .success) }

end AgentObservability

inductive ReadinessEvent
  | poll (now : ℚ) (course : PollCourse)
  | dependency (dependency : Dependency) (outcome : DependencyOutcome)

/-- The agent records an event. -/
def AgentObservability.record (py : Interpreter) (config : DetectionConfig)
    (o : AgentObservability) : ReadinessEvent → AgentObservability
  | .poll now course =>
      (o.recordPoll now course.totalMinions
        (course.successfulMinions py config)).2
  | .dependency dependency outcome => o.recordDependency dependency outcome

/-- What a run leads to. -/
def observed (py : Interpreter) (config : DetectionConfig)
    (events : List ReadinessEvent) : AgentObservability :=
  events.foldl (AgentObservability.record py config) .initial

/-- The outcome of the Prometheus operation of a minion, whose success
predicate is `_prometheus_snapshot_available`. -/
def prometheusOutcome (inputs : DetectionInputs) : DependencyOutcome :=
  match inputs.prometheus with
  | none => .error
  | some answers =>
      if prometheusSnapshotAvailable (getAllMetrics inputs.minion answers) then
        .success
      else .error

/-! ## What readiness stands for -/

/-- No inspection of the minion over Salt failed. -/
def MinionSnapshot.Inspected (snapshot : MinionSnapshot) : Prop :=
  ∀ anomaly ∈ snapshot.anomalies, isSaltTelemetry anomaly = false

/-- Prometheus has a reading of the minion. -/
def MinionSnapshot.Read (snapshot : MinionSnapshot) : Prop :=
  ∃ reading ∈ snapshot.metrics.telemetry, reading.status = .ok

/-- Some query about the minion did not end in an error. -/
def MinionSnapshot.Answered (snapshot : MinionSnapshot) : Prop :=
  ∃ reading ∈ snapshot.metrics.telemetry, reading.status ≠ .error

/-- The outcome of the last operation of a dependency. -/
def lastOutcome (events : List ReadinessEvent) (dependency : Dependency) :
    Option DependencyOutcome :=
  (events.filterMap fun
    | .dependency other outcome =>
        if other = dependency then some outcome else none
    | .poll _ _ => none).getLast?

/-- A minion was read and inspected within the age limit, and the last
operation of every required dependency succeeded. -/
structure Backed (cfg : ObservabilitySettings) (py : Interpreter)
    (config : DetectionConfig) (events : List ReadinessEvent) (now : ℚ) :
    Prop where
  polled : ∃ polledAt course, .poll polledAt course ∈ events ∧
    0 ≤ now - polledAt ∧ now - polledAt ≤ cfg.readinessMaxAgeSeconds ∧
      ∃ snapshot ∈ course.snapshots py config,
        snapshot.Read ∧ snapshot.Inspected
  available : ∀ dependency ∈ cfg.requiredDependencies,
    lastOutcome events dependency = some .success

/-- A cycle in which an inspected minion had an answer is one in which an
inspected minion had a reading. -/
def PollCourse.ReadsWhatAnswers (py : Interpreter) (config : DetectionConfig)
    (course : PollCourse) : Prop :=
  (∃ snapshot ∈ course.snapshots py config,
    snapshot.Answered ∧ snapshot.Inspected) →
  ∃ snapshot ∈ course.snapshots py config, snapshot.Read ∧ snapshot.Inspected

/-! ## Complete snapshots -/

section Complete

variable {py : Interpreter} {config : DetectionConfig}
  {inputs : DetectionInputs} {snapshot : MinionSnapshot}
  {course : PollCourse}

/-- A disk finding comes from Prometheus. -/
theorem isSaltTelemetry_relateServices (services : List String)
    (anomaly : Anomaly) :
    isSaltTelemetry (relateServices services anomaly) =
      isSaltTelemetry anomaly := by
  rw [relateServices]
  split
  next hdisk =>
    split
    · simp [isSaltTelemetry, hdisk]
    · rfl
  · rfl

theorem isSaltTelemetry_saltTelemetryAnomaly (minionId check failure : String) :
    isSaltTelemetry (saltTelemetryAnomaly minionId check failure) = true :=
  rfl

theorem complete_snapshotOf_iff {minion : Minion} {metrics : Metrics}
    {available : Bool} {services locks : List Anomaly}
    (havailable : available = false → ∃ anomaly ∈ services,
      isSaltTelemetry anomaly = true) :
    (snapshotOf config minion metrics available services locks).complete =
        true ↔
      (snapshotOf config minion metrics available services locks).Answered ∧
        (snapshotOf config minion metrics available services
          locks).Inspected := by
  have hanswered : prometheusSnapshotAvailable metrics = true ↔
      (snapshotOf config minion metrics available services
        locks).Answered := by
    simp [prometheusSnapshotAvailable, MinionSnapshot.Answered, snapshotOf]
  have hinspected : (checkAllMetrics config minion metrics ++ services ++
      locks).any isSaltTelemetry = false ↔
      (snapshotOf config minion metrics available services
        locks).Inspected := by
    simp [MinionSnapshot.Inspected, snapshotOf, or_imp, forall_and,
      isSaltTelemetry_relateServices]
  rw [← hanswered, ← hinspected]
  simp only [snapshotOf, Bool.and_eq_true, Bool.not_eq_true']
  constructor
  · rintro ⟨⟨-, hsalt⟩, hprometheus⟩
    exact ⟨hprometheus, hsalt⟩
  · rintro ⟨hprometheus, hsalt⟩
    refine ⟨⟨?_, hsalt⟩, hprometheus⟩
    by_contra hnot
    obtain ⟨anomaly, hmem, htelemetry⟩ := havailable (by simpa using hnot)
    have hany := List.any_eq_true.mpr
      ⟨anomaly, List.mem_append_left locks (List.mem_append_right
        (checkAllMetrics config minion metrics) hmem), htelemetry⟩
    rw [hany] at hsalt
    cases hsalt

/-- A snapshot is complete when its minion was inspected and some query was
answered without an error. -/
theorem complete_iff (h : detectMinion py config inputs = some snapshot) :
    snapshot.complete = true ↔ snapshot.Answered ∧ snapshot.Inspected := by
  simp only [detectMinion, detectWithMetrics, Option.bind_eq_bind,
    Option.bind_eq_some_iff, Option.pure_def, Option.some.injEq] at h
  obtain ⟨answers, -, services, hservices, locks, -, rfl⟩ := h
  apply complete_snapshotOf_iff
  intro hnot
  rw [serviceAnomalies, hnot] at hservices
  obtain rfl := Option.some.inj hservices
  exact ⟨_, List.mem_cons_self, isSaltTelemetry_saltTelemetryAnomaly _ _ _⟩

theorem detected_of_mem_snapshots (h : snapshot ∈ course.snapshots py config) :
    ∃ inputs, detectMinion py config inputs = some snapshot := by
  rcases course with minions | minions
  · obtain ⟨inputs?, -, hsnapshot⟩ := List.mem_filterMap.mp h
    obtain ⟨inputs, -, hdetected⟩ := Option.bind_eq_some_iff.mp hsnapshot
    exact ⟨inputs, hdetected⟩
  · cases h

theorem successfulMinions_le :
    course.successfulMinions py config ≤ course.totalMinions := by
  rcases course with minions | minions
  · exact List.countP_le_length.trans (List.length_filterMap_le _ minions)
  · exact Nat.zero_le minions

/-- A cycle is successful when an inspected minion had an answer. -/
theorem successfulMinions_pos_iff :
    0 < course.successfulMinions py config ↔
      ∃ snapshot ∈ course.snapshots py config,
        snapshot.Answered ∧ snapshot.Inspected := by
  rw [PollCourse.successfulMinions, List.countP_pos_iff]
  constructor
  · rintro ⟨snapshot, hmem, hcomplete⟩
    obtain ⟨inputs, hdetected⟩ := detected_of_mem_snapshots hmem
    exact ⟨snapshot, hmem, (complete_iff hdetected).mp hcomplete⟩
  · rintro ⟨snapshot, hmem, hsnapshot⟩
    obtain ⟨inputs, hdetected⟩ := detected_of_mem_snapshots hmem
    exact ⟨snapshot, hmem, (complete_iff hdetected).mpr hsnapshot⟩

/-- The polls that move the time of the last success. -/
theorem recordPoll_eq (o : AgentObservability) (now : ℚ) :
    (o.recordPoll now course.totalMinions
        (course.successfulMinions py config)).2 =
      if 0 < course.successfulMinions py config then
        { o with lastSuccessfulPollAt := some now }
      else o := by
  have hle : course.successfulMinions py config ≤ course.totalMinions :=
    successfulMinions_le
  rw [AgentObservability.recordPoll]
  dsimp only
  by_cases hpos : 0 < course.successfulMinions py config
  · rw [if_pos hpos, if_neg (by omega)]
  · rw [if_neg hpos, if_pos (by omega)]

end Complete

/-! ## Runs -/

section Runs

variable {cfg : ObservabilitySettings} {py : Interpreter}
  {config : DetectionConfig} {events : List ReadinessEvent}

theorem observed_concat (event : ReadinessEvent) :
    observed py config (events ++ [event]) =
      (observed py config events).record py config event := by
  rw [observed, List.foldl_append]
  rfl

/-- A dependency is available when its last operation succeeded. -/
theorem dependencyAvailable_iff (dependency : Dependency) :
    (observed py config events).dependencyAvailable dependency = true ↔
      lastOutcome events dependency = some .success := by
  induction events using List.reverseRecOn with
  | nil => simp [observed, AgentObservability.initial, lastOutcome]
  | append_singleton past event ih =>
      rw [observed_concat, lastOutcome, List.filterMap_append]
      rcases event with ⟨now, course⟩ | ⟨other, outcome⟩
      case poll =>
        rw [AgentObservability.record, recordPoll_eq,
          List.filterMap_cons_none rfl, List.filterMap_nil, List.append_nil]
        split
        · exact ih
        · exact ih
      case dependency =>
        rw [AgentObservability.record, AgentObservability.recordDependency]
        dsimp only
        by_cases hsame : other = dependency
        · simp [hsame]
        · rw [Function.update_of_ne (Ne.symm hsame), ih, lastOutcome]
          simp [hsame]

/-- The last success is a poll of the run in which an inspected minion had an
answer. -/
theorem exists_of_lastSuccessfulPollAt {polledAt : ℚ}
    (h : (observed py config events).lastSuccessfulPollAt = some polledAt) :
    ∃ course, .poll polledAt course ∈ events ∧
      ∃ snapshot ∈ course.snapshots py config,
        snapshot.Answered ∧ snapshot.Inspected := by
  induction events using List.reverseRecOn with
  | nil => cases h
  | append_singleton past event ih =>
      have hpast (hlast : (observed py config past).lastSuccessfulPollAt =
          some polledAt) :
          ∃ course, .poll polledAt course ∈ past ++ [event] ∧
            ∃ snapshot ∈ course.snapshots py config,
              snapshot.Answered ∧ snapshot.Inspected := by
        obtain ⟨course, hmem, hsnapshot⟩ := ih hlast
        exact ⟨course, List.mem_append_left [event] hmem, hsnapshot⟩
      rw [observed_concat] at h
      rcases event with ⟨now, course⟩ | ⟨other, outcome⟩
      case poll =>
        rw [AgentObservability.record, recordPoll_eq] at h
        split at h
        next hpos =>
          obtain rfl := Option.some.inj h
          exact ⟨course, List.mem_append_right past List.mem_cons_self,
            successfulMinions_pos_iff.mp hpos⟩
        · exact hpast h
      case dependency => exact hpast h

theorem ready_iff {now : ℚ} :
    (observed py config events).ready cfg now = true ↔
      (∃ polledAt, (observed py config events).lastSuccessfulPollAt =
          some polledAt ∧ 0 ≤ now - polledAt ∧
            now - polledAt ≤ cfg.readinessMaxAgeSeconds) ∧
        ∀ dependency ∈ cfg.requiredDependencies,
          lastOutcome events dependency = some .success := by
  have havailable (dependency : Dependency) :
      lastOutcome events dependency = some .success ↔
        (observed py config events).dependencyAvailable dependency = true :=
    (dependencyAvailable_iff dependency).symm
  simp only [AgentObservability.ready, havailable]
  rcases (observed py config events).lastSuccessfulPollAt with _ | polledAt
  · simp
  · simp [and_assoc]

theorem lastOutcome_of_all_success {dependency : Dependency}
    (hmem : .dependency dependency .success ∈ events)
    (hall : ∀ outcome, .dependency dependency outcome ∈ events →
      outcome = .success) : lastOutcome events dependency = some .success := by
  rcases hlast : lastOutcome events dependency with _ | outcome
  · have hnone := List.getLast?_eq_none_iff.mp hlast
    rw [List.filterMap_eq_nil_iff] at hnone
    simpa using hnone _ hmem
  · obtain ⟨event, hevent, houtcome⟩ :=
      List.mem_filterMap.mp (List.mem_of_getLast? hlast)
    rcases event with ⟨now, course⟩ | ⟨other, recorded⟩
    case poll => cases houtcome
    case dependency =>
      dsimp only at houtcome
      split at houtcome
      next hsame =>
        obtain rfl := hsame
        obtain rfl := Option.some.inj houtcome
        rw [hall recorded hevent]
      · cases houtcome

/-- The required dependencies succeed, and one cycle is polled. -/
def firstPoll (cfg : ObservabilitySettings) (course : PollCourse) :
    List ReadinessEvent :=
  cfg.requiredDependencies.map (.dependency · .success) ++ [.poll 0 course]

theorem ready_firstPoll {course : PollCourse}
    (hanswered : ∃ snapshot ∈ course.snapshots py config,
      snapshot.Answered ∧ snapshot.Inspected) :
    (observed py config (firstPoll cfg course)).ready cfg 0 = true := by
  rw [ready_iff]
  constructor
  · refine ⟨0, ?_, by simp, by simpa using cfg.readinessMaxAgeSeconds_pos.le⟩
    rw [firstPoll, observed_concat, AgentObservability.record, recordPoll_eq,
      if_pos (successfulMinions_pos_iff.mpr hanswered)]
  · intro dependency hrequired
    apply lastOutcome_of_all_success
    · exact List.mem_append_left _ (List.mem_map_of_mem hrequired)
    · intro outcome houtcome
      rcases List.mem_append.mp houtcome with hmem | hmem
      · obtain ⟨other, -, heq⟩ := List.mem_map.mp hmem
        exact (ReadinessEvent.dependency.inj heq).2.symm
      · cases List.mem_singleton.mp hmem

end Runs

/-! ## When readiness is truthful -/

/-- Readiness is backed in every run over a kind of poll cycles exactly when
the cycles of this kind read what answers. -/
theorem ready_backed_iff (cfg : ObservabilitySettings) (py : Interpreter)
    (config : DetectionConfig) (courses : PollCourse → Prop) :
    (∀ events, (∀ now course, .poll now course ∈ events → courses course) →
      ∀ now, (observed py config events).ready cfg now = true →
        Backed cfg py config events now) ↔
      ∀ course, courses course → course.ReadsWhatAnswers py config := by
  constructor
  · intro hbacked course hcourse hanswered
    have honly (now : ℚ) (other : PollCourse)
        (hmem : .poll now other ∈ firstPoll cfg course) : other = course := by
      rcases List.mem_append.mp hmem with hmem | hmem
      · obtain ⟨dependency, -, heq⟩ := List.mem_map.mp hmem
        cases heq
      · exact (ReadinessEvent.poll.inj (List.mem_singleton.mp hmem)).2
    obtain ⟨polledAt, other, hmem, -, -, hread⟩ := (hbacked
      (firstPoll cfg course)
      (fun now other hmem => honly now other hmem ▸ hcourse) 0
      (ready_firstPoll hanswered)).polled
    rwa [honly polledAt other hmem] at hread
  · intro hreads events hcourses now hready
    obtain ⟨⟨polledAt, hlast, hlater, hage⟩, havailable⟩ := ready_iff.mp hready
    obtain ⟨course, hmem, hanswered⟩ := exists_of_lastSuccessfulPollAt hlast
    exact ⟨⟨polledAt, course, hmem, hlater, hage,
      hreads course (hcourses polledAt course hmem) hanswered⟩, havailable⟩

/-! ## Stale telemetry -/

/-- Prometheus has only old samples of every metric. -/
def staleAnswers : PrometheusAnswers :=
  let stale : QueryOutcome ℚ :=
    .failed .stale (some 0) (some "newest sample is older than 300s")
  { nodeUp := stale
    filesystems := .failed .stale (some 0)
      (some "newest sample is older than 300s")
    memory :=
      { memoryAvailableBytes := stale
        memoryTotalBytes := stale
        swapTotalBytes := stale
        swapFreeBytes := stale
        swapInPagesPerSecond := stale
        swapOutPagesPerSecond := stale
        systemCpuPercent := stale
        iowaitCpuPercent := stale }
    cpu := stale
    apacheUp := stale
    apacheBusyWorkers := stale
    apacheIdleWorkers := stale
    apacheRequestsPerSec := stale
    postgresUp := stale
    postgresConnections := stale
    postgresMaxConnections := stale
    postgresDeadlocksPerMin := stale }

/-- The service inspection finds no failed unit. -/
def staleInputs : DetectionInputs where
  minion := sampleHost
  prometheus := some staleAnswers
  salt :=
    { available := true
      allowedMinions := ["web"]
      services := ⟨answeredExchange (.response 200 "" (some
        "\x7b\"return\": [\x7b\"web\": \"\"\x7d]\x7d")), some closedCircuit,
        false⟩
      locks := ⟨answeredExchange (.failed ""), some closedCircuit, false⟩ }

def ObservabilitySettings.plain : ObservabilitySettings where
  readinessMaxAgeSeconds := 180
  requiredDependencies := [.salt, .prometheus]
  readinessMaxAgeSeconds_pos := by norm_num

/-- The agent is ready while every reading of its only minion is stale. -/
theorem ready_on_stale_telemetry :
    ¬∀ (cfg : ObservabilitySettings) (py : Interpreter)
      (config : DetectionConfig) (events : List ReadinessEvent) (now : ℚ),
      (observed py config events).ready cfg now = true →
        Backed cfg py config events now := by
  intro hall
  let py : Interpreter := ⟨1000, fun _ => ""⟩
  let course : PollCourse := .finished [some staleInputs]
  have hready : (observed py .plain [.dependency .salt .success,
      .dependency .prometheus (prometheusOutcome staleInputs),
      .poll 0 course]).ready .plain 60 = true := by decide +kernel
  obtain ⟨⟨polledAt, other, hmem, -, -, snapshot, hsnapshot, hread, -⟩, -⟩ :=
    hall .plain py .plain _ 60 hready
  simp only [List.mem_cons, reduceCtorEq, ReadinessEvent.poll.injEq,
    List.not_mem_nil, or_false, false_or] at hmem
  obtain ⟨-, rfl⟩ := hmem
  have hnone : ∀ snapshot ∈ course.snapshots py .plain,
      ∀ reading ∈ snapshot.metrics.telemetry, reading.status ≠ .ok := by
    decide +kernel
  obtain ⟨reading, hreading, hok⟩ := hread
  exact hnone snapshot hsnapshot reading hreading hok

end UyuniAgent.Agent
