import UyuniAgent.Agent.Detection
import UyuniAgent.Agent.PollCycle
import UyuniAgent.Detector.Findings

/-!
# Lost telemetry and the absence counter

The store counts a cycle as healthy for an incident when the cycle reports
nothing of it.  Whether the check of the incident had anything to look at does
not reach the store, so an inspection that fails and a reading that is missing
count like a recovery.
-/

namespace UyuniAgent.Agent

open Incident Salt Transition DependencyCorrelationWindow

/-! ## Data of a check -/

/-- The inspection has an output that is no failure text. -/
def inspectionObtained (py : Interpreter) (minionId : String)
    (allowedMinions : List String) (operation : Operation) : Bool :=
  match runCommand py allowedMinions minionId operation with
  | .ok output => (saltInspectionFailure (.str output)).isNone
  | .error _ => false

/-- The check of the metric has usable data. -/
def obtainedData (py : Interpreter) (config : DetectionConfig)
    (inputs : DetectionInputs) (metric : String) : Bool :=
  if metric = "service_down" then
    inputs.salt.available && config.serviceMonitoringEnabled &&
      inspectionObtained py inputs.minion.id inputs.salt.allowedMinions
        inputs.salt.services
  else if metric = "postgres_blocked_transaction" then
    (present inputs.minion.postgresInstance).isSome &&
      inputs.salt.available && config.postgresLockMonitoringEnabled &&
      inspectionObtained py inputs.minion.id inputs.salt.allowedMinions
        inputs.salt.locks
  else
    inputs.prometheus.any fun answers =>
      (getAllMetrics inputs.minion answers).obtainedFor metric

/-! ## Runs of detections -/

inductive WatchEvent (F : Type)
  /-- Detect the minions, and correlate. -/
  | detect (inputs : List DetectionInputs) (edges : List DependencyEdge)
      (now : ℚ)
  | reconcile (minion : String) (now : ℚ)
  | markEmitted (fingerprint : F) (payload : AlertPayload F) (now : ℚ)
      (startsAt : Option Rfc3339)
  | markResolved (fingerprint : F) (now : ℚ)
  | restart

/-- The snapshots of a cycle; a minion whose detection raises has none. -/
def detectedSnapshots (py : Interpreter) (config : DetectionConfig)
    (inputs : List DetectionInputs) : List (Snapshot DetectionInputs) :=
  inputs.filterMap fun input =>
    (detectMinion py config input).map fun detected =>
      ⟨input.minion.id, detected.anomalies, input⟩

variable {F : Type} [DecidableEq F]

def WatchEvent.poll (py : Interpreter) (config : DetectionConfig) :
    WatchEvent F → PollEvent F DetectionInputs
  | .detect inputs edges now =>
      .correlate (detectedSnapshots py config inputs) edges now
  | .reconcile minion now => .reconcile minion now
  | .markEmitted fingerprint payload now startsAt =>
      .markEmitted fingerprint payload now startsAt
  | .markResolved fingerprint now => .markResolved fingerprint now
  | .restart => .restart

def watchStep (py : Interpreter) (config : DetectionConfig)
    (cfg : PollSettings F) (s : PollState F DetectionInputs)
    (e : WatchEvent F) : Option (PollState F DetectionInputs) :=
  pollStep cfg s (e.poll py config)

/-! ## Detected anomalies -/

section Detected

variable {py : Interpreter} {config : DetectionConfig}
  {inputs : DetectionInputs} {anomaly : Anomaly}

/-- What a detected anomaly tells about its minion and its check. -/
structure Detected (py : Interpreter) (config : DetectionConfig)
    (inputs : DetectionInputs) (anomaly : Anomaly) : Prop where
  minion : anomaly.minionId = inputs.minion.id
  obtained : obtainedData py config inputs anomaly.metricName = true

namespace Detected

theorem of_telemetry (hanswers : inputs.prometheus.isSome = true)
    (hminion : anomaly.minionId = inputs.minion.id)
    (hmetric : anomaly.metricName = "telemetry_unavailable") :
    Detected py config inputs anomaly := by
  refine ⟨hminion, ?_⟩
  obtain ⟨answers, hanswers⟩ := Option.isSome_iff_exists.mp hanswers
  rw [hmetric, obtainedData, hanswers]
  rfl

theorem of_restsOnData {answers : PrometheusAnswers}
    (hanswers : inputs.prometheus = some answers)
    (h : RestsOnData inputs.minion.id (getAllMetrics inputs.minion answers)
      anomaly) :
    Detected py config inputs anomaly := by
  rcases h.metric with htelemetry | hneeded
  · exact of_telemetry (by rw [hanswers]; rfl) h.minion htelemetry
  · have hother (metric : String)
        (hnone : neededReadings.lookup metric = none) :
        anomaly.metricName ≠ metric := by
      rintro rfl
      rw [hnone] at hneeded
      cases hneeded
    refine ⟨h.minion, ?_⟩
    rw [obtainedData, if_neg (hother "service_down" rfl),
      if_neg (hother "postgres_blocked_transaction" rfl), hanswers]
    exact h.obtained

theorem relateServices {services : List String}
    (h : Detected py config inputs anomaly) :
    Detected py config inputs (Agent.relateServices services anomaly) := by
  unfold Agent.relateServices
  split
  · split
    · exact ⟨h.minion, h.obtained⟩
    · exact h
  · exact h

theorem of_services (hanswers : inputs.prometheus.isSome = true)
    {services : List Anomaly}
    (hservices : serviceAnomalies py config inputs.minion inputs.salt =
      some services) (hmem : anomaly ∈ services) :
    Detected py config inputs anomaly := by
  unfold serviceAnomalies at hservices
  split at hservices
  next havailable =>
    unfold inspectServices at hservices
    split at hservices
    next henabled =>
      split at hservices
      next output hrun =>
        obtain rfl := Option.some.inj hservices
        obtain ⟨hminion, htelemetry | ⟨hmetric, hnone⟩⟩ :=
          mem_checkFailedServices hmem
        · exact of_telemetry hanswers hminion htelemetry
        · refine ⟨hminion, ?_⟩
          rw [obtainedData, if_pos hmetric]
          simp [havailable, henabled, inspectionObtained, hrun, hnone]
      · cases hservices
    · obtain rfl := Option.some.inj hservices
      cases hmem
  · obtain rfl := Option.some.inj hservices
    obtain rfl := List.mem_singleton.mp hmem
    exact of_telemetry hanswers rfl rfl

theorem of_locks (hanswers : inputs.prometheus.isSome = true)
    {locks : List Anomaly}
    (hlocks : postgresLockAnomalies py config inputs.minion inputs.salt =
      some locks) (hmem : anomaly ∈ locks) :
    Detected py config inputs anomaly := by
  unfold postgresLockAnomalies at hlocks
  split at hlocks
  next hasked =>
    unfold inspectLocks at hlocks
    split at hlocks
    next henabled =>
      split at hlocks
      next output hrun =>
        split at hlocks
        next found hcheck =>
          obtain rfl := Option.some.inj hlocks
          obtain ⟨hminion, htelemetry | ⟨hmetric, hnone⟩⟩ :=
            mem_checkPostgresBlockedTransactions hcheck hmem
          · exact of_telemetry hanswers hminion htelemetry
          · refine ⟨hminion, ?_⟩
            have hother : anomaly.metricName ≠ "service_down" := by
              rw [hmetric]
              decide
            rw [obtainedData, if_neg hother, if_pos hmetric, hasked]
            simp [henabled, inspectionObtained, hrun, hnone]
        · cases hlocks
      · cases hlocks
    · obtain rfl := Option.some.inj hlocks
      cases hmem
  · obtain rfl := Option.some.inj hlocks
    cases hmem

/-- A detected anomaly is one of its minion, and its check had usable data. -/
theorem of_mem {snapshot : MinionSnapshot}
    (hsnapshot : detectMinion py config inputs = some snapshot)
    (hmem : anomaly ∈ snapshot.anomalies) :
    Detected py config inputs anomaly := by
  simp only [detectMinion, detectWithMetrics, Option.bind_eq_bind,
    Option.bind_eq_some_iff] at hsnapshot
  obtain ⟨answers, hanswers, services, hservices, locks, hlocks, heq⟩ :=
    hsnapshot
  obtain rfl := Option.some.inj heq
  have hsome : inputs.prometheus.isSome = true := by
    rw [hanswers]
    rfl
  simp only [snapshotOf, List.mem_append, List.mem_map] at hmem
  rcases hmem with (⟨found, hfound, rfl⟩ | hservice) | hlock
  · apply relateServices
    exact of_restsOnData hanswers (checkAllMetrics_restsOnData hfound)
  · exact of_services hsome hservices hservice
  · exact of_locks hsome hlocks hlock

end Detected

end Detected

/-! ## The property and its condition -/

variable (py : Interpreter) (config : DetectionConfig) (cfg : PollSettings F)

/-- In this cycle the check of the incident had usable data, and its anomaly
was neither detected nor reported. -/
def Recovered (c : CycleRecord DetectionInputs) (f : F) : Prop :=
  ∀ key, cfg.store.scheme.digest key = f →
    obtainedData py config c.telemetry key.metricName = true ∧
      ∀ a ∈ c.cycle.raw ++ c.cycle.reported, a.identityKey ≠ key

/-- An incident is resolved only after cycles in which it had recovered. -/
def LostTelemetryIsNoRecovery (s : PollState F DetectionInputs)
    (e : WatchEvent F) : Prop :=
  ResolvesOnlyAfter cfg (Recovered py config cfg) s (e.poll py config)

/-- When an open incident of a detected minion is not detected, its check had
usable data; when it is, the correlation neither holds nor absorbs it. -/
def KeepsWatch (s : PollState F DetectionInputs) (e : WatchEvent F) : Prop :=
  ∀ inputs edges now, e = .detect inputs edges now →
    let snapshots := detectedSnapshots py config inputs
    let raw := snapshots.flatMap (·.anomalies)
    ∀ snapshot ∈ snapshots, ∀ key row,
      activeRow s.table snapshot.minion (cfg.store.scheme.digest key) =
        some row →
      ((∀ a ∈ raw, a.identityKey ≠ key) →
        obtainedData py config snapshot.telemetry key.metricName = true) ∧
      ∀ i a, raw[i]? = some a → a.identityKey = key →
        s.window.holds cfg.correlation raw edges now a = false ∧
          ∀ pair, selectedPair raw edges
            cfg.correlation.apacheTrafficThreshold = some pair →
              i ≠ pair.1 ∧ i ≠ pair.2

variable {py config cfg}

/-! ## Keeping watch is enough -/

theorem missesOnlyWhen_recovered {s : PollState F DetectionInputs}
    {e : WatchEvent F} (hkeeps : KeepsWatch py config cfg s e) :
    MissesOnlyWhen cfg (Recovered py config cfg) s (e.poll py config) := by
  intro snapshots edges now s' heq hstep snapshot hsnapshot f row hactive
    hmissed key hkey
  rcases e with ⟨inputs, edges', now'⟩ | ⟨minion, now'⟩ |
    ⟨fingerprint, payload, now', startsAt⟩ | ⟨fingerprint, now'⟩ | _
  case detect =>
    obtain ⟨rfl, rfl, rfl⟩ := PollEvent.correlate.inj heq
    subst hkey
    obtain ⟨hobtained, hpasses⟩ := hkeeps inputs edges' now' rfl snapshot
      hsnapshot key row hactive
    rw [WatchEvent.poll, pollStep] at hstep
    split at hstep
    next =>
      obtain rfl := Option.some.inj hstep
      dsimp only at hmissed ⊢
      have hreported : ∀ a ∈ (s.window.correlate cfg.correlation
          ((detectedSnapshots py config inputs).flatMap (·.anomalies))
          edges' now').1, a.identityKey ≠ key := by
        intro a ha hsame
        apply hmissed a ha
        rw [FingerprintScheme.incidentFingerprint, hsame]
      have hraw : ∀ a ∈ (detectedSnapshots py config inputs).flatMap
          (·.anomalies), a.identityKey ≠ key := by
        intro a ha hsame
        obtain ⟨i, hi⟩ := List.mem_iff_getElem?.mp ha
        obtain ⟨hfree, hout⟩ := hpasses i a hi hsame
        exact hreported a (mem_correlate hi hout hfree) hsame
      refine ⟨hobtained hraw, ?_⟩
      intro a ha
      rcases List.mem_append.mp ha with hdetected | hpassed
      · exact hraw a hdetected
      · exact hreported a hpassed
    next => cases hstep
  all_goals cases heq

/-- In every run that keeps watch over its open incidents, lost telemetry is no
recovery. -/
theorem lost_telemetry_is_no_recovery_of_keepsWatch (py : Interpreter)
    (config : DetectionConfig) (cfg : PollSettings F)
    (trace : List (WatchEvent F))
    (hkeeps : EveryStep (watchStep py config cfg) PollState.initial trace
      (KeepsWatch py config cfg)) :
    EveryStep (watchStep py config cfg) PollState.initial trace
      (LostTelemetryIsNoRecovery py config cfg) := by
  have hmisses : EveryStep (watchStep py config cfg) PollState.initial trace
      fun s e => MissesOnlyWhen cfg (Recovered py config cfg) s
        (e.poll py config) := by
    intro past e hpast s s' hs hstep
    exact missesOnlyWhen_recovered (hkeeps past e hpast s s' hs hstep)
  have hpolls : EveryStep (pollStep cfg) PollState.initial
      (trace.map (WatchEvent.poll py config))
      (MissesOnlyWhen cfg (Recovered py config cfg)) := EveryStep.map hmisses
  have hresolves : EveryStep (fun s e => pollStep cfg s (e.poll py config))
      PollState.initial trace fun s e =>
        ResolvesOnlyAfter cfg (Recovered py config cfg) s (e.poll py config) :=
    EveryStep.of_map (resolvesOnlyAfter_of_missesOnlyWhen hpolls)
  exact hresolves

/-- A test of `KeepsWatch` where identity keys are their own fingerprints. -/
def testsWatch (py : Interpreter) (config : DetectionConfig)
    (s : PollState IdentityKey DetectionInputs) :
    WatchEvent IdentityKey → Bool
  | .detect inputs edges now =>
      let snapshots := detectedSnapshots py config inputs
      let raw := snapshots.flatMap (·.anomalies)
      snapshots.all fun snapshot => s.table.entries.all fun entry =>
        !entry.2.activeFor snapshot.minion ||
          ((raw.any (·.identityKey = entry.1) ||
              obtainedData py config snapshot.telemetry entry.1.metricName) &&
            raw.all fun a => a.identityKey ≠ entry.1 ||
              (!s.window.holds PollSettings.plain.correlation raw edges now a &&
                (selectedPair raw edges
                  PollSettings.plain.correlation.apacheTrafficThreshold).isNone))
  | _ => true

theorem keepsWatch_of_test {py : Interpreter} {config : DetectionConfig}
    (s : PollState IdentityKey DetectionInputs) (e : WatchEvent IdentityKey)
    (h : testsWatch py config s e = true) : KeepsWatch py config .plain s e := by
  rintro inputs edges now rfl snapshots raw snapshot hsnapshot key row hactive
  obtain ⟨hrow, hmine⟩ := activeRow_eq_some_iff.mp hactive
  rw [testsWatch, List.all_eq_true] at h
  have hentry := List.all_eq_true.mp (h snapshot hsnapshot) (key, row)
    (OrderedDict.mem_entries_of_get? hrow)
  simp only [hmine, Bool.not_true, Bool.false_or, Bool.and_eq_true,
    Bool.or_eq_true, List.any_eq_true, decide_eq_true_eq,
    List.all_eq_true] at hentry
  constructor
  · intro hmissing
    rcases hentry.1 with ⟨a, ha, hsame⟩ | hobtained
    · exact absurd hsame (hmissing a ha)
    · exact hobtained
  · intro i a hi hsame
    rcases hentry.2 a (List.mem_of_getElem? hi) with hother | ⟨hfree, hnone⟩
    · exact absurd hsame hother
    · refine ⟨by simpa using hfree, ?_⟩
      intro pair hpair
      rw [Option.isNone_iff_eq_none] at hnone
      exact absurd (hnone.symm.trans hpair) (by simp)

/-! ## Sample runs -/

/-- The rows of `systemctl` for one failed unit. -/
def failedShopUnit : HttpReply :=
  .response 200 "" (some
    "\x7b\"return\": [\x7b\"web\": \"shop.service loaded failed failed Shop\"\x7d]\x7d")

/-- No unit has failed. -/
def noFailedUnit : HttpReply :=
  .response 200 "" (some "\x7b\"return\": [\x7b\"web\": \"\"\x7d]\x7d")

/-- What detection reads of `web`, with the answer to the service inspection. -/
def webInputs (available : Bool) (services : HttpReply) : DetectionInputs where
  minion := sampleHost
  prometheus := some (hostAnswers 10)
  salt :=
    { available := available
      allowedMinions := ["web"]
      services := ⟨answeredExchange services, some closedCircuit, false⟩
      locks := ⟨answeredExchange (.failed ""), some closedCircuit, false⟩ }

/-- One cycle of `web`. -/
def watchCycle (inputs : DetectionInputs) (now : ℚ) :
    List (WatchEvent IdentityKey) :=
  [.detect [inputs] [] now, .reconcile "web" now]

def shopIncident : IdentityKey := ⟨"web", "service_down", "shop.service", ""⟩

/-- The unit fails, and recovers. -/
def recoveredShopTrace : List (WatchEvent IdentityKey) :=
  watchCycle (webInputs true failedShopUnit) 0 ++
    watchCycle (webInputs true noFailedUnit) 60 ++
    watchCycle (webInputs true noFailedUnit) 120

/-- The unit fails, and the Salt session is lost. -/
def lostSaltTrace : List (WatchEvent IdentityKey) :=
  watchCycle (webInputs true failedShopUnit) 0 ++
    watchCycle (webInputs false noFailedUnit) 60 ++
    [.detect [webInputs false noFailedUnit] [] 120]

/-- The run is possible, and the unit is resolved after two cycles without
it. -/
theorem lost_telemetry_is_no_recovery_recovered :
    (exec (watchStep ⟨1000, fun _ => ""⟩ .plain .plain) PollState.initial
        recoveredShopTrace).isSome ∧
      EveryStep (watchStep ⟨1000, fun _ => ""⟩ .plain .plain)
        PollState.initial recoveredShopTrace
        (LostTelemetryIsNoRecovery ⟨1000, fun _ => ""⟩ .plain .plain) := by
  have hkeeps : EveryStep (watchStep ⟨1000, fun _ => ""⟩ .plain .plain)
      PollState.initial recoveredShopTrace
      (KeepsWatch ⟨1000, fun _ => ""⟩ .plain .plain) :=
    everyStep_of_testSteps keepsWatch_of_test (by decide +kernel)
  exact ⟨by decide +kernel,
    lost_telemetry_is_no_recovery_of_keepsWatch ⟨1000, fun _ => ""⟩ .plain
      .plain recoveredShopTrace hkeeps⟩

/-- The next reconciliation resolves the incident of the unit, and the
inspection that detects it has just been skipped. -/
def resolvesUnwatched (s : PollState IdentityKey DetectionInputs) : Bool :=
  (s.waiting.find? (·.minion = "web")).any (fun snapshot =>
      !obtainedData ⟨1000, fun _ => ""⟩ .plain snapshot.telemetry
        "service_down") &&
    (pollReport .plain s "web" 120).1.resolved.any
      (·.fingerprint = shopIncident)

/-- An incident is resolved because Salt cannot be asked about it. -/
theorem lost_salt_session_is_resolved :
    ¬∀ (py : Interpreter) (config : DetectionConfig)
      (cfg : PollSettings IdentityKey) (trace : List (WatchEvent IdentityKey)),
      EveryStep (watchStep py config cfg) PollState.initial trace
        (LostTelemetryIsNoRecovery py config cfg) := by
  intro hall
  let py : Interpreter := ⟨1000, fun _ => ""⟩
  have hreached : (exec (watchStep py .plain .plain) PollState.initial
      lostSaltTrace).any resolvesUnwatched = true := by decide +kernel
  obtain ⟨s, hs, hresolves⟩ := Option.any_eq_true _ _ |>.mp hreached
  simp only [resolvesUnwatched, Bool.and_eq_true, Option.any_eq_true,
    List.any_eq_true, decide_eq_true_eq, Bool.not_eq_true'] at hresolves
  obtain ⟨⟨snapshot, hsnapshot, hlost⟩, record, hrecord, hkey⟩ := hresolves
  have hstep : watchStep py .plain .plain s (.reconcile "web" 120) = some { s with
      table := (pollReport .plain s "web" 120).2
      waiting := s.waiting.filter (·.minion ≠ "web")
      log := ⟨"web", snapshot.telemetry, s.cycle⟩ :: s.log } := by
    simp only [watchStep, WatchEvent.poll, pollStep, hsnapshot]
  obtain ⟨-, hrecent⟩ := hall py .plain .plain
    (lostSaltTrace ++ [.reconcile "web" 120]) lostSaltTrace
    (.reconcile "web" 120) (List.prefix_refl _) s _ hs hstep "web" 120 _ rfl
    hstep record hrecord
  have hcycle : (⟨"web", snapshot.telemetry, s.cycle⟩ :
      CycleRecord DetectionInputs) ∈
      recentCycles (⟨"web", snapshot.telemetry, s.cycle⟩ :: s.log) "web"
        (1 + 1) := by
    rw [recentCycles_cons_self ⟨"web", snapshot.telemetry, s.cycle⟩ s.log 1]
    exact List.mem_cons_self
  have hobtained := (hrecent _ hcycle shopIncident hkey.symm).1
  exact absurd (hobtained.symm.trans hlost) (by decide)

end UyuniAgent.Agent
