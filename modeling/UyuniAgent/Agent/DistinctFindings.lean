import UyuniAgent.Agent.Detection
import UyuniAgent.Detector.AlertLevel
import UyuniAgent.Detector.BlindSpots
import UyuniAgent.Incident.Reconcile

/-!
# Identities of the findings of one detection

The incident store keeps one anomaly for each identity key.  The key of a
failed Salt check does not name the check, and that of a filesystem does not
name the device; all other findings of a detection have keys of their own.
-/

namespace UyuniAgent.Agent

open Raising Salt Incident

/-! ## What a finding is about -/

/-- The metric of a finding, and what it tells apart from others of the metric:
the observations and the exporter of a telemetry finding, the unit, the device,
and the database. -/
structure Finding where
  metricName : String
  observed : List String
  exporter : Option String
  unit : Option String
  device : Option String
  database : Option String
  deriving DecidableEq

def Finding.of (metricName : String) : Finding :=
  ⟨metricName, [], none, none, none, none⟩

def findingOf (anomaly : Anomaly) : Finding :=
  let plain := Finding.of anomaly.metricName
  match anomaly.context with
  | .telemetry _ exporter _ observations =>
      { plain with
        observed := observations.map (·.name), exporter := some exporter }
  | .service _ _ _ => { plain with unit := anomaly.serviceName }
  | .filesystem filesystem _ => { plain with device := some filesystem.device }
  | .locks waits => { plain with database := some waits.database }
  | .chain waits _ => { plain with database := some waits.database }
  | _ => plain

/-- Anomalies with the same identity describe the same finding. -/
def DistinctIdentities (anomalies : List Anomaly) : Prop :=
  ∀ a ∈ anomalies, ∀ b ∈ anomalies, a.identityKey = b.identityKey →
    findingOf a = findingOf b

/-- The store keeps an anomaly for each finding. -/
def KeepsFindings {F : Type} [DecidableEq F] (cfg : StoreSettings F)
    (anomalies : List Anomaly) : Prop :=
  ∀ anomaly ∈ anomalies, ∃ kept,
    (preferMoreSevere cfg anomalies).get?
        (cfg.scheme.incidentFingerprint anomaly) = some kept ∧
      findingOf kept = findingOf anomaly

theorem DistinctIdentities.keepsFindings {F : Type} [DecidableEq F]
    {cfg : StoreSettings F} {anomalies : List Anomaly}
    (h : DistinctIdentities anomalies) : KeepsFindings cfg anomalies := by
  intro anomaly hmem
  have hobserved : ((preferMoreSevere cfg anomalies).get?
      (cfg.scheme.incidentFingerprint anomaly)).isSome :=
    preferMoreSevere_get?_isSome_iff.mpr ⟨anomaly, hmem, rfl⟩
  obtain ⟨kept, hkept⟩ := Option.isSome_iff_exists.mp hobserved
  obtain ⟨hkeptMem, hfingerprint⟩ := mem_of_preferMoreSevere_get? hkept
  exact ⟨kept, hkept, h kept hkeptMem anomaly hmem
    (cfg.scheme.incidentFingerprint_inj.mp hfingerprint)⟩

/-! ## The detection of one minion -/

/-- The inspection answers, and the answer says that it has failed. -/
def InspectionFails (py : Interpreter) (minion : Minion)
    (salt : SaltInspections) (operation : Operation) : Prop :=
  ∃ output, runCommand py salt.allowedMinions minion.id operation =
    .ok output ∧ (saltInspectionFailure (.str output)).isSome = true

/-- `check_failed_services` is made and reports its own failure. -/
structure ServiceCheckFails (py : Interpreter) (config : DetectionConfig)
    (minion : Minion) (salt : SaltInspections) : Prop where
  available : salt.available = true
  enabled : config.serviceMonitoringEnabled = true
  fails : InspectionFails py minion salt salt.services

/-- `check_postgres_blocked_transactions` is made and reports its own
failure. -/
structure LockCheckFails (py : Interpreter) (config : DetectionConfig)
    (minion : Minion) (salt : SaltInspections) : Prop where
  available : salt.available = true
  enabled : config.postgresLockMonitoringEnabled = true
  postgres : (present minion.postgresInstance).isSome = true
  fails : InspectionFails py minion salt salt.locks

/-- The usage of the filesystem reaches a threshold. -/
def DiskReported (config : DetectionConfig) (filesystem : Filesystem) : Prop :=
  config.thresholds.disk.Alerts .info (some filesystem.usagePercent)

/-- Not both Salt checks fail, and reported filesystems with the same mountpoint
have the same device. -/
structure Separated (py : Interpreter) (config : DetectionConfig)
    (minion : Minion) (metrics : Metrics) (salt : SaltInspections) : Prop where
  checks : ¬(ServiceCheckFails py config minion salt ∧
    LockCheckFails py config minion salt)
  devices : ∀ a ∈ metrics.filesystems, ∀ b ∈ metrics.filesystems,
    DiskReported config a → DiskReported config b →
    a.mountpoint = b.mountpoint → a.device = b.device

/-! ## Kinds of anomalies -/

/-- The anomalies of a snapshot by what their findings say. -/
inductive Kind
  | telemetry
  | plain
  | disk
  | service
  | locks

def Kind.metricNames : Kind → List String
  | .telemetry => ["telemetry_unavailable"]
  | .plain =>
      ["memory_pressure", "cpu", "apache_busy_workers", "apache_requests",
        "postgres_connections", "postgres_deadlocks"]
  | .disk => ["disk"]
  | .service => ["service_down"]
  | .locks => ["postgres_blocked_transaction"]

theorem Kind.eq_of_mem {kind kind' : Kind} :
    ∀ name ∈ kind.metricNames, name ∈ kind'.metricNames → kind = kind' := by
  rcases kind with _ | _ | _ | _ | _
  all_goals rcases kind' with _ | _ | _ | _ | _
  all_goals first
    | exact fun _ _ _ => rfl
    | simp [Kind.metricNames]

/-- The Salt checks that report their own failure. -/
inductive SaltCheckFails (py : Interpreter) (config : DetectionConfig)
    (minion : Minion) (salt : SaltInspections) : String → Prop
  | login (h : salt.available = false) :
      SaltCheckFails py config minion salt "salt_api_login"
  | services (h : ServiceCheckFails py config minion salt) :
      SaltCheckFails py config minion salt "systemd_service_discovery"
  | locks (h : LockCheckFails py config minion salt) :
      SaltCheckFails py config minion salt "postgres_lock_discovery"

section Kinds

variable {py : Interpreter} {config : DetectionConfig} {minion : Minion}
  {metrics : Metrics} {salt : SaltInspections} {anomaly a b : Anomaly}

/-- The anomaly is one of telemetry: of an exporter, or of a Salt check. -/
def IsTelemetry (py : Interpreter) (config : DetectionConfig) (minion : Minion)
    (metrics : Metrics) (salt : SaltInspections) (anomaly : Anomaly) : Prop :=
  (∃ entry ∈ requiredTelemetry, exporterAnomaly minion.id metrics.telemetry
      entry.1 entry.2 = some anomaly) ∨
    ∃ check failure, SaltCheckFails py config minion salt check ∧
      anomaly = saltTelemetryAnomaly minion.id check failure

/-- What the anomaly is made from, by its kind. -/
def Kind.Describes (py : Interpreter) (config : DetectionConfig)
    (minion : Minion) (metrics : Metrics) (salt : SaltInspections)
    (anomaly : Anomaly) : Kind → Prop
  | .telemetry => IsTelemetry py config minion metrics salt anomaly
  | .plain => findingOf anomaly = .of anomaly.metricName
  | .disk => ∃ filesystem ∈ metrics.filesystems,
      DiskReported config filesystem ∧
      anomaly.resource = some filesystem.mountpoint ∧
      findingOf anomaly =
        { Finding.of "disk" with device := some filesystem.device }
  | .service => ∃ unit, anomaly.serviceName = some unit ∧
      findingOf anomaly = { Finding.of "service_down" with unit := some unit }
  | .locks => ∃ database,
      anomaly.resource = some ("postgresql:" ++ database) ∧
      findingOf anomaly =
        { Finding.of "postgres_blocked_transaction" with
          database := some database }

theorem SaltCheckFails.unique {check check' : String}
    (hchecks : ¬(ServiceCheckFails py config minion salt ∧
      LockCheckFails py config minion salt))
    (h : SaltCheckFails py config minion salt check)
    (h' : SaltCheckFails py config minion salt check') : check = check' := by
  have hlogin (hno : salt.available = false) (hyes : salt.available = true) :
      False := by
    rw [hno] at hyes
    cases hyes
  rcases h with hno | hservices | hlocks
  · rcases h' with _ | hservices' | hlocks'
    · rfl
    · exact (hlogin hno hservices'.available).elim
    · exact (hlogin hno hlocks'.available).elim
  · rcases h' with hno' | _ | hlocks'
    · exact (hlogin hno' hservices.available).elim
    · rfl
    · exact absurd ⟨hservices, hlocks'⟩ hchecks
  · rcases h' with hno' | hservices' | _
    · exact (hlogin hno' hlocks.available).elim
    · exact absurd ⟨hservices', hlocks⟩ hchecks
    · rfl

/-- What stands before the first colon of a text is unique. -/
theorem before_colon_inj {name name' rest rest' : String}
    (hname : ':' ∉ name.toList) (hname' : ':' ∉ name'.toList)
    (h : name ++ ":" ++ rest = name' ++ ":" ++ rest') : name = name' := by
  have hsplit (word more : String) :
      (word ++ ":" ++ more).toList = word.toList ++ ':' :: more.toList := by
    simp
  have hletters := congrArg String.toList h
  rw [hsplit, hsplit] at hletters
  exact String.toList_inj.mp (PyText.append_mark_inj hname hname' hletters).1

/-- The exporter of an anomaly of telemetry is in its identity. -/
theorem IsTelemetry.resource
    (h : IsTelemetry py config minion metrics salt anomaly) :
    ∃ exporter target, anomaly.resource =
        some ("telemetry:" ++ (exporter ++ ":" ++ target)) ∧
      ((∃ required, (exporter, required) ∈ requiredTelemetry ∧
          exporterAnomaly minion.id metrics.telemetry exporter required =
            some anomaly) ∨
        (exporter = "salt_inspection" ∧
          ∃ check failure, SaltCheckFails py config minion salt check ∧
            anomaly = saltTelemetryAnomaly minion.id check failure)) := by
  rcases h with ⟨⟨exporter, required⟩, hentry, hanomaly⟩ |
    ⟨check, failure, hcheck, rfl⟩
  · have hresource : ∃ target, anomaly.resource =
        some ("telemetry:" ++ (exporter ++ ":" ++ target)) := by
      simp only [exporterAnomaly] at hanomaly
      split at hanomaly
      · cases hanomaly
      next first rest _ =>
        split at hanomaly
        · cases hanomaly
        · obtain rfl := Option.some.inj hanomaly
          exact ⟨first.target, by simp [telemetryAnomaly, String.append_assoc]⟩
    obtain ⟨target, htarget⟩ := hresource
    exact ⟨exporter, target, htarget, Or.inl ⟨required, hentry, hanomaly⟩⟩
  · refine ⟨"salt_inspection", minion.id, ?_, Or.inr
      ⟨rfl, check, failure, hcheck, rfl⟩⟩
    simp [saltTelemetryAnomaly, telemetryAnomaly, ← String.append_assoc]

theorem no_colon_of_required {exporter : String} {required : List String}
    (h : (exporter, required) ∈ requiredTelemetry) :
    ':' ∉ exporter.toList ∧ exporter ≠ "salt_inspection" := by
  have hall : ∀ entry ∈ requiredTelemetry,
      ':' ∉ entry.1.toList ∧ entry.1 ≠ "salt_inspection" := by decide
  exact hall _ h

/-- Anomalies of telemetry with the same identity describe the same finding,
unless both Salt checks fail. -/
theorem IsTelemetry.finding_eq
    (hchecks : ¬(ServiceCheckFails py config minion salt ∧
      LockCheckFails py config minion salt))
    (ha : IsTelemetry py config minion metrics salt a)
    (hb : IsTelemetry py config minion metrics salt b)
    (hkey : a.identityKey = b.identityKey) : findingOf a = findingOf b := by
  obtain ⟨exporter, target, hresource, ha⟩ := ha.resource
  obtain ⟨exporter', target', hresource', hb⟩ := hb.resource
  have hsame : exporter ++ ":" ++ target = exporter' ++ ":" ++ target' := by
    have hresources := congrArg IdentityKey.resource hkey
    simp only [Anomaly.identityKey, hresource, hresource', Option.getD_some]
      at hresources
    exact String.append_right_inj _ |>.mp hresources
  have hcolon : ':' ∉ "salt_inspection".toList := by decide
  rcases ha with ⟨required, hentry, hanomaly⟩ |
    ⟨rfl, check, failure, hcheck, rfl⟩
  · obtain ⟨hno, hother⟩ := no_colon_of_required hentry
    rcases hb with ⟨required', hentry', hanomaly'⟩ | ⟨rfl, -⟩
    · obtain rfl := before_colon_inj hno (no_colon_of_required hentry').1 hsame
      obtain rfl := required_eq hentry hentry'
      obtain rfl := Option.some.inj (hanomaly.symm.trans hanomaly')
      rfl
    · exact absurd (before_colon_inj hno hcolon hsame) hother
  · rcases hb with ⟨required', hentry', -⟩ |
      ⟨-, check', failure', hcheck', rfl⟩
    · obtain ⟨hno, hother⟩ := no_colon_of_required hentry'
      exact absurd (before_colon_inj hcolon hno hsame).symm hother
    · obtain rfl := hcheck.unique hchecks hcheck'
      rfl

/-- Anomalies of one kind with the same identity describe the same finding. -/
theorem Kind.finding_eq {kind : Kind}
    (hseparated : Separated py config minion metrics salt)
    (ha : kind.Describes py config minion metrics salt a)
    (hb : kind.Describes py config minion metrics salt b)
    (hkey : a.identityKey = b.identityKey) : findingOf a = findingOf b := by
  have hresources : a.resource.getD "" = b.resource.getD "" :=
    congrArg IdentityKey.resource hkey
  rcases kind with _ | _ | _ | _ | _
  case telemetry => exact ha.finding_eq hseparated.checks hb hkey
  case plain =>
    have hmetrics : a.metricName = b.metricName :=
      congrArg IdentityKey.metricName hkey
    rw [show findingOf a = _ from ha, show findingOf b = _ from hb, hmetrics]
  case disk =>
    obtain ⟨filesystem, hmem, hreported, hresource, hfinding⟩ := ha
    obtain ⟨filesystem', hmem', hreported', hresource', hfinding'⟩ := hb
    rw [hresource, hresource'] at hresources
    rw [hfinding, hfinding', hseparated.devices _ hmem _ hmem' hreported
      hreported' hresources]
  case service =>
    obtain ⟨unit, hunit, hfinding⟩ := ha
    obtain ⟨unit', hunit', hfinding'⟩ := hb
    have hunits : a.serviceName.getD "" = b.serviceName.getD "" :=
      congrArg IdentityKey.serviceName hkey
    rw [hunit, hunit'] at hunits
    rw [hfinding, hfinding', show unit = unit' from hunits]
  case locks =>
    obtain ⟨database, hresource, hfinding⟩ := ha
    obtain ⟨database', hresource', hfinding'⟩ := hb
    rw [hresource, hresource'] at hresources
    obtain rfl := (String.append_right_inj _).mp hresources
    rw [hfinding, hfinding']

/-! ## The anomalies of a snapshot -/

/-- The anomaly has a kind that describes it. -/
def Described (py : Interpreter) (config : DetectionConfig) (minion : Minion)
    (metrics : Metrics) (salt : SaltInspections) (anomaly : Anomaly) : Prop :=
  ∃ kind : Kind, anomaly.metricName ∈ kind.metricNames ∧
    kind.Describes py config minion metrics salt anomaly

/-- An anomaly of a threshold whose context says nothing of its own. -/
theorem described_of_checkThreshold {value : Option ℚ} {band : ThresholdBand}
    {metricName label : String} {f : Anomaly → Anomaly}
    (h : (checkThreshold value band minion.id metricName label).map f =
      some anomaly)
    (hname : metricName ∈ Kind.plain.metricNames)
    (hmetric : ∀ a, (f a).metricName = a.metricName)
    (hfinding : ∀ a, findingOf (f a) = .of (f a).metricName) :
    Described py config minion metrics salt anomaly := by
  refine ⟨.plain, ?_, ?_⟩
  · rw [checkThreshold_metricName h hmetric]
    exact hname
  · obtain ⟨checked, -, rfl⟩ := Option.map_eq_some_iff.mp h
    exact hfinding checked

theorem checkThreshold_context {value : Option ℚ} {band : ThresholdBand}
    {minionId metricName label : String}
    (h : checkThreshold value band minionId metricName label = some anomaly) :
    anomaly.context = .empty ∧ anomaly.serviceName = none := by
  simp only [checkThreshold] at h
  split at h
  · cases h
  · split at h
    · obtain rfl := Option.some.inj h
      exact ⟨rfl, rfl⟩
    · obtain rfl := Option.some.inj h
      exact ⟨rfl, rfl⟩
    · cases h

theorem described_of_filesystem
    (h : anomaly ∈ filesystemAnomalies metrics.filesystems
      config.thresholds.disk minion.id) :
    Described py config minion metrics salt anomaly := by
  obtain ⟨filesystem, hmem, hsome⟩ := List.mem_filterMap.mp h
  have hname := checkThreshold_metricName hsome fun _ => rfl
  obtain ⟨checked, hchecked, rfl⟩ := Option.map_eq_some_iff.mp hsome
  refine ⟨.disk, by rw [hname]; decide, filesystem, hmem, ?_, rfl, ?_⟩
  · exact checkThreshold_alerts_iff.mp ⟨checked, hchecked, by
      rcases checked.severity with _ | _ | _
      · decide
      · decide
      · decide⟩
  · have hmetric : checked.metricName = "disk" := hname
    simp [findingOf, hmetric]

theorem described_of_checkAllMetrics
    (h : anomaly ∈ checkAllMetrics config minion metrics) :
    Described py config minion metrics salt anomaly := by
  simp only [checkAllMetrics, List.mem_append, Option.mem_toList] at h
  rcases h with ((((htelemetry | hmemory) | hcpu) | hdisk) | hapache) |
    hpostgres
  · obtain ⟨entry, hentry, hsome⟩ := List.mem_filterMap.mp htelemetry
    refine ⟨.telemetry, ?_, Or.inl ⟨entry, hentry, hsome⟩⟩
    rw [(exporterAnomaly_eq_some hsome).2]
    decide
  · refine ⟨.plain, ?_, ?_⟩
    · rw [(memoryPressureAnomaly_eq_some hmemory).2.2]
      decide
    · simp only [memoryPressureAnomaly] at hmemory
      split at hmemory
      · cases hmemory
      · split at hmemory
        · cases hmemory
        · obtain rfl := Option.some.inj hmemory
          rfl
  · split at hcpu
    · cases hcpu
    · exact described_of_checkThreshold hcpu (by decide) (fun _ => rfl)
        fun _ => rfl
  · exact described_of_filesystem hdisk
  · rcases htarget : present minion.apacheInstance with _ | target
    · simp [htarget] at hapache
    · rw [htarget] at hapache
      rcases List.mem_append.mp hapache with hbusy | hrequests
      · exact described_of_checkThreshold (Option.mem_toList.mp hbusy)
          (by decide) (fun _ => rfl) fun _ => rfl
      · exact described_of_checkThreshold (Option.mem_toList.mp hrequests)
          (by decide) (fun _ => rfl) fun _ => rfl
  · rcases htarget : present minion.postgresInstance with _ | target
    · simp [htarget] at hpostgres
    · rw [htarget] at hpostgres
      rcases List.mem_append.mp hpostgres with hconnections | hdeadlocks
      · exact described_of_checkThreshold (Option.mem_toList.mp hconnections)
          (by decide) (fun _ => rfl) fun _ => rfl
      · have hsome := Option.mem_toList.mp hdeadlocks
        refine ⟨.plain, ?_, ?_⟩
        · rw [(checkThreshold_eq_some hsome).2.2]
          decide
        · simp [Kind.Describes, findingOf, (checkThreshold_context hsome).1]

/-- Related services change neither the identity nor the finding. -/
theorem relateServices_same (services : List String) (anomaly : Anomaly) :
    (relateServices services anomaly).identityKey = anomaly.identityKey ∧
      (relateServices services anomaly).resource = anomaly.resource ∧
      findingOf (relateServices services anomaly) = findingOf anomaly := by
  simp only [relateServices]
  split
  · split
    next found _ hcontext =>
      refine ⟨rfl, rfl, ?_⟩
      simp [findingOf, hcontext]
    · exact ⟨rfl, rfl, rfl⟩
  · exact ⟨rfl, rfl, rfl⟩

theorem Described.relateServices
    (h : Described py config minion metrics salt anomaly)
    (services : List String) :
    Described py config minion metrics salt
      (relateServices services anomaly) := by
  obtain ⟨kind, hname, hdescribes⟩ := h
  by_cases hdisk : anomaly.metricName = "disk"
  · obtain rfl : kind = .disk :=
      Kind.eq_of_mem _ hname (by rw [hdisk]; decide)
    obtain ⟨filesystem, hmem, hreported, hresource, hfinding⟩ := hdescribes
    obtain ⟨hkey, hsame, hfound⟩ := relateServices_same services anomaly
    have hmetric : (Agent.relateServices services anomaly).metricName =
        anomaly.metricName := congrArg IdentityKey.metricName hkey
    exact ⟨.disk, hmetric ▸ hname, filesystem, hmem, hreported,
      hsame.trans hresource, hfound.trans hfinding⟩
  · have hsame : Agent.relateServices services anomaly = anomaly := by
      simp [Agent.relateServices, hdisk]
    rw [hsame]
    exact ⟨kind, hname, hdescribes⟩

theorem described_of_saltCheck {check failure : String}
    (h : SaltCheckFails py config minion salt check) :
    Described py config minion metrics salt
      (saltTelemetryAnomaly minion.id check failure) :=
  ⟨.telemetry, List.mem_singleton_self _, Or.inr ⟨check, failure, h, rfl⟩⟩

theorem described_of_serviceAnomalies {services : List Anomaly}
    (h : serviceAnomalies py config minion salt = some services)
    (hmem : anomaly ∈ services) :
    Described py config minion metrics salt anomaly := by
  rcases havailable : salt.available with _ | _
  · simp only [serviceAnomalies, havailable, Bool.false_eq_true, if_false]
      at h
    obtain rfl := Option.some.inj h
    obtain rfl := List.mem_singleton.mp hmem
    exact described_of_saltCheck (.login havailable)
  rcases henabled : config.serviceMonitoringEnabled with _ | _
  · simp only [serviceAnomalies, havailable, inspectServices, henabled,
      Bool.false_eq_true, if_false, if_true] at h
    obtain rfl := Option.some.inj h
    cases hmem
  rcases hrun : runCommand py salt.allowedMinions minion.id salt.services with
    e | output
  · simp [serviceAnomalies, havailable, inspectServices, henabled, hrun] at h
  simp only [serviceAnomalies, havailable, inspectServices, henabled, hrun,
    if_true] at h
  obtain rfl := Option.some.inj h
  rcases hfailure : saltInspectionFailure (.str output) with _ | failure
  · simp only [checkFailedServices, hfailure] at hmem
    obtain ⟨service, -, rfl⟩ := List.mem_map.mp hmem
    exact ⟨.service, List.mem_singleton_self _, service.name, rfl, rfl⟩
  · simp only [checkFailedServices, hfailure] at hmem
    obtain rfl := List.mem_singleton.mp hmem
    exact described_of_saltCheck
      (.services ⟨havailable, henabled, output, hrun, by rw [hfailure]; rfl⟩)

theorem described_of_locked {pairs : List LockPair} {band : ThresholdBand}
    {locks : List Anomaly}
    (h : postgresBlockingAnomalies pairs band minion.id = .ok locks)
    (hmem : anomaly ∈ locks) :
    Described py config minion metrics salt anomaly := by
  obtain ⟨warning, -, hrest⟩ := bind_eq_ok_iff.mp h
  obtain ⟨critical, -, hloop⟩ := bind_eq_ok_iff.mp hrest
  obtain ⟨database, -, hround⟩ := mem_of_mapM_eq_ok hloop hmem
  obtain ⟨currentValue, -, hlast⟩ := bind_eq_ok_iff.mp hround
  obtain rfl := Except.ok.inj hlast
  exact ⟨.locks, List.mem_singleton_self _, database, rfl, rfl⟩

theorem described_of_lockAnomalies {locks : List Anomaly}
    (h : postgresLockAnomalies py config minion salt = some locks)
    (hmem : anomaly ∈ locks) :
    Described py config minion metrics salt anomaly := by
  by_cases hmade : ((present minion.postgresInstance).isSome &&
      salt.available) = true
  · obtain ⟨hpostgres, havailable⟩ := Bool.and_eq_true_iff.mp hmade
    rw [postgresLockAnomalies, if_pos hmade] at h
    rcases henabled : config.postgresLockMonitoringEnabled with _ | _
    · simp only [inspectLocks, henabled, Bool.false_eq_true, if_false] at h
      obtain rfl := Option.some.inj h
      cases hmem
    rcases hrun : runCommand py salt.allowedMinions minion.id salt.locks with
      e | output
    · simp [inspectLocks, henabled, hrun] at h
    rcases hlocks : checkPostgresBlockedTransactions py config minion.id
      (.str output) with e | found
    · simp [inspectLocks, henabled, hrun, hlocks] at h
    simp only [inspectLocks, henabled, hrun, hlocks, if_true] at h
    obtain rfl := Option.some.inj h
    rcases hfailure : saltInspectionFailure (.str output) with _ | failure
    · simp only [checkPostgresBlockedTransactions, hfailure] at hlocks
      obtain ⟨pairs, -, hfound⟩ := bind_eq_ok_iff.mp hlocks
      exact described_of_locked hfound hmem
    · simp only [checkPostgresBlockedTransactions, hfailure] at hlocks
      obtain rfl := Except.ok.inj hlocks
      obtain rfl := List.mem_singleton.mp hmem
      exact described_of_saltCheck (.locks
        ⟨havailable, henabled, hpostgres, output, hrun, by rw [hfailure]; rfl⟩)
  · rw [postgresLockAnomalies, if_neg hmade] at h
    obtain rfl := Option.some.inj h
    cases hmem

variable {snapshot : MinionSnapshot}

theorem described_of_detected
    (h : detectWithMetrics py config minion metrics salt = some snapshot)
    (hmem : anomaly ∈ snapshot.anomalies) :
    Described py config minion metrics salt anomaly := by
  simp only [detectWithMetrics, Option.bind_eq_bind, Option.bind_eq_some_iff]
    at h
  obtain ⟨services, hservices, locks, hlocks, hlast⟩ := h
  obtain rfl := Option.some.inj hlast
  rcases List.mem_append.mp hmem with hmem | hlock
  · rcases List.mem_append.mp hmem with hmetric | hservice
    · obtain ⟨found, hfound, rfl⟩ := List.mem_map.mp hmetric
      exact (described_of_checkAllMetrics hfound).relateServices _
    · exact described_of_serviceAnomalies hservices hservice
  · exact described_of_lockAnomalies hlocks hlock

/-- Separated findings have identities of their own. -/
theorem distinct_of_separated
    (hseparated : Separated py config minion metrics salt)
    (h : detectWithMetrics py config minion metrics salt = some snapshot) :
    DistinctIdentities snapshot.anomalies := by
  intro a ha b hb hkey
  obtain ⟨kind, hname, ha⟩ := described_of_detected h ha
  obtain ⟨kind', hname', hb⟩ := described_of_detected h hb
  have hnames : a.metricName = b.metricName :=
    congrArg IdentityKey.metricName hkey
  obtain rfl := Kind.eq_of_mem _ hname (hnames ▸ hname')
  exact Kind.finding_eq hseparated ha hb hkey

/-! ## Findings that share an identity -/

theorem serviceAnomalies_of_fails
    (h : ServiceCheckFails py config minion salt) :
    ∃ failure, serviceAnomalies py config minion salt =
      some [saltTelemetryAnomaly minion.id "systemd_service_discovery"
        failure] := by
  obtain ⟨havailable, henabled, output, hrun, hfails⟩ := h
  obtain ⟨failure, hfailure⟩ := Option.isSome_iff_exists.mp hfails
  refine ⟨failure, ?_⟩
  simp [serviceAnomalies, havailable, inspectServices, henabled, hrun,
    checkFailedServices, hfailure]

theorem postgresLockAnomalies_of_fails
    (h : LockCheckFails py config minion salt) :
    ∃ failure, postgresLockAnomalies py config minion salt =
      some [saltTelemetryAnomaly minion.id "postgres_lock_discovery"
        failure] := by
  obtain ⟨havailable, henabled, hpostgres, output, hrun, hfails⟩ := h
  obtain ⟨failure, hfailure⟩ := Option.isSome_iff_exists.mp hfails
  refine ⟨failure, ?_⟩
  simp [postgresLockAnomalies, hpostgres, havailable, inspectLocks, henabled,
    hrun, checkPostgresBlockedTransactions, hfailure]

/-- A filesystem that reaches a threshold has its finding. -/
theorem exists_of_diskReported (minion : Minion) {filesystem : Filesystem}
    (hmem : filesystem ∈ metrics.filesystems)
    (h : DiskReported config filesystem) :
    ∃ found ∈ checkAllMetrics config minion metrics,
      found.identityKey = ⟨minion.id, "disk", "", filesystem.mountpoint⟩ ∧
        (findingOf found).device = some filesystem.device := by
  obtain ⟨checked, hchecked, -⟩ : ∃ anomaly ∈ checkThreshold
      (some filesystem.usagePercent) config.thresholds.disk minion.id "disk"
      ("Filesystem " ++ filesystem.mountpoint ++ " usage"),
      AlertSeverity.info.rank ≤ anomaly.severity.rank :=
    checkThreshold_alerts_iff.mpr h
  have hdisk : { checked with
        resource := some filesystem.mountpoint
        context := AnomalyContext.filesystem filesystem [] } ∈
      filesystemAnomalies metrics.filesystems config.thresholds.disk
        minion.id := by
    refine List.mem_filterMap.mpr ⟨filesystem, hmem, ?_⟩
    exact Option.map_eq_some_iff.mpr ⟨checked, hchecked, rfl⟩
  obtain ⟨-, hminion, hmetric⟩ := checkThreshold_eq_some hchecked
  refine ⟨{ checked with
      resource := some filesystem.mountpoint
      context := .filesystem filesystem [] }, ?_, ?_, rfl⟩
  · simp [checkAllMetrics, hdisk]
  · simp [Anomaly.identityKey, hminion, hmetric,
      (checkThreshold_context hchecked).2]

theorem separated_of_distinct
    (hreturn : InspectionsReturn py config minion salt)
    (h : ∀ snapshot, detectWithMetrics py config minion metrics salt =
      some snapshot → DistinctIdentities snapshot.anomalies) :
    Separated py config minion metrics salt := by
  obtain ⟨services, hservices⟩ := Option.isSome_iff_exists.mp
    (serviceAnomalies_isSome_iff.mpr hreturn.services)
  obtain ⟨locks, hlocks⟩ := Option.isSome_iff_exists.mp
    (postgresLockAnomalies_isSome_iff.mpr hreturn.locks)
  have hdistinct := h (snapshotOf config minion metrics salt.available services
    locks) (by simp [detectWithMetrics, hservices, hlocks])
  constructor
  · rintro ⟨hserviceFails, hlockFails⟩
    obtain ⟨failure, hservice⟩ := serviceAnomalies_of_fails hserviceFails
    obtain ⟨failure', hlock⟩ := postgresLockAnomalies_of_fails hlockFails
    obtain rfl := Option.some.inj (hservices.symm.trans hservice)
    obtain rfl := Option.some.inj (hlocks.symm.trans hlock)
    have hsame := hdistinct
      (saltTelemetryAnomaly minion.id "systemd_service_discovery" failure)
      (by simp [snapshotOf])
      (saltTelemetryAnomaly minion.id "postgres_lock_discovery" failure')
      (by simp [snapshotOf]) rfl
    have hchecks := congrArg Finding.observed hsame
    simp [findingOf, saltTelemetryAnomaly, telemetryAnomaly] at hchecks
  · intro a ha b hb hreported hreported' hmountpoint
    obtain ⟨found, hfound, hkey, hdevice⟩ :=
      exists_of_diskReported minion ha hreported
    obtain ⟨found', hfound', hkey', hdevice'⟩ :=
      exists_of_diskReported minion hb hreported'
    have hrelated {anomaly : Anomaly}
        (hmem : anomaly ∈ checkAllMetrics config minion metrics) :
        relateServices (restartingServices services) anomaly ∈
          (snapshotOf config minion metrics salt.available services
            locks).anomalies :=
      List.mem_append_left _ (List.mem_append_left _ (List.mem_map_of_mem hmem))
    have hsame := hdistinct _ (hrelated hfound) _ (hrelated hfound') (by
      rw [(relateServices_same _ found).1, (relateServices_same _ found').1,
        hkey, hkey', hmountpoint])
    rw [(relateServices_same _ found).2.2, (relateServices_same _ found').2.2]
      at hsame
    rw [hsame, hdevice'] at hdevice
    exact (Option.some.inj hdevice).symm

end Kinds

/-- The findings of a detection have identities of their own, and the store
drops none of them, exactly when they are separated or an inspection raises. -/
theorem distinct_identities_iff {F : Type} [DecidableEq F]
    (cfg : StoreSettings F) (py : Interpreter) (config : DetectionConfig)
    (minion : Minion) (metrics : Metrics) (salt : SaltInspections) :
    (∀ snapshot, detectWithMetrics py config minion metrics salt =
        some snapshot → DistinctIdentities snapshot.anomalies ∧
          KeepsFindings cfg snapshot.anomalies) ↔
      (InspectionsReturn py config minion salt →
        Separated py config minion metrics salt) := by
  constructor
  · intro h hreturn
    exact separated_of_distinct hreturn fun snapshot hsnapshot =>
      (h snapshot hsnapshot).1
  · intro h snapshot hsnapshot
    have hparts := hsnapshot
    simp only [detectWithMetrics, Option.bind_eq_bind,
      Option.bind_eq_some_iff] at hparts
    obtain ⟨services, hservices, locks, hlocks, -⟩ := hparts
    have hreturn : InspectionsReturn py config minion salt :=
      ⟨serviceAnomalies_isSome_iff.mp (by rw [hservices]; rfl),
        postgresLockAnomalies_isSome_iff.mp (by rw [hlocks]; rfl)⟩
    have hdistinct := distinct_of_separated (h hreturn) hsnapshot
    exact ⟨hdistinct, hdistinct.keepsFindings⟩

/-- A database host whose Salt operations fail. -/
def databaseHost : Minion := ⟨"db", "db:9100", none, some "db:9187"⟩

def failingInspections : SaltInspections where
  available := true
  allowedMinions := ["db"]
  services := ⟨answeredExchange (.failed "timeout"), some closedCircuit, false⟩
  locks := ⟨answeredExchange (.failed "timeout"), some closedCircuit, false⟩

theorem inspectionFails_databaseHost :
    InspectionFails ⟨1000, fun _ => ""⟩ databaseHost failingInspections
      ⟨answeredExchange (.failed "timeout"), some closedCircuit, false⟩ :=
  ⟨"Salt API call failed: timeout", by decide +kernel, by decide +kernel⟩

/-- The failures of both Salt checks share an identity. -/
theorem failed_salt_checks_share_identity :
    ¬∀ (cfg : StoreSettings IdentityKey) (py : Interpreter)
      (config : DetectionConfig) (minion : Minion) (metrics : Metrics)
      (salt : SaltInspections) (snapshot : MinionSnapshot),
      detectWithMetrics py config minion metrics salt = some snapshot →
        DistinctIdentities snapshot.anomalies ∧
          KeepsFindings cfg snapshot.anomalies := by
  intro hall
  have hservices : ServiceCheckFails ⟨1000, fun _ => ""⟩ .plain databaseHost
      failingInspections := ⟨rfl, rfl, inspectionFails_databaseHost⟩
  have hlocks : LockCheckFails ⟨1000, fun _ => ""⟩ .plain databaseHost
      failingInspections := ⟨rfl, rfl, rfl, inspectionFails_databaseHost⟩
  have hreturn : InspectionsReturn ⟨1000, fun _ => ""⟩ .plain databaseHost
      failingInspections := by
    obtain ⟨failure, hservice⟩ := serviceAnomalies_of_fails hservices
    obtain ⟨failure', hlock⟩ := postgresLockAnomalies_of_fails hlocks
    exact ⟨serviceAnomalies_isSome_iff.mp (by rw [hservice]; rfl),
      postgresLockAnomalies_isSome_iff.mp (by rw [hlock]; rfl)⟩
  have hseparated := separated_of_distinct hreturn fun snapshot hsnapshot =>
    (hall .plain _ _ _ (getAllMetrics databaseHost (hostAnswers 50)) _ snapshot
      hsnapshot).1
  exact hseparated.checks ⟨hservices, hlocks⟩

end UyuniAgent.Agent
