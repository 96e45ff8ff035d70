import UyuniAgent.Detector.Checks
import UyuniAgent.Investigation.Prompt

/-!
# The stage before the LLM

An investigation collects its evidence and builds its prompt before it asks the
LLM.  The names that the detectors find reach validators and format strings
there that accept less than the detectors do.
-/

namespace UyuniAgent.Investigation

open Raising Salt

/-! ## The stage -/

/-- What the stage can raise: an exception of the collection, or one of the
prompt. -/
inductive PreparationError
  | collection (error : SaltException)
  | prompt (error : PyException)
  deriving DecidableEq

/-- `collect_required_evidence(anomaly)`, and then
`get_prompt_for_anomaly(anomaly, metrics)`. -/
def prepare (py : Interpreter) (client : Option SaltClient) (anomaly : Anomaly)
    (metrics : Metrics) (now : ℚ) :
    Except PreparationError (EvidenceLedger × Prompt) :=
  match collectRequiredEvidence py client anomaly now with
  | .error error => .error (.collection error)
  | .ok ledger =>
      match getPromptForAnomaly anomaly metrics with
      | .error error => .error (.prompt error)
      | .ok prompt => .ok (ledger, prompt)

theorem prepare_returns_iff {py : Interpreter} {client : Option SaltClient}
    {anomaly : Anomaly} {metrics : Metrics} {now : ℚ} :
    Returns (prepare py client anomaly metrics now) ↔
      Returns (collectRequiredEvidence py client anomaly now) ∧
        Returns (getPromptForAnomaly anomaly metrics) := by
  rw [prepare]
  rcases collectRequiredEvidence py client anomaly now with error | ledger
  · simp [Returns]
  · rcases getPromptForAnomaly anomaly metrics with error | prompt
    · simp [Returns]
    · simp [Returns]

/-! ## Inspections of a client that answers -/

/-- Every Salt call ends in a value or a failure text. -/
def Answers (py : Interpreter) (client : SaltClient) : Prop :=
  ∀ call, Returns (client.safeCall py call)

section Answers

variable {py : Interpreter} {client : SaltClient}

theorem Answers.run_returns_iff (h : Answers py client) {minion : String}
    {command : SaltCommand} :
    Returns (client.run py minion command) ↔ Returns (command.build py) := by
  rw [SaltClient.run, returns_bind_iff]
  constructor
  · rintro ⟨built, hbuilt, -⟩
    exact ⟨built, hbuilt⟩
  · rintro ⟨built, hbuilt⟩
    exact ⟨built, hbuilt, runCommand_returns_iff_safeCall.mpr (h ⟨minion, built⟩)⟩

theorem Answers.diskUsage_returns (h : Answers py client) (minion : String) :
    Returns (client.diskUsage py minion) := by
  obtain ⟨value, hvalue⟩ := h ⟨minion, .diskUsage⟩
  exact returns_bind_iff.mpr ⟨value, hvalue, returns_ok _⟩

theorem dependency_eq_ok_iff {edge found : InspectionEdge}
    (hedge : edge ∈ client.dependencies) :
    client.dependency py edge.id edge.kind = .ok found ↔
      found = edge ∧ edge.sourceMinion ∈ client.allowedMinions ∧
        edge.targetMinion ∈ client.allowedMinions := by
  have hfind : client.dependencies.find? (·.id = edge.id) = some edge := by
    obtain ⟨other, hother⟩ := Option.isSome_iff_exists.mp
      (List.find?_isSome.mpr ⟨edge, hedge, by simp⟩ :
        (client.dependencies.find? (·.id = edge.id)).isSome = true)
    have hid : other.id = edge.id := by simpa using List.find?_some hother
    rw [hother, List.inj_on_of_nodup_map client.dependencies_nodup
      (List.mem_of_find?_eq_some hother) hedge hid]
  simp only [SaltClient.dependency, hfind, ne_eq, not_true_eq_false, if_false]
  split
  next hforeign =>
    rw [← not_and_or] at hforeign
    simp [hforeign]
  next hknown =>
    rw [not_or, not_not, not_not] at hknown
    simp [hknown, eq_comm]

theorem Answers.inspectDependency_returns_iff (h : Answers py client)
    {edge : InspectionEdge} (hedge : edge ∈ client.dependencies) :
    Returns (client.inspectDependency py edge.id edge.kind) ↔
      edge.sourceMinion ∈ client.allowedMinions ∧
        edge.targetMinion ∈ client.allowedMinions := by
  rw [SaltClient.inspectDependency, returns_bind_iff]
  constructor
  · rintro ⟨found, hfound, -⟩
    exact ((dependency_eq_ok_iff hedge).mp hfound).2
  · intro hallowed
    have hends (minion : String) {command : SaltCommand}
        (hbuild : command.build py = .ok command) :
        Returns (client.run py minion command) :=
      h.run_returns_iff.mpr ⟨command, hbuild⟩
    obtain ⟨source, hsource⟩ :=
      @hends edge.sourceMinion (.dependencySource edge.id) rfl
    obtain ⟨target, htarget⟩ :=
      @hends edge.targetMinion (.dependencyTarget edge.id) rfl
    refine ⟨edge, (dependency_eq_ok_iff hedge).mpr ⟨rfl, hallowed⟩, ?_⟩
    refine returns_bind_iff.mpr ⟨source, hsource, ?_⟩
    exact returns_bind_iff.mpr ⟨target, htarget, returns_ok _⟩

theorem inspectAll_returns_iff {required : List RequiredInspection} :
    Returns (inspectAll py client required) ↔
      ∀ inspection ∈ required,
        Returns (inspection.inspection.run py client) := by
  rw [inspectAll, returns_mapM_iff]
  have hone (inspection : RequiredInspection) :
      Returns (inspect py client inspection) ↔
        Returns (inspection.inspection.run py client) := by
    rw [inspect, returns_bind_iff]
    constructor
    · rintro ⟨output, houtput, -⟩
      exact ⟨output, houtput⟩
    · rintro ⟨output, houtput⟩
      exact ⟨output, houtput, returns_ok _⟩
  simp only [hone]

/-! ## Arguments of commands -/

theorem validateSystemdService_returns_iff {service : String} :
    Returns (validateSystemdService py service) ↔
      (systemdService? service).isSome := by
  rw [validateSystemdService]
  rcases systemdService? service with _ | normalized
  · simp [Returns]
  · simp [Returns]

theorem serviceDetails_build_returns_iff {service : String} :
    Returns (SaltCommand.build py (.serviceDetails service)) ↔
      (systemdService? service).isSome := by
  rw [← @validateSystemdService_returns_iff py, SaltCommand.build,
    returns_bind_iff]
  constructor
  · rintro ⟨normalized, hnormalized, -⟩
    exact ⟨normalized, hnormalized⟩
  · rintro ⟨normalized, hnormalized⟩
    exact ⟨normalized, hnormalized, returns_ok _⟩

theorem serviceLogs_build_returns_iff {service : String} {lines : ℤ}
    (hmin : 1 ≤ lines) (hmax : lines ≤ 200) :
    Returns (SaltCommand.build py (.serviceLogs service lines)) ↔
      (systemdService? service).isSome := by
  rw [← @validateSystemdService_returns_iff py, SaltCommand.build,
    returns_bind_iff]
  constructor
  · rintro ⟨normalized, hnormalized, -⟩
    exact ⟨normalized, hnormalized⟩
  · rintro ⟨normalized, hnormalized⟩
    refine ⟨normalized, hnormalized, returns_bind_iff.mpr ⟨lines, ?_, ?_⟩⟩
    · exact if_pos ⟨hmin, hmax⟩
    · exact returns_ok _

theorem pathCommand_returns_iff {path : String}
    (wrap : String → SaltCommand) :
    Returns (do return wrap (← validateAbsolutePath path) :
        Except SaltException SaltCommand) ↔ isValidPath path = true := by
  rw [returns_bind_iff]
  constructor
  · rintro ⟨normalized, hnormalized, -⟩
    simp only [validateAbsolutePath] at hnormalized
    split at hnormalized
    next hvalid => exact hvalid
    · cases hnormalized
  · intro hvalid
    exact ⟨normpath path, if_pos hvalid, returns_ok _⟩

end Answers

/-! ## When the evidence is collected -/

/-- The names that the collector of an anomaly puts into commands are valid,
and the configured dependencies of a failed service lead to known minions. -/
structure ArgumentsValid (py : Interpreter) (client : SaltClient)
    (anomaly : Anomaly) : Prop where
  mountpoint : anomaly.metricName = "disk" →
    isValidPath (mountpointOf anomaly) = true
  candidates : anomaly.metricName = "disk" → ∀ output,
    client.run py anomaly.minionId (.serviceReferences (mountpointOf anomaly)) =
      .ok output →
    ∀ service ∈ candidateServices anomaly output,
      (systemdService? service).isSome
  service : anomaly.metricName = "service_down" →
    (systemdService?
      (orText (anomaly.serviceName.getD "") "unknown.service")).isSome
  dependencies : anomaly.metricName = "service_down" →
    ∀ edge ∈ client.dependenciesForService anomaly.minionId
        (orText (anomaly.serviceName.getD "") "unknown.service"),
      edge.sourceMinion ∈ client.allowedMinions ∧
        edge.targetMinion ∈ client.allowedMinions

section Collect

variable {py : Interpreter} {client : SaltClient} {anomaly : Anomaly}

/-- A command that no argument goes into. -/
def isFixed : Inspection → Bool
  | .command _ .memoryPressureSnapshot => true
  | .command _ .cpuPressureSnapshot => true
  | .command _ .apacheOverloadSnapshot => true
  | .command _ .postgresBlockingActivity => true
  | .command _ .postgresHealth => true
  | .command _ .postgresConnectionActivity => true
  | _ => false

theorem run_returns_of_isFixed (h : Answers py client)
    {inspection : Inspection} (hfixed : isFixed inspection = true) :
    Returns (inspection.run py client) := by
  have hrun (minion : String) {command : SaltCommand}
      (hbuild : command.build py = .ok command) :
      Returns (client.run py minion command) :=
    h.run_returns_iff.mpr ⟨command, hbuild⟩
  unfold isFixed at hfixed
  split at hfixed
  case h_7 => cases hfixed
  all_goals exact hrun _ rfl

/-- A collector whose commands are all fixed. -/
theorem inspectAll_returns_of_isFixed (h : Answers py client)
    {required : List RequiredInspection}
    (hfixed : ∀ inspection ∈ required.map (·.inspection),
      isFixed inspection = true) :
    Returns (inspectAll py client required) := by
  rw [inspectAll_returns_iff]
  intro inspection hinspection
  exact run_returns_of_isFixed h
    (hfixed _ (List.mem_map_of_mem hinspection))

theorem collectDisk_returns_iff (h : Answers py client) :
    Returns (collectRequiredDiskEvidence.collect py client anomaly) ↔
      isValidPath (mountpointOf anomaly) = true ∧
        ∀ output, client.run py anomaly.minionId
            (.serviceReferences (mountpointOf anomaly)) = .ok output →
          ∀ service ∈ candidateServices anomaly output,
            (systemdService? service).isSome := by
  have hfirst : Returns (inspectAll py client
      [⟨.diskUsage anomaly.minionId, none, "disk_usage",
          "Disk usage snapshot for " ++ mountpointOf anomaly, 10000⟩,
        ⟨.command anomaly.minionId (.largestFiles (mountpointOf anomaly)),
          none, "largest_files", "Largest files on filesystem containing " ++
            mountpointOf anomaly, 8000⟩]) ↔
      isValidPath (mountpointOf anomaly) = true := by
    rw [inspectAll_returns_iff, List.forall_mem_cons, List.forall_mem_singleton]
    refine (and_iff_right (h.diskUsage_returns anomaly.minionId)).trans ?_
    exact h.run_returns_iff.trans (pathCommand_returns_iff .largestFiles)
  have hreferences : Returns (client.run py anomaly.minionId
      (.serviceReferences (mountpointOf anomaly))) ↔
      isValidPath (mountpointOf anomaly) = true :=
    h.run_returns_iff.trans (pathCommand_returns_iff .serviceReferences)
  have hcandidates (services : List String) : Returns (inspectAll py client
      (services.flatMap (candidateInspections anomaly.minionId))) ↔
      ∀ service ∈ services, (systemdService? service).isSome := by
    simp only [inspectAll_returns_iff, List.forall_mem_flatMap,
      candidateInspections, List.forall_mem_cons, List.not_mem_nil,
      IsEmpty.forall_iff, implies_true, and_true, Inspection.run]
    simp only [h.run_returns_iff, serviceDetails_build_returns_iff,
      serviceLogs_build_returns_iff (show (1 : ℤ) ≤ 30 by decide)
        (by decide), and_self]
  constructor
  · intro hreturns
    obtain ⟨first, hfirstOk, hlater⟩ := returns_bind_iff.mp hreturns
    obtain ⟨output, houtput, hlater⟩ := returns_bind_iff.mp hlater
    obtain ⟨second, hsecond, -⟩ := returns_bind_iff.mp hlater
    refine ⟨hfirst.mp ⟨first, hfirstOk⟩, ?_⟩
    intro other hother
    obtain rfl : output = other := Except.ok.inj (houtput.symm.trans hother)
    exact (hcandidates _).mp ⟨second, hsecond⟩
  · rintro ⟨hvalid, hservices⟩
    obtain ⟨first, hfirstOk⟩ := hfirst.mpr hvalid
    obtain ⟨output, houtput⟩ := hreferences.mpr hvalid
    obtain ⟨second, hsecond⟩ := (hcandidates _).mpr (hservices output houtput)
    refine returns_bind_iff.mpr ⟨first, hfirstOk, ?_⟩
    refine returns_bind_iff.mpr ⟨output, houtput, ?_⟩
    exact returns_bind_iff.mpr ⟨second, hsecond, returns_ok _⟩

theorem collectService_returns_iff (h : Answers py client) :
    Returns (collectRequiredServiceEvidence.collect py client anomaly) ↔
      (systemdService?
        (orText (anomaly.serviceName.getD "") "unknown.service")).isSome ∧
      ∀ edge ∈ client.dependenciesForService anomaly.minionId
          (orText (anomaly.serviceName.getD "") "unknown.service"),
        edge.sourceMinion ∈ client.allowedMinions ∧
          edge.targetMinion ∈ client.allowedMinions := by
  generalize hservice :
    orText (anomaly.serviceName.getD "") "unknown.service" = service
  have hfirst : Returns (inspectAll py client
      [⟨.command anomaly.minionId (.serviceDetails service), none,
          "service_details:" ++ service,
          "Runtime properties for failed service " ++ service, 8000⟩,
        ⟨.command anomaly.minionId (.serviceLogs service 50), none,
          "service_logs:" ++ service,
          "Recent journal for failed service " ++ service, 10000⟩,
        ⟨.command anomaly.minionId .listeningPorts, none,
          "listening_tcp_ports", "Processes listening on TCP ports", 8000⟩]) ↔
      (systemdService? service).isSome := by
    simp only [inspectAll_returns_iff, List.forall_mem_cons, List.not_mem_nil,
      IsEmpty.forall_iff, implies_true, and_true, Inspection.run]
    simp only [h.run_returns_iff, serviceDetails_build_returns_iff,
      serviceLogs_build_returns_iff (show (1 : ℤ) ≤ 50 by decide)
        (by decide)]
    have hports : Returns (SaltCommand.build py .listeningPorts) :=
      returns_ok _
    simp [hports]
  have hsecond : Returns (inspectAll py client
      ((client.dependenciesForService anomaly.minionId service).map
        dependencyInspection)) ↔
      ∀ edge ∈ client.dependenciesForService anomaly.minionId service,
        edge.sourceMinion ∈ client.allowedMinions ∧
          edge.targetMinion ∈ client.allowedMinions := by
    rw [inspectAll_returns_iff, List.forall_mem_map]
    refine forall₂_congr ?_
    intro edge hedge
    exact h.inspectDependency_returns_iff (List.mem_of_mem_filter hedge)
  rw [← hfirst, ← hsecond]
  subst hservice
  constructor
  · intro hreturns
    obtain ⟨first, hfirstOk, hlater⟩ := returns_bind_iff.mp hreturns
    obtain ⟨second, hsecondOk, -⟩ := returns_bind_iff.mp hlater
    exact ⟨⟨first, hfirstOk⟩, second, hsecondOk⟩
  · rintro ⟨⟨first, hfirstOk⟩, second, hsecondOk⟩
    refine returns_bind_iff.mpr ⟨first, hfirstOk, ?_⟩
    exact returns_bind_iff.mpr ⟨second, hsecondOk, returns_ok _⟩

/-- A collector of a client that answers returns on valid arguments. -/
theorem collector_returns_iff (h : Answers py client) {collector : Collector}
    (hcollector : requiredEvidenceCollectors.lookup anomaly.metricName =
      some collector) :
    Returns (collector.collect py client anomaly) ↔
      ArgumentsValid py client anomaly := by
  have hother (hdisk : anomaly.metricName ≠ "disk")
      (hservice : anomaly.metricName ≠ "service_down") :
      ArgumentsValid py client anomaly :=
    ⟨fun h => absurd h hdisk, fun h => absurd h hdisk,
      fun h => absurd h hservice, fun h => absurd h hservice⟩
  obtain ⟨before, after, heq, -⟩ := List.lookup_eq_some_iff.mp hcollector
  have hmem : (anomaly.metricName, collector) ∈ requiredEvidenceCollectors := by
    rw [heq]
    simp
  simp only [requiredEvidenceCollectors, List.mem_cons, Prod.mk.injEq,
    List.not_mem_nil, or_false] at hmem
  have hfixed {required : List RequiredInspection}
      (hfixed : ∀ inspection ∈ required.map (·.inspection),
        isFixed inspection = true)
      (hdisk : anomaly.metricName ≠ "disk")
      (hservice : anomaly.metricName ≠ "service_down") :
      Returns (inspectAll py client required) ↔
        ArgumentsValid py client anomaly :=
    iff_of_true (inspectAll_returns_of_isFixed h hfixed)
      (hother hdisk hservice)
  rcases hmem with ⟨hmetric, rfl⟩ | ⟨hmetric, rfl⟩ | ⟨hmetric, rfl⟩ |
    ⟨hmetric, rfl⟩ | ⟨hmetric, rfl⟩ | ⟨hmetric, rfl⟩ | ⟨hmetric, rfl⟩ |
    ⟨hmetric, rfl⟩ | ⟨hmetric, rfl⟩ | ⟨hmetric, rfl⟩
  case inr.inr.inr.inr.inr.inr.inl =>
    rw [collectDisk_returns_iff h]
    have hservice : anomaly.metricName ≠ "service_down" := by
      rw [hmetric]
      decide
    refine ⟨?_, fun hvalid => ⟨hvalid.mountpoint hmetric,
      hvalid.candidates hmetric⟩⟩
    rintro ⟨hpath, hcandidates⟩
    exact ⟨fun _ => hpath, fun _ => hcandidates, fun h => absurd h hservice,
      fun h => absurd h hservice⟩
  case inr.inr.inr.inr.inr.inr.inr.inr.inr =>
    rw [collectService_returns_iff h]
    have hdisk : anomaly.metricName ≠ "disk" := by
      rw [hmetric]
      decide
    refine ⟨?_, fun hvalid => ⟨hvalid.service hmetric,
      hvalid.dependencies hmetric⟩⟩
    rintro ⟨hname, hdependencies⟩
    exact ⟨fun h => absurd h hdisk, fun h => absurd h hdisk, fun _ => hname,
      fun _ => hdependencies⟩
  all_goals
    apply hfixed
    · simp [isFixed]
    · rw [hmetric]
      decide
    · rw [hmetric]
      decide

theorem collectRequiredEvidence_returns_iff (h : Answers py client)
    {now : ℚ} :
    Returns (collectRequiredEvidence py (some client) anomaly now) ↔
      ArgumentsValid py client anomaly := by
  rw [collectRequiredEvidence]
  rcases hlookup : requiredEvidenceCollectors.lookup anomaly.metricName with
    _ | collector
  · have hne (name : String)
        (hname : (requiredEvidenceCollectors.lookup name).isSome) :
        anomaly.metricName ≠ name := by
      rintro rfl
      rw [hlookup] at hname
      cases hname
    exact iff_of_true (returns_ok _)
      ⟨fun h => absurd h (hne "disk" rfl), fun h => absurd h (hne "disk" rfl),
        fun h => absurd h (hne "service_down" rfl),
        fun h => absurd h (hne "service_down" rfl)⟩
  · rw [← collector_returns_iff h hlookup]
    constructor
    · intro hreturns
      obtain ⟨entries, hentries, -⟩ := returns_bind_iff.mp hreturns
      exact ⟨entries, hentries⟩
    · rintro ⟨entries, hentries⟩
      exact returns_bind_iff.mpr ⟨entries, hentries, returns_ok _⟩

end Collect

/-! ## When the stage returns -/

/-- The stage before the LLM returns for an anomaly when its prompt is complete
and the arguments of its inspections are valid. -/
theorem prepare_returns_iff_valid (py : Interpreter)
    (client : Option SaltClient) (anomaly : Anomaly) (metrics : Metrics)
    (now : ℚ) (hanswers : ∀ salt, client = some salt → Answers py salt) :
    Returns (prepare py client anomaly metrics now) ↔
      PromptComplete anomaly metrics ∧
        ∀ salt, client = some salt → ArgumentsValid py salt anomaly := by
  rw [prepare_returns_iff, getPromptForAnomaly_returns_iff, and_comm]
  refine and_congr_right fun _ => ?_
  rcases client with _ | salt
  · refine iff_of_true ?_ (fun salt hsalt => nomatch hsalt)
    rw [collectRequiredEvidence]
    rcases requiredEvidenceCollectors.lookup anomaly.metricName with _ | _
    · exact returns_ok _
    · exact returns_ok _
  · rw [collectRequiredEvidence_returns_iff (hanswers salt rfl)]
    simp

/-! ## Unit names -/

/-- A client whose requests all fail. -/
def unreachableClient : SaltClient where
  allowedMinions := ["web"]
  dependencies := []
  dependencies_nodup := List.nodup_nil
  operation := fun _ =>
    ⟨⟨true, true, .failed "", .failed "connection refused", .failed "",
      .failed ""⟩, none, false⟩

theorem unreachableClient_answers (py : Interpreter) :
    Answers py unreachableClient := by
  intro request
  refine safeCall_returns_iff.mpr ?_
  intro e he
  rcases call_raises _ e he with hexpected | ⟨-, text, hbody, -⟩
  · exact hexpected
  · cases hbody

/-- Prometheus has no reading. -/
def noMetrics : Metrics :=
  ⟨⟨none, none, none, none, none, none, none, none, none, none, none⟩, none,
    none, [], none, none, none, none, []⟩

/-- A row of `systemctl` for a unit on a device. -/
def checkedDisk : FailedService :=
  ⟨"systemd-fsck@dev-disk-by\\x2duuid-1.service", "File System Check",
    "failed", "failed"⟩

theorem shop_prepared : Returns (prepare ⟨1000, fun _ => ""⟩
    (some unreachableClient)
    (serviceAnomaly "web" ⟨"shop.service", "Shop", "failed", "failed"⟩)
    noMetrics 0) := by
  refine (prepare_returns_iff_valid _ _ _ _ _ ?_).mpr ⟨?_, ?_⟩
  · rintro salt ⟨⟩
    exact unreachableClient_answers _
  · exact ⟨rfl, fun h => absurd h (by decide), fun h => absurd h (by decide)⟩
  · rintro salt ⟨⟩
    exact ⟨fun h => absurd h (by decide), fun h => absurd h (by decide),
      fun _ => by decide, fun _ edge hedge => absurd hedge List.not_mem_nil⟩

/-- `systemctl` escapes the names of devices, and no command accepts a unit
whose name is escaped. -/
theorem escaped_unit_not_prepared :
    ¬∀ (py : Interpreter) (client : SaltClient) (config : DetectionConfig)
      (minionId output : String) (metrics : Metrics) (now : ℚ),
      Answers py client →
      ∀ anomaly ∈ checkFailedServices config minionId (.str output),
        Returns (prepare py (some client) anomaly metrics now) := by
  intro hall
  let py : Interpreter := ⟨1000, fun _ => ""⟩
  let output :=
    checkedDisk.name ++ " loaded failed failed " ++ checkedDisk.description
  have hfound : checkFailedServices .plain "web" (.str output) =
      [serviceAnomaly "web" checkedDisk] := by decide +kernel
  have hreturns := hall py unreachableClient .plain "web" output noMetrics 0
    (unreachableClient_answers py) (serviceAnomaly "web" checkedDisk)
    (by rw [hfound]; exact List.mem_singleton.mpr rfl)
  have hvalid := (collectRequiredEvidence_returns_iff
    (unreachableClient_answers py)).mp (prepare_returns_iff.mp hreturns).1
  have hunit := hvalid.service rfl
  exact absurd hunit (by decide)

end UyuniAgent.Investigation
