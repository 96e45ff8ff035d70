import UyuniAgent.Investigation.Evidence
import UyuniAgent.Salt.Inspections

/-!
# The required evidence of an investigation

`collect_required_evidence`: for each metric a fixed list of Salt inspections,
whose outputs become the records of the ledger.  Two collectors add to the list
while they run: one inspects the units that refer to a full filesystem, the
other the configured dependencies of a failed service.
-/

namespace UyuniAgent.Investigation

open Raising Salt

/-! ## Status of an output -/

def remoteFailureMarkers : List String :=
  ["minion did not return", "no response from any minions"]

def evidenceStatusFor (py : Interpreter) : PyValue → EvidenceStatus
  | .bool false => .error
  | .none => .missing
  | value =>
      let text := PyText.strip (value.toStr py)
      if text = "" then .missing
      else if PyText.startsWith text callFailed ∨
          remoteFailureMarkers.any (PyText.contains (PyText.lower text)) then
        .error
      else .ok

/-! ## Inspections and entries -/

/-- What a record is built from. -/
inductive Inspection
  | diskUsage (minion : String)
  | command (minion : String) (command : SaltCommand)
  | dependency (edge : InspectionEdge)
  deriving DecidableEq

/-- The Salt calls of an inspection. -/
def Inspection.calls (py : Interpreter) : Inspection → List SaltCall
  | .diskUsage minion => [⟨minion, .diskUsage⟩]
  | .command minion requested =>
      match requested.build py with
      | .ok built => [⟨minion, built⟩]
      | .error _ => []
  | .dependency edge =>
      [⟨edge.sourceMinion, .dependencySource edge.id⟩,
        ⟨edge.targetMinion, .dependencyTarget edge.id⟩]

def Inspection.run (py : Interpreter) (client : SaltClient) :
    Inspection → Except SaltException String
  | .diskUsage minion => client.diskUsage py minion
  | .command minion requested => client.run py minion requested
  | .dependency edge => client.inspectDependency py edge.id edge.kind

/-- An inspection with the record that its output becomes. -/
structure RequiredInspection where
  inspection : Inspection
  target : Option String
  check : String
  summary : String
  detailLimit : ℕ

/-- What a collector adds to the ledger. -/
inductive EvidenceEntry
  | salt (required : RequiredInspection) (output : String)
  | note (source check summary details : String) (status : EvidenceStatus)

/-- `_add_salt_evidence`, and the records that need no inspection. -/
def EvidenceEntry.add (py : Interpreter) (now : ℚ) (ledger : EvidenceLedger) :
    EvidenceEntry → EvidenceLedger
  | .salt required output =>
      ledger.add "salt" required.check (evidenceStatusFor py (.str output))
        required.summary (.text output) required.target required.detailLimit now
  | .note source check summary details status =>
      ledger.add source check status summary (.text details) none 12000 now

def inspect (py : Interpreter) (client : SaltClient)
    (required : RequiredInspection) :
    Except SaltException EvidenceEntry := do
  let output ← required.inspection.run py client
  return .salt required output

def inspectAll (py : Interpreter) (client : SaltClient)
    (required : List RequiredInspection) :
    Except SaltException (List EvidenceEntry) :=
  required.mapM (inspect py client)

/-! ## The collectors -/

/-- A collector: the summary of its record without a client, and what it
collects with one. -/
structure Collector where
  unavailable : String
  collect : Interpreter → SaltClient → Anomaly →
    Except SaltException (List EvidenceEntry)

/-- `posixpath.basename`. -/
def basename (path : String) : String :=
  String.ofList (path.toList.rtakeWhile (· ≠ '/'))

def parseServiceUnitReferences (output : String) : List String :=
  let units := (PyText.splitlines output).map fun line =>
    basename (PyText.strip line)
  (units.filter (PyText.endsWith · ".service")).foldl
    (fun found unit => if unit ∈ found then found else found ++ [unit]) []

def relatedUnhealthyServices (anomaly : Anomaly) : List String :=
  match anomaly.context with
  | .filesystem _ related => related
  | _ => []

/-- `anomaly.context.get("mountpoint", anomaly.resource or "/")`. -/
def mountpointOf (anomaly : Anomaly) : String :=
  match anomaly.context with
  | .filesystem filesystem _ => filesystem.mountpoint
  | _ => orText (anomaly.resource.getD "") "/"

/-- The candidate services of a disk anomaly, of which three are inspected. -/
def candidateServices (anomaly : Anomaly) (references : String) :
    List String :=
  ((parseServiceUnitReferences references).foldl
    (fun found unit => if unit ∈ found then found else found ++ [unit])
    (relatedUnhealthyServices anomaly)).take 3

def candidateInspections (minionId service : String) :
    List RequiredInspection :=
  [⟨.command minionId (.serviceDetails service), none,
      "service_details:" ++ service,
      "Runtime properties for candidate service " ++ service, 8000⟩,
    ⟨.command minionId (.serviceLogs service 30), none,
      "service_logs:" ++ service,
      "Recent journal for candidate service " ++ service, 8000⟩]

def collectRequiredDiskEvidence : Collector where
  unavailable :=
    "Salt client is unavailable; required disk evidence was not collected"
  collect := fun py client anomaly => do
    let minionId := anomaly.minionId
    let mountpoint := mountpointOf anomaly
    let references : RequiredInspection :=
      ⟨.command minionId (.serviceReferences mountpoint), none,
        "service_references", "Systemd units referencing " ++ mountpoint, 4000⟩
    let first ← inspectAll py client
      [⟨.diskUsage minionId, none, "disk_usage",
          "Disk usage snapshot for " ++ mountpoint, 10000⟩,
        ⟨.command minionId (.largestFiles mountpoint), none, "largest_files",
          "Largest files on filesystem containing " ++ mountpoint, 8000⟩]
    let output ← references.inspection.run py client
    let candidates := candidateServices anomaly output
    let second ← inspectAll py client
      (candidates.flatMap (candidateInspections minionId))
    let noCandidates : EvidenceEntry :=
      .note "detector" "candidate_service_discovery"
        "No candidate systemd service was discovered" "" .missing
    return first ++ [.salt references output] ++
      if candidates.isEmpty then [noCandidates] else second

def collectRequiredPostgresLockEvidence : Collector where
  unavailable :=
    "Salt client is unavailable; PostgreSQL evidence was not collected"
  collect := fun py client anomaly => inspectAll py client
    [⟨.command anomaly.minionId .postgresHealth, none, "postgres_health",
        "PostgreSQL availability and server identity", 4000⟩,
      ⟨.command anomaly.minionId .postgresBlockingActivity, none,
        "postgres_blocking_activity",
        "Current PostgreSQL blocked and blocker sessions", 12000⟩,
      ⟨.command anomaly.minionId .apacheOverloadSnapshot, none,
        "apache_dependency_snapshot",
        "Current Apache and dependency connection snapshot", 18000⟩]

/-- The Apache and the PostgreSQL minion of an anomaly. -/
def dependencyMinions (anomaly : Anomaly) : String × String :=
  match anomaly.context with
  | .chain _ link => (link.apacheMinionId, link.postgresMinionId)
  | _ => (anomaly.minionId, anomaly.minionId)

def collectRequiredApacheEvidence : Collector where
  unavailable := "Salt client is unavailable; Apache evidence was not collected"
  collect := fun py client anomaly =>
    let (apache, postgres) := dependencyMinions anomaly
    inspectAll py client
      [⟨.command apache .apacheOverloadSnapshot, some apache,
          "apache_overload_snapshot",
          "Apache traffic, worker, connection, process, and config snapshot",
          24000⟩,
        ⟨.command postgres .postgresHealth, some postgres, "postgres_health",
          "Downstream PostgreSQL availability", 4000⟩,
        ⟨.command postgres .postgresBlockingActivity, some postgres,
          "postgres_blocking_activity",
          "Downstream PostgreSQL blocked and blocker sessions", 14000⟩,
        ⟨.command postgres .postgresConnectionActivity, some postgres,
          "postgres_connection_activity",
          "Downstream PostgreSQL connection capacity and ownership", 12000⟩]

def collectRequiredPostgresConnectionEvidence : Collector where
  unavailable :=
    "Salt client is unavailable; PostgreSQL connection evidence was not " ++
      "collected"
  collect := fun py client anomaly => inspectAll py client
    [⟨.command anomaly.minionId .postgresHealth, none, "postgres_health",
        "PostgreSQL availability and server identity", 4000⟩,
      ⟨.command anomaly.minionId .postgresConnectionActivity, none,
        "postgres_connection_activity",
        "PostgreSQL connection capacity and ownership", 16000⟩,
      ⟨.command anomaly.minionId .postgresBlockingActivity, none,
        "postgres_blocking_activity",
        "Current PostgreSQL blocked and blocker sessions", 10000⟩]

def collectRequiredMemoryEvidence : Collector where
  unavailable :=
    "Salt client is unavailable; memory-pressure evidence was not collected"
  collect := fun py client anomaly => inspectAll py client
    [⟨.command anomaly.minionId .memoryPressureSnapshot, none,
      "memory_pressure_snapshot",
      "Live memory, swap, CPU, PSI, and top-RSS snapshot", 16000⟩]

def collectRequiredCpuEvidence : Collector where
  unavailable := "Salt client is unavailable; CPU evidence was not collected"
  collect := fun py client anomaly => inspectAll py client
    [⟨.command anomaly.minionId .cpuPressureSnapshot, none,
      "cpu_pressure_snapshot",
      "Live load, CPU, PSI, and top-CPU process snapshot", 16000⟩]

def dependencyInspection (edge : InspectionEdge) : RequiredInspection where
  inspection := .dependency edge
  target := some (edge.sourceMinion ++ "->" ++ edge.targetMinion)
  check := "dependency_inspection:" ++ edge.kind.value ++ ":" ++ edge.id
  summary := "Read-only " ++ edge.kind.value.toUpper ++
    " dependency snapshot for configured edge " ++ edge.id
  detailLimit := 24000

def collectRequiredServiceEvidence : Collector where
  unavailable := "Salt client is unavailable; service evidence was not collected"
  collect := fun py client anomaly => do
    let minionId := anomaly.minionId
    let service := orText (anomaly.serviceName.getD "") "unknown.service"
    let first ← inspectAll py client
      [⟨.command minionId (.serviceDetails service), none,
          "service_details:" ++ service,
          "Runtime properties for failed service " ++ service, 8000⟩,
        ⟨.command minionId (.serviceLogs service 50), none,
          "service_logs:" ++ service,
          "Recent journal for failed service " ++ service, 10000⟩,
        ⟨.command minionId .listeningPorts, none, "listening_tcp_ports",
          "Processes listening on TCP ports", 8000⟩]
    let second ← inspectAll py client
      ((client.dependenciesForService minionId service).map
        dependencyInspection)
    return first ++ second

/-- `_REQUIRED_EVIDENCE_COLLECTORS`. -/
def requiredEvidenceCollectors : List (String × Collector) :=
  [("memory", collectRequiredMemoryEvidence),
    ("memory_pressure", collectRequiredMemoryEvidence),
    ("cpu", collectRequiredCpuEvidence),
    ("apache_busy_workers", collectRequiredApacheEvidence),
    ("apache_requests", collectRequiredApacheEvidence),
    ("postgres_apache_chain", collectRequiredApacheEvidence),
    ("disk", collectRequiredDiskEvidence),
    ("postgres_blocked_transaction", collectRequiredPostgresLockEvidence),
    ("postgres_connections", collectRequiredPostgresConnectionEvidence),
    ("service_down", collectRequiredServiceEvidence)]

/-- What a collector adds to the ledger of an anomaly. -/
def Collector.entries (collector : Collector) (py : Interpreter)
    (client : Option SaltClient) (anomaly : Anomaly) :
    Except SaltException (List EvidenceEntry) :=
  match client with
  | none =>
      .ok [.note "salt" "salt_api" collector.unavailable
        "The shared Salt API client was not initialized." .error]
  | some client => collector.collect py client anomaly

/-- The ledger with the entries of a collector. -/
def ledgerWith (py : Interpreter) (anomaly : Anomaly) (now : ℚ)
    (entries : List EvidenceEntry) : EvidenceLedger :=
  entries.foldl (EvidenceEntry.add py now) (ledgerForAnomaly anomaly now)

def collectRequiredEvidence (py : Interpreter) (client : Option SaltClient)
    (anomaly : Anomaly) (now : ℚ) : Except SaltException EvidenceLedger := do
  match requiredEvidenceCollectors.lookup anomaly.metricName with
  | none => return ledgerForAnomaly anomaly now
  | some collector =>
      return ledgerWith py anomaly now
        (← collector.entries py client anomaly)

/-! ## Records and entries -/

def EvidenceEntry.status (py : Interpreter) : EvidenceEntry → EvidenceStatus
  | .salt _ output => evidenceStatusFor py (.str output)
  | .note _ _ _ _ status => status

/-- An entry appends one record with its status. -/
theorem EvidenceEntry.records_add (py : Interpreter) (now : ℚ)
    (ledger : EvidenceLedger) (entry : EvidenceEntry) :
    ∃ record, (entry.add py now ledger).records = ledger.records ++ [record] ∧
      record.status = entry.status py := by
  rcases entry with ⟨required, output⟩ | ⟨source, check, summary, details, status⟩
  · exact ⟨_, rfl, rfl⟩
  · exact ⟨_, rfl, rfl⟩

/-- The records of the entries follow those of the ledger in order. -/
theorem record_of_entry {py : Interpreter} {now : ℚ} {ledger : EvidenceLedger}
    {entries : List EvidenceEntry} {k : ℕ} {entry : EvidenceEntry}
    (h : entries[k]? = some entry) :
    ∃ record,
      (entries.foldl (EvidenceEntry.add py now) ledger).records[
        ledger.records.length + k]? = some record ∧
      record.status = entry.status py := by
  induction entries generalizing ledger k with
  | nil => simp at h
  | cons first rest ih =>
      obtain ⟨record, hrecords, hstatus⟩ :=
        EvidenceEntry.records_add py now ledger first
      rcases k with _ | k
      · obtain rfl : first = entry := by simpa using h
        refine ⟨record, ?_, hstatus⟩
        have hkept : ∀ (others : List EvidenceEntry) (grown : EvidenceLedger),
            grown.records[ledger.records.length]? = some record →
            (others.foldl (EvidenceEntry.add py now) grown).records[
              ledger.records.length]? = some record := by
          intro others
          induction others with
          | nil => exact fun grown hgrown => hgrown
          | cons other others ih =>
              intro grown hgrown
              obtain ⟨added, hadded, -⟩ :=
                EvidenceEntry.records_add py now grown other
              apply ih
              rw [hadded, List.getElem?_append_left]
              · exact hgrown
              · exact (List.getElem?_eq_some_iff.mp hgrown).1
        apply hkept rest
        rw [hrecords]
        simp
      · have hrest : rest[k]? = some entry := by simpa using h
        obtain ⟨later, hget, hlaterStatus⟩ :=
          @ih (first.add py now ledger) k hrest
        rw [hrecords, List.length_append, List.length_singleton] at hget
        refine ⟨later, ?_, hlaterStatus⟩
        rw [List.foldl_cons, Nat.add_comm k 1, ← Nat.add_assoc]
        exact hget

/-! ## The outputs of the entries -/

/-- Every output in the entries is the one of its inspection. -/
def FromInspections (py : Interpreter) (client : SaltClient)
    (entries : List EvidenceEntry) : Prop :=
  ∀ required output, .salt required output ∈ entries →
    required.inspection.run py client = .ok output

theorem inspect_from {py : Interpreter} {client : SaltClient}
    {required other : RequiredInspection} {output : String}
    (h : inspect py client required = .ok (.salt other output)) :
    other = required ∧ required.inspection.run py client = .ok output := by
  obtain ⟨text, htext, heq⟩ := bind_eq_ok_iff.mp h
  injection Except.ok.inj heq with hrequired houtput
  subst hrequired houtput
  exact ⟨rfl, htext⟩

theorem inspectAll_from {py : Interpreter} {client : SaltClient}
    {required : List RequiredInspection} {entries : List EvidenceEntry}
    (h : inspectAll py client required = .ok entries) :
    FromInspections py client entries := by
  intro other output hmem
  obtain ⟨source, -, hsource⟩ := mem_of_mapM_eq_ok h hmem
  obtain ⟨rfl, hrun⟩ := inspect_from hsource
  exact hrun

theorem FromInspections.append {py : Interpreter} {client : SaltClient}
    {first second : List EvidenceEntry}
    (hfirst : FromInspections py client first)
    (hsecond : FromInspections py client second) :
    FromInspections py client (first ++ second) := by
  intro required output hmem
  rcases List.mem_append.mp hmem with hleft | hright
  · exact hfirst required output hleft
  · exact hsecond required output hright

theorem collectRequiredDiskEvidence_from {py : Interpreter}
    {client : SaltClient} {anomaly : Anomaly} {entries : List EvidenceEntry}
    (h : collectRequiredDiskEvidence.collect py client anomaly = .ok entries) :
    FromInspections py client entries := by
  obtain ⟨first, hfirst, h⟩ := bind_eq_ok_iff.mp h
  obtain ⟨output, houtput, h⟩ := bind_eq_ok_iff.mp h
  obtain ⟨second, hsecond, h⟩ := bind_eq_ok_iff.mp h
  obtain rfl := Except.ok.inj h
  refine FromInspections.append (FromInspections.append
    (inspectAll_from hfirst) ?_) ?_
  · intro required text hmem
    rw [List.mem_singleton] at hmem
    injection hmem with hrequired htext
    subst hrequired htext
    exact houtput
  · split
    · intro required text hmem
      rw [List.mem_singleton] at hmem
      cases hmem
    · exact inspectAll_from hsecond

theorem collectRequiredServiceEvidence_from {py : Interpreter}
    {client : SaltClient} {anomaly : Anomaly} {entries : List EvidenceEntry}
    (h : collectRequiredServiceEvidence.collect py client anomaly =
      .ok entries) : FromInspections py client entries := by
  obtain ⟨first, hfirst, h⟩ := bind_eq_ok_iff.mp h
  obtain ⟨second, hsecond, h⟩ := bind_eq_ok_iff.mp h
  obtain rfl := Except.ok.inj h
  exact (inspectAll_from hfirst).append (inspectAll_from hsecond)

/-- Every collector records what its inspections return. -/
theorem collect_from {py : Interpreter} {client : SaltClient}
    {metric : String} {collector : Collector}
    (hcollector : requiredEvidenceCollectors.lookup metric = some collector)
    {anomaly : Anomaly} {entries : List EvidenceEntry}
    (h : collector.collect py client anomaly = .ok entries) :
    FromInspections py client entries := by
  have hmem : collector ∈ requiredEvidenceCollectors.map (·.2) := by
    obtain ⟨pre, post, heq, -⟩ := List.lookup_eq_some_iff.mp hcollector
    rw [heq]
    simp
  simp only [requiredEvidenceCollectors, List.map_cons, List.map_nil,
    List.mem_cons, List.not_mem_nil, or_false] at hmem
  rcases hmem with rfl | rfl | rfl | rfl | rfl | rfl | rfl | rfl | rfl | rfl
  · exact inspectAll_from h
  · exact inspectAll_from h
  · exact inspectAll_from h
  · exact inspectAll_from h
  · exact inspectAll_from h
  · exact inspectAll_from h
  · exact collectRequiredDiskEvidence_from h
  · exact inspectAll_from h
  · exact inspectAll_from h
  · exact collectRequiredServiceEvidence_from h

end UyuniAgent.Investigation
