import UyuniAgent.Detector.Checks
import UyuniAgent.Investigation.Evidence
import UyuniAgent.Support.PyValue
import UyuniAgent.Support.RegexGroups

/-!
# Causes that the evidence proves

The analyzers of `deterministic_analysis.py`.  Each one first reads what it
needs from the ledger, and then words an analysis from that: what is read is a
structure here, with the records that the analysis declares as its support and
the names that stand in its root cause.
-/

namespace UyuniAgent.Investigation

open Regex

/-- Letters and digits as `re` sees them in ASCII. -/
def asciiData : UnicodeData := ⟨Char.isAlphanum, fun _ _ => rfl⟩

theorem isWord_asciiData_of_isSpace (c : Char) (h : PyText.isSpace c = true) :
    asciiData.isWord c = false := by
  have hspace : c.toNat < 33 ∨ 122 < c.toNat := by
    simp only [PyText.isSpace, Bool.or_eq_true, Bool.and_eq_true,
      decide_eq_true_eq, List.mem_cons, List.not_mem_nil, or_false] at h
    omega
  rw [Bool.eq_false_iff]
  intro hword
  have hbounds : 48 ≤ c.toNat ∧ c.toNat ≤ 122 := by
    rw [UnicodeData.isWord, asciiData] at hword
    delta Char.isAlphanum at hword
    delta Char.isAlpha Char.isDigit at hword
    delta Char.isUpper Char.isLower at hword
    simp only [Bool.or_eq_true, Bool.and_eq_true, decide_eq_true_eq,
      UInt32.le_iff_toNat_le] at hword
    have hends : 'A'.val.toNat = 65 ∧ 'Z'.val.toNat = 90 ∧
        'a'.val.toNat = 97 ∧ 'z'.val.toNat = 122 ∧ '0'.val.toNat = 48 ∧
        '9'.val.toNat = 57 := by
      decide
    have hval : c.val.toNat = c.toNat := rfl
    rcases hword with ((hupper | hlower) | hdigit) | rfl
    · omega
    · omega
    · omega
    · decide
  omega

variable (unicode : UnicodeData) (dumps : EvidenceDetails → String)

/-! ## Records -/

/-- `record.details`; `dumps` renders what is not text. -/
def EvidenceRecord.text (record : EvidenceRecord) : String :=
  match record.details with
  | .text rendered => rendered
  | details => dumps details

/-- `_records`. -/
def recordsOf (ledger : EvidenceLedger) (head : String) :
    List EvidenceRecord :=
  ledger.records.filter fun record =>
    PyText.startsWith record.check head && record.status = .ok

/-- `next(iter(_records(ledger, head)), None)`. -/
def firstRecord (ledger : EvidenceLedger) (head : String) :
    Option EvidenceRecord :=
  (recordsOf ledger head).head?

/-- `_dependency_record`. -/
def dependencyRecord (ledger : EvidenceLedger) (kind : String) :
    Option EvidenceRecord :=
  firstRecord ledger ("dependency_inspection:" ++ kind ++ ":")

/-- `_service_log_record`. -/
def serviceLogRecord (ledger : EvidenceLedger) : Option EvidenceRecord :=
  firstRecord ledger "service_logs:"

/-- `_urgency`. -/
def urgencyOf (anomaly : Anomaly) : Urgency :=
  if anomaly.severity = .critical then .critical else .high

/-- `anomaly.service_name or fallback`. -/
def serviceOr (anomaly : Anomaly) (fallback : String) : String :=
  orText (anomaly.serviceName.getD "") fallback

/-- `re.search(...).group(1)`. -/
def firstGroup (parts : List Part) (text : String) : Option String :=
  (searchGroups unicode parts text).bind (·.head?)

/-- `f"[{record.id}]"`. -/
def EvidenceRecord.citation (record : EvidenceRecord) : String :=
  "[" ++ record.id ++ "]"

/-! ## `_ssh_host_key_mismatch` -/

structure SshHostKeyMismatch where
  logs : EvidenceRecord
  snapshot : EvidenceRecord
  service : String
  pinnedLabel : String
  presentedLabel : String

def changedHostKey : Regex :=
  alt (lit "remote host identification has changed")
    (lit "host key verification failed")

/-- `text.partition(separator)`, `none` without a separator. -/
def partitionAt (separator : List Char) :
    List Char → Option (List Char × List Char)
  | [] => none
  | c :: rest =>
      if separator.isPrefixOf (c :: rest) then
        some ([], (c :: rest).drop separator.length)
      else
        (partitionAt separator rest).map fun parts =>
          (c :: parts.1, parts.2)

/-- `SHA256:[A-Za-z0-9+/=]+`. -/
def fingerprintPattern : Regex :=
  seq (literal "SHA256:")
    (many fun c => c.isAlphanum || c = '+' || c = '/' || c = '=')

/-- `", ".join(sorted(...))`, of a set. -/
def sortedLabel (fingerprints : List String) : String :=
  ", ".intercalate
    (fingerprints.eraseDups.mergeSort (decide <| · ≤ ·))

def sshHostKeyMismatch (anomaly : Anomaly) (ledger : EvidenceLedger) :
    Option SshHostKeyMismatch := do
  let logs ← serviceLogRecord ledger
  let snapshot ← dependencyRecord ledger "ssh"
  if changedHostKey.search unicode (logs.text dumps) then
    let (sourceText, targetText) ←
      partitionAt "--- TARGET ---".toList (snapshot.text dumps).toList
    let pinned :=
      findAll unicode fingerprintPattern (String.ofList sourceText)
    let presented :=
      findAll unicode fingerprintPattern (String.ofList targetText)
    if pinned.isEmpty || presented.isEmpty || pinned.any (· ∈ presented) then
      none
    else
      some {
        logs := logs
        snapshot := snapshot
        service := serviceOr anomaly "SSH client job"
        pinnedLabel := sortedLabel pinned
        presentedLabel := sortedLabel presented }
  else none

def SshHostKeyMismatch.rootCause (cause : SshHostKeyMismatch) : String :=
  cause.service ++
    " rejected the remote endpoint because its pinned host key set " ++
    cause.pinnedLabel ++ " differs from the currently presented key set " ++
    cause.presentedLabel ++ " [" ++ cause.snapshot.id ++
    "], producing strict host-key verification failure [" ++ cause.logs.id ++
    "]."

def SshHostKeyMismatch.analysis (cause : SshHostKeyMismatch)
    (urgency : Urgency) : RootCauseAnalysis where
  summary := cause.service ++ " rejected a changed SSH host key"
  conclusion := .confirmed
  affectedComponent := "SSH host-key trust"
  rootCause := cause.rootCause
  supportingEvidenceIds := [cause.logs.id, cause.snapshot.id]
  keyEvidence :=
    [cause.logs.citation ++ " The client reports a changed host identity " ++
        "and refuses the connection.",
      cause.snapshot.citation ++ " Pinned fingerprint set " ++
        cause.pinnedLabel ++ " differs from presented fingerprint set " ++
        cause.presentedLabel ++ "."]
  remediation :=
    ["Verify the new presented fingerprint through a trusted out-of-band " ++
        "channel or the server console before changing trust.",
      "If the rotation is authorized, replace only this configured " ++
        "host-and-port entry with the verified fingerprint; preserve the " ++
        "previous entry for rollback.",
      "Run the job again with strict host-key checking still enabled."]
  urgency := urgency
  confidence := 99 / 100

/-! ## `_tls_identity_mismatch` -/

structure TlsIdentityMismatch where
  logs : EvidenceRecord
  snapshot : EvidenceRecord
  service : String
  wrongName : String

def certificateRejected : Regex :=
  oneOf [lit "no alternative certificate subject name matches",
    lit "hostname mismatch", lit "verify error:num=62"]

/-- `Subject Alternative Name:\s*\n?\s*DNS:([^,\s]+)`. -/
def subjectAlternativeName : List Part :=
  [.plain (sequence [lit "subject alternative name:", star space,
      optionally (literal "\n"), star space, lit "dns:"]),
    .group (many fun c => c ≠ ',' && !PyText.isSpace c)]

def hostnameMismatch : Regex :=
  alt (lit "verification error: hostname mismatch")
    (lit "verify error:num=62")

def tlsIdentityMismatch (anomaly : Anomaly) (ledger : EvidenceLedger) :
    Option TlsIdentityMismatch := do
  let logs ← serviceLogRecord ledger
  let snapshot ← dependencyRecord ledger "tls"
  let combined := logs.text dumps ++ "\n" ++ snapshot.text dumps
  if certificateRejected.search unicode combined then
    let wrongName ←
      firstGroup unicode subjectAlternativeName (snapshot.text dumps)
    if hostnameMismatch.search unicode (snapshot.text dumps) then
      some {
        logs := logs
        snapshot := snapshot
        service := serviceOr anomaly "TLS client job"
        wrongName := wrongName }
    else none
  else none

def TlsIdentityMismatch.rootCause (cause : TlsIdentityMismatch) : String :=
  "The configured endpoint presents a trusted certificate whose SAN is " ++
    cause.wrongName ++ ", which does not match the requested hostname [" ++
    cause.snapshot.id ++
    ("]; the client therefore rejects the connection during hostname " ++
      "verification [") ++ cause.logs.id ++ "]."

def TlsIdentityMismatch.analysis (cause : TlsIdentityMismatch)
    (urgency : Urgency) : RootCauseAnalysis where
  summary := cause.service ++ " rejected the server certificate identity"
  conclusion := .confirmed
  affectedComponent := "TLS certificate identity"
  rootCause := cause.rootCause
  supportingEvidenceIds := [cause.logs.id, cause.snapshot.id]
  keyEvidence :=
    [cause.logs.citation ++
        " The client fails certificate hostname verification.",
      cause.snapshot.citation ++ " The live certificate SAN is " ++
        cause.wrongName ++ " and OpenSSL reports hostname mismatch."]
  remediation :=
    ["Confirm the intended service hostname and certificate issuance record.",
      "Install a certificate whose SAN contains the intended hostname, or " ++
        "correct the endpoint only if configuration is wrong; retain the " ++
        "current certificate for rollback.",
      "Re-run chain and hostname verification without disabling TLS " ++
        "verification before restarting the job."]
  urgency := urgency
  confidence := 99 / 100

/-! ## `_nfs_identity_drift` -/

structure NfsIdentityDrift where
  logs : EvidenceRecord
  snapshot : EvidenceRecord
  service : String
  serverIds : String × String
  expectedIds : String × String

/-- `expected_uid=(\d+) expected_gid=(\d+)`. -/
def expectedOwner : List Part :=
  [.plain (literal "expected_uid="), .group decimals,
    .plain (literal " expected_gid="), .group decimals]

/-- `kind=.*? uid=(\d+) gid=(\d+) mode=(\d+)`. -/
def ownerOf (kind : String) : List Part :=
  [.plain (literal (kind ++ "=")), .lazily anything,
    .plain (literal " uid="), .group decimals,
    .plain (literal " gid="), .group decimals,
    .plain (literal " mode="), .group decimals]

/-- `re.search(...).group(1, 2)`. -/
def firstTwoGroups (parts : List Part) (text : String) :
    Option (String × String) :=
  match searchGroups unicode parts text with
  | some (first :: second :: _) => some (first, second)
  | _ => none

def nfsIdentityDrift (anomaly : Anomaly) (ledger : EvidenceLedger) :
    Option NfsIdentityDrift := do
  let logs ← serviceLogRecord ledger
  let snapshot ← dependencyRecord ledger "nfs"
  if (lit "permission denied").search unicode (logs.text dumps) then
    let expected ← firstTwoGroups unicode expectedOwner (snapshot.text dumps)
    let client ←
      firstTwoGroups unicode (ownerOf "mount") (snapshot.text dumps)
    let server ←
      firstTwoGroups unicode (ownerOf "export") (snapshot.text dumps)
    if client ≠ server || server = expected then none
    else
      some {
        logs := logs
        snapshot := snapshot
        service := serviceOr anomaly "NFS client job"
        serverIds := server
        expectedIds := expected }
  else none

/-- `f"{ids[0]}:{ids[1]}"`. -/
def ownerText (ids : String × String) : String :=
  ids.1 ++ ":" ++ ids.2

def NfsIdentityDrift.rootCause (cause : NfsIdentityDrift) : String :=
  "The mounted export and server directory both resolve to numeric owner " ++
    ownerText cause.serverIds ++ ", but the configured backup identity is " ++
    ownerText cause.expectedIds ++ " [" ++ cause.snapshot.id ++
    ("]. The client job consequently receives Permission denied while " ++
      "writing [") ++ cause.logs.id ++ "]."

def NfsIdentityDrift.analysis (cause : NfsIdentityDrift)
    (urgency : Urgency) : RootCauseAnalysis where
  summary := cause.service ++ " is blocked by NFS numeric identity drift"
  conclusion := .confirmed
  affectedComponent := "NFS export ownership mapping"
  rootCause := cause.rootCause
  supportingEvidenceIds := [cause.logs.id, cause.snapshot.id]
  keyEvidence :=
    [cause.logs.citation ++ " The backup process receives Permission " ++
        "denied on the mounted path.",
      cause.snapshot.citation ++ " Client mount and server export show " ++
        "owner " ++ ownerText cause.serverIds ++ ", not intended backup " ++
        "UID/GID " ++ ownerText cause.expectedIds ++ "."]
  remediation :=
    ["Confirm the intended numeric backup UID/GID and review the export " ++
        "identity-mapping policy on both nodes.",
      "Restore the export ownership mapping to " ++
        ownerText cause.expectedIds ++ " only after validating that " ++
        "identity; record current owner " ++ ownerText cause.serverIds ++
        " for rollback.",
      "Re-test a write as the backup service account without weakening " ++
        "export policy or applying world-writable permissions."]
  urgency := urgency
  confidence := 99 / 100

/-! ## `_service_port_conflict` -/

structure ServicePortConflict where
  details : EvidenceRecord
  logs : EvidenceRecord
  listeners : EvidenceRecord
  service : String
  process : String
  port : ℤ

def addressInUse : Regex :=
  alt (lit "address already in use") (lit "eaddrinuse")

/-- `(?:http\.server\s+|--port(?:=|\s+)|port(?:=|\s+))(\d{2,5})`. -/
def configuredPort : List Part :=
  [.plain (oneOf [seq (lit "http.server") spaces,
      seq (lit "--port") (alt (lit "=") spaces),
      seq (lit "port") (alt (lit "=") spaces)]),
    .group (sequence [chars isDecimal, chars isDecimal,
      upTo (chars isDecimal) 3])]

/-- `:{port}\b`. -/
def portMention (port : ℤ) : Regex :=
  seq (literal (":" ++ toString port)) boundary

/-- `users:\(\("([^"]+)"`. -/
def listenerProcess : List Part :=
  [.plain (literal "users:((\""), .group (many (· ≠ '"')),
    .plain (literal "\"")]

/-- The first line that mentions a port, stripped. -/
def listenerLine (port : ℤ) (listing : String) : Option String :=
  ((PyText.splitlines listing).find? fun line =>
    (portMention port).search unicode line).map PyText.strip

/-- The number of at most five digits is always an integer. -/
def servicePortConflict (anomaly : Anomaly) (ledger : EvidenceLedger) :
    Option ServicePortConflict := do
  let details ← firstRecord ledger "service_details:"
  let logs ← firstRecord ledger "service_logs:"
  let listeners ← firstRecord ledger "listening_tcp_ports"
  if addressInUse.search unicode (logs.text dumps) then
    let digits ← firstGroup unicode configuredPort (details.text dumps)
    let port ← PyText.toInt? digits
    if 1 ≤ port ∧ port ≤ 65535 then
      let line ← listenerLine unicode port (listeners.text dumps)
      some {
        details := details
        logs := logs
        listeners := listeners
        service := serviceOr anomaly "the configured service"
        process :=
          (firstGroup unicode listenerProcess line).getD "another process"
        port := port }
    else none
  else none

def ServicePortConflict.rootCause (cause : ServicePortConflict) : String :=
  cause.service ++ " fails with an address-in-use error [" ++ cause.logs.id ++
    "] while " ++ cause.process ++ " is already listening on TCP port " ++
    toString cause.port ++ " [" ++ cause.listeners.id ++ "]."

def ServicePortConflict.analysis (cause : ServicePortConflict)
    (urgency : Urgency) : RootCauseAnalysis where
  summary :=
    cause.service ++ " cannot bind TCP port " ++ toString cause.port
  conclusion := .confirmed
  affectedComponent := cause.service
  rootCause := cause.rootCause
  supportingEvidenceIds :=
    [cause.details.id, cause.logs.id, cause.listeners.id]
  keyEvidence :=
    [cause.details.citation ++ " The service is configured to use TCP " ++
        "port " ++ toString cause.port ++ ".",
      cause.logs.citation ++
        " The service reports that its address is already in use.",
      cause.listeners.citation ++ " " ++ cause.process ++
        " owns a listener on TCP port " ++ toString cause.port ++ "."]
  remediation :=
    ["Confirm whether " ++ cause.process ++ " or " ++ cause.service ++
        " should own TCP port " ++ toString cause.port ++ ".",
      "Stop or reconfigure only the unintended listener, then start the " ++
        "affected service."]
  urgency := urgency
  confidence := 99 / 100

/-! ## `_disk_crash_loop` -/

structure DiskCrashLoop where
  usage : EvidenceRecord
  largest : EvidenceRecord
  details : EvidenceRecord
  logs : Option EvidenceRecord
  service : String
  largePath : String
  restarts : String

/-- `(/[^\t ]+)$`. -/
def pathAtEnd : List Part :=
  [.group (seq (literal "/") (many fun c => c ≠ '\t' && c ≠ ' ')),
    .plain textEnd]

/-- `(?m)^NRestarts=(\d+)$`. -/
def restartCount : List Part :=
  [.lineStart, .plain (literal "NRestarts="), .group decimals, .lineEnd]

/-- `(?m)^Restart=(on-failure|always|on-abnormal|on-watchdog)$`. -/
def restartPolicy : List Part :=
  [.lineStart, .plain (literal "Restart="),
    .group (oneOf (["on-failure", "always", "on-abnormal",
      "on-watchdog"].map literal)), .lineEnd]

/-- The path at the end of the first line that is not blank. -/
def largestPath (listing : String) : Option String :=
  firstGroup unicode pathAtEnd
    ((((PyText.splitlines listing).map PyText.strip).find? (· ≠ "")).getD "")

/-- `check.split(":", 1)[1]`. -/
def serviceOfCheck (check : String) : String :=
  String.ofList ((check.toList.dropWhile (· ≠ ':')).drop 1)

/-- The cause as the properties of one candidate service show it.  The number
of restarts may have too many digits for `int`. -/
def crashLoopOf (ledger : EvidenceLedger) (usage largest : EvidenceRecord)
    (largePath : String) (details : EvidenceRecord) :
    Except PyException (Option DiskCrashLoop) :=
  match firstGroup unicode restartCount (details.text dumps) with
  | none => .ok none
  | some restarts => do
      let count ← PyValue.toInt (.str restarts)
      if count < 2 ||
          (searchGroups unicode restartPolicy (details.text dumps)).isNone ||
          !PyText.contains (details.text dumps) largePath then
        return none
      else
        let service := serviceOfCheck details.check
        return some {
          usage := usage
          largest := largest
          details := details
          logs := firstRecord ledger ("service_logs:" ++ service)
          service := service
          largePath := largePath
          restarts := restarts }

def diskCrashLoop (ledger : EvidenceLedger) :
    Except PyException (Option DiskCrashLoop) :=
  match firstRecord ledger "disk_usage",
      firstRecord ledger "largest_files" with
  | some usage, some largest =>
      match largestPath unicode (largest.text dumps) with
      | none => .ok none
      | some largePath =>
          (recordsOf ledger "service_details:").findSomeM?
            (crashLoopOf unicode dumps ledger usage largest largePath)
  | _, _ => .ok none

def DiskCrashLoop.rootCause (cause : DiskCrashLoop) : String :=
  cause.service ++ " repeatedly restarts and writes " ++ cause.largePath ++
    " [" ++ cause.details.id ++
    "], which became the largest file on the full filesystem [" ++
    cause.largest.id ++ "]."

def DiskCrashLoop.analysis (cause : DiskCrashLoop)
    (urgency : Urgency) : RootCauseAnalysis where
  summary := cause.service ++ " crash loop filled the filesystem"
  conclusion := .confirmed
  affectedComponent := cause.service
  rootCause := cause.rootCause
  supportingEvidenceIds :=
    [cause.usage.id, cause.largest.id, cause.details.id] ++
      cause.logs.toList.map (·.id)
  keyEvidence :=
    [cause.usage.citation ++ " The affected filesystem is at or above its " ++
        "alert threshold.",
      cause.largest.citation ++ " " ++ cause.largePath ++
        " is the largest discovered file.",
      cause.details.citation ++ " " ++ cause.service ++
        " references that file and has restarted " ++ cause.restarts ++
        " times."]
  remediation :=
    ["Stop " ++ cause.service ++
        " to halt further growth while preserving evidence.",
      "Fix the failing execution path and configure bounded rotation for " ++
        cause.largePath ++ ".",
      "Reclaim space only after retaining any logs required for diagnosis."]
  urgency := urgency
  confidence := 98 / 100

/-! ## `_postgres_blocked_transaction` -/

structure PostgresBlockedTransaction where
  health : EvidenceRecord
  locks : EvidenceRecord
  waits : LockContext

/-- `"available"\s*:\s*true|available\s*[=:]\s*true`. -/
def availablePattern : Regex :=
  alt
    (sequence [literal "\"available\"", star space, literal ":", star space,
      literal "true"])
    (sequence [literal "available", star space,
      chars fun c => c = '=' || c = ':', star space, literal "true"])

def postgresBlockedTransaction (anomaly : Anomaly) (ledger : EvidenceLedger) :
    Option PostgresBlockedTransaction := do
  let health ← firstRecord ledger "postgres_health"
  let locks ← firstRecord ledger "postgres_blocking_activity"
  let waits := anomaly.context.waits
  if waits.blockedPids.isEmpty || waits.blockerPids.isEmpty then none
  else if availablePattern.search unicode
        (PyText.lower (health.text dumps)) &&
      PyText.contains (PyText.lower (locks.text dumps))
        "idle in transaction" &&
      waits.blockerPids.any fun pid =>
        PyText.contains (locks.text dumps) (toString pid) then
    some { health := health, locks := locks, waits := waits }
  else none

/-- `", ".join(str(pid) for pid in pids[:5])`. -/
def pidText (pids : List ℤ) : String :=
  ", ".intercalate ((pids.take 5).map toString)

def PostgresBlockedTransaction.rootCause
    (cause : PostgresBlockedTransaction) : String :=
  "PostgreSQL is accepting queries [" ++ cause.health.id ++
    "], but idle-in-transaction session(s) " ++
    pidText cause.waits.blockerPids ++
    " hold locks needed by session(s) " ++ pidText cause.waits.blockedPids ++
    " [" ++ cause.locks.id ++ "]."

def PostgresBlockedTransaction.analysis (cause : PostgresBlockedTransaction)
    (urgency : Urgency) : RootCauseAnalysis where
  summary := "PostgreSQL work in " ++ cause.waits.database ++
    " is blocked by an open transaction"
  conclusion := .confirmed
  affectedComponent := "postgresql"
  rootCause := cause.rootCause
  supportingEvidenceIds := [cause.health.id, cause.locks.id]
  keyEvidence :=
    [cause.health.citation ++ " PostgreSQL is available and accepting SQL.",
      cause.locks.citation ++ " Blocked session(s) " ++
        pidText cause.waits.blockedPids ++ " wait on blocker(s) " ++
        pidText cause.waits.blockerPids ++ "."]
  remediation :=
    ["Identify the application path that left the transaction open and " ++
        "make it commit or roll back.",
      "After assessing impact, terminate only the offending backend if " ++
        "graceful closure is impossible.",
      "Configure idle_in_transaction_session_timeout as a safety bound."]
  urgency := urgency
  confidence := 99 / 100

/-! ## `_memory_pressure` -/

structure ActiveMemoryPressure where
  snapshot : EvidenceRecord
  detector : EvidenceRecord
  process : String
  rssKib : ℤ

/-- `=== TOP_RSS_KIB ===\s*\n([^=]+)`. -/
def topRssSection : List Part :=
  [.plain (sequence [literal "=== TOP_RSS_KIB ===", star space,
      literal "\n"]),
    .group (many (· ≠ '='))]

/-- `text.split()`. -/
def words (text : String) : List String :=
  PyText.split text text.length

/-- `values[header.index(name)]`, `none` when it raises. -/
def column (header values : List String) (name : String) : Option String :=
  (header.idxOf? name).bind fun i => values[i]?

def memoryPressure (anomaly : Anomaly) (ledger : EvidenceLedger) :
    Option ActiveMemoryPressure := do
  if isActivelySwapping anomaly then
    let snapshot ← firstRecord ledger "memory_pressure_snapshot"
    let detector ← firstRecord ledger anomaly.metricName
    let part ← firstGroup unicode topRssSection (snapshot.text dumps)
    let lines := ((PyText.splitlines part).map PyText.strip).filter (· ≠ "")
    let header ← lines[0]?
    let values ← lines[1]?
    let process ← column (words header) (words values) "COMMAND"
    let rss ← column (words header) (words values) "RSS"
    let rssKib ← PyText.toInt? rss
    some {
      snapshot := snapshot
      detector := detector
      process := process
      rssKib := rssKib }
  else none

def ActiveMemoryPressure.rootCause (cause : ActiveMemoryPressure) : String :=
  "The host is under memory pressure with active swap I/O [" ++
    cause.detector.id ++ "], and " ++ cause.process ++
    " is the largest RSS consumer at " ++ toString cause.rssKib ++ " KiB [" ++
    cause.snapshot.id ++ "]."

def ActiveMemoryPressure.analysis (cause : ActiveMemoryPressure)
    (urgency : Urgency) : RootCauseAnalysis where
  summary := "Memory pressure is causing active swapping"
  conclusion := .confirmed
  affectedComponent := cause.process
  rootCause := cause.rootCause
  supportingEvidenceIds := [cause.detector.id, cause.snapshot.id]
  keyEvidence :=
    [cause.detector.citation ++ " Memory usage crossed the threshold with " ++
        "current swap activity.",
      cause.snapshot.citation ++ " " ++ cause.process ++
        " has the largest resident set (" ++ toString cause.rssKib ++
        " KiB)."]
  remediation :=
    ["Inspect why " ++ cause.process ++ " is retaining memory and apply a " ++
        "bounded application-level limit.",
      "Reduce load or restart only the affected workload after assessing " ++
        "user impact.",
      "Keep swap activity and memory pressure stalls under observation " ++
        "during recovery."]
  urgency := urgency
  confidence := 95 / 100

/-! ## `try_deterministic_analysis` -/

/-- What an analyzer has read from the evidence. -/
inductive ProvenCause
  | sshHostKeyMismatch (cause : SshHostKeyMismatch)
  | tlsIdentityMismatch (cause : TlsIdentityMismatch)
  | nfsIdentityDrift (cause : NfsIdentityDrift)
  | servicePortConflict (cause : ServicePortConflict)
  | diskCrashLoop (cause : DiskCrashLoop)
  | postgresBlockedTransaction (cause : PostgresBlockedTransaction)
  | memoryPressure (cause : ActiveMemoryPressure)

def ProvenCause.analyzer : ProvenCause → String
  | .sshHostKeyMismatch _ => "ssh_host_key_mismatch"
  | .tlsIdentityMismatch _ => "tls_identity_mismatch"
  | .nfsIdentityDrift _ => "nfs_identity_drift"
  | .servicePortConflict _ => "service_port_conflict"
  | .diskCrashLoop _ => "disk_crash_loop"
  | .postgresBlockedTransaction _ => "postgres_blocked_transaction"
  | .memoryPressure _ => "memory_pressure"

def ProvenCause.analysis (urgency : Urgency) :
    ProvenCause → RootCauseAnalysis
  | .sshHostKeyMismatch cause => cause.analysis urgency
  | .tlsIdentityMismatch cause => cause.analysis urgency
  | .nfsIdentityDrift cause => cause.analysis urgency
  | .servicePortConflict cause => cause.analysis urgency
  | .diskCrashLoop cause => cause.analysis urgency
  | .postgresBlockedTransaction cause => cause.analysis urgency
  | .memoryPressure cause => cause.analysis urgency

/-- The first analyzer in order that finds its cause. -/
def provenCause (anomaly : Anomaly) (ledger : EvidenceLedger) :
    Except PyException (Option ProvenCause) :=
  if anomaly.metricName = "service_down" then
    .ok <|
      ((sshHostKeyMismatch unicode dumps anomaly ledger).map
          .sshHostKeyMismatch).or <|
        ((tlsIdentityMismatch unicode dumps anomaly ledger).map
            .tlsIdentityMismatch).or <|
          ((nfsIdentityDrift unicode dumps anomaly ledger).map
              .nfsIdentityDrift).or <|
            (servicePortConflict unicode dumps anomaly ledger).map
              .servicePortConflict
  else if anomaly.metricName = "disk" then
    (diskCrashLoop unicode dumps ledger).map (·.map .diskCrashLoop)
  else if anomaly.metricName = "postgres_blocked_transaction" then
    .ok ((postgresBlockedTransaction unicode dumps anomaly ledger).map
      .postgresBlockedTransaction)
  else if anomaly.metricName = "memory_pressure" ∨
      anomaly.metricName = "memory" then
    .ok ((memoryPressure unicode dumps anomaly ledger).map .memoryPressure)
  else .ok none

structure DeterministicAnalysisResult where
  analysis : RootCauseAnalysis
  analyzer : String

def tryDeterministicAnalysisWithMetadata (anomaly : Anomaly)
    (ledger : EvidenceLedger) :
    Except PyException (Option DeterministicAnalysisResult) := do
  let cause ← provenCause unicode dumps anomaly ledger
  return cause.map fun cause =>
    ⟨cause.analysis (urgencyOf anomaly), cause.analyzer⟩

def tryDeterministicAnalysis (anomaly : Anomaly) (ledger : EvidenceLedger) :
    Except PyException (Option RootCauseAnalysis) := do
  let result ← tryDeterministicAnalysisWithMetadata unicode dumps anomaly ledger
  return result.map (·.analysis)

/-! ## What the analyzers have read -/

section

variable {unicode} {dumps} {anomaly : Anomaly} {ledger : EvidenceLedger}

theorem mem_recordsOf {record : EvidenceRecord} {head : String} :
    record ∈ recordsOf ledger head ↔ record ∈ ledger.records ∧
      PyText.startsWith record.check head = true ∧ record.status = .ok := by
  simp [recordsOf]

theorem mem_of_firstRecord {record : EvidenceRecord} {head : String}
    (h : firstRecord ledger head = some record) :
    record ∈ recordsOf ledger head :=
  List.mem_of_mem_head? h

theorem sshHostKeyMismatch_reads {cause : SshHostKeyMismatch}
    (h : sshHostKeyMismatch unicode dumps anomaly ledger = some cause) :
    serviceLogRecord ledger = some cause.logs ∧
      dependencyRecord ledger "ssh" = some cause.snapshot := by
  obtain ⟨logs, hlogs, h⟩ := Option.bind_eq_some_iff.mp h
  obtain ⟨snapshot, hsnapshot, h⟩ := Option.bind_eq_some_iff.mp h
  rw [Option.ite_none_right_eq_some] at h
  obtain ⟨-, h⟩ := h
  obtain ⟨texts, -, h⟩ := Option.bind_eq_some_iff.mp h
  rw [Option.ite_none_left_eq_some] at h
  obtain ⟨-, h⟩ := h
  obtain rfl := Option.some.inj h
  exact ⟨hlogs, hsnapshot⟩

theorem tlsIdentityMismatch_reads {cause : TlsIdentityMismatch}
    (h : tlsIdentityMismatch unicode dumps anomaly ledger = some cause) :
    serviceLogRecord ledger = some cause.logs ∧
      dependencyRecord ledger "tls" = some cause.snapshot := by
  obtain ⟨logs, hlogs, h⟩ := Option.bind_eq_some_iff.mp h
  obtain ⟨snapshot, hsnapshot, h⟩ := Option.bind_eq_some_iff.mp h
  dsimp only at h
  rw [Option.ite_none_right_eq_some] at h
  obtain ⟨-, h⟩ := h
  obtain ⟨wrongName, -, h⟩ := Option.bind_eq_some_iff.mp h
  rw [Option.ite_none_right_eq_some] at h
  obtain ⟨-, h⟩ := h
  obtain rfl := Option.some.inj h
  exact ⟨hlogs, hsnapshot⟩

theorem nfsIdentityDrift_reads {cause : NfsIdentityDrift}
    (h : nfsIdentityDrift unicode dumps anomaly ledger = some cause) :
    serviceLogRecord ledger = some cause.logs ∧
      dependencyRecord ledger "nfs" = some cause.snapshot ∧
      firstTwoGroups unicode expectedOwner (cause.snapshot.text dumps) =
        some cause.expectedIds ∧
      firstTwoGroups unicode (ownerOf "export")
        (cause.snapshot.text dumps) = some cause.serverIds := by
  obtain ⟨logs, hlogs, h⟩ := Option.bind_eq_some_iff.mp h
  obtain ⟨snapshot, hsnapshot, h⟩ := Option.bind_eq_some_iff.mp h
  rw [Option.ite_none_right_eq_some] at h
  obtain ⟨-, h⟩ := h
  obtain ⟨expected, hexpected, h⟩ := Option.bind_eq_some_iff.mp h
  obtain ⟨client, -, h⟩ := Option.bind_eq_some_iff.mp h
  obtain ⟨server, hserver, h⟩ := Option.bind_eq_some_iff.mp h
  rw [Option.ite_none_left_eq_some] at h
  obtain ⟨-, h⟩ := h
  obtain rfl := Option.some.inj h
  exact ⟨hlogs, hsnapshot, hexpected, hserver⟩

/-- What the analyzer tests on the texts of the first two records. -/
structure ReportsConflict (unicode : UnicodeData)
    (dumps : EvidenceDetails → String) (details logs : EvidenceRecord)
    (port : ℤ) : Prop where
  inUse : addressInUse.search unicode (logs.text dumps) = true
  configured : (firstGroup unicode configuredPort (details.text dumps)).bind
    PyText.toInt? = some port
  range : 1 ≤ port ∧ port ≤ 65535

/-- The process that a line of the listing shows. -/
def lineProcess (unicode : UnicodeData) (line : String) : String :=
  (firstGroup unicode listenerProcess (PyText.strip line)).getD
    "another process"

theorem servicePortConflict_eq_some_iff {cause : ServicePortConflict} :
    servicePortConflict unicode dumps anomaly ledger = some cause ↔
      firstRecord ledger "service_details:" = some cause.details ∧
        firstRecord ledger "service_logs:" = some cause.logs ∧
        firstRecord ledger "listening_tcp_ports" = some cause.listeners ∧
        ReportsConflict unicode dumps cause.details cause.logs cause.port ∧
        cause.service = serviceOr anomaly "the configured service" ∧
        ∃ line, (PyText.splitlines (cause.listeners.text dumps)).find?
            (fun line => (portMention cause.port).search unicode line) =
              some line ∧
          cause.process = lineProcess unicode line := by
  constructor
  · intro h
    obtain ⟨details, hdetails, h⟩ := Option.bind_eq_some_iff.mp h
    obtain ⟨logs, hlogs, h⟩ := Option.bind_eq_some_iff.mp h
    obtain ⟨listeners, hlisteners, h⟩ := Option.bind_eq_some_iff.mp h
    rw [Option.ite_none_right_eq_some] at h
    obtain ⟨hinUse, h⟩ := h
    obtain ⟨digits, hdigits, h⟩ := Option.bind_eq_some_iff.mp h
    obtain ⟨port, hport, h⟩ := Option.bind_eq_some_iff.mp h
    rw [Option.ite_none_right_eq_some] at h
    obtain ⟨hrange, h⟩ := h
    obtain ⟨stripped, hstripped, h⟩ := Option.bind_eq_some_iff.mp h
    obtain ⟨line, hline, rfl⟩ := Option.map_eq_some_iff.mp hstripped
    obtain rfl := Option.some.inj h
    have hreports : ReportsConflict unicode dumps details logs port :=
      ⟨hinUse, Option.bind_eq_some_iff.mpr ⟨digits, hdigits, hport⟩, hrange⟩
    simp only [lineProcess]
    exact ⟨hdetails, hlogs, hlisteners, hreports, trivial, line, hline, rfl⟩
  · rcases cause with ⟨details, logs, listeners, service, process, port⟩
    intro ⟨hdetails, hlogs, hlisteners, h, hservice, line, hline, hprocess⟩
    dsimp only at hdetails hlogs hlisteners h hservice hline hprocess
    obtain ⟨digits, hdigits, hport⟩ := Option.bind_eq_some_iff.mp h.configured
    have hstripped : listenerLine unicode port (listeners.text dumps) =
        some (PyText.strip line) :=
      Option.map_eq_some_iff.mpr ⟨line, hline, rfl⟩
    simp only [servicePortConflict, hdetails, hlogs, hlisteners,
      Option.bind_eq_bind, Option.bind_some, if_pos h.inUse, hdigits, hport,
      if_pos h.range, hstripped, hservice, hprocess, lineProcess]

/-- The properties of a unit show that it has been restarted repeatedly, that
it is restarted after failures, and the path. -/
structure CrashLoops (unicode : UnicodeData)
    (dumps : EvidenceDetails → String) (path : String)
    (details : EvidenceRecord) (restarts : String) : Prop where
  shown : firstGroup unicode restartCount (details.text dumps) =
    some restarts
  repeated : ∃ count, PyValue.toInt (.str restarts) = .ok count ∧ 2 ≤ count
  policy : (searchGroups unicode restartPolicy (details.text dumps)).isSome =
    true
  mentioned : PyText.contains (details.text dumps) path = true

/-- The properties of a unit show no number of restarts, or one that can be
read without a crash loop. -/
def IsPassedOver (unicode : UnicodeData) (dumps : EvidenceDetails → String)
    (path : String) (details : EvidenceRecord) : Prop :=
  ∀ restarts,
    firstGroup unicode restartCount (details.text dumps) = some restarts →
    (∃ count, PyValue.toInt (.str restarts) = .ok count) ∧
      ¬CrashLoops unicode dumps path details restarts

section CrashLoopOf

variable {usage largest details : EvidenceRecord} {path : String}

theorem crashTests_eq_false_iff {count : ℤ} {policy? : Option (List String)}
    {mentioned : Bool} :
    (count < 2 || policy?.isNone || !mentioned) = false ↔
      2 ≤ count ∧ policy?.isSome = true ∧ mentioned = true := by
  rw [Bool.or_eq_false_iff, Bool.or_eq_false_iff, decide_eq_false_iff_not,
    not_lt, ← Option.not_isSome, Bool.not_eq_false', Bool.not_eq_false',
    and_assoc]

theorem crashLoopOf_eq_some_iff {cause : DiskCrashLoop} :
    crashLoopOf unicode dumps ledger usage largest path details =
        .ok (some cause) ↔
      ∃ restarts, CrashLoops unicode dumps path details restarts ∧
        cause = {
          usage := usage
          largest := largest
          details := details
          logs := firstRecord ledger
            ("service_logs:" ++ serviceOfCheck details.check)
          service := serviceOfCheck details.check
          largePath := path
          restarts := restarts } := by
  constructor
  · intro h
    rw [crashLoopOf] at h
    split at h
    next => cases h
    next restarts hrestarts =>
      obtain ⟨count, hcount, h⟩ := Raising.bind_eq_ok_iff.mp h
      split at h
      next => cases h
      next htests =>
        rw [Bool.not_eq_true, crashTests_eq_false_iff] at htests
        obtain ⟨htwo, hpolicy, hmentioned⟩ := htests
        exact ⟨restarts, ⟨hrestarts, ⟨count, hcount, htwo⟩, hpolicy,
          hmentioned⟩, (Option.some.inj (Except.ok.inj h)).symm⟩
  · rintro ⟨restarts, h, rfl⟩
    obtain ⟨count, hcount, htwo⟩ := h.repeated
    have htests := crashTests_eq_false_iff.mpr ⟨htwo, h.policy, h.mentioned⟩
    simp only [crashLoopOf, h.shown]
    refine Raising.bind_eq_ok_iff.mpr ⟨count, hcount, ?_⟩
    rw [if_neg (Bool.not_eq_true _ ▸ htests)]
    rfl

theorem crashLoopOf_eq_none_iff :
    crashLoopOf unicode dumps ledger usage largest path details =
        .ok none ↔
      IsPassedOver unicode dumps path details := by
  constructor
  · intro h restarts hrestarts
    simp only [crashLoopOf, hrestarts] at h
    obtain ⟨count, hcount, h⟩ := Raising.bind_eq_ok_iff.mp h
    refine ⟨⟨count, hcount⟩, fun hloops => ?_⟩
    obtain ⟨other, hother, htwo⟩ := hloops.repeated
    obtain rfl := Except.ok.inj (hcount.symm.trans hother)
    have htests :=
      crashTests_eq_false_iff.mpr ⟨htwo, hloops.policy, hloops.mentioned⟩
    rw [if_neg (Bool.not_eq_true _ ▸ htests)] at h
    cases h
  · intro h
    rw [crashLoopOf]
    split
    next => rfl
    next restarts hrestarts =>
      obtain ⟨⟨count, hcount⟩, hloops⟩ := h restarts hrestarts
      refine Raising.bind_eq_ok_iff.mpr ⟨count, hcount, ?_⟩
      split
      next => rfl
      next htests =>
        rw [Bool.not_eq_true, crashTests_eq_false_iff] at htests
        obtain ⟨htwo, hpolicy, hmentioned⟩ := htests
        exact absurd ⟨hrestarts, ⟨count, hcount, htwo⟩, hpolicy, hmentioned⟩
          hloops

end CrashLoopOf

/-- The first candidate in order that an analyzer accepts. -/
theorem findSomeM?_eq_some_iff {α β : Type}
    {f : α → Except PyException (Option β)} {items : List α} {found : β} :
    items.findSomeM? f = .ok (some found) ↔
      ∃ before item after, items = before ++ item :: after ∧
        (∀ other ∈ before, f other = .ok none) ∧ f item = .ok (some found) := by
  induction items with
  | nil =>
      constructor
      · intro h
        cases h
      · rintro ⟨before, item, after, hitems, -⟩
        exact absurd hitems.symm (by simp)
  | cons first items ih =>
      rw [List.findSomeM?, Raising.bind_eq_ok_iff]
      constructor
      · rintro ⟨result, hresult, h⟩
        rcases result with _ | value
        · obtain ⟨before, item, after, rfl, hbefore, hfound⟩ := ih.mp h
          exact ⟨first :: before, item, after, rfl,
            List.forall_mem_cons.mpr ⟨hresult, hbefore⟩, hfound⟩
        · obtain rfl := Option.some.inj (Except.ok.inj h)
          exact ⟨[], first, items, rfl, by simp, hresult⟩
      · rintro ⟨before, item, after, hitems, hbefore, hfound⟩
        rcases before with _ | ⟨other, before⟩
        · obtain ⟨rfl, rfl⟩ := List.cons.inj hitems
          exact ⟨some found, hfound, rfl⟩
        · obtain ⟨rfl, rfl⟩ := List.cons.inj hitems
          obtain ⟨hother, hbefore⟩ := List.forall_mem_cons.mp hbefore
          exact ⟨none, hother, ih.mpr ⟨before, item, after, rfl, hbefore,
            hfound⟩⟩

/-- The first unit in the records that crash-loops, after units that are passed
over. -/
def FirstCrashLoop (unicode : UnicodeData) (dumps : EvidenceDetails → String)
    (ledger : EvidenceLedger) (path : String) (details : EvidenceRecord)
    (restarts : String) : Prop :=
  ∃ before after,
    recordsOf ledger "service_details:" = before ++ details :: after ∧
      (∀ other ∈ before, IsPassedOver unicode dumps path other) ∧
      CrashLoops unicode dumps path details restarts

theorem diskCrashLoop_eq_some_iff {cause : DiskCrashLoop} :
    diskCrashLoop unicode dumps ledger = .ok (some cause) ↔
      ∃ usage largest path details restarts,
        firstRecord ledger "disk_usage" = some usage ∧
        firstRecord ledger "largest_files" = some largest ∧
        largestPath unicode (largest.text dumps) = some path ∧
        FirstCrashLoop unicode dumps ledger path details restarts ∧
        cause = {
          usage := usage
          largest := largest
          details := details
          logs := firstRecord ledger
            ("service_logs:" ++ serviceOfCheck details.check)
          service := serviceOfCheck details.check
          largePath := path
          restarts := restarts } := by
  constructor
  · intro h
    rw [diskCrashLoop] at h
    split at h
    next usage largest husage hlargest =>
      split at h
      next => cases h
      next path hpath =>
        obtain ⟨before, details, after, hrecords, hbefore, hfound⟩ :=
          findSomeM?_eq_some_iff.mp h
        obtain ⟨restarts, hloops, hcause⟩ := crashLoopOf_eq_some_iff.mp hfound
        have hpassed : ∀ other ∈ before,
            IsPassedOver unicode dumps path other :=
          fun other hother =>
            crashLoopOf_eq_none_iff.mp (hbefore other hother)
        exact ⟨usage, largest, path, details, restarts, husage, hlargest,
          hpath, ⟨before, after, hrecords, hpassed, hloops⟩, hcause⟩
    next => cases h
  · rintro ⟨usage, largest, path, details, restarts, husage, hlargest, hpath,
      ⟨before, after, hrecords, hbefore, hloops⟩, hcause⟩
    simp only [diskCrashLoop, husage, hlargest, hpath]
    exact findSomeM?_eq_some_iff.mpr ⟨before, details, after, hrecords,
      fun other hother => crashLoopOf_eq_none_iff.mpr (hbefore other hother),
      crashLoopOf_eq_some_iff.mpr ⟨restarts, hloops, hcause⟩⟩

/-- What the analyzer tests on the texts of the two records. -/
structure SuggestsBlocker (unicode : UnicodeData)
    (dumps : EvidenceDetails → String) (waits : LockContext)
    (health locks : EvidenceRecord) : Prop where
  blocked : waits.blockedPids ≠ []
  blockers : waits.blockerPids ≠ []
  available : availablePattern.search unicode
    (PyText.lower (health.text dumps)) = true
  idle : PyText.contains (PyText.lower (locks.text dumps))
    "idle in transaction" = true
  mentioned : ∃ pid ∈ waits.blockerPids,
    PyText.contains (locks.text dumps) (toString pid) = true

theorem postgresBlockedTransaction_eq_some_iff
    {cause : PostgresBlockedTransaction} :
    postgresBlockedTransaction unicode dumps anomaly ledger = some cause ↔
      firstRecord ledger "postgres_health" = some cause.health ∧
        firstRecord ledger "postgres_blocking_activity" =
          some cause.locks ∧
        cause.waits = anomaly.context.waits ∧
        SuggestsBlocker unicode dumps cause.waits cause.health
          cause.locks := by
  constructor
  · intro h
    obtain ⟨health, hhealth, h⟩ := Option.bind_eq_some_iff.mp h
    obtain ⟨locks, hlocks, h⟩ := Option.bind_eq_some_iff.mp h
    dsimp only at h
    rw [Option.ite_none_left_eq_some] at h
    obtain ⟨hpids, h⟩ := h
    rw [Option.ite_none_right_eq_some] at h
    obtain ⟨htests, h⟩ := h
    obtain rfl := Option.some.inj h
    simp only [Bool.or_eq_true, List.isEmpty_iff, not_or] at hpids
    simp only [Bool.and_eq_true, List.any_eq_true] at htests
    exact ⟨hhealth, hlocks, rfl, hpids.1, hpids.2, htests.1.1, htests.1.2,
      htests.2⟩
  · rcases cause with ⟨health, locks, waits⟩
    rintro ⟨hhealth, hlocks, rfl, h⟩
    rw [postgresBlockedTransaction, hhealth, hlocks]
    simp only [Option.bind_eq_bind, Option.bind_some]
    rw [if_neg (by simp [h.blocked, h.blockers]), if_pos]
    simp only [Bool.and_eq_true, List.any_eq_true]
    exact ⟨⟨h.available, h.idle⟩, h.mentioned⟩

theorem memoryPressure_reads {cause : ActiveMemoryPressure}
    (h : memoryPressure unicode dumps anomaly ledger = some cause) :
    firstRecord ledger "memory_pressure_snapshot" = some cause.snapshot ∧
      firstRecord ledger anomaly.metricName = some cause.detector := by
  rw [memoryPressure, Option.ite_none_right_eq_some] at h
  obtain ⟨-, h⟩ := h
  obtain ⟨snapshot, hsnapshot, h⟩ := Option.bind_eq_some_iff.mp h
  obtain ⟨detector, hdetector, h⟩ := Option.bind_eq_some_iff.mp h
  obtain ⟨part, -, h⟩ := Option.bind_eq_some_iff.mp h
  obtain ⟨header, -, h⟩ := Option.bind_eq_some_iff.mp h
  obtain ⟨values, -, h⟩ := Option.bind_eq_some_iff.mp h
  obtain ⟨process, -, h⟩ := Option.bind_eq_some_iff.mp h
  obtain ⟨rss, -, h⟩ := Option.bind_eq_some_iff.mp h
  obtain ⟨rssKib, -, h⟩ := Option.bind_eq_some_iff.mp h
  obtain rfl := Option.some.inj h
  exact ⟨hsnapshot, hdetector⟩

end

end UyuniAgent.Investigation
