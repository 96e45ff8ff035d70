import UyuniAgent.Salt.Inspections
import UyuniAgent.Support.Shell

/-!
# The commands of diagnostics

Every command that carries an argument of the language model, of a host's
output or of the configuration, from the validation of its arguments to its
text.  A format string is a list of pieces, so that it can be read with values
or with holes in their places.
-/

namespace UyuniAgent.Salt

open Shell

/-! ## Validation -/

/-- What the construction of a command raises. -/
inductive ArgumentError
  | salt (exception : SaltException)
  | python (exception : PyException)
  | configuration (field text : String)
  deriving DecidableEq

def ArgumentError.value (text : String) : ArgumentError :=
  .salt (.valueError text)

/-- `int(value)` of `bounded_int`, which turns away truth values and numbers
with a fractional part. -/
def parsedInt (name : String) (value : PyValue) : Except ArgumentError ℤ :=
  let refused : Except ArgumentError ℤ :=
    .error (.value (name ++ " must be an integer"))
  match value with
  | .bool _ => refused
  | value =>
      match value.toInt with
      | .error .typeError => refused
      | .error .valueError => refused
      | .error e => .error (.python e)
      | .ok parsed =>
          match value with
          | .float (.finite q) => if q.den = 1 then .ok parsed else refused
          | _ => .ok parsed

/-- `bounded_int` of any value. -/
def boundedValue (name : String) (minimum maximum : ℤ) (value : PyValue) :
    Except ArgumentError ℤ := do
  let parsed ← parsedInt name value
  (boundedInt name minimum maximum parsed).mapError .salt

/-- `_HOST_LABEL`. -/
def isHostLabel (label : List Char) : Bool :=
  label.length ≤ 63 && label.head?.any Char.isAlphanum &&
    label.getLast?.any Char.isAlphanum &&
    label.all fun c => c.isAlphanum || c = '-'

/-- `validate_network_target`; `isIpAddress` stands for the addresses that
`ipaddress.ip_address` reads. -/
def validateNetworkTarget (isIpAddress : String → Bool) (target : String) :
    Except ArgumentError String :=
  let target := PyText.rstripChar '.' (PyText.strip target)
  if target ≠ "" ∧ target.length ≤ 253 ∧
      (isIpAddress target ∨ (target.toList.splitOn '.').all isHostLabel) then
    .ok target
  else .error (.value "target must be a hostname or IP address")

/-! ## Commands of one minion -/

section FormatStrings

variable {α : Type}

def serviceLogsText (service lines : α) : List (Piece α) :=
  [.literal "journalctl -u ", .raw service, .literal " -n ", .raw lines,
    .literal " --no-pager"]

def serviceProperties : String :=
  "Id,Description,LoadState,ActiveState,SubState,Result," ++
    "ExecMainCode,ExecMainStatus,NRestarts,Restart,FragmentPath,ExecStart"

def serviceDetailsText (service : α) : List (Piece α) :=
  [.literal "systemctl show ", .raw service, .literal " --no-pager ",
    .literal "--property=", .literal serviceProperties]

def largeFilesText (path minSize limit : α) : List (Piece α) :=
  [.literal "find ", .quoted path, .literal " -xdev -type f ",
    .literal "-size +", .raw minSize,
    .literal " -printf '%s\\t%p\\n' 2>/dev/null ",
    .literal "| sort -nr | head -n ", .raw limit,
    .literal " | numfmt --field=1 --to=iec"]

def serviceReferencesText (path : α) : List (Piece α) :=
  [.literal "grep -RFl -- ", .quoted path, .literal " ",
    .literal "/etc/systemd/system /usr/lib/systemd/system /lib/systemd/system ",
    .literal "2>/dev/null | head -20"]

def pingText (count target : α) : List (Piece α) :=
  [.literal "ping -c ", .raw count, .literal " -- ", .quoted target]

def processListText (sortField rows : α) : List (Piece α) :=
  [.literal "ps aux --sort=-", .raw sortField, .literal " | head -n ",
    .raw rows]

end FormatStrings

abbrev Command := List (Piece String)

def serviceLogs (py : Interpreter) (service : String) (lines : PyValue) :
    Except ArgumentError Command := do
  let service ← (validateSystemdService py service).mapError .salt
  let lines ← boundedValue "lines" 1 200 lines
  return serviceLogsText service (toString lines)

def serviceDetails (py : Interpreter) (service : String) :
    Except ArgumentError Command := do
  let service ← (validateSystemdService py service).mapError .salt
  return serviceDetailsText service

/-- `[1-9][0-9]*[KMGT]?`. -/
def isSizeText (text : String) : Bool :=
  match text.toList with
  | [] => false
  | first :: rest =>
      first.isDigit && first ≠ '0' &&
        [[], ['K'], ['M'], ['G'], ['T']].contains
          (rest.dropWhile Char.isDigit)

def buildLargeFilesCommand (py : Interpreter) (upper : String → String)
    (path : String) (minSize limit : PyValue) :
    Except ArgumentError Command := do
  let path ← (validateAbsolutePath path).mapError .salt
  let size := upper (minSize.toStr py)
  if isSizeText size then
    let limit ← limit.toInt.mapError .python
    return largeFilesText path size (toString (max 1 (min limit 50)))
  else .error (.value "min_size must look like 10M, 1G, or 500K")

def buildServiceReferencesCommand (path : String) :
    Except ArgumentError Command := do
  let path ← (validateAbsolutePath path).mapError .salt
  return serviceReferencesText path

def buildPingCommand (isIpAddress : String → Bool) (target : String)
    (count : PyValue) : Except ArgumentError Command := do
  let target ← validateNetworkTarget isIpAddress target
  let count ← boundedValue "count" 1 5 count
  return pingText (toString count) target

def buildProcessListCommand (sortField : String) (topN : PyValue) :
    Except ArgumentError Command :=
  if sortField ∈ ["%cpu", "%mem"] then do
    let topN ← boundedValue "top_n" 1 50 topN
    return processListText sortField (toString (topN + 1))
  else .error (.value "unsupported process sort field")

/-! ## Dependency edges -/

/-- The fields of an `InspectionDependencyEdge` that its commands use. -/
structure EdgeFields where
  kind : DependencyKind
  targetHost : String
  port : Option ℤ
  knownHostsFile : Option String
  hostPublicKeyFile : Option String
  expectedHostname : Option String
  caFile : Option String
  certificateFile : Option String
  sourceMount : Option String
  targetExport : Option String
  expectedUid : Option ℤ
  expectedGid : Option ℤ
  deriving DecidableEq

/-- `validate_absolute_path` of the schema. -/
def edgePath? (value : String) : Option String :=
  let value := PyText.strip value
  if PyText.startsWith value "/" ∧ ".." ∉ pathParts value ∧
      value.length ≤ 512 ∧ value.toList.all (32 ≤ ·.toNat) then
    some value
  else none

/-- `validate_hostname`. -/
def hostname? (value : String) : Option String :=
  let value := PyText.rstripChar '.' (PyText.strip value)
  if value.length ≤ 253 ∧ value.toList.head?.any Char.isAlphanum ∧
      value.toList.all (fun c => c.isAlphanum || c = '.' || c = '-') then
    some value
  else none

def checkText (check : String → Option String) (message field value : String) :
    Except ArgumentError String :=
  match check value with
  | some checked => .ok checked
  | none => .error (.configuration field message)

def checkPath : String → String → Except ArgumentError String :=
  checkText edgePath? "must be a bounded absolute POSIX path"

def checkHostname : String → String → Except ArgumentError String :=
  checkText hostname? "must be a hostname or IP address"

def checkRange (minimum maximum : ℤ) (field : String) (value : ℤ) :
    Except ArgumentError ℤ :=
  if value < minimum then
    .error (.configuration field
      ("Input should be greater than or equal to " ++ toString minimum))
  else if maximum < value then
    .error (.configuration field
      ("Input should be less than or equal to " ++ toString maximum))
  else .ok value

/-- A field that may be missing. -/
def optional {α : Type} (check : α → Except ArgumentError α) :
    Option α → Except ArgumentError (Option α)
  | none => .ok none
  | some value => some <$> check value

theorem optional_eq_ok {α : Type} {check : α → Except ArgumentError α}
    {value : Option α} {checked : α}
    (h : optional check value = .ok (some checked)) :
    ∃ given, check given = .ok checked := by
  cases value with
  | none => cases h
  | some given =>
      refine ⟨given, ?_⟩
      simp only [optional] at h
      cases hcheck : check given with
      | error e =>
          rw [hcheck] at h
          cases h
      | ok result =>
          rw [hcheck] at h
          obtain rfl := Option.some.inj (Except.ok.inj h)
          rfl

namespace EdgeFields

/-- The fields that a kind requires, and whether they are given. -/
def required (edge : EdgeFields) : List (String × Bool) :=
  match edge.kind with
  | .ssh =>
      [("port", edge.port.isSome),
        ("known_hosts_file", edge.knownHostsFile.isSome),
        ("host_public_key_file", edge.hostPublicKeyFile.isSome)]
  | .tls =>
      [("port", edge.port.isSome),
        ("expected_hostname", edge.expectedHostname.isSome),
        ("ca_file", edge.caFile.isSome),
        ("certificate_file", edge.certificateFile.isSome)]
  | .nfs =>
      [("source_mount", edge.sourceMount.isSome),
        ("target_export", edge.targetExport.isSome),
        ("expected_uid", edge.expectedUid.isSome),
        ("expected_gid", edge.expectedGid.isSome)]

def missing (edge : EdgeFields) : List String :=
  (edge.required.filter (!·.2)).map Prod.fst

/-- The validated fields, or the first error. -/
def validate (edge : EdgeFields) : Except ArgumentError EdgeFields := do
  let targetHost ← checkHostname "target_host" edge.targetHost
  let port ← optional (checkRange 1 65535 "port") edge.port
  let knownHostsFile ←
    optional (checkPath "known_hosts_file") edge.knownHostsFile
  let hostPublicKeyFile ←
    optional (checkPath "host_public_key_file") edge.hostPublicKeyFile
  let expectedHostname ←
    optional (checkHostname "expected_hostname") edge.expectedHostname
  let caFile ← optional (checkPath "ca_file") edge.caFile
  let certificateFile ←
    optional (checkPath "certificate_file") edge.certificateFile
  let sourceMount ← optional (checkPath "source_mount") edge.sourceMount
  let targetExport ← optional (checkPath "target_export") edge.targetExport
  let expectedUid ←
    optional (checkRange 0 (2 ^ 31 - 1) "expected_uid") edge.expectedUid
  let expectedGid ←
    optional (checkRange 0 (2 ^ 31 - 1) "expected_gid") edge.expectedGid
  if edge.missing = [] then
    return { edge with
      targetHost, port, knownHostsFile, hostPublicKeyFile, expectedHostname,
      caFile, certificateFile, sourceMount, targetExport, expectedUid,
      expectedGid }
  else
    .error (.configuration "" (edge.kind.value ++ " dependency requires: " ++
      ", ".intercalate edge.missing))

end EdgeFields

/-! ## Commands of dependency edges -/

section FormatStrings

variable {α : Type}

def sshSourceText (lookup knownHosts : α) : List (Piece α) :=
  [.literal "printf '%s\\n' 'CLIENT_PINNED_HOST_KEYS'; ",
    .literal "ssh-keygen -F ", .quoted lookup, .literal " -f ",
    .quoted knownHosts, .literal " 2>/dev/null ",
    .literal "| ssh-keygen -lf - -E sha256 2>&1 | head -n 10"]

def sshTargetText (publicKey : α) : List (Piece α) :=
  [.literal "printf '%s\\n' 'SERVER_PRESENTED_HOST_KEY'; ",
    .literal "ssh-keygen -lf ", .quoted publicKey,
    .literal " -E sha256 2>&1 | head -n 10"]

def tlsSourceText (endpoint hostname caFile : α) : List (Piece α) :=
  [.literal "printf '%s\\n' 'CLIENT_TLS_IDENTITY_VERIFICATION'; ",
    .literal "openssl s_client -connect ", .quoted endpoint,
    .literal " -servername ", .quoted hostname, .literal " ",
    .literal "-verify_hostname ", .quoted hostname,
    .literal " -verify_return_error -CAfile ", .quoted caFile, .literal " ",
    .literal "</dev/null 2>&1 | head -n 100"]

def tlsTargetText (certificate : α) : List (Piece α) :=
  [.literal "printf '%s\\n' 'SERVER_CERTIFICATE_IDENTITY'; ",
    .literal "openssl x509 -in ", .quoted certificate,
    .literal " -noout -subject -issuer -dates ",
    .literal "-ext subjectAltName -fingerprint -sha256 2>&1 | head -n 40"]

/-- What both ends of an NFS edge print of the expected owner. -/
def ownerText (uid gid : α) : List (Piece α) :=
  [.literal "printf 'expected_uid=", .raw uid, .literal " expected_gid=",
    .raw gid, .literal "\\n'; ", .literal "getent passwd ", .raw uid,
    .literal " 2>&1 | head -n 1; getent group ", .raw gid,
    .literal " 2>&1 | head -n 1"]

def nfsSourceText (mount uid gid : α) : List (Piece α) :=
  [.literal "printf '%s\\n' 'CLIENT_NFS_MOUNT'; ",
    .literal "findmnt --target ", .quoted mount, .literal " --noheadings ",
    .literal "--output SOURCE,TARGET,FSTYPE,OPTIONS 2>&1 | head -n 5; ",
    .literal "stat -c 'mount=%n uid=%u gid=%g mode=%a type=%F' ",
    .quoted mount, .literal " 2>&1; "] ++ ownerText uid gid

def nfsTargetText (directory uid gid : α) : List (Piece α) :=
  [.literal "printf '%s\\n' 'SERVER_NFS_EXPORT'; ",
    .literal "exportfs -v 2>&1 | head -n 80; ",
    .literal "stat -c 'export=%n uid=%u gid=%g mode=%a type=%F' ",
    .quoted directory, .literal " 2>&1; "] ++ ownerText uid gid

end FormatStrings

/-- `str(value)` of a field that may be missing. -/
def fieldText (value : Option String) : String := value.getD "None"

def numberText (value : Option ℤ) : String := (value.map toString).getD "None"

def buildSshSourceCommand (edge : EdgeFields) : Command :=
  let lookup :=
    if edge.port = some 22 then edge.targetHost
    else "[" ++ edge.targetHost ++ "]:" ++ numberText edge.port
  sshSourceText lookup (fieldText edge.knownHostsFile)

def buildSshTargetCommand (edge : EdgeFields) : Command :=
  sshTargetText (fieldText edge.hostPublicKeyFile)

def buildTlsSourceCommand (edge : EdgeFields) : Command :=
  let endpoint := edge.targetHost ++ ":" ++ numberText edge.port
  tlsSourceText endpoint (fieldText edge.expectedHostname)
    (fieldText edge.caFile)

def buildTlsTargetCommand (edge : EdgeFields) : Command :=
  tlsTargetText (fieldText edge.certificateFile)

def buildNfsSourceCommand (edge : EdgeFields) : Command :=
  nfsSourceText (fieldText edge.sourceMount) (numberText edge.expectedUid)
    (numberText edge.expectedGid)

def buildNfsTargetCommand (edge : EdgeFields) : Command :=
  nfsTargetText (fieldText edge.targetExport) (numberText edge.expectedUid)
    (numberText edge.expectedGid)

inductive EdgeEnd
  | source
  | target
  deriving DecidableEq, Repr

/-- `BUILDERS`. -/
def builders (kind : DependencyKind) : EdgeEnd → EdgeFields → Command
  | .source =>
      match kind with
      | .ssh => buildSshSourceCommand
      | .tls => buildTlsSourceCommand
      | .nfs => buildNfsSourceCommand
  | .target =>
      match kind with
      | .ssh => buildSshTargetCommand
      | .tls => buildTlsTargetCommand
      | .nfs => buildNfsTargetCommand

/-! ## Requests -/

/-- A command with arguments that are not fixed by the agent. -/
inductive Diagnostic
  | serviceLogs (service : String) (lines : PyValue)
  | serviceDetails (service : String)
  | largeFiles (path : String) (minSize limit : PyValue)
  | serviceReferences (path : String)
  | ping (target : String) (count : PyValue)
  | processList (sortField : String) (topN : PyValue)
  | dependency (edge : EdgeFields) (ending : EdgeEnd)

def Diagnostic.command (py : Interpreter) (upper : String → String)
    (isIpAddress : String → Bool) :
    Diagnostic → Except ArgumentError Command
  | .serviceLogs service lines => Salt.serviceLogs py service lines
  | .serviceDetails service => Salt.serviceDetails py service
  | .largeFiles path minSize limit =>
      buildLargeFilesCommand py upper path minSize limit
  | .serviceReferences path => buildServiceReferencesCommand path
  | .ping target count => buildPingCommand isIpAddress target count
  | .processList sortField topN => buildProcessListCommand sortField topN
  | .dependency edge ending => do
      let edge ← edge.validate
      return builders edge.kind ending edge

/-- The function that builds a command. -/
inductive Builder
  | serviceLogs
  | serviceDetails
  | largeFiles
  | serviceReferences
  | ping
  | processList
  | dependency (kind : DependencyKind) (ending : EdgeEnd)
  deriving DecidableEq

def Diagnostic.builder : Diagnostic → Builder
  | .serviceLogs _ _ => .serviceLogs
  | .serviceDetails _ => .serviceDetails
  | .largeFiles _ _ _ => .largeFiles
  | .serviceReferences _ => .serviceReferences
  | .ping _ _ => .ping
  | .processList _ _ => .processList
  | .dependency edge ending => .dependency edge.kind ending

namespace Builder

/-- The format string of the builder, with a hole for each argument. -/
def layout : Builder → List (Piece ℕ)
  | .serviceLogs => serviceLogsText 0 1
  | .serviceDetails => serviceDetailsText 0
  | .largeFiles => largeFilesText 0 1 2
  | .serviceReferences => serviceReferencesText 0
  | .ping => pingText 0 1
  | .processList => processListText 0 1
  | .dependency .ssh .source => sshSourceText 0 1
  | .dependency .ssh .target => sshTargetText 0
  | .dependency .tls .source => tlsSourceText 0 1 2
  | .dependency .tls .target => tlsTargetText 0
  | .dependency .nfs .source => nfsSourceText 0 1 2
  | .dependency .nfs .target => nfsTargetText 0 1 2

/-- The words and operators of its commands, with a hole for each argument. -/
def template (builder : Builder) : List Token :=
  (Shell.template builder.layout).getD []

end Builder

end UyuniAgent.Salt
