import UyuniAgent.Salt.Client

/-!
# The inspections of the Salt client

The methods of `SaltAPIClient` that investigations use.  A command is known by
its builder and arguments instead of its text; the methods that put an argument
into a command validate it first, before anything is sent.
-/

namespace UyuniAgent.Salt

open Raising

/-! ## Validation of arguments -/

def isUnitChar (c : Char) : Bool :=
  ('A' ≤ c && c ≤ 'Z') || ('a' ≤ c && c ≤ 'z') || ('0' ≤ c && c ≤ '9') ||
    c ∈ ['_', '.', '@', ':', '-']

/-- The unit name after normalization, if it is valid. -/
def systemdService? (service : String) : Option String :=
  if service ≠ "" ∧ service.toList.all isUnitChar then
    let normalized :=
      if PyText.endsWith service ".service" then service
      else service ++ ".service"
    if normalized = ".service" then none else some normalized
  else none

def validateSystemdService (py : Interpreter) (service : String) :
    Except SaltException String :=
  match systemdService? service with
  | some normalized => .ok normalized
  | none =>
      .error (.valueError ("Invalid systemd service name: " ++
        py.repr (.str service)))

def isPathChar (c : Char) : Bool :=
  ('A' ≤ c && c ≤ 'Z') || ('a' ≤ c && c ≤ 'z') || ('0' ≤ c && c ≤ '9') ||
    c ∈ ['_', '.', '/', '@', ':', '+', ' ', '=', ',', '-']

/-- `path.split("/")`. -/
def pathParts (path : String) : List String :=
  (path.toList.splitOn '/').map String.ofList

def isValidPath (path : String) : Bool :=
  PyText.startsWith path "/" && path.length ≤ 512 &&
    path.toList.all isPathChar && ".." ∉ pathParts path

/-- `posixpath.normpath` of an absolute path without `..`; exactly two leading
slashes are kept. -/
def normpath (path : String) : String :=
  let parts := (pathParts path).filter fun part => part ≠ "" ∧ part ≠ "."
  let root :=
    if PyText.startsWith path "//" && !PyText.startsWith path "///" then "//"
    else "/"
  root ++ "/".intercalate parts

def validateAbsolutePath (path : String) : Except SaltException String :=
  if isValidPath path then .ok (normpath path)
  else .error (.valueError "path must be a valid absolute path")

/-- `bounded_int` of an integer. -/
def boundedInt (name : String) (minimum maximum value : ℤ) :
    Except SaltException ℤ :=
  if minimum ≤ value ∧ value ≤ maximum then .ok value
  else
    .error (.valueError (name ++ " must be between " ++ toString minimum ++
      " and " ++ toString maximum))

/-! ## Commands -/

inductive DependencyKind
  | ssh
  | tls
  | nfs
  deriving DecidableEq, Repr

def DependencyKind.value : DependencyKind → String
  | .ssh => "ssh"
  | .tls => "tls"
  | .nfs => "nfs"

/-- An entry of `dependency_correlation.edges`, without the endpoints that only
its commands use. -/
structure InspectionEdge where
  id : String
  kind : DependencyKind
  sourceMinion : String
  sourceService : String
  targetMinion : String
  deriving DecidableEq

inductive SaltCommand
  | diskUsage
  | largestFiles (path : String)
  | serviceReferences (path : String)
  | serviceDetails (service : String)
  | serviceLogs (service : String) (lines : ℤ)
  | memoryPressureSnapshot
  | cpuPressureSnapshot
  | apacheOverloadSnapshot
  | postgresBlockingActivity
  | postgresHealth
  | postgresConnectionActivity
  | listeningPorts
  | dependencySource (edge : String)
  | dependencyTarget (edge : String)
  deriving DecidableEq

/-- The command with its arguments validated. -/
def SaltCommand.build (py : Interpreter) :
    SaltCommand → Except SaltException SaltCommand
  | .largestFiles path => do
      return .largestFiles (← validateAbsolutePath path)
  | .serviceReferences path => do
      return .serviceReferences (← validateAbsolutePath path)
  | .serviceDetails service => do
      return .serviceDetails (← validateSystemdService py service)
  | .serviceLogs service lines => do
      return .serviceLogs (← validateSystemdService py service)
        (← boundedInt "lines" 1 200 lines)
  | command => .ok command

/-- One Salt function that is run on a minion. -/
structure SaltCall where
  minion : String
  command : SaltCommand
  deriving DecidableEq

/-! ## The client -/

/-- The client as an investigation meets it: its allowlist, the configured
dependencies by identifier, and what becomes of each call. -/
structure SaltClient where
  allowedMinions : List String
  dependencies : List InspectionEdge
  dependencies_nodup : (dependencies.map (·.id)).Nodup
  operation : SaltCall → Operation

namespace SaltClient

variable (py : Interpreter) (client : SaltClient)

/-- `_safe_call`. -/
def safeCall (call : SaltCall) : Except SaltException PyValue :=
  Salt.safeCall py client.allowedMinions call.minion (client.operation call)

/-- `run_command` with a command that is built here. -/
def run (minionId : String) (command : SaltCommand) :
    Except SaltException String := do
  let built ← command.build py
  runCommand py client.allowedMinions minionId
    (client.operation ⟨minionId, built⟩)

def diskUsage (minionId : String) : Except SaltException String := do
  let value ← client.safeCall py ⟨minionId, .diskUsage⟩
  return value.toStr py

def dependenciesForService (minionId service : String) :
    List InspectionEdge :=
  client.dependencies.filter fun edge =>
    edge.sourceMinion = minionId ∧ edge.sourceService = service

/-- `_dependency`. -/
def dependency (id : String) (kind : DependencyKind) :
    Except SaltException InspectionEdge :=
  match client.dependencies.find? (·.id = id) with
  | some edge =>
      if edge.kind ≠ kind then
        .error (.valueError (kind.value ++ " dependency " ++
          py.repr (.str id) ++ " is not configured"))
      else if edge.sourceMinion ∉ client.allowedMinions ∨
          edge.targetMinion ∉ client.allowedMinions then
        .error (.valueError ("dependency " ++ py.repr (.str id) ++
          " references a minion outside the current authenticated inventory"))
      else .ok edge
  | none =>
      .error (.valueError (kind.value ++ " dependency " ++
        py.repr (.str id) ++ " is not configured"))

/-- The text of a two-ended inspection.  Its separators are a backslash and the
letter n, as the source writes them. -/
def dependencyText (edge : InspectionEdge) (kind : DependencyKind)
    (source target : String) : String :=
  "DEPENDENCY id=" ++ edge.id ++ " kind=" ++ kind.value ++ " source=" ++
    edge.sourceMinion ++ " target=" ++ edge.targetMinion ++
    "\\n--- SOURCE ---\\n" ++ source ++ "\\n--- TARGET ---\\n" ++ target

def inspectDependency (id : String) (kind : DependencyKind) :
    Except SaltException String := do
  let edge ← client.dependency py id kind
  let source ← client.run py edge.sourceMinion (.dependencySource edge.id)
  let target ← client.run py edge.targetMinion (.dependencyTarget edge.id)
  return dependencyText edge kind source target

end SaltClient

/-! ## Failed calls -/

/-- The text that `_safe_call` puts before every exception it converts. -/
def callFailed : String := "Salt API call failed:"

/-- The Salt function returned nothing, or `_safe_call` produced a failure. -/
def IsFailure (value : PyValue) : Prop :=
  value = .bool false ∨ value = .none ∨
    ∃ text, value = .str text ∧ PyText.startsWith text callFailed = true

end UyuniAgent.Salt
