import UyuniAgent.Salt.CommandWords
import UyuniAgent.Salt.FixedCommands
import UyuniAgent.Support.ShellCommands

/-!
# The tools of the language model

`ALL_TOOLS` of `react_agent.py`: what each tool asks the Salt client to run for
the arguments that the model chose.  Whatever it asks for, and whatever it is
answered, minions only run the inspections of the agent: every command line
consists of listed commands, writes no file, and differs from its format string
in the words of its arguments alone.
-/

namespace UyuniAgent.Salt

open Raising Shell

/-! ## The tools -/

/-- A call of a tool, with the arguments that the model chose. -/
inductive ToolCall
  | getTopMemoryProcesses (minionId : String) (topN : PyValue)
  | getTopCpuProcesses (minionId : String) (topN : PyValue)
  | getMemoryPressureSnapshot (minionId : String)
  | getCpuPressureSnapshot (minionId : String)
  | getDiskUsage (minionId : String)
  | findLargeFiles (minionId path : String) (minSize limit : PyValue)
  | findServiceReferences (minionId path : String)
  | getServiceStatus (minionId service : String)
  | getServiceDetails (minionId service : String)
  | getServiceLogs (minionId service : String) (lines : PyValue)
  | checkConnectivity (minionId target : String)
  | getListeningPorts (minionId : String)
  | inspectSshDependency (dependencyId : String)
  | inspectTlsDependency (dependencyId : String)
  | inspectNfsDependency (dependencyId : String)
  | getApacheOverloadSnapshot (minionId : String)
  | getApacheStatus (minionId : String)
  | getApacheErrorLog (minionId : String) (lines : PyValue)
  | getApacheAccessLog (minionId : String) (lines : PyValue)
  | getApacheConfigCheck (minionId : String)
  | getPostgresActiveQueries (minionId : String)
  | getPostgresLocks (minionId : String)
  | getPostgresHealth (minionId : String)
  | getPostgresConnections (minionId : String)
  | getPostgresLog (minionId : String) (lines : PyValue)

/-- The function of a lowstate, with its arguments. -/
inductive SaltFunction
  | diskUsage
  | serviceStatus (service : String)
  | cmdRun (command : Command)
  deriving DecidableEq

structure Lowstate where
  tgt : String
  function : SaltFunction
  deriving DecidableEq

/-- An edge of the configuration, as the schema accepted it. -/
structure ConfiguredEdge where
  edge : InspectionEdge
  given : EdgeFields
  fields : EdgeFields
  validated : given.validate = .ok fields
  kind_eq : edge.kind = fields.kind

/-- What the tools take from the interpreter, the standard library and the
configuration. -/
structure Toolbox where
  py : Interpreter
  upper : String → String
  isIpAddress : String → Bool
  edges : List ConfiguredEdge
  edges_nodup : (edges.map (·.edge.id)).Nodup

namespace Toolbox

variable (box : Toolbox) (allowed : List String)

/-- `_dependency`. -/
def dependency (id : String) (kind : DependencyKind) :
    Except ArgumentError ConfiguredEdge :=
  let unknown : Except ArgumentError ConfiguredEdge :=
    .error (.value (kind.value ++ " dependency " ++ box.py.repr (.str id) ++
      " is not configured"))
  match box.edges.find? (·.edge.id = id) with
  | none => unknown
  | some edge =>
      if edge.edge.kind ≠ kind then unknown
      else if edge.edge.sourceMinion ∉ allowed ∨
          edge.edge.targetMinion ∉ allowed then
        .error (.value ("dependency " ++ box.py.repr (.str id) ++
          " references a minion outside the current authenticated inventory"))
      else .ok edge

/-- The commands of `inspect_dependency`. -/
def inspectDependency (id : String) (kind : DependencyKind) :
    Except ArgumentError (List Lowstate) := do
  let edge ← box.dependency allowed id kind
  return [⟨edge.edge.sourceMinion, .cmdRun (builders kind .source edge.fields)⟩,
    ⟨edge.edge.targetMinion, .cmdRun (builders kind .target edge.fields)⟩]

/-- A tool that runs one command on the minion it is given. -/
def command (minionId : String) (built : Except ArgumentError Command) :
    Except ArgumentError (List Lowstate) := do
  return [⟨minionId, .cmdRun (← built)⟩]

/-- A log of at most 200 lines. -/
def log (minionId : String) (lines : PyValue) (text : String → Command) :
    Except ArgumentError (List Lowstate) :=
  command minionId do
    let lines ← boundedValue "lines" 1 200 lines
    return text (toString lines)

/-- What a tool asks for, or the error that its arguments raise. -/
def lowstates : ToolCall → Except ArgumentError (List Lowstate)
  | .getTopMemoryProcesses minionId topN =>
      command minionId (buildProcessListCommand "%mem" topN)
  | .getTopCpuProcesses minionId topN =>
      command minionId (buildProcessListCommand "%cpu" topN)
  | .getMemoryPressureSnapshot minionId =>
      command minionId (.ok memoryPressureText)
  | .getCpuPressureSnapshot minionId => command minionId (.ok cpuPressureText)
  | .getDiskUsage minionId => .ok [⟨minionId, .diskUsage⟩]
  | .findLargeFiles minionId path minSize limit =>
      command minionId
        (buildLargeFilesCommand box.py box.upper path minSize limit)
  | .findServiceReferences minionId path =>
      command minionId (buildServiceReferencesCommand path)
  | .getServiceStatus minionId service => do
      let service ← (validateSystemdService box.py service).mapError .salt
      return [⟨minionId, .serviceStatus service⟩]
  | .getServiceDetails minionId service =>
      command minionId (serviceDetails box.py service)
  | .getServiceLogs minionId service lines =>
      command minionId (serviceLogs box.py service lines)
  | .checkConnectivity minionId target =>
      command minionId (buildPingCommand box.isIpAddress target (.int 3))
  | .getListeningPorts minionId => command minionId (.ok listeningPortsText)
  | .inspectSshDependency id => box.inspectDependency allowed id .ssh
  | .inspectTlsDependency id => box.inspectDependency allowed id .tls
  | .inspectNfsDependency id => box.inspectDependency allowed id .nfs
  | .getApacheOverloadSnapshot minionId =>
      command minionId (.ok (apacheOverloadText apacheOverloadScript))
  | .getApacheStatus minionId => command minionId (.ok apacheStatusText)
  | .getApacheErrorLog minionId lines => log minionId lines apacheErrorLogText
  | .getApacheAccessLog minionId lines =>
      log minionId lines apacheAccessLogText
  | .getApacheConfigCheck minionId =>
      command minionId (.ok apacheConfigCheckText)
  | .getPostgresActiveQueries minionId =>
      command minionId (.ok activeQueriesText)
  | .getPostgresLocks minionId =>
      command minionId (.ok (readOnlyPsqlText blockingActivitySql))
  | .getPostgresHealth minionId =>
      command minionId (.ok (readOnlyPsqlText healthSql))
  | .getPostgresConnections minionId =>
      command minionId (.ok (readOnlyPsqlText connectionActivitySql))
  | .getPostgresLog minionId lines => log minionId lines postgresLogText

/-- What a tool sends: `_call` turns away every target that is not allowed. -/
def sent (call : ToolCall) : List Lowstate :=
  match box.lowstates allowed call with
  | .error _ => []
  | .ok requests => requests.filter fun request => request.tgt ∈ allowed

end Toolbox

/-! ## What a command line may do -/

/-- The beginnings of the commands that inspections consist of. -/
def inspectors : List (List String) :=
  [["journalctl"], ["systemctl", "show"], ["find"], ["sort"], ["head"],
    ["numfmt"], ["grep"], ["ping", "-c"], ["ps"], ["printf"],
    ["ssh-keygen", "-F"], ["ssh-keygen", "-lf"], ["openssl", "s_client"],
    ["openssl", "x509"], ["findmnt"], ["stat"], ["getent", "passwd"],
    ["getent", "group"], ["exportfs", "-v"], ["tail", "-n"], ["ss"], ["cat"],
    ["true"], ["uptime"], ["nproc"], ["LC_ALL=C", "free"],
    ["LC_ALL=C", "vmstat"], ["LC_ALL=C", "ps"], ["apachectl", "-t"],
    ["apachectl", "-V"], ["echo"], ["timeout", "15s", "bash", "-c"],
    ["sudo", "-u", "postgres", "psql", "-c"],
    ["sudo", "-n", "-u", "postgres", "env",
      "PGOPTIONS=-c statement_timeout=5000 -c default_transaction_read_only=on",
      "psql"]]

/-- The redirections of inspections: errors go to the output or nowhere. -/
def harmlessRedirections : List (String × String) :=
  [(">", "/dev/null"), (">&", "1"), ("<", "/dev/null")]

/-- The format strings of the tools that have no patterns. -/
inductive Inspection
  | diagnostic (builder : Builder)
  | memoryPressure
  | cpuPressure
  | listeningPorts
  | apacheOverload
  | apacheErrorLog
  | apacheAccessLog
  | apacheConfigCheck
  | activeQueries
  | readOnlyPsql

namespace Inspection

def layout : Inspection → List (Piece ℕ)
  | .diagnostic builder => builder.layout
  | .memoryPressure => memoryPressureText
  | .cpuPressure => cpuPressureText
  | .listeningPorts => listeningPortsText
  | .apacheOverload => apacheOverloadText 0
  | .apacheErrorLog => apacheErrorLogText 0
  | .apacheAccessLog => apacheAccessLogText 0
  | .apacheConfigCheck => apacheConfigCheckText
  | .activeQueries => activeQueriesText
  | .readOnlyPsql => readOnlyPsqlText 0

/-- The words and operators of its command lines, with holes. -/
def template (inspection : Inspection) : List Token :=
  (Shell.template inspection.layout).getD []

/-- The texts that its shell or its database may be given to run. -/
def scripts : Inspection → Option (List String)
  | .apacheOverload => some [apacheOverloadScript]
  | .readOnlyPsql => some [blockingActivitySql, healthSql, connectionActivitySql]
  | _ => none

/-- The arguments that a program reads as operands. -/
def operands : Inspection → List ℕ
  | .diagnostic builder => builder.operands
  | .apacheOverload | .apacheErrorLog | .apacheAccessLog => [0]
  | _ => []

/-- The values leave the command line an inspection: what stands bare is plain,
a shell or a database runs nothing but a text of the agent, and only the unit
of `systemctl show` may be read as an option. -/
structure Permits (inspection : Inspection) (values : ℕ → String) : Prop where
  raw : ∀ index ∈ rawHoles inspection.layout, IsPlainText (values index)
  script : ∀ texts, inspection.scripts = some texts → values 0 ∈ texts
  operand : inspection ≠ .diagnostic .serviceDetails →
    OperandsGuarded optionTable values inspection.template

/-- Every format string has words and operators, and consists of listed
commands. -/
theorem template_checked (inspection : Inspection) :
    (Shell.template inspection.layout).any (fun tokens => decide
      ((∀ command ∈ commands tokens,
          command.Within inspectors harmlessRedirections) ∧
        openOperands optionTable tokens =
          inspection.operands.map fun index => [.hole index])) = true := by
  cases inspection with
  | diagnostic builder =>
      cases builder with
      | dependency kind ending =>
          cases kind
          all_goals
            cases ending
            all_goals decide +kernel
      | serviceLogs => decide +kernel
      | serviceDetails => decide +kernel
      | largeFiles => decide +kernel
      | serviceReferences => decide +kernel
      | ping => decide +kernel
      | processList => decide +kernel
  | memoryPressure => decide +kernel
  | cpuPressure => decide +kernel
  | listeningPorts => decide +kernel
  | apacheOverload => decide +kernel
  | apacheErrorLog => decide +kernel
  | apacheAccessLog => decide +kernel
  | apacheConfigCheck => decide +kernel
  | activeQueries => decide +kernel
  | readOnlyPsql => decide +kernel

theorem template_eq (inspection : Inspection) :
    Shell.template inspection.layout = some inspection.template := by
  obtain ⟨tokens, htokens, -⟩ :=
    Option.any_eq_true _ _ |>.mp inspection.template_checked
  rw [template, htokens, Option.getD_some]

theorem template_spec (inspection : Inspection) :
    (∀ command ∈ commands inspection.template,
        command.Within inspectors harmlessRedirections) ∧
      openOperands optionTable inspection.template =
        inspection.operands.map fun index => [.hole index] := by
  have hchecked := inspection.template_checked
  rwa [inspection.template_eq, Option.any_some, decide_eq_true_eq] at hchecked

theorem operandsGuarded_of_noHyphen {inspection : Inspection}
    {values : ℕ → String}
    (h : ∀ index ∈ inspection.operands, NoHyphen (values index)) :
    OperandsGuarded optionTable values inspection.template := by
  rw [Shell.operandsGuarded_iff, inspection.template_spec.2,
    List.forall_mem_map]
  intro index hindex
  simpa [fillWord, Symbol.fill, NoHyphen] using h index hindex

/-- The command is an instance of the format string, with permitted values. -/
structure Fits (inspection : Inspection) (command : Command)
    (values : ℕ → String) : Prop where
  layout : command = inspection.layout.map (Piece.map values)
  permits : inspection.Permits values

/-- The words and operators of an instance are those of the format string, and
its commands are listed ones. -/
theorem Fits.commands {inspection : Inspection} {command : Command}
    {values : ℕ → String} (h : inspection.Fits command values) :
    split (render command) =
        some (inspection.template.map (Token.fill values)) ∧
      ∀ simple ∈ commands (inspection.template.map (Token.fill values)),
        simple.Within inspectors harmlessRedirections := by
  refine ⟨?_, within_of_template inspection.template_spec.1⟩
  rw [h.layout]
  exact split_render h.permits.raw inspection.template_eq

end Inspection

/-- The command lines with patterns, which stand in no argument. -/
def patternCommands : List Command :=
  apacheStatusText ::
    (List.range 200).map fun (n : ℕ) =>
      postgresLogText (toString ((n : ℤ) + 1))

/-- What a Salt function does on a minion: it asks for the disk usage or for
the status of a unit, or runs an instance of an inspection, in which the
permitted arguments stay inside their own words. -/
def SaltFunction.Inspects : SaltFunction → Prop
  | .diskUsage => True
  | .serviceStatus service => IsPlainText service
  | .cmdRun command =>
      command ∈ patternCommands ∨ ∃ (inspection : Inspection)
        (values : ℕ → String), inspection.Permits values ∧
        split (render command) =
            some (inspection.template.map (Token.fill values)) ∧
          ∀ simple ∈ commands (inspection.template.map (Token.fill values)),
            simple.Within inspectors harmlessRedirections

/-! ## Every tool -/

namespace Toolbox

variable {box : Toolbox} {allowed : List String} {minionId : String}
  {requests : List Lowstate}

theorem inspects_of_fits {inspection : Inspection} {command : Command}
    {values : ℕ → String} (h : inspection.Fits command values) :
    (SaltFunction.cmdRun command).Inspects :=
  Or.inr ⟨inspection, values, h.permits, h.commands⟩

/-- The arguments that a validator accepted are permitted. -/
theorem permits_of_fits {builder : Builder} {command : Command}
    {values : ℕ → String} (h : Fits builder command values)
    (hoperands : builder ≠ .serviceDetails →
      ∀ index ∈ builder.operands, NoHyphen (values index)) :
    (Inspection.diagnostic builder).Permits values where
  raw := h.raw
  script := fun _ htexts => by cases htexts
  operand := fun hne => Inspection.operandsGuarded_of_noHyphen
    (hoperands fun hbuilder => hne (congrArg _ hbuilder))

theorem unitGuarded_of_builder_ne {request : Diagnostic}
    (h : request.builder ≠ .serviceDetails) : UnitGuarded request := by
  cases request with
  | serviceDetails service => exact absurd rfl h
  | _ => trivial

theorem inspects_of_diagnostic (box : Toolbox) (request : Diagnostic)
    {command : Command}
    (h : request.command box.py box.upper box.isIpAddress = .ok command) :
    (SaltFunction.cmdRun command).Inspects := by
  obtain ⟨values, hfits, hoperands⟩ := command_fits h
  have hinspection :
      (Inspection.diagnostic request.builder).Fits command values :=
    ⟨hfits.layout, permits_of_fits hfits fun hne =>
      hoperands.mpr (unitGuarded_of_builder_ne hne)⟩
  exact inspects_of_fits hinspection

theorem command_eq_ok {built : Except ArgumentError Command}
    (h : command minionId built = .ok requests) :
    ∃ line, built = .ok line ∧ requests = [⟨minionId, .cmdRun line⟩] := by
  obtain ⟨line, hline, h⟩ := bind_eq_ok_iff.mp h
  exact ⟨line, hline, (Except.ok.inj h).symm⟩

theorem log_eq_ok {lines : PyValue} {text : String → Command}
    (h : log minionId lines text = .ok requests) :
    ∃ n : ℤ, 1 ≤ n ∧ n ≤ 200 ∧
      requests = [⟨minionId, .cmdRun (text (toString n))⟩] := by
  obtain ⟨line, hline, rfl⟩ := command_eq_ok h
  obtain ⟨n, hn, hline⟩ := bind_eq_ok_iff.mp hline
  obtain rfl := Except.ok.inj hline
  obtain ⟨hmin, hmax⟩ := boundedValue_bounds hn
  exact ⟨n, hmin, hmax, rfl⟩

/-- The commands of a dependency edge come from the fields that the schema
accepted. -/
theorem inspects_of_dependency {id : String} {kind : DependencyKind}
    (h : box.inspectDependency allowed id kind = .ok requests) :
    ∀ request ∈ requests, request.function.Inspects := by
  obtain ⟨edge, -, h⟩ := bind_eq_ok_iff.mp h
  obtain rfl := Except.ok.inj h
  have hends : ∀ ending,
      (SaltFunction.cmdRun (builders kind ending edge.fields)).Inspects := by
    intro ending
    obtain ⟨-, hvalid⟩ := EdgeFields.validate_eq_ok edge.validated
    obtain ⟨values, hfits, hoperands⟩ := builders_fits hvalid kind ending
    have hinspection : (Inspection.diagnostic (.dependency kind ending)).Fits
        (builders kind ending edge.fields) values :=
      ⟨hfits.layout, permits_of_fits hfits fun _ => hoperands⟩
    exact inspects_of_fits hinspection
  exact List.forall_mem_cons.mpr
    ⟨hends .source, List.forall_mem_singleton.mpr (hends .target)⟩

theorem inspects_of_command {built : Except ArgumentError Command}
    (h : command minionId built = .ok requests)
    (hbuilt : ∀ line, built = .ok line →
      (SaltFunction.cmdRun line).Inspects) :
    ∀ request ∈ requests, request.function.Inspects := by
  obtain ⟨line, hline, rfl⟩ := command_eq_ok h
  exact List.forall_mem_singleton.mpr (hbuilt line hline)

/-- A tool whose command line is fixed, but for one text of the agent that is
passed as a quoted word. -/
theorem inspects_of_text {line : Command} (inspection : Inspection)
    (text : String) (h : command minionId (.ok line) = .ok requests)
    (hlayout : line = inspection.layout.map (Piece.map fun _ => text))
    (hraw : rawHoles inspection.layout = [])
    (hscript : ∀ texts, inspection.scripts = some texts → text ∈ texts)
    (hoperand : ∀ index ∈ inspection.operands, NoHyphen text) :
    ∀ request ∈ requests, request.function.Inspects := by
  refine inspects_of_command h fun line' hline => ?_
  obtain rfl := Except.ok.inj hline
  have hfits : inspection.Fits line fun _ => text := by
    refine ⟨hlayout, ?_, hscript, fun _ => ?_⟩
    · rw [hraw]
      exact List.forall_mem_nil _
    · exact Inspection.operandsGuarded_of_noHyphen hoperand
  exact inspects_of_fits hfits

theorem inspects_of_readOnlyPsql {sql : String}
    (h : command minionId (.ok (readOnlyPsqlText sql)) = .ok requests)
    (hsql : sql ∈ [blockingActivitySql, healthSql, connectionActivitySql]) :
    ∀ request ∈ requests, request.function.Inspects := by
  refine inspects_of_text .readOnlyPsql sql h rfl rfl ?_ (List.forall_mem_nil _)
  rintro texts ⟨rfl⟩
  exact hsql

theorem apacheOverloadScript_noHyphen : NoHyphen apacheOverloadScript := by
  rw [NoHyphen, apacheOverloadScript, String.intercalate_cons_cons,
    String.append_assoc, String.toList_append,
    List.head?_append_of_ne_nil _ (by decide)]
  decide

theorem inspects_of_log {lines : PyValue} {text : String → Command}
    (inspection : Inspection)
    (h : log minionId lines text = .ok requests)
    (hlayout : ∀ count,
      text count = inspection.layout.map (Piece.map fun _ => count))
    (hscript : inspection.scripts = none) :
    ∀ request ∈ requests, request.function.Inspects := by
  obtain ⟨n, hmin, -, rfl⟩ := log_eq_ok h
  obtain ⟨hplain, hoperand⟩ :=
    isPlainText_toString (le_trans Int.one_nonneg hmin)
  have hfits : inspection.Fits (text (toString n)) fun _ => toString n := by
    refine ⟨hlayout (toString n), fun _ _ => hplain, ?_, fun _ => ?_⟩
    · rw [hscript]
      exact fun _ htexts => by cases htexts
    · exact Inspection.operandsGuarded_of_noHyphen fun _ _ => hoperand
  exact List.forall_mem_singleton.mpr (inspects_of_fits hfits)

theorem inspects_of_postgresLog {lines : PyValue}
    (h : log minionId lines postgresLogText = .ok requests) :
    ∀ request ∈ requests, request.function.Inspects := by
  obtain ⟨n, hmin, hmax, rfl⟩ := log_eq_ok h
  refine List.forall_mem_singleton.mpr (Or.inl ?_)
  refine List.mem_cons_of_mem _ (List.mem_map.mpr ⟨(n - 1).toNat, ?_, ?_⟩)
  · rw [List.mem_range]
    omega
  · rw [Int.toNat_of_nonneg (by omega), sub_add_cancel]

/-- Whatever arguments the model chose, a tool asks for inspections alone. -/
theorem inspects_of_lowstates {call : ToolCall}
    (h : box.lowstates allowed call = .ok requests) :
    ∀ request ∈ requests, request.function.Inspects := by
  cases call with
  | getTopMemoryProcesses minionId topN =>
      exact inspects_of_command h fun _ hline =>
        inspects_of_diagnostic box (.processList "%mem" topN) hline
  | getTopCpuProcesses minionId topN =>
      exact inspects_of_command h fun _ hline =>
        inspects_of_diagnostic box (.processList "%cpu" topN) hline
  | getMemoryPressureSnapshot minionId =>
      exact inspects_of_text .memoryPressure "" h rfl rfl
        (fun _ htexts => by cases htexts) (List.forall_mem_nil _)
  | getCpuPressureSnapshot minionId =>
      exact inspects_of_text .cpuPressure "" h rfl rfl
        (fun _ htexts => by cases htexts) (List.forall_mem_nil _)
  | getDiskUsage minionId =>
      obtain rfl := Except.ok.inj h
      exact List.forall_mem_singleton.mpr trivial
  | findLargeFiles minionId path minSize limit =>
      exact inspects_of_command h fun _ hline =>
        inspects_of_diagnostic box (.largeFiles path minSize limit) hline
  | findServiceReferences minionId path =>
      exact inspects_of_command h fun _ hline =>
        inspects_of_diagnostic box (.serviceReferences path) hline
  | getServiceStatus minionId service =>
      obtain ⟨unit, hunit, h⟩ := bind_eq_ok_iff.mp h
      obtain rfl := Except.ok.inj h
      refine List.forall_mem_singleton.mpr ?_
      exact (systemdService_plain
        (validateSystemdService_eq_ok (mapError_eq_ok_iff.mp hunit))).1
  | getServiceDetails minionId service =>
      exact inspects_of_command h fun _ hline =>
        inspects_of_diagnostic box (.serviceDetails service) hline
  | getServiceLogs minionId service lines =>
      exact inspects_of_command h fun _ hline =>
        inspects_of_diagnostic box (.serviceLogs service lines) hline
  | checkConnectivity minionId target =>
      exact inspects_of_command h fun _ hline =>
        inspects_of_diagnostic box (.ping target (.int 3)) hline
  | getListeningPorts minionId =>
      exact inspects_of_text .listeningPorts "" h rfl rfl
        (fun _ htexts => by cases htexts) (List.forall_mem_nil _)
  | inspectSshDependency id => exact inspects_of_dependency h
  | inspectTlsDependency id => exact inspects_of_dependency h
  | inspectNfsDependency id => exact inspects_of_dependency h
  | getApacheOverloadSnapshot minionId =>
      refine inspects_of_text .apacheOverload apacheOverloadScript h rfl rfl ?_
        (List.forall_mem_singleton.mpr apacheOverloadScript_noHyphen)
      rintro texts ⟨rfl⟩
      exact List.mem_singleton_self _
  | getApacheStatus minionId =>
      refine inspects_of_command h fun line hline => Or.inl ?_
      obtain rfl := Except.ok.inj hline
      exact List.mem_cons_self
  | getApacheErrorLog minionId lines =>
      exact inspects_of_log .apacheErrorLog h (fun _ => rfl) rfl
  | getApacheAccessLog minionId lines =>
      exact inspects_of_log .apacheAccessLog h (fun _ => rfl) rfl
  | getApacheConfigCheck minionId =>
      exact inspects_of_text .apacheConfigCheck "" h rfl rfl
        (fun _ htexts => by cases htexts) (List.forall_mem_nil _)
  | getPostgresActiveQueries minionId =>
      exact inspects_of_text .activeQueries "" h rfl rfl
        (fun _ htexts => by cases htexts) (List.forall_mem_nil _)
  | getPostgresLocks minionId =>
      exact inspects_of_readOnlyPsql h List.mem_cons_self
  | getPostgresHealth minionId =>
      exact inspects_of_readOnlyPsql h
        (List.mem_cons_of_mem _ List.mem_cons_self)
  | getPostgresConnections minionId =>
      exact inspects_of_readOnlyPsql h
        (List.mem_cons_of_mem _ (List.mem_cons_of_mem _ List.mem_cons_self))
  | getPostgresLog minionId lines => exact inspects_of_postgresLog h

theorem inspects_of_sent {call : ToolCall} {request : Lowstate}
    (h : request ∈ box.sent allowed call) :
    request.tgt ∈ allowed ∧ request.function.Inspects := by
  unfold sent at h
  split at h
  · cases h
  next requests hrequests =>
    obtain ⟨hmem, hallowed⟩ := List.mem_filter.mp h
    exact ⟨of_decide_eq_true hallowed,
      inspects_of_lowstates hrequests request hmem⟩

end Toolbox

/-! ## Investigations -/

/-- A turn of the model: the call it made, what the tool sent, and what the
model was told. -/
structure Turn where
  call : ToolCall
  requests : List Lowstate
  answer : Except ArgumentError (List String)

/-- The turns of `agent.ainvoke`: the model chooses each call from what was said
before, and between the turns the allowlist may be replaced. -/
def react (box : Toolbox) (allowed : ℕ → List String)
    (salt : List Turn → Lowstate → String)
    (model : List Turn → Option ToolCall) : ℕ → List Turn → List Turn
  | 0, turns => turns
  | limit + 1, turns =>
      match model turns with
      | none => turns
      | some call =>
          let answer := (box.lowstates (allowed turns.length) call).map
            fun requests => requests.map (salt turns)
          react box allowed salt model limit
            (turns ++ [⟨call, box.sent (allowed turns.length) call, answer⟩])

/-- Whatever the model is and is told, its tools reach allowed minions only,
and run nothing there but inspections of the agent. -/
theorem model_only_inspects (box : Toolbox) (allowed : ℕ → List String)
    (salt : List Turn → Lowstate → String)
    (model : List Turn → Option ToolCall) (limit : ℕ) :
    ∀ i turn, (react box allowed salt model limit [])[i]? = some turn →
      ∀ request ∈ turn.requests,
        request.tgt ∈ allowed i ∧ request.function.Inspects := by
  have hreact : ∀ limit turns,
      (∀ (i : ℕ) (turn : Turn), turns[i]? = some turn →
        ∀ request ∈ turn.requests,
          request.tgt ∈ allowed i ∧ request.function.Inspects) →
      ∀ (i : ℕ) (turn : Turn),
        (react box allowed salt model limit turns)[i]? = some turn →
        ∀ request ∈ turn.requests,
          request.tgt ∈ allowed i ∧ request.function.Inspects := by
    intro limit
    induction limit with
    | zero => exact fun turns hturns => hturns
    | succ limit ih =>
        intro turns hturns
        rw [react]
        split
        · exact hturns
        next call _ =>
          refine ih _ fun i turn hturn => ?_
          rw [List.getElem?_append] at hturn
          split at hturn
          · exact hturns i turn hturn
          next hlength =>
            obtain ⟨hi, rfl⟩ := List.getElem?_eq_some_iff.mp hturn
            have hlast : i = turns.length := by
              simp only [List.length_singleton] at hi
              omega
            subst hlast
            simp only [Nat.sub_self, List.getElem_cons_zero]
            intro request hrequest
            exact Toolbox.inspects_of_sent hrequest
  exact hreact limit [] (by simp)

/-- A toolbox without configured dependencies. -/
def Toolbox.plain : Toolbox where
  py := ⟨1000, fun _ => ""⟩
  upper := id
  isIpAddress := fun _ => false
  edges := []
  edges_nodup := List.nodup_nil

/-- A model that asks for one unit's log over and over. -/
def insistentModel (_ : List Turn) : Option ToolCall :=
  some (.getServiceLogs "web" "apache2" (.int 50))

theorem model_only_inspects_insistent :
    ∃ request, (react .plain (fun _ => ["web"]) (fun _ _ => "") insistentModel
        2 []).map (·.requests) = [[request], [request]] ∧
      request.tgt ∈ ["web"] ∧ request.function.Inspects := by
  refine ⟨⟨"web", .cmdRun (serviceLogsText "apache2.service" "50")⟩,
    by decide +kernel, ?_⟩
  have hturn : (react .plain (fun _ => ["web"]) (fun _ _ => "")
      insistentModel 2 [])[1]? = some
        ⟨.getServiceLogs "web" "apache2" (.int 50),
        [⟨"web", .cmdRun (serviceLogsText "apache2.service" "50")⟩],
        .ok [""]⟩ := by
    rfl
  exact model_only_inspects .plain (fun _ => ["web"]) (fun _ _ => "")
    insistentModel 2 1 _ hturn _ (List.mem_singleton_self _)

end UyuniAgent.Salt
