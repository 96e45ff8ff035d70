import UyuniAgent.Detector.Prometheus
import UyuniAgent.Investigation.Collectors

/-!
# The prompt of an anomaly

`get_prompt_for_anomaly`: the template for the metric, filled with what the
anomaly carries.  A template is known by its name and its replacement fields; a
prompt by its template and the values that replace them.
-/

namespace UyuniAgent.Investigation

open Raising

/-! ## Templates -/

inductive Template
  | apacheOverload
  | diskFull
  | highCpu
  | highRam
  | postgresApacheChain
  | postgresBlockedTransaction
  | postgresConnectionExhaustion
  | postgresIssues
  | serviceDown
  deriving DecidableEq

/-- The replacement fields of the files under `prompts/`. -/
def Template.fields : Template → List String
  | .apacheOverload =>
      ["minion_id", "metric_name", "current_value", "threshold", "severity",
        "metrics"]
  | .diskFull =>
      ["minion_id", "instance", "mountpoint", "device", "current_value",
        "threshold", "severity", "related_services", "metrics"]
  | .highCpu =>
      ["minion_id", "instance", "current_value", "threshold", "severity",
        "metrics"]
  | .highRam =>
      ["minion_id", "instance", "current_value", "threshold", "severity",
        "memory_available_bytes", "memory_total_bytes", "swap_used_bytes",
        "swap_total_bytes", "swap_usage_percent", "swap_in_pages_per_second",
        "swap_out_pages_per_second", "system_cpu_percent",
        "iowait_cpu_percent", "cpu_usage_percent", "metrics"]
  | .postgresApacheChain =>
      ["apache_minion_id", "postgres_minion_id", "metric_name",
        "current_value", "threshold", "severity", "metrics"]
  | .postgresBlockedTransaction =>
      ["minion_id", "database", "blocked_pids", "blocker_pids",
        "current_value", "threshold", "severity", "metrics"]
  | .postgresConnectionExhaustion =>
      ["minion_id", "metric_name", "current_value", "threshold", "severity",
        "metrics"]
  | .postgresIssues =>
      ["minion_id", "metric_name", "current_value", "threshold", "severity",
        "metrics"]
  | .serviceDown =>
      ["minion_id", "instance", "service_name", "severity", "metrics"]

/-- `template_map`. -/
def templateMap : List (String × Template) :=
  [("memory", .highRam), ("memory_pressure", .highRam), ("cpu", .highCpu),
    ("disk", .diskFull), ("apache_busy_workers", .apacheOverload),
    ("apache_requests", .apacheOverload),
    ("postgres_connections", .postgresConnectionExhaustion),
    ("postgres_deadlocks", .postgresIssues),
    ("postgres_blocked_transaction", .postgresBlockedTransaction),
    ("postgres_apache_chain", .postgresApacheChain),
    ("service_down", .serviceDown)]

/-- A keyword argument of `template.format`: a text, or `str(metrics)`. -/
inductive PromptArgument
  | text (value : String)
  | metrics (value : Metrics)

structure Prompt where
  template : Template
  arguments : List (String × PromptArgument)

def promptArgument (arguments : List (String × PromptArgument))
    (field : String) : Except PyException (String × PromptArgument) :=
  match arguments.lookup field with
  | some value => .ok (field, value)
  | none => .error .keyError

def loadPrompt (template : Template)
    (arguments : List (String × PromptArgument)) :
    Except PyException Prompt := do
  return ⟨template, ← template.fields.mapM (promptArgument arguments)⟩

theorem promptArgument_returns_iff
    {arguments : List (String × PromptArgument)} {field : String} :
    Returns (promptArgument arguments field) ↔
      field ∈ arguments.map (·.1) := by
  rw [promptArgument]
  split
  next value hvalue =>
    obtain ⟨before, after, heq, -⟩ := List.lookup_eq_some_iff.mp hvalue
    exact iff_of_true (returns_ok _) (by simp [heq])
  next hnone =>
    refine iff_of_false (not_returns_error _) ?_
    intro hfield
    obtain ⟨argument, hargument, rfl⟩ := List.mem_map.mp hfield
    have hne := List.lookup_eq_none_iff.mp hnone argument hargument
    simp at hne

/-- A template can be filled when every field of it is given. -/
theorem loadPrompt_returns_iff {template : Template}
    {arguments : List (String × PromptArgument)} :
    Returns (loadPrompt template arguments) ↔
      ∀ field ∈ template.fields, field ∈ arguments.map (·.1) := by
  have hfields : Returns (loadPrompt template arguments) ↔
      Returns (template.fields.mapM (promptArgument arguments)) := by
    rw [loadPrompt, returns_bind_iff]
    constructor
    · rintro ⟨filled, hfilled, -⟩
      exact ⟨filled, hfilled⟩
    · rintro ⟨filled, hfilled⟩
      exact ⟨filled, hfilled, returns_ok _⟩
  rw [hfields, returns_mapM_iff]
  simp only [promptArgument_returns_iff]

/-! ## `get_prompt_for_anomaly` -/

/-- `f"{value:.1f}"` with a number of digits; `None` has no such format. -/
def formatNumber (digits : ℕ) : Option ℚ → Except PyException String
  | some value => .ok (Decimal.fixed digits value)
  | none => .error .typeError

/-- What the memory prompt reads from the context, with the digits it shows. -/
def pressureFields : List (String × ℕ × (MemoryPressure → Option ℚ)) :=
  [("memory_available_bytes", 0, (·.memoryAvailableBytes)),
    ("memory_total_bytes", 0, (·.memoryTotalBytes)),
    ("swap_used_bytes", 0, (·.swapUsedBytes)),
    ("swap_total_bytes", 0, (·.swapTotalBytes)),
    ("swap_usage_percent", 1, (·.swapUsagePercent)),
    ("swap_in_pages_per_second", 1, (·.swapInPagesPerSecond)),
    ("swap_out_pages_per_second", 1, (·.swapOutPagesPerSecond)),
    ("system_cpu_percent", 1, (·.systemCpuPercent)),
    ("iowait_cpu_percent", 1, (·.iowaitCpuPercent))]

/-- `context.get(key, 0)` for a memory value. -/
def contextPressure (context : AnomalyContext)
    (read : MemoryPressure → Option ℚ) : Option ℚ :=
  match context with
  | .memory memory _ _ => read memory
  | _ => some 0

/-- `context.get("cpu_usage_percent", metrics.get("cpu_percent", 0))`. -/
def contextCpu (context : AnomalyContext) (metrics : Metrics) : Option ℚ :=
  match context with
  | .memory _ _ cpuUsagePercent => cpuUsagePercent
  | .cpu cpuUsagePercent _ => some cpuUsagePercent
  | _ => metrics.cpuPercent

def pressureArgument (context : AnomalyContext)
    (field : String × ℕ × (MemoryPressure → Option ℚ)) :
    Except PyException (String × PromptArgument) := do
  return (field.1,
    .text (← formatNumber field.2.1 (contextPressure context field.2.2)))

/-- `", ".join(str(pid) for pid in pids) or "unknown"`. -/
def pidList (pids : List ℤ) : String :=
  orText (", ".intercalate (pids.map toString)) "unknown"

def deviceOf (context : AnomalyContext) : String :=
  match context with
  | .filesystem filesystem _ => filesystem.device
  | _ => "unknown"

def getPromptForAnomaly (anomaly : Anomaly) (metrics : Metrics) :
    Except PyException Prompt :=
  let template := (templateMap.lookup anomaly.metricName).getD .highRam
  let identity : List (String × PromptArgument) :=
    [("minion_id", .text anomaly.minionId),
      ("instance", .text anomaly.minionId)]
  let values : List (String × PromptArgument) :=
    [("current_value", .text (Decimal.fixed 1 anomaly.currentValue)),
      ("threshold", .text (Decimal.fixed 1 anomaly.threshold))]
  let common : List (String × PromptArgument) :=
    [("severity", .text anomaly.severity.value),
      ("metrics", .metrics metrics)]
  if anomaly.metricName ∈ ["memory", "memory_pressure"] then do
    let pressure ← pressureFields.mapM (pressureArgument anomaly.context)
    let cpu ← formatNumber 1 (contextCpu anomaly.context metrics)
    loadPrompt template (identity ++ values ++ common ++ pressure ++
      [("cpu_usage_percent", .text cpu)])
  else if anomaly.metricName = "service_down" then
    loadPrompt template (identity ++
      [("service_name",
        .text (orText (anomaly.serviceName.getD "") "unknown.service"))] ++
      common)
  else if anomaly.metricName = "disk" then
    loadPrompt template (identity ++
      [("mountpoint", .text (mountpointOf anomaly)),
        ("device", .text (deviceOf anomaly.context)),
        ("related_services", .text (orText
          (", ".intercalate (relatedUnhealthyServices anomaly))
          "none discovered"))] ++
      values ++ common)
  else if anomaly.metricName = "postgres_blocked_transaction" then
    loadPrompt template (identity ++
      [("database", .text anomaly.context.waits.database),
        ("blocked_pids", .text (pidList anomaly.context.waits.blockedPids)),
        ("blocker_pids", .text (pidList anomaly.context.waits.blockerPids))] ++
      values ++ common)
  else if anomaly.metricName = "postgres_apache_chain" then
    loadPrompt template (identity ++
      [("apache_minion_id", .text (dependencyMinions anomaly).1),
        ("postgres_minion_id", .text (dependencyMinions anomaly).2),
        ("metric_name", .text anomaly.metricName)] ++
      values ++ common)
  else
    loadPrompt template (identity ++
      [("metric_name", .text anomaly.metricName)] ++ values ++ common)

/-! ## When the prompt is built -/

/-- The metric has a template of its own, and a memory anomaly carries every
number that its prompt shows. -/
structure PromptComplete (anomaly : Anomaly) (metrics : Metrics) : Prop where
  template : (templateMap.lookup anomaly.metricName).isSome
  pressure : anomaly.metricName ∈ ["memory", "memory_pressure"] →
    ∀ field ∈ pressureFields,
      (contextPressure anomaly.context field.2.2).isSome
  cpu : anomaly.metricName ∈ ["memory", "memory_pressure"] →
    (contextCpu anomaly.context metrics).isSome

theorem formatNumber_returns_iff {digits : ℕ} {value : Option ℚ} :
    Returns (formatNumber digits value) ↔ value.isSome := by
  rcases value with _ | value
  · simp [formatNumber, Returns]
  · simp [formatNumber, Returns]

theorem pressureArgument_returns_iff {context : AnomalyContext}
    {field : String × ℕ × (MemoryPressure → Option ℚ)} :
    Returns (pressureArgument context field) ↔
      (contextPressure context field.2.2).isSome := by
  rw [← @formatNumber_returns_iff field.2.1, pressureArgument,
    returns_bind_iff]
  constructor
  · rintro ⟨text, htext, -⟩
    exact ⟨text, htext⟩
  · rintro ⟨text, htext⟩
    exact ⟨text, htext, returns_ok _⟩

/-- The arguments of the memory values carry their names. -/
theorem map_fst_of_pressure {context : AnomalyContext}
    {arguments : List (String × PromptArgument)}
    (h : pressureFields.mapM (pressureArgument context) = .ok arguments) :
    arguments.map (·.1) = pressureFields.map (·.1) := by
  have hnames : ∀ (fields : List (String × ℕ × (MemoryPressure → Option ℚ)))
      (arguments : List (String × PromptArgument)),
      fields.mapM (pressureArgument context) = .ok arguments →
      arguments.map (·.1) = fields.map (·.1) := by
    intro fields
    induction fields with
    | nil =>
        intro arguments harguments
        obtain rfl := Except.ok.inj harguments
        rfl
    | cons field fields ih =>
        intro arguments harguments
        rw [List.mapM_cons] at harguments
        obtain ⟨first, hfirst, hlater⟩ := bind_eq_ok_iff.mp harguments
        obtain ⟨rest, hrest, heq⟩ := bind_eq_ok_iff.mp hlater
        obtain ⟨text, -, htext⟩ := bind_eq_ok_iff.mp hfirst
        obtain rfl := Except.ok.inj heq
        obtain rfl := Except.ok.inj htext
        rw [List.map_cons, List.map_cons, ih rest hrest]
  exact hnames pressureFields arguments h

theorem memoryPrompt_returns_iff {anomaly : Anomaly} {metrics : Metrics}
    (hmetric : anomaly.metricName ∈ ["memory", "memory_pressure"]) :
    Returns (getPromptForAnomaly anomaly metrics) ↔
      (∀ field ∈ pressureFields,
        (contextPressure anomaly.context field.2.2).isSome) ∧
      (contextCpu anomaly.context metrics).isSome := by
  have htemplate :
      (templateMap.lookup anomaly.metricName).getD .highRam = .highRam := by
    rcases List.mem_cons.mp hmetric with h | h
    · rw [h]
      rfl
    · rw [List.mem_singleton.mp h]
      rfl
  rw [← @formatNumber_returns_iff 1]
  have hpressure : (∀ field ∈ pressureFields,
      (contextPressure anomaly.context field.2.2).isSome) ↔
      Returns (pressureFields.mapM (pressureArgument anomaly.context)) := by
    rw [returns_mapM_iff]
    simp only [pressureArgument_returns_iff]
  rw [hpressure]
  simp only [getPromptForAnomaly, if_pos hmetric, htemplate]
  rw [returns_bind_iff]
  constructor
  · rintro ⟨pressure, hfields, hrest⟩
    obtain ⟨cpu, hcpu, -⟩ := returns_bind_iff.mp hrest
    exact ⟨⟨pressure, hfields⟩, cpu, hcpu⟩
  · rintro ⟨⟨pressure, hfields⟩, cpu, hcpu⟩
    refine ⟨pressure, hfields, returns_bind_iff.mpr ⟨cpu, hcpu, ?_⟩⟩
    rw [loadPrompt_returns_iff]
    simp only [List.map_append, map_fst_of_pressure hfields, List.map_cons,
      List.map_nil]
    decide

/-- A prompt is built when it is complete. -/
theorem getPromptForAnomaly_returns_iff {anomaly : Anomaly}
    {metrics : Metrics} :
    Returns (getPromptForAnomaly anomaly metrics) ↔
      PromptComplete anomaly metrics := by
  by_cases hmemory : anomaly.metricName ∈ ["memory", "memory_pressure"]
  · rw [memoryPrompt_returns_iff hmemory]
    refine ⟨?_, fun h => ⟨h.pressure hmemory, h.cpu hmemory⟩⟩
    rintro ⟨hpressure, hcpu⟩
    refine ⟨?_, fun _ => hpressure, fun _ => hcpu⟩
    rcases List.mem_cons.mp hmemory with h | h
    · rw [h]
      rfl
    · rw [List.mem_singleton.mp h]
      rfl
  · rcases htemplate : templateMap.lookup anomaly.metricName with _ | template
    · refine iff_of_false ?_ ?_
      · have hother (name : String) (hname : (templateMap.lookup name).isSome) :
            anomaly.metricName ≠ name := by
          rintro rfl
          rw [htemplate] at hname
          cases hname
        simp only [getPromptForAnomaly, if_neg hmemory, htemplate,
          if_neg (hother "service_down" rfl), if_neg (hother "disk" rfl),
          if_neg (hother "postgres_blocked_transaction" rfl),
          if_neg (hother "postgres_apache_chain" rfl)]
        rw [loadPrompt_returns_iff]
        simp only [List.map_append, List.map_cons, List.map_nil]
        decide
      · intro hcomplete
        have hsome := hcomplete.template
        rw [htemplate] at hsome
        cases hsome
    · refine iff_of_true ?_ ⟨by rw [htemplate]; rfl, fun h => absurd h hmemory,
        fun h => absurd h hmemory⟩
      obtain ⟨before, after, heq, -⟩ := List.lookup_eq_some_iff.mp htemplate
      have hmem : (anomaly.metricName, template) ∈ templateMap := by
        rw [heq]
        simp
      simp only [getPromptForAnomaly, if_neg hmemory, htemplate]
      simp only [templateMap, List.mem_cons, Prod.mk.injEq, List.not_mem_nil,
        or_false] at hmem
      rcases hmem with ⟨h, rfl⟩ | ⟨h, rfl⟩ | ⟨h, rfl⟩ | ⟨h, rfl⟩ | ⟨h, rfl⟩ |
        ⟨h, rfl⟩ | ⟨h, rfl⟩ | ⟨h, rfl⟩ | ⟨h, rfl⟩ | ⟨h, rfl⟩ | ⟨h, rfl⟩
      · exact absurd (by rw [h]; decide) hmemory
      · exact absurd (by rw [h]; decide) hmemory
      all_goals
        rw [h]
        simp only [String.reduceEq, if_true, if_false, Option.getD_some]
        rw [loadPrompt_returns_iff]
        simp only [List.map_append, List.map_cons, List.map_nil]
        decide

end UyuniAgent.Investigation
