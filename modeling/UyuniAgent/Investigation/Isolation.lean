import UyuniAgent.Investigation.Firing
import UyuniAgent.Investigation.Prompt
import Mathlib.Data.Finset.Basic

/-!
# Circuits of several dependencies

`DependencyManager` keeps one circuit for each dependency.  An investigation is
one operation of the LLM that contains operations of Salt, and the circuit of
the LLM counts how the whole of it ends.
-/

namespace UyuniAgent.Investigation

open Agent Raising Resilience Salt Transition

/-! ## Endings of investigations -/

/-- The exception that a Salt call of the agent's tools ends the agent with. -/
inductive ToolException
  | timeoutError
  | other
  deriving DecidableEq

def ToolException.result : ToolException → InvestigationResult
  | .timeoutError => .timedOut
  | .other => .failed

/-- An investigation: what Salt answers while the evidence is collected, an
exception that a tool of the agent leaves behind, and what the LLM provider
makes of the anomaly when it is asked and no tool gets in its way. -/
structure Course where
  anomaly : Anomaly
  metrics : Metrics
  client : Option SaltClient
  collectedAt : ℚ
  deadlineExpires : Bool
  toolException : Option ToolException
  provided : InvestigationResult

namespace Course

variable (analyzers : Analyzers) (py : Interpreter) (course : Course)

/-- The evidence, unless the deadline of the LLM expires before it is
complete. -/
def collection : Collection :=
  if course.deadlineExpires then .timedOut
  else
    match collectRequiredEvidence py course.client course.anomaly
        course.collectedAt with
    | .ok ledger => .collected ledger
    | .error .timeoutError => .timedOut
    | .error _ => .failed

/-- From the prompts on. -/
def agent : LlmProvider := fun anomaly _ =>
  match getPromptForAnomaly anomaly course.metrics, course.toolException with
  | .error _, _ => .failed
  | .ok _, some exception => exception.result
  | .ok _, none => course.provided

def result : InvestigationResult :=
  investigate analyzers course.agent course.anomaly (course.collection py)

end Course

/-- What an operation that ends so is for its circuit. -/
def endingOf : InvestigationResult → CallEnding
  | .analysis _ => .success
  | .timedOut => .timeout
  | .failed => .error

/-! ## `DependencyManager` -/

inductive Dependency
  | salt
  | prometheus
  | llm
  | alertmanager
  deriving DecidableEq

/-- How an operation ends: an investigation by what happens inside of it, any
other one by itself. -/
inductive OperationEnding
  | own (ending : CallEnding)
  | investigated (course : Course)

namespace OperationEnding

/-- Only investigations are operations of the LLM, and they may be cancelled. -/
def belongsTo : Dependency → OperationEnding → Bool
  | .llm, .own ending => ending = .cancelled
  | .llm, .investigated _ => true
  | _, .own _ => true
  | _, .investigated _ => false

/-- What the circuit is told. -/
def recorded (analyzers : Analyzers) (py : Interpreter) :
    OperationEnding → CallEnding
  | .own ending => ending
  | .investigated course => endingOf (course.result analyzers py)

/-- What the dependency itself did.  A call that is cancelled because the
deadline of another dependency expires has ended so of its own. -/
def provided : OperationEnding → CallEnding
  | .own ending => ending
  | .investigated course => endingOf course.provided

end OperationEnding

inductive ManagerEvent
  | execute (dependency : Dependency) (id : ℕ) (now : ℚ)
  | finish (dependency : Dependency) (id : ℕ) (ending : OperationEnding)
      (recordedAt observedAt : ℚ)
  | snapshot (dependency : Dependency) (now : ℚ)

namespace ManagerEvent

def dependency : ManagerEvent → Dependency
  | .execute dependency _ _ => dependency
  | .finish dependency _ _ _ _ => dependency
  | .snapshot dependency _ => dependency

/-- The first reading of the clock. -/
def readAt : ManagerEvent → ℚ
  | .execute _ _ now => now
  | .finish _ _ _ recordedAt _ => recordedAt
  | .snapshot _ now => now

def allowed : ManagerEvent → Bool
  | .finish dependency _ ending _ _ => ending.belongsTo dependency
  | _ => true

/-- The event of the circuit, when endings are read so. -/
def circuitEvent (read : OperationEnding → CallEnding) :
    ManagerEvent → CircuitEvent
  | .execute _ id now => .execute id now
  | .finish _ id ending recordedAt observedAt =>
      .finish id (read ending) recordedAt observedAt
  | .snapshot _ now => .snapshot now

/-- What the dependency itself did, when the event is one of its own. -/
def ownEvent (dependency : Dependency) (e : ManagerEvent) :
    Option CircuitEvent :=
  if e.dependency = dependency then
    some (e.circuitEvent OperationEnding.provided)
  else none

end ManagerEvent

/-- The circuits, and the latest reading of the clock that they share. -/
structure ManagerRun where
  circuits : Dependency → CircuitRun
  clock : ℚ

def ManagerRun.initial (clock : ℚ) : ManagerRun where
  circuits := fun _ => .initial clock
  clock := clock

def managerStep (cfg : BreakerSettings) (analyzers : Analyzers)
    (py : Interpreter) (s : ManagerRun) (e : ManagerEvent) :
    Option ManagerRun :=
  if s.clock ≤ e.readAt ∧ e.allowed = true then
    (circuitStep cfg (s.circuits e.dependency)
        (e.circuitEvent (OperationEnding.recorded analyzers py))).map
      fun circuit =>
      { circuits := Function.update s.circuits e.dependency circuit
        clock := circuit.clock }
  else none

/-! ## When an investigation counts its provider -/

def isAnswer : InvestigationResult → Bool
  | .analysis _ => true
  | _ => false

namespace Course

variable {analyzers : Analyzers} {py : Interpreter} {course : Course}

/-- Where the provider would answer, nothing in the investigation raises; where
it would not, its answer is needed. -/
structure CountsProvider (analyzers : Analyzers) (py : Interpreter)
    (course : Course) : Prop where
  reached : isAnswer course.provided = true →
    ∃ ledger, course.collection py = .collected ledger ∧
      (analyzers.Deterministic course.anomaly ledger ∨
        (Returns (getPromptForAnomaly course.anomaly course.metrics) ∧
          course.toolException = none))
  needed : isAnswer course.provided = false →
    ∀ ledger, course.collection py = .collected ledger →
      ¬analyzers.Deterministic course.anomaly ledger

theorem agent_isAnswer_iff {ledger : EvidenceLedger} :
    isAnswer (course.agent course.anomaly ledger) = true ↔
      (Returns (getPromptForAnomaly course.anomaly course.metrics) ∧
        course.toolException = none) ∧ isAnswer course.provided = true := by
  rw [agent]
  rcases getPromptForAnomaly course.anomaly course.metrics with error | prompt
  · simp [Returns, isAnswer]
  · rcases course.toolException with _ | exception
    · simp [Returns]
    · rcases exception with _ | _
      · simp [ToolException.result, isAnswer]
      · simp [ToolException.result, isAnswer]

theorem investigate_of_not_deterministic {provider : LlmProvider}
    {anomaly : Anomaly} {ledger : EvidenceLedger}
    (h : ¬analyzers.Deterministic anomaly ledger) :
    investigate analyzers provider anomaly (.collected ledger) =
      provider anomaly ledger := by
  rw [Analyzers.Deterministic, not_or, not_and] at h
  rw [investigate, if_neg h.1]
  split
  next henabled =>
    split
    next analysis hanalysis =>
      exact absurd (by rw [hanalysis]; rfl) (h.2 henabled)
    · rfl
  · rfl

/-- An investigation has an analysis when its evidence decides, or when the
agent is reached and the provider answers it. -/
theorem result_isAnswer_iff :
    isAnswer (course.result analyzers py) = true ↔
      ∃ ledger, course.collection py = .collected ledger ∧
        (analyzers.Deterministic course.anomaly ledger ∨
          (Returns (getPromptForAnomaly course.anomaly course.metrics) ∧
            course.toolException = none) ∧
          isAnswer course.provided = true) := by
  rw [result]
  rcases course.collection py with ledger | _ | _
  · by_cases hdeterministic : analyzers.Deterministic course.anomaly ledger
    · obtain ⟨analysis, hanalysis⟩ := investigate_deterministic hdeterministic
      simp [hanalysis, isAnswer, hdeterministic]
    · rw [investigate_of_not_deterministic hdeterministic, agent_isAnswer_iff]
      simp [hdeterministic]
  · simp [investigate, isAnswer]
  · simp [investigate, isAnswer]

/-- An investigation ends as its provider would have ended it. -/
theorem isAnswer_result_eq_iff :
    isAnswer (course.result analyzers py) = isAnswer course.provided ↔
      course.CountsProvider analyzers py := by
  rcases hprovided : isAnswer course.provided with _ | _
  · rw [Bool.eq_false_iff, ne_eq, result_isAnswer_iff, hprovided]
    constructor
    · intro hnone
      refine ⟨fun h => absurd (hprovided.symm.trans h) (by decide), ?_⟩
      intro _ ledger hledger hdeterministic
      exact hnone ⟨ledger, hledger, Or.inl hdeterministic⟩
    · rintro hcounts ⟨ledger, hledger, hdeterministic | ⟨-, hanswer⟩⟩
      · exact hcounts.needed hprovided ledger hledger hdeterministic
      · cases hanswer
  · rw [result_isAnswer_iff, hprovided]
    constructor
    · rintro ⟨ledger, hledger, hreached⟩
      refine ⟨fun _ => ⟨ledger, hledger, ?_⟩,
        fun h => absurd (hprovided.symm.trans h) (by decide)⟩
      exact hreached.imp_right And.left
    · intro hcounts
      obtain ⟨ledger, hledger, hreached⟩ := hcounts.reached hprovided
      exact ⟨ledger, hledger, hreached.imp_right fun h => ⟨h, rfl⟩⟩

end Course

/-! ## What a circuit counts -/

/-- A success, a failure, or nothing. -/
def counted : CallEnding → Option Bool
  | .success => some true
  | .refused | .error | .timeout => some false
  | .cancelled => none

theorem counted_endingOf (result : InvestigationResult) :
    counted (endingOf result) = some (isAnswer result) := by
  rcases result with _ | _ | _
  · rfl
  · rfl
  · rfl

theorem circuitStep_finish_congr {cfg : BreakerSettings} {s : CircuitRun}
    {id : ℕ} {ending other : CallEnding} {recordedAt observedAt : ℚ}
    (h : counted ending = counted other) :
    circuitStep cfg s (.finish id ending recordedAt observedAt) =
      circuitStep cfg s (.finish id other recordedAt observedAt) := by
  have hsettle : ending.settle cfg s.breaker recordedAt observedAt =
      other.settle cfg s.breaker recordedAt observedAt := by
    unfold counted at h
    unfold CallEnding.settle
    grind
  have hfailure : ending.failureTime recordedAt s.lastFailure =
      other.failureTime recordedAt s.lastFailure := by
    unfold counted at h
    unfold CallEnding.failureTime
    grind
  simp only [circuitStep, hsettle, hfailure]

/-! ## Runs -/

/-- An investigation that the event ends counts its provider. -/
def ManagerEvent.CountsProvider (analyzers : Analyzers) (py : Interpreter) :
    ManagerEvent → Prop
  | .finish _ _ (.investigated course) _ _ =>
      course.CountsProvider analyzers py
  | _ => True

section Runs

variable {cfg : BreakerSettings} {analyzers : Analyzers} {py : Interpreter}
  {s s' : ManagerRun} {e : ManagerEvent}

theorem managerStep_eq_some_iff :
    managerStep cfg analyzers py s e = some s' ↔
      (s.clock ≤ e.readAt ∧ e.allowed = true) ∧
        ∃ circuit, circuitStep cfg (s.circuits e.dependency)
            (e.circuitEvent (OperationEnding.recorded analyzers py)) =
              some circuit ∧
          s' = { circuits := Function.update s.circuits e.dependency circuit
                 clock := circuit.clock } := by
  rw [managerStep]
  split
  next henabled => simp [henabled, eq_comm]
  next hdisabled => simp [hdisabled]

/-- An operation leaves the circuits of the other dependencies alone. -/
theorem circuits_of_foreign {dependency : Dependency}
    (hforeign : e.ownEvent dependency = none)
    (he : managerStep cfg analyzers py s e = some s') :
    s'.circuits dependency = s.circuits dependency := by
  obtain ⟨-, circuit, -, rfl⟩ := managerStep_eq_some_iff.mp he
  have hne : dependency ≠ e.dependency := by
    rintro rfl
    simp [ManagerEvent.ownEvent] at hforeign
  exact Function.update_of_ne hne circuit s.circuits

/-- The circuit of an operation is told what the dependency did. -/
theorem circuitStep_provided
    (hcounts : e.dependency = .llm → e.CountsProvider analyzers py)
    (hallowed : e.allowed = true) (circuit : CircuitRun) :
    circuitStep cfg circuit
        (e.circuitEvent (OperationEnding.recorded analyzers py)) =
      circuitStep cfg circuit (e.circuitEvent OperationEnding.provided) := by
  rcases e with ⟨dependency, id, now⟩ |
    ⟨dependency, id, ending, recordedAt, observedAt⟩ | ⟨dependency, now⟩
  · rfl
  · rcases ending with ending | course
    · rfl
    · have hllm : dependency = .llm := by
        rcases dependency with _ | _ | _ | _
        all_goals first | rfl | cases hallowed
      have hsame := Course.isAnswer_result_eq_iff.mpr (hcounts hllm)
      apply circuitStep_finish_congr
      rw [OperationEnding.recorded, OperationEnding.provided,
        counted_endingOf, counted_endingOf, hsame]
  · rfl

theorem circuitStep_own {dependency : Dependency} {own : CircuitEvent}
    (hown : e.ownEvent dependency = some own)
    (hcounts : dependency = .llm → e.CountsProvider analyzers py)
    (he : managerStep cfg analyzers py s e = some s') :
    circuitStep cfg (s.circuits dependency) own =
      some (s'.circuits dependency) := by
  obtain ⟨⟨-, hallowed⟩, circuit, hcircuit, rfl⟩ :=
    managerStep_eq_some_iff.mp he
  rw [ManagerEvent.ownEvent] at hown
  split at hown
  next heq =>
    subst heq
    have hself : Function.update s.circuits e.dependency circuit
        e.dependency = circuit := Function.update_self ..
    rw [← Option.some.inj hown, ← circuitStep_provided hcounts hallowed,
      hcircuit]
    exact congrArg some hself.symm
  · cases hown

/-- The circuit of a dependency follows what the dependency itself did. -/
theorem circuit_follows_own {clock : ℚ} {trace : List ManagerEvent}
    (dependency : Dependency)
    (hcounts : dependency = .llm →
      EveryStep (managerStep cfg analyzers py) (.initial clock) trace
        fun _ e => e.CountsProvider analyzers py)
    (hs : exec (managerStep cfg analyzers py) (.initial clock) trace =
      some s) :
    exec (circuitStep cfg) (.initial clock)
        (trace.filterMap (·.ownEvent dependency)) =
      some (s.circuits dependency) := by
  have hsteps : EveryStep (managerStep cfg analyzers py) (.initial clock)
      trace fun _ e => dependency = .llm → e.CountsProvider analyzers py := by
    intro past e hpast s s' hs he hllm
    exact hcounts hllm past e hpast s s' hs he
  exact exec_part (fun s : ManagerRun => s.circuits dependency)
    (fun s e s' hforeign he => circuits_of_foreign hforeign he)
    (fun s e s' own hown hcounts he => circuitStep_own hown hcounts he)
    hsteps hs

end Runs

/-- Two runs in which a dependency does the same leave its circuit in the same
state, when every investigation counts its provider; the circuits other than
the LLM's need nothing of the investigations. -/
theorem circuits_isolated (cfg : BreakerSettings) (analyzers : Analyzers)
    (py : Interpreter) (clock : ℚ) (dependency : Dependency)
    {trace trace' : List ManagerEvent} {s s' : ManagerRun}
    (hs : exec (managerStep cfg analyzers py) (.initial clock) trace = some s)
    (hs' : exec (managerStep cfg analyzers py) (.initial clock) trace' =
      some s')
    (hcounts : dependency = .llm →
      EveryStep (managerStep cfg analyzers py) (.initial clock) trace
        fun _ e => e.CountsProvider analyzers py)
    (hcounts' : dependency = .llm →
      EveryStep (managerStep cfg analyzers py) (.initial clock) trace'
        fun _ e => e.CountsProvider analyzers py)
    (hown : trace.filterMap (·.ownEvent dependency) =
      trace'.filterMap (·.ownEvent dependency)) :
    s.circuits dependency = s'.circuits dependency := by
  have hfirst := circuit_follows_own dependency hcounts hs
  have hsecond := circuit_follows_own dependency hcounts' hs'
  rw [hown, hsecond] at hfirst
  exact (Option.some.inj hfirst).symm

/-! ## A Salt call that runs out of time -/

/-- The settings that the repository ships. -/
def shippedBreaker : BreakerSettings where
  failureThreshold := 3
  recoveryTimeoutSeconds := 30
  one_le_failureThreshold := Nat.le_add_left 1 2
  recoveryTimeoutSeconds_pos := Nat.ofNat_pos

/-- The circuits of an agent whose evidence proves nothing. -/
def plainStep : ManagerRun → ManagerEvent → Option ManagerRun :=
  managerStep shippedBreaker .plain ⟨1000, fun _ => ""⟩

def busyCpu : Anomaly where
  minionId := "web"
  metricName := "cpu"
  currentValue := 99
  threshold := 95
  severity := .critical
  description := "CPU at 99.0"
  serviceName := none
  resource := none
  context := .empty

def cpuMetrics : Metrics :=
  ⟨⟨none, none, none, none, none, none, none, none, none, none, none⟩,
    some 99, none, [], none, none, none, none, []⟩

/-- Each operation has the same answer, or runs out of time. -/
def cpuClient (answer : HttpReply) (deadlineExpires : Bool) : SaltClient where
  allowedMinions := ["web"]
  dependencies := []
  dependencies_nodup := List.nodup_nil
  operation := fun _ =>
    ⟨⟨true, true, .failed "", answer, .failed "", .failed ""⟩,
      some ⟨shippedBreaker, .initial, 1⟩, deadlineExpires⟩

def cpuAnalysis : RootCauseAnalysis where
  summary := "CPU at 99.0"
  conclusion := .inconclusive
  affectedComponent := "unknown"
  rootCause := "unknown"
  supportingEvidenceIds := []
  keyEvidence := []
  remediation := []
  urgency := .low
  confidence := 0

/-- The provider answers. -/
def cpuCourse (answer : HttpReply) (deadlineExpires : Bool) : Course where
  anomaly := busyCpu
  metrics := cpuMetrics
  client := some (cpuClient answer deadlineExpires)
  collectedAt := 1
  deadlineExpires := false
  toolException := none
  provided := .analysis cpuAnalysis

/-- An investigation with one Salt call in it. -/
def cpuTrace (ending : CallEnding) (endedAt : ℚ) (course : Course) :
    List ManagerEvent :=
  [.execute .llm 0 0, .execute .salt 1 1,
    .finish .salt 1 (.own ending) endedAt endedAt,
    .finish .llm 0 (.investigated course) 61 61]

def refused : HttpReply := .failed "connection refused"

def loadAverage : HttpReply :=
  .response 200 "" (some "\x7b\"return\": [\x7b\"web\": \"load 9.0\"\x7d]\x7d")

/-- A refused Salt call and an answered one leave the LLM's circuit alike. -/
theorem circuits_isolated_refused :
    ∃ s s' : ManagerRun,
      exec plainStep (.initial 0)
        (cpuTrace .success 2 (cpuCourse loadAverage false)) = some s ∧
      exec plainStep (.initial 0)
        (cpuTrace .error 30 (cpuCourse refused false)) = some s' ∧
      s.circuits .llm = s'.circuits .llm := by
  have hcounts (ending : CallEnding) (endedAt : ℚ) {answer : HttpReply}
      (hanswer : isAnswer ((cpuCourse answer false).result .plain
        ⟨1000, fun _ => ""⟩) = true) :
      EveryStep plainStep (.initial 0)
        (cpuTrace ending endedAt (cpuCourse answer false))
        fun _ e => e.CountsProvider .plain ⟨1000, fun _ => ""⟩ := by
    apply EveryStep.of_forall_mem
    intro e he
    simp only [cpuTrace, List.mem_cons, List.not_mem_nil, or_false] at he
    rcases he with rfl | rfl | rfl | rfl
    · trivial
    · trivial
    · trivial
    · exact Course.isAnswer_result_eq_iff.mp hanswer
  obtain ⟨s, hs⟩ := Option.isSome_iff_exists.mp
    (by decide +kernel : (exec plainStep (.initial 0)
      (cpuTrace .success 2 (cpuCourse loadAverage false))).isSome = true)
  obtain ⟨s', hs'⟩ := Option.isSome_iff_exists.mp
    (by decide +kernel : (exec plainStep (.initial 0)
      (cpuTrace .error 30 (cpuCourse refused false))).isSome = true)
  refine ⟨s, s', hs, hs', ?_⟩
  apply circuits_isolated shippedBreaker .plain ⟨1000, fun _ => ""⟩ 0 .llm
    hs hs'
  · intro _
    exact hcounts .success 2 (by decide +kernel)
  · intro _
    exact hcounts .error 30 (by decide +kernel)
  · rfl

/-- What the circuit of the LLM has counted after a run. -/
def llmFailures (trace : List ManagerEvent) : Option ℕ :=
  (exec plainStep (.initial 0) trace).map fun s =>
    (s.circuits .llm).breaker.consecutiveFailures

/-- A Salt call that runs out of time counts against the LLM, which would have
answered. -/
theorem salt_timeout_counts_against_llm :
    ¬∀ (cfg : BreakerSettings) (analyzers : Analyzers) (py : Interpreter)
      (clock : ℚ) (dependency : Dependency) (trace trace' : List ManagerEvent)
      (s s' : ManagerRun),
      exec (managerStep cfg analyzers py) (.initial clock) trace = some s →
      exec (managerStep cfg analyzers py) (.initial clock) trace' = some s' →
      trace.filterMap (·.ownEvent dependency) =
        trace'.filterMap (·.ownEvent dependency) →
      (s.circuits dependency).breaker.state =
          (s'.circuits dependency).breaker.state ∧
        (s.circuits dependency).breaker.consecutiveFailures =
          (s'.circuits dependency).breaker.consecutiveFailures := by
  intro hall
  have hanswered : llmFailures
      (cpuTrace .success 2 (cpuCourse loadAverage false)) = some 0 := by
    decide +kernel
  have htimedOut : llmFailures
      (cpuTrace .timeout 61 (cpuCourse loadAverage true)) = some 1 := by
    decide +kernel
  obtain ⟨s, hs, hnone⟩ := Option.map_eq_some_iff.mp hanswered
  obtain ⟨s', hs', hone⟩ := Option.map_eq_some_iff.mp htimedOut
  have hsame := (hall shippedBreaker .plain ⟨1000, fun _ => ""⟩ 0 .llm _ _
    s s' hs hs' rfl).2
  rw [hnone, hone] at hsame
  exact absurd hsame (by decide)

end UyuniAgent.Investigation
