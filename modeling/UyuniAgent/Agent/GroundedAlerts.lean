import UyuniAgent.Agent.Provenance
import UyuniAgent.Investigation.Grounded

/-!
# What alerts claim

An accepted alert shows the analysis of an investigation, and that analysis was
grounded in evidence that the collectors had gathered for the incident.  So no
interleaving of polls, workers and restarts brings a confirmed cause to
Alertmanager that does not rest on good evidence, or a destructive step.
-/

namespace UyuniAgent.Agent

open Incident Investigation Salt Transition

/-- `investigate` returned the analysis for the anomaly, with some evidence
collected for it, and some agent behind it. -/
def Investigated (unicode : UnicodeData) (dumps : EvidenceDetails → String)
    (quality : QualityGates) (anomaly : Anomaly)
    (analysis : RootCauseAnalysis) : Prop :=
  ∃ py client agent collectedAt groundedAt ledger,
    collectRequiredEvidence py client anomaly collectedAt = .ok ledger ∧
      investigateWith unicode dumps quality agent anomaly ledger groundedAt =
        .analysis analysis

variable {F : Type} [DecidableEq F]

/-- The analysis that a worker goes on with is one of `investigate`. -/
def Investigates (unicode : UnicodeData) (dumps : EvidenceDetails → String)
    (quality : QualityGates) (s : AgentState F) : LifeEvent → Prop
  | .cycle (.agent (.conclude n (.analysis analysis) _)) =>
      ∀ job, s.workers.get? n = some job →
        Investigated unicode dumps quality job.work.firing.anomaly analysis
  | _ => True

/-- The alert shows an analysis that is grounded in evidence collected for its
incident. -/
def ShowsGrounded (unicode : UnicodeData) (quality : QualityGates)
    (cfg : AgentSettings F) (past : List LifeEvent)
    (payload : AlertPayload F) : Prop :=
  ∃ firing analysis ledger groundedAt, Concluded cfg past firing analysis ∧
    payload.labels = alertLabels firing.anomaly.severity firing.anomaly
      firing.fingerprint ∧
    payload.annotations = analysisAnnotations analysis ∧
    BuiltByCollectors firing.anomaly ledger ∧
    Grounded unicode (quality.options (allowsFailed firing.anomaly)) ledger
      groundedAt analysis

section

variable {unicode : UnicodeData} {dumps : EvidenceDetails → String}
  {quality : QualityGates} {cfg : AgentSettings F} {trace : List LifeEvent}
  {s : AgentState F}

theorem FromInvestigation.showsGrounded
    (hspaces : ∀ c, PyText.isSpace c = true → unicode.isWord c = false)
    (hs : exec (lifeStep cfg) AgentState.initial trace = some s)
    (hinvestigates : EveryStep (lifeStep cfg) AgentState.initial trace
      (Investigates unicode dumps quality))
    {payload : AlertPayload F} (h : FromInvestigation cfg trace payload) :
    ShowsGrounded unicode quality cfg trace payload := by
  obtain ⟨firing, analysis, hconcluded, rfl⟩ := h
  have hcourse := hconcluded
  obtain ⟨before, worker, now, s₀, job, hbefore, hs₀, hjob, -, hfiring, -⟩ :=
    hcourse
  obtain ⟨rest, hrest⟩ := hbefore
  -- the run went on from the state in which the worker concluded
  obtain ⟨s₁, hstep⟩ : ∃ s₁, lifeStep cfg s₀ (.cycle
      (.agent (.conclude worker (.analysis analysis) now))) = some s₁ := by
    rw [← hrest, exec_append, exec_concat, hs₀, Option.bind_some] at hs
    obtain ⟨s₁, hstep, -⟩ := Option.bind_eq_some_iff.mp hs
    exact ⟨s₁, hstep⟩
  have hinvestigated := hinvestigates before _ ⟨rest, hrest⟩ s₀ s₁ hs₀ hstep
    job hjob
  rw [hfiring] at hinvestigated
  obtain ⟨py, client, agent, collectedAt, groundedAt, ledger, hledger,
    hresult⟩ := hinvestigated
  exact ⟨firing, analysis, ledger, groundedAt, hconcluded, rfl, rfl,
    collectRequiredEvidence_built hledger,
    investigateWith_grounded unicode dumps quality hspaces agent hresult⟩

/-- In every run whose analyses are those of `investigate`, whatever becomes of
the process and its work, every accepted alert, firing or resolved, shows a
grounded analysis. -/
theorem accepted_alerts_grounded
    (hspaces : ∀ c, PyText.isSpace c = true → unicode.isWord c = false)
    (hlive : ∀ e ∈ trace, e.live = true)
    (hs : exec (lifeStep cfg) AgentState.initial trace = some s)
    (hinvestigates : EveryStep (lifeStep cfg) AgentState.initial trace
      (Investigates unicode dumps quality)) :
    ∀ payload ∈ s.accepted,
      ShowsGrounded unicode quality cfg trace payload := by
  have htraced := (Traced.of_exec hlive hs).posts
  have hfiring : ∀ payload ∈ s.accepted, payload.endsAt = none →
      ShowsGrounded unicode quality cfg trace payload :=
    fun payload hmem hends =>
      (htraced.firing payload hmem hends).showsGrounded hspaces hs hinvestigates
  intro payload hmem
  cases hends : payload.endsAt with
  | none => exact hfiring payload hmem hends
  | some endsAt =>
      obtain ⟨later, older, hsplit⟩ := List.append_of_mem hmem
      have hsuffix : payload :: older <:+ s.accepted := ⟨later, hsplit.symm⟩
      obtain ⟨fired, endedAt, ⟨hfired, hopen⟩, rfl⟩ :=
        htraced.resolution payload older hsuffix (by rw [hends]; rfl)
      exact hfiring fired
        (hsuffix.subset (List.mem_cons_of_mem _ hfired)) hopen

end

/-! ## A proposal with a destructive step -/

/-- What a model may propose for a busy CPU. -/
def proposedJob : RootCauseAnalysis where
  summary := "A runaway job keeps the CPU busy"
  conclusion := .confirmed
  affectedComponent := "job"
  rootCause := "A runaway job keeps the CPU busy [E1]."
  supportingEvidenceIds := ["E1", "E7", "E1"]
  keyEvidence := ["[E1] CPU usage at 97.0%", "The fan is loud"]
  remediation := [" Restart the job. ", "rm -rf /var/tmp/job\n"]
  urgency := .high
  confidence := 9 / 10

/-- What is left of it. -/
def groundedJob : RootCauseAnalysis where
  summary := "A runaway job keeps the CPU busy"
  conclusion := .confirmed
  affectedComponent := "job"
  rootCause := "A runaway job keeps the CPU busy [E1]."
  supportingEvidenceIds := ["E1"]
  keyEvidence := ["[E1] CPU usage at 97.0%"]
  remediation := ["Restart the job.",
    "Escalate destructive recovery actions for explicit operator approval."]
  urgency := .high
  confidence := 9 / 10

theorem investigated_groundedJob :
    Investigated asciiData (fun _ => "") ⟨300, 1, true⟩ (busyCpu .warning)
      groundedJob :=
  ⟨⟨1000, fun _ => ""⟩, none, fun _ _ => .analysis proposedJob, 1, 2,
    ledgerWith ⟨1000, fun _ => ""⟩ (busyCpu .warning) 1
      [.note "salt" "salt_api" collectRequiredCpuEvidence.unavailable
        "The shared Salt API client was not initialized." .error],
    rfl, by decide +kernel⟩

/-- The process ends during the investigation.  The next one delivers the
alert, and the CPU recovers. -/
def groundedTrace : List LifeEvent :=
  LifeEvent.agentTrace [.startCycle ["web"] [busyCpu .warning],
      .reconcile "web" 0, .enqueueNext "web" 0, .finishMinion "web",
      .pop 0, .begin 0 1] ++
    [.restart] ++
    LifeEvent.agentTrace [.startCycle ["web"] [busyCpu .warning],
      .reconcile "web" 30, .enqueueNext "web" 30, .finishMinion "web",
      .pop 0, .begin 0 31, .conclude 0 (.analysis groundedJob) 32,
      .answerPost 0 true 33, .finishDelivery 0 34, .release 0,
      .startCycle ["web"] [], .reconcile "web" 120, .finishMinion "web",
      .startCycle ["web"] [], .reconcile "web" 180, .resolveNext "web" 180,
      .answerResolution "web" true 181, .finishResolution "web" 182,
      .finishMinion "web"]

def testInvestigates (s : AgentState F) : LifeEvent → Bool
  | .cycle (.agent (.conclude n (.analysis analysis) _)) =>
      (s.workers.get? n).all fun job =>
        job.work.firing.anomaly = busyCpu .warning && analysis = groundedJob
  | _ => true

omit [DecidableEq F] in
theorem investigates_of_test (s : AgentState F) (e : LifeEvent)
    (h : testInvestigates s e = true) :
    Investigates asciiData (fun _ => "") ⟨300, 1, true⟩ s e := by
  unfold Investigates
  split
  next n analysis _ =>
    intro job hjob
    rw [testInvestigates, hjob, Option.all_some, Bool.and_eq_true,
      decide_eq_true_eq, decide_eq_true_eq] at h
    rw [h.1, h.2]
    exact investigated_groundedJob
  next => trivial

theorem accepted_alerts_grounded_job :
    ∃ s, exec (lifeStep .plain) AgentState.initial groundedTrace = some s ∧
      s.accepted.length = 2 ∧
      ∀ payload ∈ s.accepted, ShowsGrounded asciiData ⟨300, 1, true⟩ .plain
        groundedTrace payload := by
  have hrun : (exec (lifeStep .plain) AgentState.initial
      groundedTrace).any (fun s => s.accepted.length = 2) = true := by
    decide +kernel
  obtain ⟨s, hs, hlength⟩ := Option.any_eq_true _ _ |>.mp hrun
  exact ⟨s, hs, of_decide_eq_true hlength,
    accepted_alerts_grounded isWord_asciiData_of_isSpace (by decide +kernel) hs
      (everyStep_of_testSteps investigates_of_test (by decide +kernel))⟩

end UyuniAgent.Agent
