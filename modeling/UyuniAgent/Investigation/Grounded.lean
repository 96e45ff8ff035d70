import UyuniAgent.Investigation.Firing
import UyuniAgent.Investigation.SelfConsistency
import UyuniAgent.Support.RegexContext

/-!
# Grounded analyses

Whatever an analyzer or the LLM proposes, `ground_analysis` is the last to
touch an analysis before `investigate` returns it.  A confirmed result names
the good evidence that it rests on, any other result claims nothing, and no
result advises a step that the filter for destructive commands would drop.
-/

namespace UyuniAgent.Investigation

open Agent Regex

/-! ## Steps that the filter keeps -/

theorem persists_highRiskRemediation {unicode : UnicodeData}
    (hspaces : ∀ c, PyText.isSpace c = true → unicode.isWord c = false)
    {margin : List Char} (hmargin : ∀ c ∈ margin, PyText.isSpace c = true) :
    Persists unicode margin highRiskRemediation := by
  have hwords : ∀ c ∈ margin, unicode.isWord c = false :=
    fun c hc => hspaces c (hmargin c hc)
  have hinsecure : Persists unicode margin (oneOf
      [sequence [space, lit "-k", alt space textEnd],
        sequence [space, lit "--insecure", boundary]]) := by
    refine persists_oneOf hwords fun pattern hpattern => ?_
    rcases List.mem_cons.mp hpattern with rfl | hpattern
    · exact .seq hwords rfl
        (.seq hwords rfl (persists_space_or_end hmargin).last)
    · obtain rfl := List.mem_singleton.mp hpattern
      exact persists_of_not_asksForEnd hwords rfl
  refine persists_oneOf hwords fun pattern hpattern => ?_
  by_cases hends : pattern.asksForEnd = false
  · exact persists_of_not_asksForEnd hwords hends
  · -- only the pattern of insecure downloads asks for the end of the text
    simp only [List.mem_cons, List.not_mem_nil, or_false] at hpattern
    rcases hpattern with rfl | rfl | rfl | rfl | rfl | rfl | rfl | rfl | rfl |
      rfl | rfl | rfl | rfl
    case inr.inr.inr.inr.inr.inr.inr.inr.inr.inr.inl =>
      exact .seq hwords rfl (.seq hwords rfl hinsecure.last)
    all_goals exact absurd rfl hends

section

variable {unicode : UnicodeData}

theorem safeSteps_safe
    (hspaces : ∀ c, PyText.isSpace c = true → unicode.isWord c = false)
    {steps : List String} {step : String}
    (hstep : step ∈ safeSteps unicode steps) :
    highRiskRemediation.search unicode step = false := by
  obtain ⟨proposed, hproposed, rfl⟩ := List.mem_map.mp hstep
  obtain ⟨-, hkept⟩ := List.mem_filter.mp hproposed
  simp only [Bool.and_eq_true, Bool.not_eq_true'] at hkept
  cases hfound : highRiskRemediation.search unicode (PyText.strip proposed) with
  | false => rfl
  | true =>
      rw [search_of_search_strip hspaces
        (fun _ hmargin => persists_highRiskRemediation hspaces hmargin)
        hfound] at hkept
      cases hkept.2

/-- The steps that `_sanitize_remediation` adds of its own. -/
def fixedSteps : List String :=
  [verifyFingerprintFirst,
    "Restore or refresh the missing evidence and repeat the investigation.",
    "Have an operator validate the affected component before changing " ++
      "service state or data.",
    "Escalate destructive recovery actions for explicit operator approval.",
    "Have an operator validate a safe remediation from the cited evidence."]

theorem fixedSteps_safe {step : String} (hstep : step ∈ fixedSteps) :
    highRiskRemediation.search unicode step = false := by
  have hascii : fixedSteps.all fun step => step.toList.all (·.toNat < 128) := by
    decide +kernel
  have hsafe : fixedSteps.all fun step =>
      !highRiskRemediation.search asciiData step := by
    decide +kernel
  rw [search_congr_of_ascii unicode asciiData]
  · simpa using List.all_eq_true.mp hsafe step hstep
  · intro c hc
    simpa using List.all_eq_true.mp (List.all_eq_true.mp hascii step hstep) c hc

/-- A step of a sanitized remediation was proposed and kept, or is fixed. -/
theorem mem_sanitizeRemediation {steps : List String} {inconclusive : Bool}
    {step : String}
    (hstep : step ∈ sanitizeRemediation unicode steps inconclusive) :
    step ∈ safeSteps unicode steps ∨ step ∈ fixedSteps := by
  rw [sanitizeRemediation] at hstep
  dsimp only at hstep
  generalize hwarned : (if (sshTrustChange.search unicode _ &&
      !fingerprintVerification.search unicode _) = true then
      verifyFingerprintFirst :: safeSteps unicode steps
    else safeSteps unicode steps) = warned at hstep
  have hmem : step ∈ warned →
      step ∈ safeSteps unicode steps ∨ step ∈ fixedSteps := by
    intro h
    rw [← hwarned] at h
    split at h
    · rcases List.mem_cons.mp h with rfl | hsafe
      · exact Or.inr (by simp [fixedSteps])
      · exact Or.inl hsafe
    · exact Or.inl h
  split at hstep
  · refine Or.inr ?_
    simp only [List.mem_cons, List.not_mem_nil, or_false] at hstep
    rcases hstep with rfl | rfl
    · simp [fixedSteps]
    · simp [fixedSteps]
  · generalize hescalated : (if warned.length ≠ _ then
      warned ++ _ else warned) = escalated at hstep
    split at hstep
    · obtain rfl := List.mem_singleton.mp hstep
      exact Or.inr (by simp [fixedSteps])
    · rw [← hescalated] at hstep
      split at hstep
      · rcases List.mem_append.mp hstep with hkept | hadded
        · exact hmem hkept
        · obtain rfl := List.mem_singleton.mp hadded
          exact Or.inr (by simp [fixedSteps])
      · exact hmem hstep

/-- What `_sanitize_remediation` returns has nothing left to drop. -/
theorem sanitizeRemediation_safe
    (hspaces : ∀ c, PyText.isSpace c = true → unicode.isWord c = false)
    (steps : List String) (inconclusive : Bool) :
    ∀ step ∈ sanitizeRemediation unicode steps inconclusive,
      highRiskRemediation.search unicode step = false := by
  intro step hstep
  rcases mem_sanitizeRemediation hstep with hsafe | hfixed
  · exact safeSteps_safe hspaces hsafe
  · exact fixedSteps_safe hfixed

variable (unicode) in
theorem sanitizeRemediation_ne_nil (steps : List String)
    (inconclusive : Bool) :
    sanitizeRemediation unicode steps inconclusive ≠ [] := by
  have hkept : ∀ (kept : List String) (advice : String),
      (if kept.isEmpty then [advice] else kept) ≠ [] := by
    intro kept advice
    cases kept with
    | nil => exact List.cons_ne_nil advice []
    | cons step steps => exact List.cons_ne_nil step steps
  rw [sanitizeRemediation]
  cases inconclusive with
  | true => exact List.cons_ne_nil _ _
  | false => exact hkept _ _

end

/-! ## What a result claims -/

section Claims

variable (unicode : UnicodeData) (options : GroundingOptions)
  (ledger : EvidenceLedger) (now : ℚ) (result : RootCauseAnalysis)

/-- A confirmed result and the records that it rests on. -/
structure Proven : Prop where
  distinct : result.supportingEvidenceIds.Nodup
  enough : max 1 options.minimumSupportingRecords ≤
    (result.supportingEvidenceIds.length : ℤ)
  good : ∀ id ∈ result.supportingEvidenceIds,
    IsGoodSupport options ledger now result.supportingEvidenceIds id
  cited : ∃ id ∈ result.supportingEvidenceIds,
    id ∈ citedEvidenceIds unicode result.rootCause
  nothingElse : ∀ id ∈ citedEvidenceIds unicode result.rootCause,
    id ∈ ledger.ids → id ∈ result.supportingEvidenceIds
  bulleted : result.keyEvidence ≠ []
  bullets : ∀ item ∈ result.keyEvidence, ∃ id ∈ result.supportingEvidenceIds,
    id ∈ citedEvidenceIds unicode item

/-- A result that claims nothing: it repeats what was collected. -/
structure Undecided : Prop where
  component : result.affectedComponent = "unknown"
  rootCause : ∃ reason, result.rootCause =
    "The investigation is inconclusive because " ++ reason ++ "."
  confidence : result.confidence ≤ 3 / 10
  repeated : ∃ records : List EvidenceRecord,
    records.Sublist ledger.records ∧
    result.supportingEvidenceIds = records.map (·.id) ∧
      result.keyEvidence = records.map citedSummary

/-- The result of an investigation with this ledger. -/
structure Grounded : Prop where
  confirmed : result.conclusion = .confirmed →
    Proven unicode options ledger now result
  inconclusive : result.conclusion = .inconclusive → Undecided ledger result
  advised : result.remediation ≠ []
  safe : ∀ step ∈ result.remediation,
    highRiskRemediation.search unicode step = false

end Claims

section

variable {unicode : UnicodeData} {options : GroundingOptions}
  {analysis : RootCauseAnalysis} {ledger : EvidenceLedger} {now : ℚ}

theorem Confirms.proven (h : Confirms unicode options analysis ledger now) :
    Proven unicode options ledger now
      { analysis with
        supportingEvidenceIds := supporting analysis ledger
        keyEvidence := (groundedBullets unicode analysis ledger).take 3
        remediation :=
          sanitizeRemediation unicode analysis.remediation false } where
  distinct := nodup_supporting
  enough := by
    have henough := h.enough
    rwa [tooFewSupporting, decide_eq_false_iff_not, not_lt] at henough
  good := fun id hid => h.isGoodSupport hid
  cited := by
    obtain ⟨id, href, hid⟩ := h.cited
    exact ⟨id, hid, (List.mem_filter.mp href).1⟩
  nothingElse := by
    intro id hcited hlisted
    exact h.refs_supporting id
      (List.mem_filter.mpr ⟨hcited, decide_eq_true hlisted⟩)
  bulleted := by
    intro hnone
    rcases List.take_eq_nil_iff.mp hnone with hzero | hnil
    · cases hzero
    · exact h.bulleted hnil
  bullets := by
    intro item hitem
    obtain ⟨-, hcites⟩ := List.mem_filter.mp (List.mem_of_mem_take hitem)
    obtain ⟨id, hcited, hid⟩ := List.any_eq_true.mp hcites
    exact ⟨id, of_decide_eq_true hid, hcited⟩

theorem fallbackRecords_sublist (ledger : EvidenceLedger) :
    (fallbackRecords ledger).Sublist ledger.records := by
  rw [fallbackRecords]
  refine (List.take_sublist 3 _).trans ?_
  split
  · exact List.Sublist.refl _
  · exact List.filter_sublist

/-- Whatever is proposed, the result of `ground_analysis` is grounded. -/
theorem groundAnalysis_grounded
    (hspaces : ∀ c, PyText.isSpace c = true → unicode.isWord c = false)
    (options : GroundingOptions) (analysis : RootCauseAnalysis)
    (ledger : EvidenceLedger) (now : ℚ) :
    Grounded unicode options ledger now
      (groundAnalysis unicode options analysis ledger now) := by
  rw [groundAnalysis]
  split
  next hconfirmed =>
    have h := confirmable_iff.mp hconfirmed
    refine ⟨fun _ => h.proven, fun hother => ?_,
      sanitizeRemediation_ne_nil unicode analysis.remediation false,
      sanitizeRemediation_safe hspaces analysis.remediation false⟩
    rw [h.conclusion] at hother
    cases hother
  next =>
    refine ⟨fun hother => ?_, fun _ => ?_,
      sanitizeRemediation_ne_nil unicode analysis.remediation true,
      sanitizeRemediation_safe hspaces analysis.remediation true⟩
    · cases hother
    · exact ⟨rfl, ⟨_, rfl⟩, min_le_right _ _, fallbackRecords ledger,
        fallbackRecords_sublist ledger, rfl, rfl⟩

end

/-! ## `investigate` -/

/-- `quality_gates` of the configuration. -/
structure QualityGates where
  maxEvidenceAgeSeconds : ℚ
  minimumSupportingRecords : ℤ
  deterministicAnalysisEnabled : Bool

/-- `_quality_options(config)`, with failed evidence allowed or not. -/
def QualityGates.options (quality : QualityGates) (allowFailed : Bool) :
    GroundingOptions where
  allowFailedEvidence := allowFailed
  maxEvidenceAgeSeconds := quality.maxEvidenceAgeSeconds
  minimumSupportingRecords := quality.minimumSupportingRecords

section Investigate

variable (unicode : UnicodeData) (dumps : EvidenceDetails → String)
  (quality : QualityGates)

/-- The agent and the structuring pass, grounded. -/
def groundedAgent (agent : LlmProvider) (now : ℚ) : LlmProvider :=
  fun anomaly ledger =>
    match agent anomaly ledger with
    | .analysis proposed => .analysis
        (groundAnalysis unicode (quality.options false) proposed ledger now)
    | other => other

/-- `investigate` from the collected evidence on.  An exception of the
deterministic analyzers ends the investigation. -/
def investigateWith (agent : LlmProvider) (anomaly : Anomaly)
    (ledger : EvidenceLedger) (now : ℚ) : InvestigationResult :=
  if anomaly.metricName = "telemetry_unavailable" then
    .analysis (groundAnalysis unicode (quality.options true)
      (telemetryUnavailableAnalysis anomaly ledger) ledger now)
  else if quality.deterministicAnalysisEnabled then
    match tryDeterministicAnalysis unicode dumps anomaly ledger with
    | .error _ => .failed
    | .ok (some analysis) => .analysis
        (groundAnalysis unicode (quality.options false) analysis ledger now)
    | .ok none => groundedAgent unicode quality agent now anomaly ledger
  else groundedAgent unicode quality agent now anomaly ledger

/-- Only the analysis of missing telemetry may rest on failed evidence. -/
def allowsFailed (anomaly : Anomaly) : Bool :=
  anomaly.metricName = "telemetry_unavailable"

/-- Whoever proposes it, an analysis that `investigate` returns is grounded. -/
theorem investigateWith_grounded
    (hspaces : ∀ c, PyText.isSpace c = true → unicode.isWord c = false)
    (agent : LlmProvider) {anomaly : Anomaly} {ledger : EvidenceLedger}
    {now : ℚ} {analysis : RootCauseAnalysis}
    (h : investigateWith unicode dumps quality agent anomaly ledger now =
      .analysis analysis) :
    Grounded unicode (quality.options (allowsFailed anomaly)) ledger now
      analysis := by
  have hground : ∀ proposed allowFailed,
      groundAnalysis unicode (quality.options allowFailed) proposed ledger now =
        analysis → Grounded unicode (quality.options allowFailed) ledger now
          analysis := by
    rintro proposed allowFailed rfl
    exact groundAnalysis_grounded hspaces _ _ _ _
  have hagent : groundedAgent unicode quality agent now anomaly ledger =
      .analysis analysis → Grounded unicode (quality.options false) ledger now
        analysis := by
    intro hresult
    rw [groundedAgent] at hresult
    split at hresult
    · exact hground _ _ (InvestigationResult.analysis.inj hresult)
    next hother => exact absurd hresult (hother _)
  rw [investigateWith] at h
  split at h
  next htelemetry =>
    rw [allowsFailed, decide_eq_true htelemetry]
    exact hground _ _ (InvestigationResult.analysis.inj h)
  next hother =>
    rw [allowsFailed, decide_eq_false hother]
    split at h
    · split at h
      · cases h
      · exact hground _ _ (InvestigationResult.analysis.inj h)
      · exact hagent h
    · exact hagent h

/-- The analyzers behind `investigate`, when none of them raises. -/
def QualityGates.analyzers (now : ℚ) : Analyzers where
  tryDeterministicAnalysis anomaly ledger :=
    (tryDeterministicAnalysis unicode dumps anomaly ledger).toOption.join
  groundAnalysis analysis ledger :=
    groundAnalysis unicode (quality.options false) analysis ledger now
  groundTelemetryAnalysis analysis ledger :=
    groundAnalysis unicode (quality.options true) analysis ledger now
  deterministicAnalysisEnabled := quality.deterministicAnalysisEnabled

theorem investigateWith_eq_investigate (agent : LlmProvider)
    {anomaly : Anomaly} {ledger : EvidenceLedger} {now : ℚ}
    {found : Option RootCauseAnalysis}
    (hfound : tryDeterministicAnalysis unicode dumps anomaly ledger =
      .ok found) :
    investigateWith unicode dumps quality agent anomaly ledger now =
      investigate (quality.analyzers unicode dumps now)
        (groundedAgent unicode quality agent now) anomaly
        (.collected ledger) := by
  rw [investigateWith, investigate, hfound]
  have hjoin : ((quality.analyzers unicode dumps
      now).tryDeterministicAnalysis anomaly ledger) = found := by
    change (tryDeterministicAnalysis unicode dumps anomaly
      ledger).toOption.join = found
    rw [hfound]
    rfl
  rw [hjoin]
  cases found with
  | none => rfl
  | some analysis => rfl

end Investigate

end UyuniAgent.Investigation
