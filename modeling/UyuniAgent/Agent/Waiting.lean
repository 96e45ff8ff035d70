import UyuniAgent.Agent.Admission

/-!
# Jobs that wait while their checks stay valid

A job that has passed its checks may wait long for a permit of `llm_sem`, while
poll cycles go on.  Its incident cannot be resolved meanwhile, because a worker
holds it, so only two things make its snapshot stale: the time that passes, and
a poll cycle that does not observe the incident.
-/

namespace UyuniAgent.Agent

open Incident Transition

variable {F : Type} [DecidableEq F]

/-- The step reconciles the minion of an open incident without observing the
incident. -/
def CycleEvent.misses (cfg : StoreSettings F) (s : AgentState F) (f : F) :
    CycleEvent → Bool
  | .agent (.reconcile minion _) =>
      match s.polls.get? minion with
      | some (.reconciling anomalies) =>
          (activeRow s.table minion f).isSome &&
            anomalies.all fun a => cfg.scheme.incidentFingerprint a ≠ f
      | _ => false
  | _ => false

/-- The step reconciles a minion's anomalies, and the incident is among
them. -/
def CycleEvent.observes (cfg : StoreSettings F) (s : AgentState F) (f : F) :
    CycleEvent → Bool
  | .agent (.reconcile minion _) =>
      match s.polls.get? minion with
      | some (.reconciling anomalies) =>
          anomalies.any fun a => cfg.scheme.incidentFingerprint a = f
      | _ => false
  | _ => false

/-- How long a job may still wait after its checks. -/
def Job.ageLeft (cfg : AgentSettings F) (job : Job F) (checkedAt : ℚ) : ℚ :=
  cfg.maxJobAgeSeconds - (checkedAt - job.work.detectedAt)

namespace AdmissionState

/-- The job of the worker has passed its checks at that time and is not
started yet. -/
def Waits (s : AdmissionState F) (worker : ℕ) (job : Job F) (checkedAt : ℚ) :
    Prop :=
  s.agent.workers.get? worker = some job ∧
    (s.admissions.get? worker).bind Admission.checkedAt = some checkedAt

def Misses (cfg : AgentSettings F) (f : F) (s : AdmissionState F) :
    AdmissionEvent → Prop
  | .cycle e => e.misses cfg.store s.agent f = true
  | _ => False

def Observes (cfg : AgentSettings F) (f : F) (s : AdmissionState F) :
    AdmissionEvent → Prop
  | .cycle e => e.observes cfg.store s.agent f = true
  | _ => False

/-- Each wait for an investigation ends before the snapshot is too old, and
not after a poll cycle that missed the incident, unless a later one observed
it again. -/
def StartsInTime (cfg : AgentSettings F) (maxLlmCalls : ℕ)
    (trace : List AdmissionEvent) : Prop :=
  ∀ past worker now, past ++ [.start worker now] <+: trace →
    ∀ s s', exec (step cfg) (initial maxLlmCalls) past = some s →
      s.step cfg (.start worker now) = some s' →
      ∀ job checkedAt, s.Waits worker job checkedAt →
        now - checkedAt ≤ job.ageLeft cfg checkedAt ∧
          ¬Unanswered (step cfg) (initial maxLlmCalls) past
            (Misses cfg job.work.firing.fingerprint)
            (Observes cfg job.work.firing.fingerprint)

/-- No wait outlasts the checks: it ends before the snapshot is too old, and
no poll cycle misses the incident meanwhile. -/
def WaitsInTime (cfg : AgentSettings F) (s : AdmissionState F) :
    AdmissionEvent → Prop
  | .cycle e =>
      ∀ worker job checkedAt, s.Waits worker job checkedAt →
        e.misses cfg.store s.agent job.work.firing.fingerprint = false
  | .acquire _ => True
  | .start worker now =>
      ∀ job checkedAt, s.Waits worker job checkedAt →
        now - checkedAt ≤ job.ageLeft cfg checkedAt

end AdmissionState

/-! ## What a poll cycle does to a waiting job -/

/-- No absent cycle is counted for the incident. -/
def Unmissed (table : Table F) (f : F) : Prop :=
  ∀ row, table.get? f = some row → row.consecutiveAbsent = 0

theorem isActionable_iff {table : Table F} {f : F} {startsAt : Rfc3339} :
    isActionable table f startsAt = true ↔
      (∃ m, OpenAs table m f startsAt) ∧ Unmissed table f := by
  rw [isActionable]
  constructor
  · intro h
    split at h
    next => cases h
    next row hrow =>
      simp only [Bool.and_eq_true, decide_eq_true_eq] at h
      obtain ⟨⟨hstarts, hactive⟩, habsent⟩ := h
      refine ⟨⟨row.minionId, row, hrow, hactive, rfl, hstarts⟩, ?_⟩
      intro row' hrow'
      obtain rfl := Option.some.inj (hrow.symm.trans hrow')
      exact habsent
  · rintro ⟨⟨m, row, hrow, hactive, -, hstarts⟩, hunmissed⟩
    rw [hrow]
    simp [hactive, hstarts, hunmissed row hrow]

section

variable {table : Table F} {f : F}

omit [DecidableEq F] in
theorem unmissed_mapValues_iff [DecidableEq F] {g : F → Row F → Row F}
    (hg : ∀ f row, (g f row).consecutiveAbsent = row.consecutiveAbsent) :
    Unmissed (table.mapValues g) f ↔ Unmissed table f := by
  unfold Unmissed
  rw [OrderedDict.get?_mapValues]
  rcases table.get? f with _ | row
  · simp
  · simp [hg]

theorem unmissed_markResolved_iff (fingerprint : F) (now : ℚ) :
    Unmissed (markResolved table fingerprint now) f ↔ Unmissed table f := by
  refine unmissed_mapValues_iff ?_
  intro f row
  split
  · rfl
  · rfl

theorem unmissed_markEmitted_iff (fingerprint : F) (payload : AlertPayload F)
    (now : ℚ) (startsAt : Option Rfc3339) :
    Unmissed (markEmitted table fingerprint payload now startsAt) f ↔
      Unmissed table f := by
  refine unmissed_mapValues_iff ?_
  intro f row
  split
  · rfl
  · rfl

/-- A reconciliation forgets the absent cycles of what it observes, and counts
one for the other open incidents of its minion. -/
theorem unmissed_reconcile_iff {cfg : StoreSettings F} {minion : String}
    {anomalies : List Anomaly} {now : ℚ} :
    Unmissed (reconcile cfg table minion anomalies now).2 f ↔
      (∃ anomaly ∈ anomalies, cfg.scheme.incidentFingerprint anomaly = f) ∨
        activeRow table minion f = none ∧ Unmissed table f := by
  rw [← preferMoreSevere_get?_isSome_iff]
  rcases hanomaly : (preferMoreSevere cfg anomalies).get? f with _ | anomaly
  · rcases hrow : table.get? f with _ | row
    · simp [Unmissed, reconcile_get?, hanomaly, hrow, reconciledRow, activeRow]
    · by_cases hmine : row.activeFor minion = true
      · simp [Unmissed, reconcile_get?, hanomaly, hrow, reconciledRow,
          activeRow, hmine]
      · simp [Unmissed, reconcile_get?, hanomaly, hrow, reconciledRow,
          activeRow, hmine]
  · refine iff_of_true ?_ (Or.inl rfl)
    intro row' hrow'
    rw [reconcile_get?, hanomaly] at hrow'
    exact (reconciledRow_observed hrow').1

end

section

variable {cfg : AgentSettings F} {s s' : AgentState F} {e : CycleEvent}

/-- Only a cycle that looks for the incident changes whether it is missed. -/
theorem unmissed_step_iff {f : F} (hstep : cycleStep cfg s e = some s') :
    Unmissed s'.table f ↔
      e.misses cfg.store s f = false ∧
        (e.observes cfg.store s f = true ∨ Unmissed s.table f) := by
  have hquiet (hmisses : e.misses cfg.store s f = false)
      (hobserves : e.observes cfg.store s f = false)
      (hkept : Unmissed s'.table f ↔ Unmissed s.table f) :
      Unmissed s'.table f ↔
        e.misses cfg.store s f = false ∧
          (e.observes cfg.store s f = true ∨ Unmissed s.table f) := by
    simp [hmisses, hobserves, hkept]
  rcases e with e | minion | ⟨minion, now⟩ | ⟨worker, analysis, now⟩ |
    ⟨worker, cancelled⟩ | worker | _
  case agent =>
    change agentStep cfg s e = some s' at hstep
    rcases e with _ | ⟨minion, now⟩ | _ | _ | _ | _ | _ | _ | _ | _ | _ | _ |
      _ | _
    case reconcile =>
      obtain ⟨anomalies, hpoll, rfl⟩ := step_reconcile hstep
      rw [unmissed_reconcile_iff]
      by_cases hobserved : ∃ anomaly ∈ anomalies,
          cfg.store.scheme.incidentFingerprint anomaly = f
      · have hmisses : CycleEvent.misses cfg.store s f
            (.agent (.reconcile minion now)) = false := by
          simpa [CycleEvent.misses, hpoll] using fun _ => hobserved
        have hobserves : CycleEvent.observes cfg.store s f
            (.agent (.reconcile minion now)) = true := by
          simpa [CycleEvent.observes, hpoll] using hobserved
        simp [hobserved, hmisses, hobserves]
      · have hmisses : CycleEvent.misses cfg.store s f
            (.agent (.reconcile minion now)) = false ↔
              activeRow s.table minion f = none := by
          rcases hactive : activeRow s.table minion f with _ | row
          · simp [CycleEvent.misses, hpoll, hactive]
          · simpa [CycleEvent.misses, hpoll, hactive] using hobserved
        have hobserves : CycleEvent.observes cfg.store s f
            (.agent (.reconcile minion now)) = false := by
          simpa [CycleEvent.observes, hpoll] using hobserved
        rw [hmisses]
        simp [hobserved, hobserves]
    all_goals refine hquiet rfl rfl ?_
    case startCycle =>
      obtain ⟨-, -, rfl⟩ := step_startCycle hstep
      rfl
    case resolveNext =>
      obtain ⟨_, _, _, -, ⟨-, rfl⟩ | ⟨-, -, rfl⟩ | ⟨-, _, -, rfl⟩⟩ :=
        step_resolveNext hstep
      · rfl
      · exact unmissed_markResolved_iff _ _
      · rfl
    case answerResolution =>
      obtain ⟨_, _, _, _, -, rfl⟩ := step_answerResolution hstep
      rfl
    case finishResolution =>
      obtain ⟨_, accepted, _, _, -, rfl⟩ := step_finishResolution hstep
      rcases accepted with _ | _
      · rfl
      · exact unmissed_markResolved_iff _ _
    case enqueueNext =>
      obtain ⟨_, _, -, rfl⟩ := step_enqueueNext hstep
      rfl
    case finishMinion =>
      obtain ⟨-, rfl⟩ := step_finishMinion hstep
      rfl
    case pop =>
      obtain ⟨-, _, _, -, rfl⟩ := step_pop hstep
      rfl
    case begin =>
      obtain ⟨_, -, -, rfl⟩ := step_begin hstep
      rfl
    case conclude =>
      obtain ⟨_, -, -, rfl⟩ := step_conclude hstep
      rfl
    case answerPost =>
      obtain ⟨_, -, ⟨_, _, -, rfl⟩ | ⟨_, -, rfl⟩⟩ := step_answerPost hstep
      · rfl
      · rfl
    case finishTransition =>
      obtain ⟨_, _, _, -, -, rfl⟩ := step_finishTransition hstep
      rfl
    case finishDelivery =>
      obtain ⟨_, _, -, ⟨-, rfl⟩ | ⟨-, rfl⟩⟩ := step_finishDelivery hstep
      · exact unmissed_markEmitted_iff _ _ _ _
      · rfl
    case release =>
      obtain ⟨_, _, -, -, rfl⟩ := step_release hstep
      rfl
  all_goals refine hquiet rfl rfl ?_
  case abandon =>
    obtain rfl := step_abandon hstep
    rfl
  case resolveDry =>
    obtain ⟨_, _, _, -, ⟨-, rfl⟩ | ⟨-, rfl⟩⟩ := step_resolveDry hstep
    · rfl
    · exact unmissed_markResolved_iff _ _
  case deliverDry =>
    obtain ⟨job, -, rfl⟩ := step_deliverDry hstep
    unfold Job.deliverDry
    split
    · exact unmissed_markEmitted_iff _ _ _ _
    · rfl
  case crash =>
    obtain ⟨_, -, rfl⟩ := step_crash hstep
    rfl
  case lose =>
    obtain rfl := step_lose hstep
    rfl
  case closeQueue =>
    obtain rfl := Option.some.inj hstep
    rfl

/-- The generation of a job stays open, so only a missed cycle changes what
`is_actionable` returns for it. -/
theorem actionable_of_observed (hcoherent : Coherent cfg s) {worker : ℕ}
    {job : Job F} (hjob : s.workers.get? worker = some job)
    (hobserved :
      e.misses cfg.store s job.work.firing.fingerprint = false)
    (hstep : cycleStep cfg s e = some s')
    (hactionable : job.actionable s.table = true) :
    job.actionable s'.table = true := by
  obtain ⟨hfingerprint, -⟩ := hcoherent.job_open worker job hjob
  have hworking : s.Working job.work.firing.fingerprint :=
    Or.inr ⟨worker, job, hjob, hfingerprint.symm⟩
  rw [Job.actionable, isActionable_iff] at hactionable ⊢
  obtain ⟨⟨m, hopen⟩, hunmissed⟩ := hactionable
  exact ⟨⟨m, hcoherent.open_while_working hstep hworking hopen⟩,
    (unmissed_step_iff hstep).mpr ⟨hobserved, Or.inr hunmissed⟩⟩

end

/-! ## The invariant -/

namespace AdmissionState

variable {cfg : AgentSettings F} {s s' : AdmissionState F}

theorem PassesChecks.kept_of_observed {agent agent' : AgentState F}
    {e : CycleEvent} {worker : ℕ} {checkedAt : ℚ}
    (h : PassesChecks cfg agent worker checkedAt)
    (hcoherent : Coherent cfg agent)
    (hleaves : ∀ analysed, e.leaves ≠ some (worker, analysed))
    (hobserved : ∀ job, agent.workers.get? worker = some job →
      e.misses cfg.store agent job.work.firing.fingerprint = false)
    (hstep : cycleStep cfg agent e = some agent') :
    PassesChecks cfg agent' worker checkedAt := by
  obtain ⟨job, hjob, hphase, hage, hactionable⟩ := h
  have hjob' : agent'.workers.get? worker = some job :=
    investigating_kept hjob hphase hleaves hstep
  refine ⟨job, hjob', hphase, hage, ?_⟩
  exact actionable_of_observed hcoherent hjob (hobserved job hjob) hstep
    hactionable

/-- The invariant of the runs in which every job waits in time. -/
structure Waiting (cfg : AgentSettings F) (s : AdmissionState F) : Prop where
  coherent : Coherent cfg s.agent
  checked : s.Checked cfg

theorem Waiting.initial (maxLlmCalls : ℕ) :
    (initial maxLlmCalls : AdmissionState F).Waiting cfg := by
  refine ⟨Coherent.initial, ?_, ?_⟩
  · intro worker admission hadmission
    cases hadmission
  · intro start hstart
    cases hstart

theorem Waiting.step {e : AdmissionEvent} (h : s.Waiting cfg)
    (he : s.WaitsInTime cfg e) (hstep : s.step cfg e = some s') :
    s'.Waiting cfg := by
  obtain ⟨hcoherent, hjobs, hstarts⟩ := h
  rcases e with e | worker | ⟨worker, now⟩
  case cycle =>
    rw [AdmissionState.step, Option.ite_none_right_eq_some] at hstep
    obtain ⟨-, hstep⟩ := hstep
    obtain ⟨agent, hagent, rfl⟩ := Option.map_eq_some_iff.mp hstep
    refine ⟨?_, ?_, ?_⟩
    · rw [agent_advance]
      exact hcoherent.cycleStep hagent
    · intro worker admission hadmission checkedAt hchecked
      rw [agent_advance]
      rcases admissions_advance hadmission with
        ⟨hold, hleaves⟩ | ⟨now, rfl, rfl, hinvestigating⟩
      · have hobserved : ∀ job, s.agent.workers.get? worker = some job →
            e.misses cfg.store s.agent job.work.firing.fingerprint = false := by
          intro job hjob
          refine he worker job checkedAt ⟨hjob, ?_⟩
          rw [hold, Option.bind_some, hchecked]
        have hpasses := hjobs worker admission hold checkedAt hchecked
        exact hpasses.kept_of_observed hcoherent hleaves hobserved hagent
      · obtain rfl := Option.some.inj hchecked
        exact passesChecks_begin hagent hinvestigating
    · rw [FreshStarts, starts_advance]
      exact hstarts
  case acquire =>
    rw [AdmissionState.step] at hstep
    split at hstep
    next checkedAt hwaiting =>
      rw [Option.ite_none_right_eq_some] at hstep
      obtain ⟨-, hs'⟩ := hstep
      obtain rfl := Option.some.inj hs'
      refine ⟨hcoherent, ?_, hstarts⟩
      refine OrderedDict.forall_set hjobs ?_
      intro time htime
      exact hjobs worker _ hwaiting time htime
    next => cases hstep
  case start =>
    rw [AdmissionState.step] at hstep
    split at hstep
    next checkedAt job hadmitted hjob =>
      obtain rfl := Option.some.inj hstep
      refine ⟨hcoherent, ?_, ?_⟩
      · refine OrderedDict.forall_set hjobs ?_
        intro time htime
        cases htime
      · intro start hstart
        rcases List.mem_cons.mp hstart with rfl | hold
        · have hwait : now - checkedAt ≤ job.ageLeft cfg checkedAt := by
            refine he job checkedAt ⟨hjob, ?_⟩
            rw [hadmitted]
            rfl
          obtain ⟨found, hfound, -, -, hactionable⟩ :=
            hjobs worker _ hadmitted checkedAt rfl
          rw [hjob] at hfound
          obtain rfl := Option.some.inj hfound
          refine ⟨?_, hactionable⟩
          rw [Job.ageLeft] at hwait
          linarith
        · exact hstarts start hold
    next => cases hstep

/-- While the wait of each job ends before its snapshot is too old, and no
poll cycle misses its incident meanwhile, no job is investigated on a stale
snapshot. -/
theorem fresh_starts_of_waitsInTime (cfg : AgentSettings F)
    (maxLlmCalls : ℕ) (trace : List AdmissionEvent)
    (hwaits : EveryStep (step cfg) (initial maxLlmCalls) trace
      (WaitsInTime cfg)) :
    EveryState (step cfg) (initial maxLlmCalls) trace (FreshStarts cfg) := by
  have hwaiting := everyState_of_everyStep (Waiting.initial maxLlmCalls)
    (fun _ _ _ h he hstep => h.step he hstep) hwaits
  intro past hpast s hs
  have h : s.Waiting cfg := hwaiting past hpast s hs
  exact h.checked.starts

/-! ## Exactly the jobs that wait in time -/

/-- What holds after every run: an incident has an absent cycle in the store
when the run has missed it since it last observed it. -/
structure Recorded (cfg : AgentSettings F) (maxLlmCalls : ℕ)
    (past : List AdmissionEvent) (s : AdmissionState F) : Prop where
  coherent : Coherent cfg s.agent
  unmissed : ∀ f, Unmissed s.agent.table f ↔
    ¬Unanswered (AdmissionState.step cfg) (AdmissionState.initial maxLlmCalls)
      past (Misses cfg f) (Observes cfg f)

section

variable {maxLlmCalls : ℕ} {past : List AdmissionEvent} {e : AdmissionEvent}

theorem step_cycle {agentEvent : CycleEvent}
    (hstep : s.step cfg (.cycle agentEvent) = some s') :
    cycleStep cfg s.agent agentEvent = some s'.agent ∧
      s'.starts = s.starts := by
  rw [AdmissionState.step, Option.ite_none_right_eq_some] at hstep
  obtain ⟨-, hstep⟩ := hstep
  obtain ⟨agent, hagent, rfl⟩ := Option.map_eq_some_iff.mp hstep
  rw [agent_advance, starts_advance]
  exact ⟨hagent, rfl⟩

theorem step_acquire {worker : ℕ}
    (hstep : s.step cfg (.acquire worker) = some s') :
    s'.agent = s.agent ∧ s'.starts = s.starts := by
  rw [AdmissionState.step] at hstep
  split at hstep
  next =>
    rw [Option.ite_none_right_eq_some] at hstep
    obtain ⟨-, hs'⟩ := hstep
    obtain rfl := Option.some.inj hs'
    exact ⟨rfl, rfl⟩
  next => cases hstep

theorem step_start {worker : ℕ} {now : ℚ}
    (hstep : s.step cfg (.start worker now) = some s') :
    s'.agent = s.agent ∧ ∃ job checkedAt, s.Waits worker job checkedAt ∧
      s'.starts =
        ⟨job.work, now, job.actionable s.agent.table⟩ :: s.starts := by
  rw [AdmissionState.step] at hstep
  split at hstep
  next checkedAt job hadmitted hjob =>
    obtain rfl := Option.some.inj hstep
    refine ⟨rfl, job, checkedAt, ⟨hjob, ?_⟩, rfl⟩
    rw [hadmitted]
    rfl
  next => cases hstep

theorem Recorded.initial :
    Recorded cfg maxLlmCalls [] (AdmissionState.initial maxLlmCalls) := by
  refine ⟨Coherent.initial, ?_⟩
  intro f
  refine iff_of_true ?_ not_unanswered_nil
  intro row hrow
  cases hrow

/-- A step that leaves the agent as it is neither misses an incident nor
observes it. -/
theorem Recorded.of_agent_eq
    (hs : exec (AdmissionState.step cfg) (AdmissionState.initial maxLlmCalls)
      past = some s)
    (h : Recorded cfg maxLlmCalls past s) (hagent : s'.agent = s.agent)
    (hmisses : ∀ f, ¬Misses cfg f s e)
    (hobserves : ∀ f, ¬Observes cfg f s e) :
    Recorded cfg maxLlmCalls (past ++ [e]) s' := by
  refine ⟨hagent ▸ h.coherent, ?_⟩
  intro f
  rw [hagent, unanswered_concat_iff hs, h.unmissed]
  simp [hmisses f, hobserves f]

theorem Recorded.step
    (hs : exec (AdmissionState.step cfg) (AdmissionState.initial maxLlmCalls)
      past = some s)
    (h : Recorded cfg maxLlmCalls past s) (hstep : s.step cfg e = some s') :
    Recorded cfg maxLlmCalls (past ++ [e]) s' := by
  rcases e with e | worker | ⟨worker, now⟩
  case cycle =>
    obtain ⟨hagent, -⟩ := step_cycle hstep
    refine ⟨h.coherent.cycleStep hagent, ?_⟩
    intro f
    rw [unmissed_step_iff hagent, unanswered_concat_iff hs, h.unmissed,
      Misses, Observes, not_or, not_and_not_right, Bool.not_eq_true]
    tauto
  case acquire =>
    obtain ⟨hagent, -⟩ := step_acquire hstep
    exact h.of_agent_eq hs hagent (fun _ => id) (fun _ => id)
  case start =>
    obtain ⟨hagent, -⟩ := step_start hstep
    exact h.of_agent_eq hs hagent (fun _ => id) (fun _ => id)

end

section

variable {maxLlmCalls : ℕ} {trace : List AdmissionEvent}

theorem StartsInTime.of_prefix {past : List AdmissionEvent}
    (h : StartsInTime cfg maxLlmCalls trace) (hpast : past <+: trace) :
    StartsInTime cfg maxLlmCalls past := by
  intro before worker now hbefore
  exact h before worker now (hbefore.trans hpast)

end

/-- A poll cycle queues two incidents, and the jobs of both pass their
checks. -/
def checkedJobs : List AdmissionEvent :=
  [.startCycle ["web"] [failedUnit, busyCpu .critical],
    .reconcile "web" 0, .enqueueNext "web" 0, .enqueueNext "web" 0,
    .finishMinion "web", .pop 0, .pop 1, .begin 0 0, .begin 1 0].map
      fun e => .cycle (.agent e)

/-- While the second job waits for the permit of the first, a poll cycle
observes its incident again. -/
def observedTrace : List AdmissionEvent :=
  checkedJobs ++ [.acquire 0, .start 0 0,
    .cycle (.agent (.startCycle ["web"] [failedUnit, busyCpu .critical])),
    .cycle (.agent (.reconcile "web" 300)),
    .cycle (.agent (.conclude 0 .failed 600)), .acquire 1, .start 1 600]

def testWaitsInTime (cfg : AgentSettings F) (s : AdmissionState F) :
    AdmissionEvent → Bool
  | .cycle e =>
      s.agent.workers.entries.all fun entry =>
        !e.misses cfg.store s.agent entry.2.work.firing.fingerprint
  | .acquire _ => true
  | .start worker now =>
      (s.agent.workers.get? worker).all fun job =>
        ((s.admissions.get? worker).bind Admission.checkedAt).all
          fun checkedAt => now - checkedAt ≤ job.ageLeft cfg checkedAt

theorem waitsInTime_of_test (cfg : AgentSettings F) (s : AdmissionState F)
    (e : AdmissionEvent) (h : s.testWaitsInTime cfg e = true) :
    s.WaitsInTime cfg e := by
  rcases e with e | worker | ⟨worker, now⟩
  · intro worker job checkedAt hwaits
    have hmem := OrderedDict.mem_entries_of_get? hwaits.1
    simpa using List.all_eq_true.mp h _ hmem
  · trivial
  · intro job checkedAt hwaits
    simpa [testWaitsInTime, hwaits.1, hwaits.2] using h

theorem fresh_starts_observedTrace :
    EveryStep (step .plain) (initial 1) observedTrace (WaitsInTime .plain) ∧
      EveryState (step .plain) (initial 1) observedTrace
        (FreshStarts .plain) := by
  have hwaits : EveryStep (step .plain) (initial 1) observedTrace
      (WaitsInTime .plain) :=
    everyStep_of_testSteps (waitsInTime_of_test .plain) (by decide +kernel)
  exact ⟨hwaits, fresh_starts_of_waitsInTime .plain 1 observedTrace hwaits⟩

end AdmissionState

end UyuniAgent.Agent
