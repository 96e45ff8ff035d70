import UyuniAgent.Agent.Coherence

/-!
# Alerts are addressed to their incident

Every alert the agent stores, snapshots or sends carries the fingerprint of
its incident as the label `incident_id`, so the label sets of different
incidents never meet in Alertmanager.
-/

namespace UyuniAgent.Agent

open Incident Queue Transition

variable {F : Type} [DecidableEq F]

/-- A firing alert of the incident. -/
structure AddressedTo (f : F) (payload : AlertPayload F) : Prop where
  incidentId : payload.labels.incidentId = some f
  endsAt : payload.endsAt = none
  severity : ∃ level : AlertSeverity, payload.labels.severity = level.value

/-- A row stores a delivered alert of its incident, or none and no delivery
time. -/
structure RowAddressed (f : F) (row : Row F) : Prop where
  payload : ∀ p, row.payloadJson = some p → AddressedTo f p
  emitted : row.lastEmitted.isSome = row.payloadJson.isSome

/-- A snapshot of the stored alert, taken by `reconcile`. -/
def SnapshotAddressed (f : F) (payload? : Option (AlertPayload F)) : Prop :=
  ∀ p, payload? = some p → AddressedTo f p

/-- The alerts of a job under way. -/
def PhaseAddressed (f : F) (work : InvestigationWork F) :
    JobPhase F → Prop
  | .transitionSent resolution payload =>
      AddressedTo f payload ∧ payload.startsAt = work.firing.startsAt ∧
        ∃ previous, work.firing.previousPayload = some previous ∧
          previous.labels ≠ payload.labels ∧
          resolution.labels = previous.labels ∧ resolution.endsAt.isSome
  | .transitionAnswered payload _ =>
      AddressedTo f payload ∧ payload.startsAt = work.firing.startsAt ∧
        ∃ previous, work.firing.previousPayload = some previous ∧
          previous.labels ≠ payload.labels
  | .firingSent payload | .firingAnswered payload _ =>
      AddressedTo f payload ∧ payload.startsAt = work.firing.startsAt
  | _ => True

/-- The incidents a minion's coroutine has still to act on. -/
def ListAddressed (resolved : List (IncidentRecord F))
    (firing : List (FiringIncident F)) : Prop :=
  (∀ r ∈ resolved, SnapshotAddressed r.fingerprint r.payload) ∧
    ∀ i ∈ firing, SnapshotAddressed i.fingerprint i.previousPayload

def PollAddressed : PollPhase F → Prop
  | .reconciling _ => True
  | .acting resolved firing => ListAddressed resolved firing
  | .resolutionSent incident resolution resolved firing =>
      ListAddressed resolved firing ∧
        ∃ payload, incident.payload = some payload ∧
          AddressedTo incident.fingerprint payload ∧
          resolution.labels = payload.labels ∧ resolution.endsAt.isSome
  | .resolutionAnswered incident _ resolved firing =>
      ListAddressed resolved firing ∧
        ∃ payload, incident.payload = some payload ∧
          AddressedTo incident.fingerprint payload

structure Addressed (s : AgentState F) : Prop where
  row : ∀ f row, s.table.get? f = some row → RowAddressed f row
  pending : ∀ f item, s.queue.pending.get? f = some item →
    SnapshotAddressed f item.payload.firing.previousPayload
  job : ∀ n job, s.workers.get? n = some job →
    SnapshotAddressed job.fingerprint job.work.firing.previousPayload
  phase : ∀ n job, s.workers.get? n = some job →
    PhaseAddressed job.fingerprint job.work job.phase
  poll : ∀ m phase, s.polls.get? m = some phase → PollAddressed phase

/-! ## Rows -/

omit [DecidableEq F] in
theorem RowAddressed.of_continues {f : F} {row row' : Row F}
    (h : RowAddressed f row) (hcontinues : row.Continues row') :
    RowAddressed f row' := by
  constructor
  · rw [hcontinues.payloadJson]
    exact h.payload
  · rw [hcontinues.payloadJson, hcontinues.lastEmitted]
    exact h.emitted

section Rows

variable {cfg : AgentSettings F} {table : Table F}

theorem rowAddressed_reconcile
    {m : String} {anomalies : List Anomaly} {now : ℚ}
    (hkeyed : KeyedBy cfg.store.scheme table)
    (hcarries : ∀ a ∈ anomalies, a.minionId = m)
    (h : ∀ f row, table.get? f = some row → RowAddressed f row)
    {f : F} {row : Row F}
    (hrow : (Incident.reconcile cfg.store table m anomalies now).2.get? f =
      some row) :
    RowAddressed f row := by
  have hcase := reconcile_row hkeyed hcarries now f
  rw [hrow] at hcase
  generalize hbefore : table.get? f = row₀? at hcase
  cases hcase with
  | continues row₀ _ hcontinues =>
      exact (h f row₀ hbefore).of_continues hcontinues
  | opened _ anomaly _ _ => exact ⟨by simp [Row.opened], rfl⟩

theorem rowAddressed_markResolved {fingerprint : F} {now : ℚ}
    (h : ∀ f row, table.get? f = some row → RowAddressed f row)
    {f : F} {row : Row F}
    (hrow : (markResolved table fingerprint now).get? f = some row) :
    RowAddressed f row := by
  by_cases hf : f = fingerprint
  · subst hf
    obtain ⟨-, row₀, hrow₀, -, -, hpayload, hemitted, -⟩ :=
      markResolved_get?_self hrow
    have haddressed := h f row₀ hrow₀
    constructor
    · rw [hpayload]
      exact haddressed.payload
    · rw [hpayload, hemitted]
      exact haddressed.emitted
  · rw [markResolved_get?_of_ne hf] at hrow
    exact h f row hrow

theorem rowAddressed_markEmitted {fingerprint : F} {now : ℚ}
    {payload : AlertPayload F} {m : String} {g : Rfc3339}
    (hopen : OpenAs table m fingerprint g)
    (hpayload : AddressedTo fingerprint payload)
    (h : ∀ f row, table.get? f = some row → RowAddressed f row)
    {f : F} {row : Row F}
    (hrow : (markEmitted table fingerprint payload now (some g)).get? f =
      some row) :
    RowAddressed f row := by
  by_cases hf : f = fingerprint
  · subst hf
    obtain ⟨row₀, -, -, -, -, hafter⟩ :=
      markEmitted_get?_self hopen payload now
    obtain rfl := Option.some.inj (hafter.symm.trans hrow)
    refine ⟨?_, rfl⟩
    intro p hp
    obtain rfl := Option.some.inj hp
    exact hpayload
  · rw [markEmitted_get?_of_ne hf] at hrow
    exact h f row hrow

end Rows

/-! ## Jobs -/

theorem phaseAddressed_begin {cfg : AgentSettings F} {f : F} {job : Job F}
    {table : Table F} {now : ℚ} :
    PhaseAddressed f job.work (job.begin cfg table now) := by
  simp only [Job.begin]
  split
  · trivial
  · split <;> trivial

omit [DecidableEq F] in
theorem addressedTo_payload {f : F} {job : Job F}
    (hf : job.work.firing.fingerprint = f) (analysis : RootCauseAnalysis) :
    AddressedTo f (job.payload analysis) ∧
      (job.payload analysis).startsAt = job.work.firing.startsAt := by
  subst hf
  exact ⟨⟨rfl, rfl, _, rfl⟩, rfl⟩

theorem phaseAddressed_conclude {f : F} {job : Job F} {table : Table F}
    {result : InvestigationResult} {now : ℚ}
    (hf : job.work.firing.fingerprint = f) :
    PhaseAddressed f job.work (job.conclude table result now) := by
  rcases result with analysis | _ | _
  · simp only [Job.conclude]
    obtain ⟨haddressed, hstarts⟩ := addressedTo_payload hf analysis
    split
    · split
      · exact ⟨haddressed, hstarts⟩
      next previous hprevious =>
        split
        · exact ⟨haddressed, hstarts⟩
        next hlabels =>
          exact ⟨haddressed, hstarts, previous, hprevious, hlabels, rfl, rfl⟩
    · trivial
  · trivial
  · trivial

theorem phaseAddressed_afterTransition {f : F} {job : Job F}
    {table : Table F} {payload : AlertPayload F} {accepted : Bool}
    (hphase : PhaseAddressed f job.work (.transitionAnswered payload accepted)) :
    PhaseAddressed f job.work (job.afterTransition table payload accepted) := by
  obtain ⟨haddressed, hstarts, -⟩ := hphase
  simp only [Job.afterTransition]
  split
  · split
    · exact ⟨haddressed, hstarts⟩
    · trivial
  · trivial

namespace Addressed

variable {cfg : AgentSettings F} {s s' : AgentState F}

theorem initial : Addressed (AgentState.initial : AgentState F) := by
  refine ⟨?_, ?_, ?_, ?_, ?_⟩
  · intro f row hrow
    cases hrow
  · intro f item hitem
    cases hitem
  · intro n job hjob
    cases hjob
  · intro n job hjob
    cases hjob
  · intro m phase hphase
    cases hphase

theorem setJob (h : Addressed s) {n : ℕ} {job : Job F} {phase : JobPhase F}
    (hjob : s.workers.get? n = some job)
    (hphase : PhaseAddressed job.fingerprint job.work phase) :
    Addressed (s.setJob n job phase) := by
  refine ⟨h.row, h.pending, ?_, ?_, h.poll⟩
  · exact OrderedDict.forall_set h.job (h.job n job hjob)
  · exact OrderedDict.forall_set h.phase hphase

theorem setPoll (h : Addressed s) {m : String} {phase : PollPhase F}
    (hphase : PollAddressed phase) :
    Addressed { s with polls := s.polls.set m phase } :=
  ⟨h.row, h.pending, h.job, h.phase, OrderedDict.forall_set h.poll hphase⟩

theorem setTable (h : Addressed s) {table : Table F}
    (hrow : ∀ f row, table.get? f = some row → RowAddressed f row) :
    Addressed { s with table := table } :=
  ⟨hrow, h.pending, h.job, h.phase, h.poll⟩

theorem setAlertmanager (h : Addressed s) (posts : List (AcceptedPost F)) :
    Addressed { s with alertmanager := posts } :=
  ⟨h.row, h.pending, h.job, h.phase, h.poll⟩

/-- What `reconcile` reports carries the stored alerts. -/
theorem report (h : Coherent cfg s) (ha : Addressed s) {m : String}
    {anomalies : List Anomaly}
    (hpoll : s.polls.get? m = some (.reconciling anomalies)) (now : ℚ) :
    let report := Incident.reconcile cfg.store s.table m anomalies now
    (∀ f row, report.2.get? f = some row → RowAddressed f row) ∧
      ListAddressed report.1.resolved report.1.firing := by
  have hcarries : ∀ a ∈ anomalies, a.minionId = m := h.poll_open m _ hpoll
  have hrows : ∀ f row,
      (Incident.reconcile cfg.store s.table m anomalies now).2.get? f =
        some row → RowAddressed f row := fun f row hrow =>
    rowAddressed_reconcile h.keyed hcarries ha.row hrow
  refine ⟨hrows, ?_, ?_⟩
  · intro r hr p hp
    obtain ⟨row, hrow, -, -, -, hpayload⟩ := open_of_mem_resolved hr
    exact (hrows _ row hrow).payload p (hpayload.trans hp)
  · intro i hi p hp
    obtain ⟨row, hrow, -, -, -, hpayload⟩ :=
      open_of_mem_firing h.keyed hcarries hi
    exact (hrows _ row hrow).payload p (hpayload.trans hp)

omit [DecidableEq F] in
theorem tail {incident : IncidentRecord F} {resolved : List (IncidentRecord F)}
    {firing : List (FiringIncident F)}
    (h : ListAddressed (incident :: resolved) firing) :
    ListAddressed resolved firing :=
  ⟨fun r hr => h.1 r (List.mem_cons_of_mem incident hr), h.2⟩

theorem erasePoll (h : Addressed s) (m : String) :
    Addressed { s with polls := s.polls.erase m } :=
  ⟨h.row, h.pending, h.job, h.phase, OrderedDict.forall_erase h.poll⟩

theorem setQueue (h : Addressed s)
    {queue : InvestigationQueue F (InvestigationWork F)}
    (hpending : ∀ f item, queue.pending.get? f = some item →
      SnapshotAddressed f item.payload.firing.previousPayload) :
    Addressed { s with queue := queue } :=
  ⟨h.row, hpending, h.job, h.phase, h.poll⟩

theorem cancel (h : Addressed s) (f : F) :
    Addressed { s with queue := (s.queue.cancel f).2 } := by
  apply h.setQueue
  intro f' item hitem
  rw [InvestigationQueue.pending_cancel] at hitem
  split at hitem
  · cases hitem
  · exact h.pending f' item hitem

/-- What is queued carries the snapshot of its report. -/
theorem enqueue (h : Addressed s) {incident : FiringIncident F}
    (hincident : SnapshotAddressed incident.fingerprint
      incident.previousPayload) (severity : String) (now : ℚ) :
    Addressed { s with
      queue := (s.queue.enqueue cfg.queue incident.fingerprint severity
        ⟨incident, now⟩).2 } := by
  apply h.setQueue
  intro f item hitem
  rcases InvestigationQueue.pending_enqueue_cases hitem with
    hold | ⟨rfl, -, hpayload⟩
  · exact h.pending f item hold
  · rw [hpayload]
    exact hincident

/-- A popped job carries the snapshot of its item. -/
theorem pop (h : Coherent cfg s) (ha : Addressed s) {n : ℕ}
    {item : QueueItem F (InvestigationWork F)}
    {queue : InvestigationQueue F (InvestigationWork F)}
    (hnext : s.queue.next = some (item, queue)) :
    Addressed { s with
      queue := queue
      workers := s.workers.set n
        ⟨item.fingerprint, item.payload, .popped⟩ } := by
  obtain ⟨-, hmem, -⟩ := h.queue.next hnext
  obtain ⟨-, hpending⟩ := InvestigationQueue.next_eq_some hnext
  have hitem := (h.queue.mem_heap_iff item).mp hmem
  refine ⟨ha.row, ?_, ?_, ?_, ha.poll⟩
  · intro f item' hitem'
    rw [hpending] at hitem'
    split at hitem'
    · cases hitem'
    · exact ha.pending f item' hitem'
  · exact OrderedDict.forall_set ha.job (ha.pending _ item hitem)
  · exact OrderedDict.forall_set ha.phase trivial

theorem eraseWorker (h : Addressed s) (n : ℕ) :
    Addressed { s with workers := s.workers.erase n } :=
  ⟨h.row, h.pending, OrderedDict.forall_erase h.job,
    OrderedDict.forall_erase h.phase, h.poll⟩

theorem step (h : Coherent cfg s) (ha : Addressed s) {e : AgentEvent}
    (hstep : agentStep cfg s e = some s') : Addressed s' := by
  rcases e with ⟨minions, anomalies⟩ | ⟨m, now⟩ | ⟨m, now⟩ |
    ⟨m, accepted, now⟩ | ⟨m, now⟩ | ⟨m, now⟩ | m | n | ⟨n, now⟩ |
    ⟨n, result, now⟩ | ⟨n, accepted, now⟩ | n | ⟨n, now⟩ | n
  · obtain ⟨-, -, rfl⟩ := step_startCycle hstep
    refine ⟨ha.row, ha.pending, ha.job, ha.phase, ?_⟩
    intro m phase hphase
    obtain rfl := startPolls_get? hphase
    trivial
  · obtain ⟨anomalies, hpoll, rfl⟩ := step_reconcile hstep
    obtain ⟨hrows, hlist⟩ := report h ha hpoll now
    exact (ha.setTable hrows).setPoll hlist
  · obtain ⟨incident, resolved, firing, hpoll, hcases⟩ :=
      step_resolveNext hstep
    have hlist : ListAddressed (incident :: resolved) firing := ha.poll m _ hpoll
    have hcancelled := ha.cancel incident.fingerprint
    rcases hcases with ⟨-, rfl⟩ | ⟨-, -, rfl⟩ | ⟨-, payload, hpayload, rfl⟩
    · exact hcancelled.setPoll (tail hlist)
    · exact (hcancelled.setTable fun f row hrow =>
        rowAddressed_markResolved ha.row hrow).setPoll (tail hlist)
    · have haddressed := hlist.1 incident List.mem_cons_self payload hpayload
      exact hcancelled.setPoll
        ⟨tail hlist, payload, hpayload, haddressed, rfl, rfl⟩
  · obtain ⟨incident, resolution, resolved, firing, hpoll, rfl⟩ :=
      step_answerResolution hstep
    obtain ⟨hlist, payload, hpayload, haddressed, -⟩ := ha.poll m _ hpoll
    have hphase : PollAddressed
        (.resolutionAnswered incident accepted resolved firing) :=
      ⟨hlist, payload, hpayload, haddressed⟩
    exact (ha.setPoll hphase).setAlertmanager _
  · obtain ⟨incident, accepted, resolved, firing, hpoll, rfl⟩ :=
      step_finishResolution hstep
    obtain ⟨hlist, -⟩ := ha.poll m _ hpoll
    rcases accepted with _ | _
    · exact ha.setPoll hlist
    · exact (ha.setTable fun f row hrow =>
        rowAddressed_markResolved ha.row hrow).setPoll hlist
  · obtain ⟨incident, firing, hpoll, rfl⟩ := step_enqueueNext hstep
    obtain ⟨hresolved, hfiring⟩ : ListAddressed [] (incident :: firing) :=
      ha.poll m _ hpoll
    have hincident := hfiring incident List.mem_cons_self
    have hrest : ListAddressed [] firing :=
      ⟨hresolved, fun i hi => hfiring i (List.mem_cons_of_mem incident hi)⟩
    exact (ha.enqueue hincident _ now).setPoll hrest
  · obtain ⟨-, rfl⟩ := step_finishMinion hstep
    exact ha.erasePoll m
  · obtain ⟨-, item, queue, hnext, rfl⟩ := step_pop hstep
    exact pop h ha hnext
  · obtain ⟨job, hjob, -, rfl⟩ := step_begin hstep
    exact ha.setJob hjob phaseAddressed_begin
  · obtain ⟨job, hjob, -, rfl⟩ := step_conclude hstep
    exact ha.setJob hjob (phaseAddressed_conclude (h.job_open n job hjob).1)
  · obtain ⟨job, hjob, hcases⟩ := step_answerPost hstep
    have hphase := ha.phase n job hjob
    rcases hcases with ⟨resolution, payload, hsent, rfl⟩ | ⟨payload, hsent, rfl⟩
    · rw [hsent] at hphase
      obtain ⟨haddressed, hstarts, previous, hprevious, hlabels, -⟩ := hphase
      have hanswered : PhaseAddressed job.fingerprint job.work
          (.transitionAnswered payload accepted) :=
        ⟨haddressed, hstarts, previous, hprevious, hlabels⟩
      exact (ha.setJob hjob hanswered).setAlertmanager _
    · rw [hsent] at hphase
      have hanswered : PhaseAddressed job.fingerprint job.work
          (.firingAnswered payload accepted) := hphase
      exact (ha.setJob hjob hanswered).setAlertmanager _
  · obtain ⟨job, payload, accepted, hjob, hanswered, rfl⟩ :=
      step_finishTransition hstep
    have hphase := ha.phase n job hjob
    rw [hanswered] at hphase
    exact ha.setJob hjob (phaseAddressed_afterTransition hphase)
  · obtain ⟨job, payload, hjob, hcases⟩ := step_finishDelivery hstep
    rcases hcases with ⟨hanswered, rfl⟩ | ⟨-, rfl⟩
    · have hphase := ha.phase n job hjob
      rw [hanswered] at hphase
      obtain ⟨hf, m, hopen⟩ := h.job_open n job hjob
      rw [hf]
      exact ((ha.setTable fun f row hrow =>
        rowAddressed_markEmitted hopen hphase.1 ha.row hrow).setAlertmanager
          _).setJob hjob trivial
    · exact ha.setJob hjob trivial
  · obtain ⟨job, outcome, hjob, -, rfl⟩ := step_release hstep
    exact (ha.eraseWorker n).setQueue ha.pending

end Addressed

/-- Both invariants together, as one invariant of the run. -/
structure WellFormed (cfg : AgentSettings F) (s : AgentState F) : Prop where
  coherent : Coherent cfg s
  addressed : Addressed s

namespace WellFormed

variable {cfg : AgentSettings F} {s s' : AgentState F}

theorem initial : WellFormed cfg (AgentState.initial : AgentState F) :=
  ⟨Coherent.initial, Addressed.initial⟩

theorem step (h : WellFormed cfg s) {e : AgentEvent}
    (hstep : agentStep cfg s e = some s') : WellFormed cfg s' :=
  ⟨h.coherent.step hstep, Addressed.step h.coherent h.addressed hstep⟩

end WellFormed

end UyuniAgent.Agent
