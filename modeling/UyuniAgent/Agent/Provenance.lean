import UyuniAgent.Agent.Restarts

/-!
# Where alerts come from

What Alertmanager accepts from the agent can be traced back through the run:
a firing alert is what some investigation returned for an incident that a
reconciliation had reported, for an anomaly that a poll cycle had found before
that; and a resolution ends a firing alert that was accepted before it.  The
alert of a resolution may have passed through the incident store, a snapshot of
a reconciliation and the investigation queue on its way.
-/

namespace UyuniAgent.Agent

open Incident Queue Transition

variable {F : Type} [DecidableEq F]

/-! ## What happened in a run -/

/-- A poll cycle of the run found the anomaly. -/
def FoundInCycle (past : List LifeEvent) (anomaly : Anomaly) : Prop :=
  ∃ minions anomalies,
    LifeEvent.cycle (.agent (.startCycle minions anomalies)) ∈ past ∧
      anomaly ∈ anomalies

/-- A reconciliation of the run reported the incident, for an anomaly that had
been found before. -/
def Reported (cfg : AgentSettings F) (past : List LifeEvent)
    (firing : FiringIncident F) : Prop :=
  ∃ before minion now s anomalies,
    before ++ [LifeEvent.cycle (.agent (.reconcile minion now))] <+: past ∧
      exec (lifeStep cfg) AgentState.initial before = some s ∧
      s.polls.get? minion = some (.reconciling anomalies) ∧
      firing ∈ (Incident.reconcile cfg.store s.table minion anomalies
        now).1.firing ∧
      firing.fingerprint =
        cfg.store.scheme.incidentFingerprint firing.anomaly ∧
      FoundInCycle before firing.anomaly

/-- A worker's investigation of the reported incident returned the analysis. -/
def Concluded (cfg : AgentSettings F) (past : List LifeEvent)
    (firing : FiringIncident F) (analysis : RootCauseAnalysis) : Prop :=
  ∃ before worker now s job,
    before ++ [LifeEvent.cycle
        (.agent (.conclude worker (.analysis analysis) now))] <+: past ∧
      exec (lifeStep cfg) AgentState.initial before = some s ∧
      s.workers.get? worker = some job ∧ job.phase = .investigating ∧
      job.work.firing = firing ∧ Reported cfg before firing

/-- The payload is the alert of a completed investigation. -/
def FromInvestigation (cfg : AgentSettings F) (past : List LifeEvent)
    (payload : AlertPayload F) : Prop :=
  ∃ firing analysis, Concluded cfg past firing analysis ∧
    payload = buildAlertPayload analysis firing.anomaly firing.fingerprint
      firing.startsAt

/-- The firing alert was accepted. -/
def Fired (payloads : List (AlertPayload F)) (payload : AlertPayload F) :
    Prop :=
  payload ∈ payloads ∧ payload.endsAt = none

/-- The payload ends an alert that was accepted. -/
def EndsFired (payloads : List (AlertPayload F)) (resolution : AlertPayload F) :
    Prop :=
  ∃ fired endsAt, Fired payloads fired ∧
    resolution = buildResolvedPayload fired endsAt

/-- Every accepted payload has its origin. -/
structure PostsTraced (cfg : AgentSettings F) (past : List LifeEvent)
    (payloads : List (AlertPayload F)) : Prop where
  firing : ∀ payload ∈ payloads, payload.endsAt = none →
    FromInvestigation cfg past payload
  resolution : ∀ payload older, payload :: older <:+ payloads →
    payload.endsAt.isSome → EndsFired older payload

/-! ## What the coroutines and the store hold -/

/-- A stored alert was accepted. -/
def SnapshotFired (payloads : List (AlertPayload F))
    (stored : Option (AlertPayload F)) : Prop :=
  ∀ payload, stored = some payload → Fired payloads payload

def FiringTraced (cfg : AgentSettings F) (past : List LifeEvent)
    (payloads : List (AlertPayload F)) (firing : FiringIncident F) : Prop :=
  Reported cfg past firing ∧ SnapshotFired payloads firing.previousPayload

def PhaseTraced (cfg : AgentSettings F) (past : List LifeEvent)
    (payloads : List (AlertPayload F)) : JobPhase F → Prop
  | .transitionSent resolution payload =>
      EndsFired payloads resolution ∧ FromInvestigation cfg past payload
  | .transitionAnswered payload _ => FromInvestigation cfg past payload
  | .firingSent payload => FromInvestigation cfg past payload
  | .firingAnswered payload accepted => accepted = true → Fired payloads payload
  | _ => True

def ListTraced (cfg : AgentSettings F) (past : List LifeEvent)
    (payloads : List (AlertPayload F)) (resolved : List (IncidentRecord F))
    (firing : List (FiringIncident F)) : Prop :=
  (∀ r ∈ resolved, SnapshotFired payloads r.payload) ∧
    ∀ i ∈ firing, FiringTraced cfg past payloads i

def PollTraced (cfg : AgentSettings F) (past : List LifeEvent)
    (payloads : List (AlertPayload F)) : PollPhase F → Prop
  | .reconciling anomalies => ∀ a ∈ anomalies, FoundInCycle past a
  | .acting resolved firing => ListTraced cfg past payloads resolved firing
  | .resolutionSent _ resolution resolved firing =>
      EndsFired payloads resolution ∧
        ListTraced cfg past payloads resolved firing
  | .resolutionAnswered _ _ resolved firing =>
      ListTraced cfg past payloads resolved firing

/-- Everything that may still become a POST has its origin. -/
structure HeldTraced (cfg : AgentSettings F) (past : List LifeEvent)
    (payloads : List (AlertPayload F)) (s : AgentState F) : Prop where
  row : ∀ f row, s.table.get? f = some row →
    SnapshotFired payloads row.payloadJson
  pending : ∀ f item, s.queue.pending.get? f = some item →
    FiringTraced cfg past payloads item.payload.firing
  job : ∀ n job, s.workers.get? n = some job →
    FiringTraced cfg past payloads job.work.firing
  phase : ∀ n job, s.workers.get? n = some job →
    PhaseTraced cfg past payloads job.phase
  poll : ∀ m phase, s.polls.get? m = some phase →
    PollTraced cfg past payloads phase

/-! ## What has happened stays so -/

section Mono

variable {cfg : AgentSettings F} {past past' : List LifeEvent}
  {payloads payloads' : List (AlertPayload F)}

theorem FoundInCycle.mono {anomaly : Anomaly} (h : FoundInCycle past anomaly)
    (hpast : past <+: past') : FoundInCycle past' anomaly := by
  obtain ⟨minions, anomalies, hevent, hmem⟩ := h
  exact ⟨minions, anomalies, hpast.subset hevent, hmem⟩

theorem Reported.mono {firing : FiringIncident F} (h : Reported cfg past firing)
    (hpast : past <+: past') : Reported cfg past' firing := by
  obtain ⟨before, minion, now, s, anomalies, hbefore, hrest⟩ := h
  exact ⟨before, minion, now, s, anomalies, hbefore.trans hpast, hrest⟩

theorem FromInvestigation.mono {payload : AlertPayload F}
    (h : FromInvestigation cfg past payload) (hpast : past <+: past') :
    FromInvestigation cfg past' payload := by
  obtain ⟨firing, analysis, hconcluded, hpayload⟩ := h
  obtain ⟨before, worker, now, s, job, hbefore, hrest⟩ := hconcluded
  exact ⟨firing, analysis,
    ⟨before, worker, now, s, job, hbefore.trans hpast, hrest⟩, hpayload⟩

omit [DecidableEq F] in
theorem Fired.mono {payload : AlertPayload F} (h : Fired payloads payload)
    (hsub : payloads ⊆ payloads') : Fired payloads' payload :=
  ⟨hsub h.1, h.2⟩

omit [DecidableEq F] in
theorem EndsFired.mono {payload : AlertPayload F}
    (h : EndsFired payloads payload) (hsub : payloads ⊆ payloads') :
    EndsFired payloads' payload := by
  obtain ⟨fired, endsAt, hfired, hpayload⟩ := h
  exact ⟨fired, endsAt, hfired.mono hsub, hpayload⟩

omit [DecidableEq F] in
theorem SnapshotFired.mono {stored : Option (AlertPayload F)}
    (h : SnapshotFired payloads stored) (hsub : payloads ⊆ payloads') :
    SnapshotFired payloads' stored :=
  fun payload hpayload => (h payload hpayload).mono hsub

theorem FiringTraced.mono {firing : FiringIncident F}
    (h : FiringTraced cfg past payloads firing) (hpast : past <+: past')
    (hsub : payloads ⊆ payloads') : FiringTraced cfg past' payloads' firing :=
  ⟨h.1.mono hpast, h.2.mono hsub⟩

theorem PhaseTraced.mono {phase : JobPhase F}
    (h : PhaseTraced cfg past payloads phase) (hpast : past <+: past')
    (hsub : payloads ⊆ payloads') : PhaseTraced cfg past' payloads' phase := by
  cases phase with
  | transitionSent resolution payload => exact ⟨h.1.mono hsub, h.2.mono hpast⟩
  | transitionAnswered payload accepted =>
      exact FromInvestigation.mono h hpast
  | firingSent payload => exact FromInvestigation.mono h hpast
  | firingAnswered payload accepted =>
      exact fun haccepted => (h haccepted).mono hsub
  | _ => trivial

theorem ListTraced.mono {resolved : List (IncidentRecord F)}
    {firing : List (FiringIncident F)}
    (h : ListTraced cfg past payloads resolved firing) (hpast : past <+: past')
    (hsub : payloads ⊆ payloads') :
    ListTraced cfg past' payloads' resolved firing :=
  ⟨fun r hr => (h.1 r hr).mono hsub, fun i hi => (h.2 i hi).mono hpast hsub⟩

theorem PollTraced.mono {phase : PollPhase F}
    (h : PollTraced cfg past payloads phase) (hpast : past <+: past')
    (hsub : payloads ⊆ payloads') : PollTraced cfg past' payloads' phase := by
  cases phase with
  | reconciling anomalies => exact fun a ha => (h a ha).mono hpast
  | acting resolved firing => exact ListTraced.mono h hpast hsub
  | resolutionSent incident resolution resolved firing =>
      exact ⟨h.1.mono hsub, h.2.mono hpast hsub⟩
  | resolutionAnswered incident accepted resolved firing =>
      exact ListTraced.mono h hpast hsub

theorem HeldTraced.mono {s : AgentState F} (h : HeldTraced cfg past payloads s)
    (hpast : past <+: past') (hsub : payloads ⊆ payloads') :
    HeldTraced cfg past' payloads' s :=
  ⟨fun f row hrow => (h.row f row hrow).mono hsub,
    fun f item hitem => (h.pending f item hitem).mono hpast hsub,
    fun n job hjob => (h.job n job hjob).mono hpast hsub,
    fun n job hjob => (h.phase n job hjob).mono hpast hsub,
    fun m phase hphase => (h.poll m phase hphase).mono hpast hsub⟩

theorem PostsTraced.mono (h : PostsTraced cfg past payloads)
    (hpast : past <+: past') : PostsTraced cfg past' payloads :=
  ⟨fun payload hpayload hends => (h.firing payload hpayload hends).mono hpast,
    h.resolution⟩

end Mono

/-! ## Accepted payloads -/

theorem PostsTraced.cons {cfg : AgentSettings F} {past : List LifeEvent}
    {payloads : List (AlertPayload F)} (h : PostsTraced cfg past payloads)
    {payload : AlertPayload F}
    (hfiring : payload.endsAt = none → FromInvestigation cfg past payload)
    (hresolution : payload.endsAt.isSome → EndsFired payloads payload) :
    PostsTraced cfg past (payload :: payloads) := by
  refine ⟨?_, ?_⟩
  · intro other hother hends
    rcases List.mem_cons.mp hother with rfl | hold
    · exact hfiring hends
    · exact h.firing other hold hends
  · intro other older hsuffix hends
    rcases List.suffix_cons_iff.mp hsuffix with heq | hold
    · cases heq
      exact hresolution hends
    · exact h.resolution other older hold hends

omit [DecidableEq F] in
theorem FromInvestigation.endsAt {cfg : AgentSettings F} [DecidableEq F]
    {past : List LifeEvent} {payload : AlertPayload F}
    (h : FromInvestigation cfg past payload) : payload.endsAt = none := by
  obtain ⟨firing, analysis, -, rfl⟩ := h
  rfl

omit [DecidableEq F] in
theorem EndsFired.endsAt {payloads : List (AlertPayload F)}
    {resolution : AlertPayload F} (h : EndsFired payloads resolution) :
    resolution.endsAt.isSome = true := by
  obtain ⟨fired, endsAt, -, rfl⟩ := h
  rfl

/-! ## Parts of a step -/

namespace HeldTraced

variable {cfg : AgentSettings F} {past : List LifeEvent}
  {payloads : List (AlertPayload F)} {s : AgentState F}

theorem initial :
    HeldTraced cfg past payloads (AgentState.initial : AgentState F) := by
  refine ⟨?_, ?_, ?_, ?_, ?_⟩
  · intro f row hrow
    cases hrow
  · intro f item hitem
    cases hitem
  · intro n job hjob
    cases hjob
  · intro n job hjob
    cases hjob
  · intro m phase hphase
    cases hphase

theorem setJob (h : HeldTraced cfg past payloads s) {n : ℕ} {job : Job F}
    {phase : JobPhase F} (hjob : s.workers.get? n = some job)
    (hphase : PhaseTraced cfg past payloads phase) :
    HeldTraced cfg past payloads (s.setJob n job phase) := by
  refine ⟨h.row, h.pending, ?_, ?_, h.poll⟩
  · exact OrderedDict.forall_set h.job (h.job n job hjob)
  · exact OrderedDict.forall_set h.phase hphase

theorem setPoll (h : HeldTraced cfg past payloads s) {m : String}
    {phase : PollPhase F} (hphase : PollTraced cfg past payloads phase) :
    HeldTraced cfg past payloads { s with polls := s.polls.set m phase } :=
  ⟨h.row, h.pending, h.job, h.phase, OrderedDict.forall_set h.poll hphase⟩

theorem setTable (h : HeldTraced cfg past payloads s) {table : Table F}
    (hrow : ∀ f row, table.get? f = some row →
      SnapshotFired payloads row.payloadJson) :
    HeldTraced cfg past payloads { s with table := table } :=
  ⟨hrow, h.pending, h.job, h.phase, h.poll⟩

theorem setAlertmanager (h : HeldTraced cfg past payloads s)
    (posts : List (AcceptedPost F)) :
    HeldTraced cfg past payloads { s with alertmanager := posts } :=
  ⟨h.row, h.pending, h.job, h.phase, h.poll⟩

theorem setQueue (h : HeldTraced cfg past payloads s)
    {queue : InvestigationQueue F (InvestigationWork F)}
    (hpending : ∀ f item, queue.pending.get? f = some item →
      FiringTraced cfg past payloads item.payload.firing) :
    HeldTraced cfg past payloads { s with queue := queue } :=
  ⟨h.row, hpending, h.job, h.phase, h.poll⟩

theorem cancel (h : HeldTraced cfg past payloads s) (f : F) :
    HeldTraced cfg past payloads { s with queue := (s.queue.cancel f).2 } := by
  apply h.setQueue
  intro f' item hitem
  rw [InvestigationQueue.pending_cancel] at hitem
  split at hitem
  · cases hitem
  · exact h.pending f' item hitem

theorem enqueue (h : HeldTraced cfg past payloads s)
    {incident : FiringIncident F}
    (hincident : FiringTraced cfg past payloads incident) (severity : String)
    (now : ℚ) :
    HeldTraced cfg past payloads { s with
      queue := (s.queue.enqueue cfg.queue incident.fingerprint severity
        ⟨incident, now⟩).2 } := by
  apply h.setQueue
  intro f item hitem
  rcases InvestigationQueue.pending_enqueue_cases hitem with
    hold | ⟨-, -, hpayload⟩
  · exact h.pending f item hold
  · rw [hpayload]
    exact hincident

theorem pop (h : HeldTraced cfg past payloads s) (hc : Coherent cfg s) {n : ℕ}
    {item : QueueItem F (InvestigationWork F)}
    {queue : InvestigationQueue F (InvestigationWork F)}
    (hnext : s.queue.next = some (item, queue)) :
    HeldTraced cfg past payloads { s with
      queue := queue
      workers := s.workers.set n
        ⟨item.fingerprint, item.payload, .popped⟩ } := by
  obtain ⟨-, hmem, -⟩ := hc.queue.next hnext
  obtain ⟨-, hpending⟩ := InvestigationQueue.next_eq_some hnext
  have hitem := (hc.queue.mem_heap_iff item).mp hmem
  refine ⟨h.row, ?_, ?_, ?_, h.poll⟩
  · intro f item' hitem'
    rw [hpending] at hitem'
    split at hitem'
    · cases hitem'
    · exact h.pending f item' hitem'
  · exact OrderedDict.forall_set h.job (h.pending _ item hitem)
  · exact OrderedDict.forall_set h.phase trivial

/-- A reconciliation stores nothing new, and what it reports has its origin
in it. -/
theorem report (h : HeldTraced cfg past payloads s) (hc : Coherent cfg s)
    {m : String} {anomalies : List Anomaly} {now : ℚ}
    (hexec : exec (lifeStep cfg) AgentState.initial past = some s)
    (hpoll : s.polls.get? m = some (.reconciling anomalies)) :
    let report := Incident.reconcile cfg.store s.table m anomalies now
    (∀ f row, report.2.get? f = some row →
        SnapshotFired payloads row.payloadJson) ∧
      ListTraced cfg (past ++ [.cycle (.agent (.reconcile m now))]) payloads
        report.1.resolved report.1.firing := by
  have hcarries : ∀ a ∈ anomalies, a.minionId = m := hc.poll_open m _ hpoll
  have hrows : ∀ f row,
      (Incident.reconcile cfg.store s.table m anomalies now).2.get? f =
        some row → SnapshotFired payloads row.payloadJson := by
    intro f row hrow
    have hcase := reconcile_row hc.keyed hcarries now f
    rw [hrow] at hcase
    generalize hbefore : s.table.get? f = row₀? at hcase
    cases hcase with
    | continues row₀ _ hcontinues =>
        rw [hcontinues.payloadJson]
        exact h.row f row₀ hbefore
    | opened _ anomaly _ _ => exact fun payload hpayload => by cases hpayload
  refine ⟨hrows, ?_, ?_⟩
  · intro r hr
    obtain ⟨row, hrow, -, -, -, hpayload⟩ := open_of_mem_resolved hr
    rw [← hpayload]
    exact hrows _ row hrow
  · intro i hi
    obtain ⟨row, hrow, -, -, -, hpayload⟩ :=
      open_of_mem_firing hc.keyed hcarries hi
    refine ⟨⟨past, m, now, s, anomalies, List.prefix_refl _, hexec, hpoll, hi,
      ?_⟩, ?_⟩
    · obtain ⟨f, anomaly, hobserved, hfiring⟩ := mem_reconcile_firing_iff.mp hi
      obtain ⟨hmem, hf⟩ := mem_of_preferMoreSevere_get? hobserved
      rw [firingFor_fingerprint hfiring, firingFor_anomaly hfiring]
      exact ⟨hf.symm, h.poll m _ hpoll anomaly hmem⟩
    · rw [← hpayload]
      exact hrows _ row hrow

theorem tail {incident : IncidentRecord F} {resolved : List (IncidentRecord F)}
    {firing : List (FiringIncident F)}
    (h : ListTraced cfg past payloads (incident :: resolved) firing) :
    ListTraced cfg past payloads resolved firing :=
  ⟨fun r hr => h.1 r (List.mem_cons_of_mem incident hr), h.2⟩

theorem store (h : HeldTraced cfg past payloads s) (fingerprint : F) (now : ℚ)
    (startsAt : Option Rfc3339) {payload : AlertPayload F}
    (hpayload : Fired payloads payload) :
    HeldTraced cfg past payloads { s with
      table := markEmitted s.table fingerprint payload now startsAt } := by
  apply h.setTable
  intro f row hrow
  rw [markEmitted, OrderedDict.get?_mapValues] at hrow
  obtain ⟨row₀, hrow₀, rfl⟩ := Option.map_eq_some_iff.mp hrow
  split
  · intro other hother
    obtain rfl := Option.some.inj hother
    exact hpayload
  · exact h.row f row₀ hrow₀

theorem resolve (h : HeldTraced cfg past payloads s) (fingerprint : F)
    (now : ℚ) :
    HeldTraced cfg past payloads { s with
      table := markResolved s.table fingerprint now } := by
  apply h.setTable
  intro f row hrow
  by_cases hf : f = fingerprint
  · subst hf
    obtain ⟨-, row₀, hrow₀, -, -, hpayload, -⟩ := markResolved_get?_self hrow
    rw [hpayload]
    exact h.row f row₀ hrow₀
  · rw [markResolved_get?_of_ne hf] at hrow
    exact h.row f row hrow

theorem eraseWorker (h : HeldTraced cfg past payloads s) (n : ℕ) :
    HeldTraced cfg past payloads { s with workers := s.workers.erase n } :=
  ⟨h.row, h.pending, OrderedDict.forall_erase h.job,
    OrderedDict.forall_erase h.phase, h.poll⟩

theorem erasePoll (h : HeldTraced cfg past payloads s) (m : String) :
    HeldTraced cfg past payloads { s with polls := s.polls.erase m } :=
  ⟨h.row, h.pending, h.job, h.phase, OrderedDict.forall_erase h.poll⟩

/-- Only the database survives the process. -/
theorem restarted (h : HeldTraced cfg past payloads s) :
    HeldTraced cfg past payloads s.restarted := by
  have hinitial : HeldTraced cfg past payloads (AgentState.initial (F := F)) :=
    .initial
  exact ⟨h.row, hinitial.pending, hinitial.job, hinitial.phase, hinitial.poll⟩

end HeldTraced

section Phases

variable {cfg : AgentSettings F} {past : List LifeEvent}
  {payloads : List (AlertPayload F)}

theorem phaseTraced_begin {job : Job F} {table : Table F} {now : ℚ} :
    PhaseTraced cfg past payloads (job.begin cfg table now) := by
  simp only [Job.begin]
  split
  · trivial
  · split <;> trivial

/-- The payload of a job has its origin in the end of its investigation. -/
theorem phaseTraced_conclude {s : AgentState F} {n : ℕ} {job : Job F}
    (result : InvestigationResult) (now : ℚ)
    (hexec : exec (lifeStep cfg) AgentState.initial past = some s)
    (hjob : s.workers.get? n = some job) (hphase : job.phase = .investigating)
    (hfiring : FiringTraced cfg past payloads job.work.firing) :
    PhaseTraced cfg (past ++ [.cycle (.agent (.conclude n result now))])
      payloads (job.conclude s.table result now) := by
  rcases result with analysis | _ | _
  · have hfrom : FromInvestigation cfg
        (past ++ [.cycle (.agent (.conclude n (.analysis analysis) now))])
        (job.payload analysis) :=
      ⟨job.work.firing, analysis, ⟨past, n, now, s, job, List.prefix_refl _,
        hexec, hjob, hphase, rfl, hfiring.1⟩, rfl⟩
    simp only [Job.conclude]
    split
    · split
      · exact hfrom
      next previous hprevious =>
        split
        · exact hfrom
        · exact ⟨⟨previous, rfc3339 now, hfiring.2 previous hprevious, rfl⟩,
            hfrom⟩
    · trivial
  · trivial
  · trivial

theorem phaseTraced_afterTransition {job : Job F} {table : Table F}
    {payload : AlertPayload F} {accepted : Bool}
    (h : FromInvestigation cfg past payload) :
    PhaseTraced cfg past payloads
      (job.afterTransition table payload accepted) := by
  simp only [Job.afterTransition]
  split
  · split
    · exact h
    · trivial
  · trivial

end Phases

/-! ## Runs -/

/-- The POSTs of a run, and everything that may become one, have their origin
in the run. -/
structure Traced (cfg : AgentSettings F) (past : List LifeEvent)
    (s : AgentState F) : Prop where
  held : HeldTraced cfg past s.accepted s
  posts : PostsTraced cfg past s.accepted

theorem Traced.answer {cfg : AgentSettings F} {past : List LifeEvent}
    {s s' : AgentState F} (h : Traced cfg past s) {payload : AlertPayload F}
    {accepted : Bool} {now : ℚ}
    (halertmanager : s'.alertmanager = post accepted payload now s.alertmanager)
    (horigin : FromInvestigation cfg past payload ∨
      EndsFired s.accepted payload)
    (hheld : ∀ payloads, s.accepted ⊆ payloads →
      (accepted = true → payload ∈ payloads) →
      HeldTraced cfg past payloads s') :
    Traced cfg past s' := by
  have haccepted : s'.accepted =
      if accepted then payload :: s.accepted else s.accepted := by
    rw [AgentState.accepted, halertmanager, accepted_post]
    rfl
  cases accepted with
  | false =>
      rw [if_neg Bool.false_ne_true] at haccepted
      constructor
      · rw [haccepted]
        exact hheld s.accepted (List.Subset.refl _)
          fun hfalse => absurd hfalse Bool.false_ne_true
      · rw [haccepted]
        exact h.posts
  | true =>
      rw [if_pos rfl] at haccepted
      constructor
      · rw [haccepted]
        exact hheld (payload :: s.accepted) (List.subset_cons_self _ _)
          fun _ => List.mem_cons_self
      · rw [haccepted]
        apply h.posts.cons
        · intro hends
          rcases horigin with hfrom | hresolution
          · exact hfrom
          · have hsome := hresolution.endsAt
            rw [hends] at hsome
            cases hsome
        · intro hends
          rcases horigin with hfrom | hresolution
          · rw [hfrom.endsAt] at hends
            cases hends
          · exact hresolution

theorem Traced.agentStep {cfg : AgentSettings F} {past : List LifeEvent}
    {s s' : AgentState F} {e : AgentEvent}
    (hexec : exec (lifeStep cfg) AgentState.initial past = some s)
    (hc : Coherent cfg s) (h : Traced cfg past s)
    (hstep : Agent.agentStep cfg s e = some s') :
    Traced cfg (past ++ [.cycle (.agent e)]) s' := by
  have hpast : past <+: past ++ [.cycle (.agent e)] :=
    List.prefix_append past _
  have hheld := h.held.mono hpast (List.Subset.refl _)
  have hposts := h.posts.mono hpast
  generalize hpast' : past ++ [LifeEvent.cycle (.agent e)] = past' at hheld hposts ⊢
  have hafter : Traced cfg past' s := ⟨hheld, hposts⟩
  rcases e with ⟨minions, anomalies⟩ | ⟨m, now⟩ | ⟨m, now⟩ |
    ⟨m, accepted, now⟩ | ⟨m, now⟩ | ⟨m, now⟩ | m | n | ⟨n, now⟩ |
    ⟨n, result, now⟩ | ⟨n, accepted, now⟩ | n | ⟨n, now⟩ | n
  · obtain ⟨-, -, rfl⟩ := step_startCycle hstep
    refine ⟨⟨hheld.row, hheld.pending, hheld.job, hheld.phase, ?_⟩, hposts⟩
    intro m phase hphase
    obtain rfl := startPolls_get? hphase
    intro anomaly hmem
    refine ⟨minions, anomalies, ?_, List.mem_of_mem_filter hmem⟩
    rw [← hpast']
    exact List.mem_append_right past List.mem_cons_self
  · obtain ⟨anomalies, hpoll, rfl⟩ := step_reconcile hstep
    obtain ⟨hrows, hlist⟩ := h.held.report hc hexec hpoll
    rw [hpast'] at hlist
    exact ⟨(hheld.setTable hrows).setPoll hlist, hposts⟩
  · obtain ⟨incident, resolved, firing, hpoll, hcases⟩ :=
      step_resolveNext hstep
    have hlist : ListTraced cfg past' s.accepted
        (incident :: resolved) firing := hheld.poll m _ hpoll
    have hcancelled := hheld.cancel incident.fingerprint
    rcases hcases with ⟨-, rfl⟩ | ⟨-, -, rfl⟩ | ⟨-, payload, hpayload, rfl⟩
    · exact ⟨hcancelled.setPoll (HeldTraced.tail hlist), hposts⟩
    · exact ⟨(hcancelled.resolve incident.fingerprint now).setPoll
        (HeldTraced.tail hlist), hposts⟩
    · have hfired := hlist.1 incident List.mem_cons_self payload hpayload
      exact ⟨hcancelled.setPoll ⟨⟨payload, rfc3339 now, hfired, rfl⟩,
        HeldTraced.tail hlist⟩, hposts⟩
  · obtain ⟨incident, resolution, resolved, firing, hpoll, rfl⟩ :=
      step_answerResolution hstep
    obtain ⟨hends, hlist⟩ := hheld.poll m _ hpoll
    refine hafter.answer rfl (Or.inr hends) fun payloads hsub _ => ?_
    have hphase : PollTraced cfg past'
        payloads (.resolutionAnswered incident accepted resolved firing) :=
      hlist.mono (List.prefix_refl _) hsub
    exact ((hheld.mono (List.prefix_refl _) hsub).setPoll
      hphase).setAlertmanager _
  · obtain ⟨incident, accepted, resolved, firing, hpoll, rfl⟩ :=
      step_finishResolution hstep
    have hlist : ListTraced cfg past' s.accepted
        resolved firing := hheld.poll m _ hpoll
    rcases accepted with _ | _
    · exact ⟨hheld.setPoll hlist, hposts⟩
    · exact ⟨(hheld.resolve incident.fingerprint now).setPoll hlist, hposts⟩
  · obtain ⟨incident, firing, hpoll, rfl⟩ := step_enqueueNext hstep
    have hlist : ListTraced cfg past' s.accepted []
        (incident :: firing) := hheld.poll m _ hpoll
    obtain ⟨hresolved, hfiring⟩ := hlist
    have hrest : ListTraced cfg past' s.accepted []
        firing :=
      ⟨hresolved, fun i hi => hfiring i (List.mem_cons_of_mem incident hi)⟩
    exact ⟨(hheld.enqueue (hfiring incident List.mem_cons_self) _ now).setPoll
      hrest, hposts⟩
  · obtain ⟨-, rfl⟩ := step_finishMinion hstep
    exact ⟨⟨hheld.row, hheld.pending, hheld.job, hheld.phase,
      OrderedDict.forall_erase hheld.poll⟩, hposts⟩
  · obtain ⟨-, item, queue, hnext, rfl⟩ := step_pop hstep
    exact ⟨hheld.pop hc hnext, hposts⟩
  · obtain ⟨job, hjob, -, rfl⟩ := step_begin hstep
    exact ⟨hheld.setJob hjob phaseTraced_begin, hposts⟩
  · obtain ⟨job, hjob, hphase, rfl⟩ := step_conclude hstep
    have hconcluded := phaseTraced_conclude result now hexec hjob hphase
      (h.held.job n job hjob)
    rw [hpast'] at hconcluded
    exact ⟨hheld.setJob hjob hconcluded, hposts⟩
  · obtain ⟨job, hjob, hcases⟩ := step_answerPost hstep
    have hphase := hheld.phase n job hjob
    rcases hcases with ⟨resolution, payload, hsent, rfl⟩ | ⟨payload, hsent, rfl⟩
    · rw [hsent] at hphase
      obtain ⟨hends, hfrom⟩ := hphase
      refine hafter.answer rfl (Or.inr hends) fun payloads hsub _ => ?_
      have hanswered : PhaseTraced cfg past'
          payloads (.transitionAnswered payload accepted) := hfrom
      exact ((hheld.mono (List.prefix_refl _) hsub).setJob hjob
        hanswered).setAlertmanager _
    · rw [hsent] at hphase
      have hfrom : FromInvestigation cfg past'
          payload := hphase
      refine hafter.answer rfl (Or.inl hfrom) fun payloads hsub hmem => ?_
      have hanswered : PhaseTraced cfg past'
          payloads (.firingAnswered payload accepted) :=
        fun haccepted => ⟨hmem haccepted, hfrom.endsAt⟩
      exact ((hheld.mono (List.prefix_refl _) hsub).setJob hjob
        hanswered).setAlertmanager _
  · obtain ⟨job, payload, accepted, hjob, hanswered, rfl⟩ :=
      step_finishTransition hstep
    have hphase := hheld.phase n job hjob
    rw [hanswered] at hphase
    exact ⟨hheld.setJob hjob (phaseTraced_afterTransition hphase), hposts⟩
  · obtain ⟨job, payload, hjob, hcases⟩ := step_finishDelivery hstep
    rcases hcases with ⟨hanswered, rfl⟩ | ⟨-, rfl⟩
    · have hphase := hheld.phase n job hjob
      rw [hanswered] at hphase
      have hdone : PhaseTraced cfg past' s.accepted
          (.finished .delivered) := trivial
      have hstored := (hheld.store job.work.firing.fingerprint now
        (some job.work.firing.startsAt) (hphase rfl)).setJob hjob hdone
      constructor
      · rw [AgentState.accepted, accepted_handle]
        exact hstored.setAlertmanager _
      · rw [AgentState.accepted, accepted_handle]
        exact hposts
    · exact ⟨hheld.setJob hjob trivial, hposts⟩
  · obtain ⟨job, outcome, hjob, -, rfl⟩ := step_release hstep
    exact ⟨(hheld.eraseWorker n).setQueue hheld.pending, hposts⟩

theorem Traced.lifeStep {cfg : AgentSettings F} {past : List LifeEvent}
    {s s' : AgentState F} {e : LifeEvent}
    (hexec : exec (Agent.lifeStep cfg) AgentState.initial past = some s)
    (hc : Coherent cfg s) (h : Traced cfg past s) (hlive : e.live = true)
    (hstep : Agent.lifeStep cfg s e = some s') :
    Traced cfg (past ++ [e]) s' := by
  have hpast : past <+: past ++ [e] := List.prefix_append past [e]
  have hheld := h.held.mono hpast (List.Subset.refl _)
  have hposts := h.posts.mono hpast
  rcases e with e | _
  · have hcycle : cycleStep cfg s e = some s' := hstep
    rcases e with e | m | ⟨m, now⟩ | ⟨n, analysis, now⟩ | ⟨n, cancelled⟩ | n | _
    · exact h.agentStep hexec hc hcycle
    · obtain rfl := step_abandon hcycle
      exact ⟨hheld.erasePoll m, hposts⟩
    · cases hlive
    · cases hlive
    · obtain ⟨job, -, rfl⟩ := step_crash hcycle
      rcases cancelled with _ | _
      · exact ⟨(hheld.eraseWorker n).setQueue hheld.pending, hposts⟩
      · exact ⟨(hheld.eraseWorker n).setQueue hheld.pending, hposts⟩
    · obtain rfl := step_lose hcycle
      exact ⟨hheld.eraseWorker n, hposts⟩
    · obtain rfl := Option.some.inj hcycle
      exact ⟨hheld.setQueue hheld.pending, hposts⟩
  · obtain rfl := Option.some.inj hstep
    exact ⟨hheld.restarted, hposts⟩

theorem Traced.of_exec {cfg : AgentSettings F} {trace : List LifeEvent}
    {s : AgentState F} (hlive : ∀ e ∈ trace, e.live = true)
    (hs : exec (Agent.lifeStep cfg) AgentState.initial trace = some s) :
    Traced cfg trace s := by
  have htraced : Coherent cfg s ∧ Traced cfg trace s := by
    refine exec_induction
      (P := fun past s => Coherent cfg s ∧ Traced cfg past s)
      ⟨Coherent.initial, HeldTraced.initial, ?_, ?_⟩ ?_
      (EveryStep.of_forall_mem hlive) hs
    · intro payload hmem
      cases hmem
    · intro payload older hsuffix
      cases List.suffix_nil.mp hsuffix
    · intro past s e s' hexec h hlive hstep
      exact ⟨h.1.lifeStep hstep, h.2.lifeStep hexec h.1 hlive hstep⟩
  exact htraced.2

/-- In every run, whatever becomes of the process and its work, each accepted
firing alert is what an investigation of a reported incident returned, and each
accepted resolution ends a firing alert accepted before it. -/
theorem accepted_alerts_traced {cfg : AgentSettings F}
    {trace : List LifeEvent} {s : AgentState F}
    (hlive : ∀ e ∈ trace, e.live = true)
    (hs : exec (lifeStep cfg) AgentState.initial trace = some s) :
    PostsTraced cfg trace s.accepted :=
  (Traced.of_exec hlive hs).posts

/-- The process ends after the label transition of an escalation, and the new
one delivers the alert and resolves it. -/
def interruptedEscalation : List LifeEvent :=
  LifeEvent.agentTrace (deliveredCpuTrace ++
      [.startCycle ["web"] [busyCpu .critical], .reconcile "web" 60,
        .enqueueNext "web" 60, .finishMinion "web",
        .pop 0, .begin 0 61, .conclude 0 (.analysis openQuestion) 62,
        .answerPost 0 true 63]) ++
    [.restart] ++
    LifeEvent.agentTrace
      [.startCycle ["web"] [busyCpu .critical], .reconcile "web" 90,
        .enqueueNext "web" 90, .finishMinion "web",
        .pop 0, .begin 0 91, .conclude 0 (.analysis openQuestion) 92,
        .answerPost 0 true 93, .finishTransition 0, .answerPost 0 true 94,
        .finishDelivery 0 95, .release 0,
        .startCycle ["web"] [], .reconcile "web" 120, .finishMinion "web",
        .startCycle ["web"] [], .reconcile "web" 180, .resolveNext "web" 180,
        .answerResolution "web" true 181, .finishResolution "web" 182,
        .finishMinion "web"]

theorem accepted_alerts_traced_interrupted :
    ∃ s, exec (lifeStep .plain) AgentState.initial interruptedEscalation =
        some s ∧
      s.accepted.length = 5 ∧
      PostsTraced .plain interruptedEscalation s.accepted := by
  have hrun : (exec (lifeStep .plain) AgentState.initial
      interruptedEscalation).any (fun s => s.accepted.length = 5) = true := by
    decide +kernel
  obtain ⟨s, hs, hlength⟩ := Option.any_eq_true _ _ |>.mp hrun
  exact ⟨s, hs, of_decide_eq_true hlength,
    accepted_alerts_traced (by decide +kernel) hs⟩

end UyuniAgent.Agent
