import UyuniAgent.Agent.System
import UyuniAgent.Incident.Generation

/-!
# Work always belongs to an open generation

Between a worker's pop and its release, and from the moment an incident is
queued, its generation cannot be closed: resolution takes the incident out of
the queue first, and gives up on it while a worker holds it.  The invariant
`Coherent` says this for every reachable state, together with the bookkeeping
it rests on.
-/

namespace UyuniAgent.Agent

open Incident Queue Transition

variable {F : Type} [DecidableEq F]

/-- The work is about the open generation of `f`. -/
def WorkOpen (table : Table F) (f : F) (work : InvestigationWork F) : Prop :=
  work.firing.fingerprint = f ∧
    ∃ m, OpenAs table m f work.firing.startsAt

/-- The incident is neither pending nor held by a worker. -/
def Idle (queue : InvestigationQueue F (InvestigationWork F)) (f : F) : Prop :=
  queue.pending.get? f = none ∧ f ∉ queue.inFlight

/-- The incidents a minion's coroutine has still to act on are distinct open
generations of that minion. -/
structure Listed (table : Table F) (m : String)
    (resolved : List (IncidentRecord F)) (firing : List (FiringIncident F)) :
    Prop where
  nodup : (resolved.map (·.fingerprint) ++ firing.map (·.fingerprint)).Nodup
  resolved_open : ∀ r ∈ resolved, OpenAs table m r.fingerprint r.startsAt
  firing_open : ∀ i ∈ firing, OpenAs table m i.fingerprint i.startsAt

def PollOpen (table : Table F)
    (queue : InvestigationQueue F (InvestigationWork F)) (m : String) :
    PollPhase F → Prop
  | .reconciling anomalies => ∀ a ∈ anomalies, a.minionId = m
  | .acting resolved firing => Listed table m resolved firing
  | .resolutionSent incident _ resolved firing =>
      Listed table m (incident :: resolved) firing ∧
        Idle queue incident.fingerprint
  | .resolutionAnswered incident _ resolved firing =>
      Listed table m (incident :: resolved) firing ∧
        Idle queue incident.fingerprint

structure Coherent (cfg : AgentSettings F) (s : AgentState F) : Prop where
  keyed : KeyedBy cfg.store.scheme s.table
  queue : s.queue.Consistent
  pending_open : ∀ f item, s.queue.pending.get? f = some item →
    WorkOpen s.table f item.payload
  job_inFlight : ∀ n job, s.workers.get? n = some job →
    job.fingerprint ∈ s.queue.inFlight
  job_open : ∀ n job, s.workers.get? n = some job →
    WorkOpen s.table job.fingerprint job.work
  job_unique : ∀ n n' job job', s.workers.get? n = some job →
    s.workers.get? n' = some job' → job.fingerprint = job'.fingerprint → n = n'
  poll_open : ∀ m phase, s.polls.get? m = some phase →
    PollOpen s.table s.queue m phase

/-! ## What the parts of the invariant depend on -/

section Frames

variable {table table' : Table F}
  {queue queue' : InvestigationQueue F (InvestigationWork F)} {m : String}

theorem Listed.tail {incident : IncidentRecord F}
    {resolved : List (IncidentRecord F)} {firing : List (FiringIncident F)}
    (h : Listed table m (incident :: resolved) firing) :
    Listed table m resolved firing := by
  refine ⟨?_, ?_, h.firing_open⟩
  · have hnodup := h.nodup
    rw [List.map_cons, List.cons_append] at hnodup
    exact (List.nodup_cons.mp hnodup).2
  · intro r hr
    exact h.resolved_open r (List.mem_cons_of_mem incident hr)

/-- The incidents after the first one are other incidents. -/
theorem Listed.ne_of_mem {incident : IncidentRecord F}
    {resolved : List (IncidentRecord F)} {firing : List (FiringIncident F)}
    (h : Listed table m (incident :: resolved) firing) {f : F}
    (hf : f ∈ resolved.map (·.fingerprint) ++ firing.map (·.fingerprint)) :
    f ≠ incident.fingerprint := by
  have hnodup := h.nodup
  rw [List.map_cons, List.cons_append] at hnodup
  rintro rfl
  exact (List.nodup_cons.mp hnodup).1 hf

/-- `Listed` only needs the generations it lists to stay open. -/
theorem Listed.mono
    {resolved : List (IncidentRecord F)} {firing : List (FiringIncident F)}
    (h : Listed table m resolved firing)
    (hopen : ∀ f ∈ resolved.map (·.fingerprint) ++ firing.map (·.fingerprint),
      ∀ g, OpenAs table m f g → OpenAs table' m f g) :
    Listed table' m resolved firing := by
  refine ⟨h.nodup, ?_, ?_⟩
  · intro r hr
    exact hopen _ (List.mem_append_left _ (List.mem_map_of_mem hr)) _
      (h.resolved_open r hr)
  · intro i hi
    exact hopen _ (List.mem_append_right _ (List.mem_map_of_mem hi)) _
      (h.firing_open i hi)

theorem PollOpen.mono {phase : PollPhase F}
    (h : PollOpen table queue m phase)
    (hopen : ∀ f g, OpenAs table m f g → OpenAs table' m f g)
    (hidle : ∀ f g, OpenAs table m f g → Idle queue f → Idle queue' f) :
    PollOpen table' queue' m phase := by
  rcases phase with anomalies | ⟨resolved, firing⟩ |
    ⟨incident, resolution, resolved, firing⟩ |
    ⟨incident, accepted, resolved, firing⟩
  · exact h
  · exact Listed.mono h fun f _ g => hopen f g
  · obtain ⟨hlisted, hincident⟩ := h
    exact ⟨hlisted.mono fun f _ g => hopen f g,
      hidle _ _ (hlisted.resolved_open incident List.mem_cons_self) hincident⟩
  · obtain ⟨hlisted, hincident⟩ := h
    exact ⟨hlisted.mono fun f _ g => hopen f g,
      hidle _ _ (hlisted.resolved_open incident List.mem_cons_self) hincident⟩

theorem WorkOpen.mono {f : F} {work : InvestigationWork F}
    (h : WorkOpen table f work)
    (hopen : ∀ m g, OpenAs table m f g → OpenAs table' m f g) :
    WorkOpen table' f work := by
  obtain ⟨hf, m, hm⟩ := h
  exact ⟨hf, m, hopen m _ hm⟩

end Frames

namespace Coherent

variable {cfg : AgentSettings F} {s s' : AgentState F}

theorem initial : Coherent cfg (AgentState.initial : AgentState F) := by
  refine ⟨?_, InvestigationQueue.consistent_initial, ?_, ?_, ?_, ?_, ?_⟩
  · intro f row hrow
    cases hrow
  · intro f item hitem
    cases hitem
  · intro n job hjob
    cases hjob
  · intro n job hjob
    cases hjob
  · intro n n' job job' hjob
    cases hjob
  · intro m phase hphase
    cases hphase

/-- No worker holds an idle incident. -/
theorem not_job_of_idle (h : Coherent cfg s) {f : F} (hidle : Idle s.queue f)
    {n : ℕ} {job : Job F} (hjob : s.workers.get? n = some job) :
    job.fingerprint ≠ f := by
  rintro rfl
  exact hidle.2 (h.job_inFlight n job hjob)

/-- Replacing the phase of a job keeps the invariant. -/
theorem setJob (h : Coherent cfg s) {n : ℕ} {job : Job F}
    (hjob : s.workers.get? n = some job) (phase : JobPhase F) :
    Coherent cfg (s.setJob n job phase) := by
  have hold : ∀ n' job', (s.setJob n job phase).workers.get? n' = some job' →
      ∃ job₀, s.workers.get? n' = some job₀ ∧
        job'.fingerprint = job₀.fingerprint ∧ job'.work = job₀.work := by
    intro n' job' hjob'
    rcases OrderedDict.get?_set_cases hjob' with ⟨rfl, rfl⟩ | ⟨-, hold⟩
    · exact ⟨job, hjob, rfl, rfl⟩
    · exact ⟨job', hold, rfl, rfl⟩
  refine ⟨h.keyed, h.queue, h.pending_open, ?_, ?_, ?_, h.poll_open⟩
  · intro n' job' hjob'
    obtain ⟨job₀, hjob₀, hf, -⟩ := hold n' job' hjob'
    rw [hf]
    exact h.job_inFlight n' job₀ hjob₀
  · intro n' job' hjob'
    obtain ⟨job₀, hjob₀, hf, hwork⟩ := hold n' job' hjob'
    rw [hf, hwork]
    exact h.job_open n' job₀ hjob₀
  · intro n₁ n₂ job₁ job₂ hjob₁ hjob₂ heq
    obtain ⟨job₁', hjob₁', hf₁, -⟩ := hold n₁ job₁ hjob₁
    obtain ⟨job₂', hjob₂', hf₂, -⟩ := hold n₂ job₂ hjob₂
    exact h.job_unique n₁ n₂ job₁' job₂' hjob₁' hjob₂' (by rw [← hf₁, ← hf₂, heq])

/-- Changing a minion's coroutine keeps the invariant if its new phase is in
order. -/
theorem setPoll (h : Coherent cfg s) {m : String} {phase : PollPhase F}
    (hphase : PollOpen s.table s.queue m phase) :
    Coherent cfg { s with polls := s.polls.set m phase } := by
  refine ⟨h.keyed, h.queue, h.pending_open, h.job_inFlight, h.job_open,
    h.job_unique, ?_⟩
  exact OrderedDict.forall_set h.poll_open hphase

/-- A coroutine that is gone keeps the invariant. -/
theorem erasePoll (h : Coherent cfg s) (m : String) :
    Coherent cfg { s with polls := s.polls.erase m } :=
  ⟨h.keyed, h.queue, h.pending_open, h.job_inFlight, h.job_open,
    h.job_unique, OrderedDict.forall_erase h.poll_open⟩

/-- Closing no generation keeps the invariant. -/
theorem setTable (h : Coherent cfg s) {table : Table F}
    (hkeyed : KeyedBy cfg.store.scheme table)
    (hopen : ∀ m f g, OpenAs s.table m f g → OpenAs table m f g) :
    Coherent cfg { s with table := table } := by
  refine ⟨hkeyed, h.queue, ?_, h.job_inFlight, ?_, h.job_unique, ?_⟩
  · intro f item hitem
    exact (h.pending_open f item hitem).mono fun m g => hopen m f g
  · intro n job hjob
    exact (h.job_open n job hjob).mono fun m g => hopen m _ g
  · intro m phase hphase
    exact (h.poll_open m phase hphase).mono (hopen m) fun _ _ _ hidle => hidle

/-- Alertmanager does not matter to the invariant. -/
theorem setAlertmanager (h : Coherent cfg s)
    (posts : List (AcceptedPost F)) :
    Coherent cfg { s with alertmanager := posts } :=
  ⟨h.keyed, h.queue, h.pending_open, h.job_inFlight, h.job_open,
    h.job_unique, h.poll_open⟩

/-- Taking an incident out of the queue keeps the invariant. -/
theorem cancel (h : Coherent cfg s) (f : F) :
    Coherent cfg { s with queue := (s.queue.cancel f).2 } := by
  refine ⟨h.keyed, h.queue.cancel, ?_, ?_, h.job_open, h.job_unique, ?_⟩
  · intro f' item hitem
    rw [InvestigationQueue.pending_cancel] at hitem
    split at hitem
    · cases hitem
    · exact h.pending_open f' item hitem
  · intro n job hjob
    rw [InvestigationQueue.inFlight_cancel]
    exact h.job_inFlight n job hjob
  · intro m phase hphase
    refine (h.poll_open m phase hphase).mono (fun _ _ hopen => hopen) ?_
    rintro f' - - ⟨hpending, hfree⟩
    constructor
    · rw [InvestigationQueue.pending_cancel, hpending, ite_self]
    · rwa [InvestigationQueue.inFlight_cancel]

/-- A cancelled incident that no worker holds is idle. -/
theorem idle_cancel (h : Coherent cfg s) {f : F}
    (hfree : (s.queue.cancel f).1 ≠ .inFlight) :
    Idle (s.queue.cancel f).2 f := by
  refine ⟨by simp [InvestigationQueue.pending_cancel], ?_⟩
  rw [InvestigationQueue.inFlight_cancel]
  intro hin
  exact hfree ((InvestigationQueue.cancel_inFlight_iff h.queue).mpr hin)

/-- Closing an idle generation that its minion's coroutine is done with keeps
the invariant. -/
theorem close (h : Coherent cfg s) {m : String} {now : ℚ}
    {incident : IncidentRecord F} {resolved : List (IncidentRecord F)}
    {firing : List (FiringIncident F)}
    (hlisted : Listed s.table m (incident :: resolved) firing)
    (hidle : Idle s.queue incident.fingerprint) :
    Coherent cfg { s with
      table := markResolved s.table incident.fingerprint now
      polls := s.polls.set m (.acting resolved firing) } := by
  have hincident := hlisted.resolved_open incident List.mem_cons_self
  refine ⟨h.keyed.markResolved, h.queue, ?_, h.job_inFlight, ?_,
    h.job_unique, ?_⟩
  · intro f item hitem
    have hne : f ≠ incident.fingerprint := by
      rintro rfl
      rw [hidle.1] at hitem
      cases hitem
    exact (h.pending_open f item hitem).mono fun _ _ hopen =>
      hopen.markResolved hne
  · intro n job hjob
    have hne := h.not_job_of_idle hidle hjob
    exact (h.job_open n job hjob).mono fun _ _ hopen =>
      hopen.markResolved hne
  · intro m' phase' hphase'
    rcases OrderedDict.get?_set_cases hphase' with ⟨rfl, rfl⟩ | ⟨hne, hold⟩
    · exact hlisted.tail.mono fun f hf g hopen =>
        hopen.markResolved (hlisted.ne_of_mem hf)
    · refine (h.poll_open m' phase' hold).mono ?_ fun _ _ _ hidle => hidle
      intro f g hopen
      apply hopen.markResolved
      rintro rfl
      exact hne (hopen.minion_unique hincident)

/-- Queueing a listed incident keeps the invariant. -/
theorem enqueue (h : Coherent cfg s) {m : String}
    {incident : FiringIncident F} {firing : List (FiringIncident F)}
    {severity : String} {now : ℚ}
    (hpoll : s.polls.get? m = some (.acting [] (incident :: firing))) :
    Coherent cfg { s with
      queue := (s.queue.enqueue cfg.queue incident.fingerprint severity
        ⟨incident, now⟩).2
      polls := s.polls.set m (.acting [] firing) } := by
  have hlisted : Listed s.table m [] (incident :: firing) :=
    h.poll_open m _ hpoll
  have hincident := hlisted.firing_open incident List.mem_cons_self
  refine ⟨h.keyed, h.queue.enqueue, ?_, ?_, h.job_open, h.job_unique, ?_⟩
  · intro f item hitem
    rcases InvestigationQueue.pending_enqueue_cases hitem with
      hold | ⟨rfl, -, hpayload⟩
    · exact h.pending_open f item hold
    · rw [hpayload]
      exact ⟨rfl, m, hincident⟩
  · intro n job hjob
    rw [InvestigationQueue.inFlight_enqueue]
    exact h.job_inFlight n job hjob
  · intro m' phase hphase
    rcases OrderedDict.get?_set_cases hphase with ⟨rfl, rfl⟩ | ⟨hne, hold⟩
    · refine ⟨?_, hlisted.resolved_open, ?_⟩
      · have hnodup := hlisted.nodup
        rw [List.map_nil, List.nil_append, List.map_cons] at hnodup
        exact (List.nodup_cons.mp hnodup).2
      · intro i hi
        exact hlisted.firing_open i (List.mem_cons_of_mem incident hi)
    · refine (h.poll_open m' phase hold).mono (fun _ _ hopen => hopen) ?_
      rintro f g hopen ⟨hpending, hfree⟩
      constructor
      · rw [Option.eq_none_iff_forall_ne_some]
        intro item hitem
        rcases InvestigationQueue.pending_enqueue_cases hitem with
          hold | ⟨rfl, -, -⟩
        · rw [hpending] at hold
          cases hold
        · exact hne (hopen.minion_unique hincident)
      · rwa [InvestigationQueue.inFlight_enqueue]

/-- A worker that takes an item keeps the invariant. -/
theorem pop (h : Coherent cfg s) {n : ℕ}
    {item : QueueItem F (InvestigationWork F)}
    {queue : InvestigationQueue F (InvestigationWork F)}
    (hnext : s.queue.next = some (item, queue)) :
    Coherent cfg { s with
      queue := queue
      workers := s.workers.set n
        ⟨item.fingerprint, item.payload, .popped⟩ } := by
  obtain ⟨hqueue, hmem, hfree⟩ := h.queue.next hnext
  obtain ⟨hinFlight, hpending⟩ := InvestigationQueue.next_eq_some hnext
  have hitem := (h.queue.mem_heap_iff item).mp hmem
  have hwork := h.pending_open item.fingerprint item hitem
  refine ⟨h.keyed, hqueue, ?_, ?_, ?_, ?_, ?_⟩
  · intro f item' hitem'
    rw [hpending] at hitem'
    split at hitem'
    · cases hitem'
    · exact h.pending_open f item' hitem'
  · rw [hinFlight]
    apply OrderedDict.forall_set
    · intro n' job hjob
      exact Finset.mem_insert_of_mem (h.job_inFlight n' job hjob)
    · exact Finset.mem_insert_self _ _
  · exact OrderedDict.forall_set h.job_open hwork
  · -- the popped incident was not in flight, so no other worker holds it
    have hother : ∀ n' job', s.workers.get? n' = some job' →
        job'.fingerprint ≠ item.fingerprint := by
      rintro n' job' hjob' heq
      exact hfree (heq ▸ h.job_inFlight n' job' hjob')
    intro n₁ n₂ job₁ job₂ hjob₁ hjob₂ heq
    rcases OrderedDict.get?_set_cases hjob₁ with ⟨rfl, rfl⟩ | ⟨-, hold₁⟩
    · rcases OrderedDict.get?_set_cases hjob₂ with ⟨rfl, -⟩ | ⟨-, hold₂⟩
      · rfl
      · exact absurd heq.symm (hother n₂ job₂ hold₂)
    · rcases OrderedDict.get?_set_cases hjob₂ with ⟨rfl, rfl⟩ | ⟨-, hold₂⟩
      · exact absurd heq (hother n₁ job₁ hold₁)
      · exact h.job_unique n₁ n₂ job₁ job₂ hold₁ hold₂ heq
  · intro m phase hphase
    refine (h.poll_open m phase hphase).mono (fun _ _ hopen => hopen) ?_
    rintro f - - ⟨hnone, hout⟩
    have hne : f ≠ item.fingerprint := by
      rintro rfl
      rw [hitem] at hnone
      cases hnone
    constructor
    · rw [hpending, if_neg hne]
      exact hnone
    · rw [hinFlight, Finset.mem_insert, not_or]
      exact ⟨hne, hout⟩

/-- Only the items and marks of the queue matter to the invariant. -/
theorem recount (h : Coherent cfg s)
    {queue : InvestigationQueue F (InvestigationWork F)}
    (hqueue : queue.Consistent) (hpending : queue.pending = s.queue.pending)
    (hinFlight : queue.inFlight = s.queue.inFlight) :
    Coherent cfg { s with queue := queue } := by
  refine ⟨h.keyed, hqueue, ?_, ?_, h.job_open, h.job_unique, ?_⟩
  · intro f item hitem
    rw [hpending] at hitem
    exact h.pending_open f item hitem
  · intro n job hjob
    rw [hinFlight]
    exact h.job_inFlight n job hjob
  · intro m phase hphase
    refine (h.poll_open m phase hphase).mono (fun _ _ hopen => hopen) ?_
    rintro f - - ⟨hnone, hout⟩
    exact ⟨by rw [hpending]; exact hnone, by rw [hinFlight]; exact hout⟩

/-- A worker that is gone keeps the invariant. -/
theorem eraseWorker (h : Coherent cfg s) (n : ℕ) :
    Coherent cfg { s with workers := s.workers.erase n } := by
  refine ⟨h.keyed, h.queue, h.pending_open,
    OrderedDict.forall_erase h.job_inFlight,
    OrderedDict.forall_erase h.job_open, ?_, h.poll_open⟩
  intro n₁ n₂ job₁ job₂ hjob₁ hjob₂
  exact h.job_unique n₁ n₂ job₁ job₂ (OrderedDict.get?_erase_cases hjob₁).2
    (OrderedDict.get?_erase_cases hjob₂).2

/-- Clearing the mark of an incident that no worker holds keeps the
invariant. -/
theorem unmark (h : Coherent cfg s) {f : F}
    (hfree : ∀ n job, s.workers.get? n = some job → job.fingerprint ≠ f) :
    Coherent cfg { s with queue := s.queue.release f } := by
  refine ⟨h.keyed, h.queue.release, h.pending_open, ?_, h.job_open,
    h.job_unique, ?_⟩
  · intro n job hjob
    exact Finset.mem_erase.mpr ⟨hfree n job hjob, h.job_inFlight n job hjob⟩
  · intro m phase hphase
    refine (h.poll_open m phase hphase).mono (fun _ _ hopen => hopen) ?_
    rintro f - - ⟨hnone, hout⟩
    exact ⟨hnone, fun hin => hout (Finset.mem_of_mem_erase hin)⟩

/-- A worker that clears the mark of its incident keeps the invariant. -/
theorem release (h : Coherent cfg s) {n : ℕ} {job : Job F}
    (hjob : s.workers.get? n = some job) :
    Coherent cfg { s with
      queue := s.queue.release job.fingerprint
      workers := s.workers.erase n } := by
  refine (h.eraseWorker n).unmark ?_
  intro n' job' hjob' heq
  obtain ⟨hne, hold⟩ := OrderedDict.get?_erase_cases hjob'
  exact hne (h.job_unique n' n job' job hold hjob heq)

/-! ## Every step keeps the invariant -/

/-- The reconciliation of a minion keeps the invariant. -/
theorem reconcile (h : Coherent cfg s) {m : String} {now : ℚ}
    {anomalies : List Anomaly}
    (hpoll : s.polls.get? m = some (.reconciling anomalies)) :
    let report := Incident.reconcile cfg.store s.table m anomalies now
    Coherent cfg { s with
      table := report.2
      polls := s.polls.set m (.acting report.1.resolved report.1.firing) } := by
  have hcarries : ∀ a ∈ anomalies, a.minionId = m := h.poll_open m _ hpoll
  refine (h.setTable (h.keyed.reconcile hcarries) fun _ _ _ hopen =>
    hopen.reconcile h.keyed hcarries).setPoll ?_
  refine ⟨reported_nodup .., ?_, ?_⟩
  · intro r hr
    obtain ⟨row, hrow, hactive, hm, hg, -⟩ := open_of_mem_resolved hr
    exact ⟨row, hrow, hactive, hm, hg⟩
  · intro i hi
    obtain ⟨row, hrow, hactive, hm, hg, -⟩ :=
      open_of_mem_firing h.keyed hcarries hi
    exact ⟨row, hrow, hactive, hm, hg⟩

theorem step (h : Coherent cfg s) {e : AgentEvent}
    (hstep : agentStep cfg s e = some s') : Coherent cfg s' := by
  rcases e with ⟨minions, anomalies⟩ | ⟨m, now⟩ | ⟨m, now⟩ |
    ⟨m, accepted, now⟩ | ⟨m, now⟩ | ⟨m, now⟩ | m | n | ⟨n, now⟩ |
    ⟨n, result, now⟩ | ⟨n, accepted, now⟩ | n | ⟨n, now⟩ | n
  · obtain ⟨-, -, rfl⟩ := step_startCycle hstep
    refine ⟨h.keyed, h.queue, h.pending_open, h.job_inFlight, h.job_open,
      h.job_unique, ?_⟩
    intro m phase hphase
    obtain rfl := startPolls_get? hphase
    intro a ha
    simpa using (List.mem_filter.mp ha).2
  · obtain ⟨anomalies, hpoll, rfl⟩ := step_reconcile hstep
    exact h.reconcile hpoll
  · obtain ⟨incident, resolved, firing, hpoll, hcases⟩ :=
      step_resolveNext hstep
    have hcancelled := h.cancel incident.fingerprint
    have hlisted : Listed s.table m (incident :: resolved) firing :=
      h.poll_open m _ hpoll
    rcases hcases with ⟨-, rfl⟩ | ⟨hfree, -, rfl⟩ | ⟨hfree, payload, -, rfl⟩
    · exact hcancelled.setPoll hlisted.tail
    · exact hcancelled.close hlisted (h.idle_cancel hfree)
    · exact hcancelled.setPoll ⟨hlisted, h.idle_cancel hfree⟩
  · obtain ⟨incident, resolution, resolved, firing, hpoll, rfl⟩ :=
      step_answerResolution hstep
    obtain ⟨hlisted, hidle⟩ := h.poll_open m _ hpoll
    have hphase : PollOpen s.table s.queue m
        (.resolutionAnswered incident accepted resolved firing) :=
      ⟨hlisted, hidle⟩
    exact (h.setPoll hphase).setAlertmanager _
  · obtain ⟨incident, accepted, resolved, firing, hpoll, rfl⟩ :=
      step_finishResolution hstep
    obtain ⟨hlisted, hidle⟩ := h.poll_open m _ hpoll
    rcases accepted with _ | _
    · exact h.setPoll hlisted.tail
    · exact h.close hlisted hidle
  · obtain ⟨incident, firing, hpoll, rfl⟩ := step_enqueueNext hstep
    exact h.enqueue hpoll
  · obtain ⟨-, rfl⟩ := step_finishMinion hstep
    exact h.erasePoll m
  · obtain ⟨-, item, queue, hnext, rfl⟩ := step_pop hstep
    exact h.pop hnext
  · obtain ⟨job, hjob, -, rfl⟩ := step_begin hstep
    exact h.setJob hjob _
  · obtain ⟨job, hjob, -, rfl⟩ := step_conclude hstep
    exact h.setJob hjob _
  · obtain ⟨job, hjob, hcases⟩ := step_answerPost hstep
    rcases hcases with ⟨_, _, -, rfl⟩ | ⟨_, -, rfl⟩
    · exact (h.setJob hjob _).setAlertmanager _
    · exact (h.setJob hjob _).setAlertmanager _
  · obtain ⟨job, payload, accepted, hjob, -, rfl⟩ := step_finishTransition hstep
    exact h.setJob hjob _
  · obtain ⟨job, payload, hjob, hcases⟩ := step_finishDelivery hstep
    rcases hcases with ⟨-, rfl⟩ | ⟨-, rfl⟩
    · exact ((h.setTable h.keyed.markEmitted fun _ _ _ hopen =>
        hopen.markEmitted).setAlertmanager _).setJob hjob _
    · exact h.setJob hjob _
  · obtain ⟨job, outcome, hjob, -, rfl⟩ := step_release hstep
    have hcounted : (s.queue.recordHandled true).Consistent := h.queue
    exact (h.recount hcounted rfl rfl).release hjob

/-- The invariant holds of every reachable state. -/
theorem of_exec {trace : List AgentEvent}
    (hs : exec (agentStep cfg) AgentState.initial trace = some s) :
    Coherent cfg s :=
  exec_invariant_always (P := Coherent cfg) Coherent.initial
    (fun _ _ _ h hstep => h.step hstep) hs

end Coherent

end UyuniAgent.Agent
