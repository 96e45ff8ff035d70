import UyuniAgent.Agent.AnnouncedRecovery

/-!
# Detection is announced

An incident that a reconciliation lists for notification is on its way: listed
by the poll, then pending in the queue, then held by a worker, until
Alertmanager has accepted a firing alert of it and its row stores that alert.
Here the way is followed through the interleaving.  The queue, the
investigation and Alertmanager can each stop it; the conditions say that they
do not.
-/

namespace UyuniAgent.Queue.InvestigationQueue

variable {F W : Type} [DecidableEq F] {cfg : QueueSettings}
  {q : InvestigationQueue F W} {f fingerprint : F} {severity : String}
  {payload : W}

/-- What queueing does to the pending items: nothing, if the incident is
refused or held by a worker, or else it becomes pending, in the place of the
evicted one if there is one. -/
theorem enqueue_pending_cases (cfg : QueueSettings)
    (q : InvestigationQueue F W) (fingerprint : F) (severity : String)
    (payload : W) :
    let enqueued := q.enqueue cfg fingerprint severity payload
    (enqueued.2.pending = q.pending ∧
        (enqueued.1.status = .rejectedClosed ∨
          enqueued.1.status = .rejectedFull ∨ fingerprint ∈ q.inFlight)) ∨
      (∃ item, enqueued.2.pending = q.pending.set fingerprint item) ∨
      ∃ worst item, enqueued.1.evictedFingerprint = some worst ∧
        enqueued.2.pending = (q.pending.erase worst).set fingerprint item := by
  simp only [enqueue]
  split
  · exact Or.inl ⟨rfl, Or.inl rfl⟩
  split
  next hheld => exact Or.inl ⟨rfl, Or.inr (Or.inr hheld)⟩
  split
  · exact Or.inr (Or.inl ⟨_, rfl⟩)
  split
  · exact Or.inr (Or.inl ⟨_, rfl⟩)
  split
  · exact Or.inr (Or.inl ⟨_, rfl⟩)
  split
  · exact Or.inl ⟨rfl, Or.inr (Or.inl rfl)⟩
  · exact Or.inr (Or.inr ⟨_, _, rfl, rfl⟩)

theorem pending_enqueue_of_ne (hne : f ≠ fingerprint)
    (hkept : (q.enqueue cfg fingerprint severity payload).1.evictedFingerprint ≠
      some f) :
    (q.enqueue cfg fingerprint severity payload).2.pending.get? f =
      q.pending.get? f := by
  obtain ⟨hsame, -⟩ | ⟨item, hset⟩ | ⟨worst, item, hevicted, hset⟩ :=
    enqueue_pending_cases cfg q fingerprint severity payload
  · rw [hsame]
  · rw [hset, OrderedDict.get?_set_of_ne hne]
  · have hworst : f ≠ worst := by
      rintro rfl
      exact hkept hevicted
    rw [hset, OrderedDict.get?_set_of_ne hne,
      OrderedDict.get?_erase_of_ne hworst]

/-- An incident that is not refused is pending, unless a worker holds it. -/
theorem pending_or_held_of_enqueue
    (hclosed : (q.enqueue cfg fingerprint severity payload).1.status ≠
      .rejectedClosed)
    (hfull : (q.enqueue cfg fingerprint severity payload).1.status ≠
      .rejectedFull) :
    ((q.enqueue cfg fingerprint severity payload).2.pending.get?
      fingerprint).isSome ∨ fingerprint ∈ q.inFlight := by
  obtain ⟨-, hreason⟩ | ⟨item, hset⟩ | ⟨worst, item, -, hset⟩ :=
    enqueue_pending_cases cfg q fingerprint severity payload
  · exact Or.inr ((hreason.resolve_left hclosed).resolve_left hfull)
  · rw [hset, OrderedDict.get?_set_self]
    exact Or.inl rfl
  · rw [hset, OrderedDict.get?_set_self]
    exact Or.inl rfl

end UyuniAgent.Queue.InvestigationQueue

namespace UyuniAgent.Agent

open Incident Queue Transition

variable {F : Type} [DecidableEq F]

/-! ## The conditions on the steps -/

/-- The incident that the minion's coroutine is about to queue. -/
def PollPhase.nextToEnqueue : PollPhase F → Option (FiringIncident F)
  | .acting [] (incident :: _) => some incident
  | _ => none

/-- The reconciliations of the minion observe the incident. -/
def Observes (cfg : AgentSettings F) (m : String) (f : F) (s : AgentState F) :
    AgentEvent → Prop
  | .reconcile m' _ => m' = m → ∀ phase ∈ s.polls.get? m,
      ∃ a ∈ phase.observing, cfg.store.scheme.incidentFingerprint a = f
  | _ => True

/-- The queue keeps the incident, its jobs are fresh and end with an analysis,
and Alertmanager accepts their POSTs. -/
def GoesThrough (cfg : AgentSettings F) (f : F) (s : AgentState F) :
    AgentEvent → Prop
  | .enqueueNext m now => ∀ phase ∈ s.polls.get? m,
      ∀ incident ∈ phase.nextToEnqueue,
        let enqueued := (s.queue.enqueue cfg.queue incident.fingerprint
          incident.anomaly.severity.value ⟨incident, now⟩).1
        enqueued.evictedFingerprint ≠ some f ∧
          (incident.fingerprint = f → enqueued.status ≠ .rejectedClosed ∧
            enqueued.status ≠ .rejectedFull)
  | .begin n now => ∀ job ∈ s.workers.get? n, job.fingerprint = f →
      now - job.work.detectedAt ≤ cfg.maxJobAgeSeconds
  | .conclude n result _ => ∀ job ∈ s.workers.get? n, job.fingerprint = f →
      result ≠ .timedOut ∧ result ≠ .failed
  | .answerPost n accepted _ => ∀ job ∈ s.workers.get? n,
      job.fingerprint = f → accepted = true
  | _ => True

instance (cfg : AgentSettings F) (m : String) (f : F) (s : AgentState F) :
    DecidablePred (Observes cfg m f s)
  | .reconcile m' _ => inferInstanceAs (Decidable (m' = m →
      ∀ phase ∈ s.polls.get? m, ∃ a ∈ phase.observing,
        cfg.store.scheme.incidentFingerprint a = f))
  | .startCycle _ _ | .resolveNext _ _ | .answerResolution _ _ _
  | .finishResolution _ _ | .enqueueNext _ _ | .finishMinion _ | .pop _
  | .begin _ _ | .conclude _ _ _ | .answerPost _ _ _ | .finishTransition _
  | .finishDelivery _ _ | .release _ => isTrue trivial

instance (cfg : AgentSettings F) (f : F) (s : AgentState F) :
    DecidablePred (GoesThrough cfg f s)
  | .enqueueNext m now => inferInstanceAs (Decidable
      (∀ phase ∈ s.polls.get? m, ∀ incident ∈ phase.nextToEnqueue,
        (s.queue.enqueue cfg.queue incident.fingerprint
          incident.anomaly.severity.value
          ⟨incident, now⟩).1.evictedFingerprint ≠ some f ∧
        (incident.fingerprint = f →
          (s.queue.enqueue cfg.queue incident.fingerprint
            incident.anomaly.severity.value ⟨incident, now⟩).1.status ≠
              .rejectedClosed ∧
          (s.queue.enqueue cfg.queue incident.fingerprint
            incident.anomaly.severity.value ⟨incident, now⟩).1.status ≠
              .rejectedFull)))
  | .begin n now => inferInstanceAs (Decidable (∀ job ∈ s.workers.get? n,
      job.fingerprint = f →
        now - job.work.detectedAt ≤ cfg.maxJobAgeSeconds))
  | .conclude n result _ => inferInstanceAs (Decidable
      (∀ job ∈ s.workers.get? n, job.fingerprint = f →
        result ≠ .timedOut ∧ result ≠ .failed))
  | .answerPost n accepted _ => inferInstanceAs (Decidable
      (∀ job ∈ s.workers.get? n, job.fingerprint = f → accepted = true))
  | .startCycle _ _ | .reconcile _ _ | .resolveNext _ _
  | .answerResolution _ _ _ | .finishResolution _ _ | .finishMinion _
  | .pop _ | .finishTransition _ | .finishDelivery _ _
  | .release _ => isTrue trivial

/-! ## The way of a notification -/

/-- The incidents the minion's coroutine has still to resolve. -/
def PollPhase.toResolve : PollPhase F → List F
  | .reconciling _ => []
  | .acting resolved _ => resolved.map (·.fingerprint)
  | .resolutionSent incident _ resolved _ =>
      incident.fingerprint :: resolved.map (·.fingerprint)
  | .resolutionAnswered incident _ resolved _ =>
      incident.fingerprint :: resolved.map (·.fingerprint)

/-- The incidents the minion's coroutine has still to queue. -/
def PollPhase.toEnqueue : PollPhase F → List F
  | .reconciling _ => []
  | .acting _ firing => firing.map (·.fingerprint)
  | .resolutionSent _ _ _ firing => firing.map (·.fingerprint)
  | .resolutionAnswered _ _ _ firing => firing.map (·.fingerprint)

/-- The job has met nothing yet that keeps its alert back. -/
def JobPhase.promising : JobPhase F → Bool
  | .popped => true
  | .investigating => true
  | .transitionSent _ _ => true
  | .transitionAnswered _ accepted => accepted
  | .firingSent _ => true
  | .firingAnswered _ accepted => accepted
  | .finished _ => false

/-- The job may have resolved the stored alert, and fires another one. -/
def JobPhase.replacing : JobPhase F → Bool
  | .transitionAnswered _ _ => true
  | .firingSent _ => true
  | .firingAnswered _ _ => true
  | _ => false

/-- The firing alerts of the incident among the accepted payloads. -/
def notifications (f : F) (payloads : List (AlertPayload F)) : ℕ :=
  payloads.countP fun payload =>
    payload.labels.incidentId = some f && payload.endsAt.isNone

/-- The generation is open, and the last reconciliation of its minion observed
it. -/
def Present (table : Table F) (m : String) (f : F) (g : Rfc3339) : Prop :=
  ∃ row, table.get? f = some row ∧ row.status = .active ∧ row.minionId = m ∧
    row.startsAt = g ∧ row.consecutiveAbsent = 0

/-- More than `base` firing alerts of the incident were accepted, and one is
stored. -/
structure Announced (s : AgentState F) (f : F) (base : ℕ) : Prop where
  notified : base < notifications f s.accepted
  stored : ∃ row, s.table.get? f = some row ∧ row.payloadJson.isSome

/-- The incident is listed for notification, pending, or held by a worker. -/
inductive UnderWay (s : AgentState F) (m : String) (f : F) : Prop
  | listed (phase : PollPhase F) (hpoll : s.polls.get? m = some phase)
      (hlisted : f ∈ phase.toEnqueue)
  | pending (item : QueueItem F (InvestigationWork F))
      (hitem : s.queue.pending.get? f = some item)
  | held (n : ℕ) (job : Job F) (hjob : s.workers.get? n = some job)
      (hf : job.fingerprint = f) (hpromising : job.phase.promising = true)

structure Announcing (s : AgentState F) (m : String) (f : F) (g : Rfc3339)
    (base : ℕ) : Prop where
  present : Present s.table m f g
  grown : base ≤ notifications f s.accepted
  spared : ∀ phase, s.polls.get? m = some phase → f ∉ phase.toResolve
  job : ∀ n job, s.workers.get? n = some job → job.fingerprint = f →
    job.phase.promising = true ∨
      job.phase = .finished .delivered ∧ Announced s f base
  answered : ∀ n job payload, s.workers.get? n = some job →
    job.fingerprint = f → job.phase = .firingAnswered payload true →
    base < notifications f s.accepted ∧
      isFiring s.alertmanager payload.labels = true
  lit : Announced s f base → ∀ row payload, s.table.get? f = some row →
    row.payloadJson = some payload →
    isFiring s.alertmanager payload.labels = true ∨
      ∃ n job, s.workers.get? n = some job ∧ job.fingerprint = f ∧
        job.phase.replacing = true
  underWay : UnderWay s m f ∨ Announced s f base

/-! ## Alertmanager -/

section Alertmanager

variable {f : F} {payload : AlertPayload F} {accepted : Bool} {now : ℚ}
  {posts : List (AcceptedPost F)}

theorem notifications_post_of_ne
    (hne : payload.labels.incidentId ≠ some f) :
    notifications f ((post accepted payload now posts).map (·.payload)) =
      notifications f (posts.map (·.payload)) := by
  rw [accepted_post]
  split
  · rw [notifications, List.countP_cons_of_neg]
    · rfl
    · simp [hne]
  · rfl

theorem notifications_post_le (f : F) (accepted : Bool)
    (payload : AlertPayload F) (now : ℚ) (posts : List (AcceptedPost F)) :
    notifications f (posts.map (·.payload)) ≤
      notifications f ((post accepted payload now posts).map (·.payload)) := by
  rw [accepted_post]
  split
  · exact List.Sublist.countP_le (List.sublist_cons_self _ _)
  · exact le_rfl

theorem notifications_post_self (h : AddressedTo f payload) :
    notifications f ((post true payload now posts).map (·.payload)) =
      notifications f (posts.map (·.payload)) + 1 := by
  rw [accepted_post, if_pos rfl, notifications, List.countP_cons_of_pos]
  · rfl
  · simp [h.incidentId, h.endsAt]

theorem isFiring_post_of_incident
    {labels : Labels F} (hlabels : labels.incidentId = some f)
    (hne : payload.labels.incidentId ≠ some f) :
    isFiring (post accepted payload now posts) labels =
      isFiring posts labels := by
  refine isFiring_post_of_ne fun heq => hne ?_
  rw [heq, hlabels]

end Alertmanager

/-! ## Incidents in flight -/

/-- Every incident in flight is held by a worker. -/
def FlightsHeld (s : AgentState F) : Prop :=
  ∀ f ∈ s.queue.inFlight, ∃ n job, s.workers.get? n = some job ∧
    job.fingerprint = f

section Flights

variable {cfg : AgentSettings F} {s s' : AgentState F}

omit [DecidableEq F] in
theorem FlightsHeld.setJob (h : FlightsHeld s) {n : ℕ} {job : Job F}
    (hjob : s.workers.get? n = some job) (phase : JobPhase F) :
    FlightsHeld (s.setJob n job phase) := by
  intro f hf
  obtain ⟨n', job', hjob', hf'⟩ := h f hf
  by_cases hn : n' = n
  · subst hn
    obtain rfl := Option.some.inj (hjob.symm.trans hjob')
    exact ⟨n', _, OrderedDict.get?_set_self, hf'⟩
  · exact ⟨n', job', (OrderedDict.get?_set_of_ne hn).trans hjob', hf'⟩

theorem FlightsHeld.step (h : FlightsHeld s) {e : AgentEvent}
    (hstep : agentStep cfg s e = some s') : FlightsHeld s' := by
  have hqueue : ∀ {s'' : AgentState F}, s''.workers = s.workers →
      s''.queue.inFlight = s.queue.inFlight → FlightsHeld s'' := by
    intro s'' hworkers hinFlight f hf
    rw [hinFlight] at hf
    rw [hworkers]
    exact h f hf
  cases e with
  | startCycle minions anomalies =>
      obtain ⟨-, -, rfl⟩ := step_startCycle hstep
      exact h
  | reconcile m now =>
      obtain ⟨anomalies, -, rfl⟩ := step_reconcile hstep
      exact h
  | resolveNext m now =>
      obtain ⟨incident, resolved, firing, -, hcases⟩ := step_resolveNext hstep
      obtain ⟨-, rfl⟩ | ⟨-, -, rfl⟩ | ⟨-, payload, -, rfl⟩ := hcases
      all_goals exact hqueue rfl InvestigationQueue.inFlight_cancel
  | answerResolution m accepted now =>
      obtain ⟨incident, resolution, resolved, firing, -, rfl⟩ :=
        step_answerResolution hstep
      exact h
  | finishResolution m now =>
      obtain ⟨incident, accepted, resolved, firing, -, rfl⟩ :=
        step_finishResolution hstep
      exact h
  | enqueueNext m now =>
      obtain ⟨incident, firing, -, rfl⟩ := step_enqueueNext hstep
      exact hqueue rfl InvestigationQueue.inFlight_enqueue
  | finishMinion m =>
      obtain ⟨-, rfl⟩ := step_finishMinion hstep
      exact h
  | pop n =>
      obtain ⟨hfree, item, queue, hnext, rfl⟩ := step_pop hstep
      intro f hf
      rw [(InvestigationQueue.next_eq_some hnext).1, Finset.mem_insert] at hf
      obtain rfl | hf := hf
      · exact ⟨n, _, OrderedDict.get?_set_self, rfl⟩
      · obtain ⟨n', job', hjob', hf'⟩ := h f hf
        have hn : n' ≠ n := by
          rintro rfl
          rw [hfree] at hjob'
          cases hjob'
        exact ⟨n', job', (OrderedDict.get?_set_of_ne hn).trans hjob', hf'⟩
  | begin n now =>
      obtain ⟨job, hjob, -, rfl⟩ := step_begin hstep
      exact h.setJob hjob _
  | conclude n result now =>
      obtain ⟨job, hjob, -, rfl⟩ := step_conclude hstep
      exact h.setJob hjob _
  | answerPost n accepted now =>
      obtain ⟨job, hjob, ⟨_, _, -, rfl⟩ | ⟨_, -, rfl⟩⟩ := step_answerPost hstep
      · exact h.setJob hjob _
      · exact h.setJob hjob _
  | finishTransition n =>
      obtain ⟨job, payload, accepted, hjob, -, rfl⟩ :=
        step_finishTransition hstep
      exact h.setJob hjob _
  | finishDelivery n now =>
      obtain ⟨job, payload, hjob, ⟨-, rfl⟩ | ⟨-, rfl⟩⟩ :=
        step_finishDelivery hstep
      · exact h.setJob hjob _
      · exact h.setJob hjob _
  | release n =>
      obtain ⟨job, outcome, hjob, -, rfl⟩ := step_release hstep
      intro f hf
      obtain ⟨hne, hf⟩ := Finset.mem_erase.mp hf
      obtain ⟨n', job', hjob', hf'⟩ := h f hf
      have hn : n' ≠ n := by
        rintro rfl
        obtain rfl := Option.some.inj (hjob.symm.trans hjob')
        exact hne hf'.symm
      exact ⟨n', job', (OrderedDict.get?_erase_of_ne hn).trans hjob', hf'⟩

end Flights

/-! ## Steps of other incidents -/

/-- Nothing about the incident changes, but for its minion's coroutine. -/
structure Untouched (f : F) (s s' : AgentState F) : Prop where
  row : s'.table.get? f = s.table.get? f
  pending : s'.queue.pending.get? f = s.queue.pending.get? f
  job : ∀ n job, job.fingerprint = f →
    (s'.workers.get? n = some job ↔ s.workers.get? n = some job)
  notifications : notifications f s'.accepted = notifications f s.accepted
  firing : ∀ labels : Labels F, labels.incidentId = some f →
    isFiring s'.alertmanager labels = isFiring s.alertmanager labels

section Untouched

variable {cfg : AgentSettings F} {s s' : AgentState F} {m : String} {f : F}
  {g : Rfc3339} {base : ℕ}

theorem Announced.of_untouched (h : Announced s f base)
    (hsame : Untouched f s s') : Announced s' f base := by
  obtain ⟨row, hrow, hstored⟩ := h.stored
  exact ⟨h.notified.trans_eq hsame.notifications.symm,
    row, hsame.row.trans hrow, hstored⟩

theorem Untouched.symm (h : Untouched f s s') : Untouched f s' s :=
  ⟨h.row.symm, h.pending.symm, fun n job hf => (h.job n job hf).symm,
    h.notifications.symm, fun labels hlabels => (h.firing labels hlabels).symm⟩

/-- A step that leaves the incident alone leaves it on its way, unless the
poll drops it. -/
theorem Announcing.of_untouched (h : Announcing s m f g base)
    (ha : Addressed s) (hsame : Untouched f s s')
    (hspared : ∀ phase, s'.polls.get? m = some phase → f ∉ phase.toResolve)
    (hlisted : ∀ phase, s.polls.get? m = some phase → f ∈ phase.toEnqueue →
      ∃ phase', s'.polls.get? m = some phase' ∧ f ∈ phase'.toEnqueue) :
    Announcing s' m f g base := by
  refine ⟨?_, h.grown.trans_eq hsame.notifications.symm, hspared, ?_, ?_, ?_,
    ?_⟩
  · rw [Present, hsame.row]
    exact h.present
  · intro n job hjob hf
    exact (h.job n job ((hsame.job n job hf).mp hjob) hf).imp_right
      fun hdone => ⟨hdone.1, hdone.2.of_untouched hsame⟩
  · intro n job payload hjob hf hphase
    have hjob := (hsame.job n job hf).mp hjob
    obtain ⟨hnotified, hfiring⟩ := h.answered n job payload hjob hf hphase
    have haddressed := ha.phase n job hjob
    rw [hphase] at haddressed
    have hlabels : payload.labels.incidentId = some f := by
      rw [haddressed.1.incidentId, hf]
    rw [hsame.notifications, hsame.firing _ hlabels]
    exact ⟨hnotified, hfiring⟩
  · intro hannounced row payload hrow hpayload
    have hrow := hsame.row.symm.trans hrow
    have hlabels := ((ha.row f row hrow).payload payload hpayload).incidentId
    rw [hsame.firing _ hlabels]
    obtain hfiring | ⟨n, job, hjob, hf, hreplacing⟩ :=
      h.lit (hannounced.of_untouched hsame.symm) row payload hrow hpayload
    · exact Or.inl hfiring
    · exact Or.inr ⟨n, job, (hsame.job n job hf).mpr hjob, hf, hreplacing⟩
  · refine h.underWay.imp (fun hway => ?_) fun hdone => hdone.of_untouched hsame
    cases hway with
    | listed phase hpoll hmem =>
        obtain ⟨phase', hpoll', hmem'⟩ := hlisted phase hpoll hmem
        exact .listed phase' hpoll' hmem'
    | pending item hitem => exact .pending item (hsame.pending.trans hitem)
    | held n job hjob hf hpromising =>
        exact .held n job ((hsame.job n job hf).mpr hjob) hf hpromising

/-- A job of another incident goes on. -/
theorem untouched_setJob {n : ℕ} {job : Job F}
    (hjob : s.workers.get? n = some job) (hne : job.fingerprint ≠ f)
    (phase : JobPhase F) : Untouched f s (s.setJob n job phase) := by
  refine ⟨rfl, rfl, fun n' job' hf => ?_, rfl, fun _ _ => rfl⟩
  by_cases hn : n' = n
  · subst hn
    refine iff_of_false (fun hset => ?_) fun hold => ?_
    · obtain rfl := Option.some.inj (OrderedDict.get?_set_self.symm.trans hset)
      exact hne hf
    · obtain rfl := Option.some.inj (hjob.symm.trans hold)
      exact hne hf
  · rw [AgentState.setJob, OrderedDict.get?_set_of_ne hn]

end Untouched

/-! ## Steps of the polls -/

section Polls

variable {cfg : AgentSettings F} {s s' : AgentState F} {m m' : String} {f : F}
  {g : Rfc3339} {base : ℕ} {now : ℚ}

theorem Present.openAs {table : Table F} (h : Present table m f g) :
    OpenAs table m f g := by
  obtain ⟨row, hrow, hactive, hm, hg, -⟩ := h
  exact ⟨row, hrow, hactive, hm, hg⟩

/-- No poll has the incident to resolve. -/
theorem Announcing.ne_of_mem_toResolve (h : Announcing s m f g base)
    (hc : Coherent cfg s) {phase : PollPhase F}
    (hpoll : s.polls.get? m' = some phase) {f' : F}
    (hmem : f' ∈ phase.toResolve) : f' ≠ f := by
  rintro rfl
  by_cases hm : m' = m
  · subst hm
    exact h.spared phase hpoll hmem
  · have hlists : ∀ (resolved : List (IncidentRecord F))
        (firing : List (FiringIncident F)),
        Listed s.table m' resolved firing →
        f' ∉ resolved.map (·.fingerprint) := by
      intro resolved firing hlisted hf
      obtain ⟨record, hrecord, rfl⟩ := List.mem_map.mp hf
      exact hm ((hlisted.resolved_open record hrecord).minion_unique
        h.present.openAs)
    have hopen := hc.poll_open m' phase hpoll
    cases phase with
    | reconciling anomalies => cases hmem
    | acting resolved firing => exact hlists _ _ hopen hmem
    | resolutionSent incident resolution resolved firing =>
        exact hlists _ _ hopen.1 hmem
    | resolutionAnswered incident accepted resolved firing =>
        exact hlists _ _ hopen.1 hmem

theorem Announcing.poll (h : Announcing s m f g base) (ha : Addressed s)
    (hsame : Untouched f s s') {phase phase' : PollPhase F}
    (hpoll : s.polls.get? m' = some phase)
    (hset : s'.polls = s.polls.set m' phase')
    (hresolve : phase'.toResolve ⊆ phase.toResolve)
    (henqueue : f ∈ phase.toEnqueue → f ∈ phase'.toEnqueue) :
    Announcing s' m f g base := by
  refine h.of_untouched ha hsame ?_ ?_
  · rw [hset]
    intro phase₁ hphase₁ hmem
    obtain ⟨rfl, rfl⟩ | ⟨-, hold⟩ := OrderedDict.get?_set_cases hphase₁
    · exact h.spared phase hpoll (hresolve hmem)
    · exact h.spared phase₁ hold hmem
  · rw [hset]
    intro phase₁ hphase₁ hmem
    by_cases hm : m = m'
    · subst hm
      obtain rfl := Option.some.inj (hpoll.symm.trans hphase₁)
      exact ⟨phase', OrderedDict.get?_set_self, henqueue hmem⟩
    · exact ⟨phase₁, (OrderedDict.get?_set_of_ne hm).trans hphase₁, hmem⟩

theorem Announcing.startCycle (h : Announcing s m f g base) (ha : Addressed s)
    {minions : List String} {anomalies : List Anomaly}
    (hstep : agentStep cfg s (.startCycle minions anomalies) = some s') :
    Announcing s' m f g base := by
  obtain ⟨hnone, -, rfl⟩ := step_startCycle hstep
  refine h.of_untouched ha
    ⟨rfl, rfl, fun _ _ _ => Iff.rfl, rfl, fun _ _ => rfl⟩ ?_ ?_
  · intro phase hphase
    rw [startPolls_get? hphase]
    exact List.not_mem_nil
  · intro phase hphase
    rw [OrderedDict.get?_eq_some_iff, hnone] at hphase
    cases hphase

theorem Announcing.reconcile_other (h : Announcing s m f g base)
    (hw : WellFormed cfg s) (hne : m' ≠ m)
    (hstep : agentStep cfg s (.reconcile m' now) = some s') :
    Announcing s' m f g base := by
  obtain ⟨anomalies, hpoll, rfl⟩ := step_reconcile hstep
  have hrow := (missedFor_of_openAs h.present.openAs).get?_reconcile_other
    hw.coherent.keyed (hw.coherent.poll_open m' _ hpoll) hne now
  refine h.of_untouched hw.addressed
    ⟨hrow, rfl, fun _ _ _ => Iff.rfl, rfl, fun _ _ => rfl⟩ ?_ ?_
  · intro phase hphase
    exact h.spared phase
      ((OrderedDict.get?_set_of_ne (Ne.symm hne)).symm.trans hphase)
  · intro phase hphase hmem
    exact ⟨phase, (OrderedDict.get?_set_of_ne (Ne.symm hne)).trans hphase,
      hmem⟩

/-- The row of an observed incident. -/
theorem Present.reconcile_observed {table : Table F} (h : Present table m f g)
    {anomalies : List Anomaly}
    (hobserved : ∃ a ∈ anomalies, cfg.store.scheme.incidentFingerprint a = f)
    (now : ℚ) :
    ∃ anomaly row, (preferMoreSevere cfg.store anomalies).get? f =
        some anomaly ∧ table.get? f = some row ∧ row.status = .active ∧
      row.minionId = m ∧ row.startsAt = g ∧
      (Incident.reconcile cfg.store table m anomalies now).2.get? f =
        some (row.observed anomaly now) := by
  obtain ⟨row, hrow, hactive, hm, hg, -⟩ := h
  obtain ⟨anomaly, hanomaly⟩ := Option.isSome_iff_exists.mp
    (preferMoreSevere_get?_isSome_iff.mpr hobserved)
  refine ⟨anomaly, row, hanomaly, hrow, hactive, hm, hg, ?_⟩
  have hmine : row.activeFor m = true := by
    rw [Row.activeFor, hm, hactive]
    simp
  rw [reconcile_get?, hanomaly, hrow, reconciledRow, if_pos hmine]

theorem Announced.congr {row row' : Row F}
    (hrow : s.table.get? f = some row) (hrow' : s'.table.get? f = some row')
    (hpayload : row'.payloadJson = row.payloadJson)
    (haccepted : s'.accepted = s.accepted) :
    Announced s' f base ↔ Announced s f base := by
  constructor
  · rintro ⟨hnotified, stored, hstored, hsome⟩
    obtain rfl := Option.some.inj (hrow'.symm.trans hstored)
    exact ⟨haccepted ▸ hnotified, row, hrow, hpayload ▸ hsome⟩
  · rintro ⟨hnotified, stored, hstored, hsome⟩
    obtain rfl := Option.some.inj (hrow.symm.trans hstored)
    exact ⟨haccepted ▸ hnotified, row', hrow', hpayload.symm ▸ hsome⟩

theorem Announcing.reconcile (h : Announcing s m f g base)
    (hobserves : Observes cfg m f s (.reconcile m now))
    (hstep : agentStep cfg s (.reconcile m now) = some s') :
    Announcing s' m f g base := by
  obtain ⟨anomalies, hpoll, hs'⟩ := step_reconcile hstep
  have hobserved : ∃ a ∈ anomalies,
      cfg.store.scheme.incidentFingerprint a = f := hobserves rfl _ hpoll
  obtain ⟨anomaly, row, hanomaly, hrow, hactive, hm, hg, hafter⟩ :=
    h.present.reconcile_observed hobserved now
  have hrow' : s'.table.get? f = some (row.observed anomaly now) := by
    rw [hs']
    exact hafter
  have hannounced : Announced s' f base ↔ Announced s f base :=
    Announced.congr hrow hrow' rfl (by rw [hs']; rfl)
  have hworkers : s'.workers = s.workers := by rw [hs']
  have hposts : s'.alertmanager = s.alertmanager := by rw [hs']
  refine ⟨⟨_, hrow', hactive, hm, hg, rfl⟩, ?_, ?_, ?_, ?_, ?_, ?_⟩
  · rw [AgentState.accepted, hposts]
    exact h.grown
  · intro phase hphase hmem
    rw [hs'] at hphase
    obtain rfl := Option.some.inj
      (OrderedDict.get?_set_self.symm.trans hphase)
    obtain ⟨record, hrecord, hf⟩ := List.mem_map.mp hmem
    obtain ⟨f', row', -, hmissed, -, rfl⟩ :=
      mem_reconcile_resolved_iff.mp hrecord
    obtain rfl : f' = f := hf
    rw [hanomaly] at hmissed
    cases hmissed
  · rw [hworkers, hannounced]
    exact h.job
  · rw [hworkers, AgentState.accepted, hposts]
    exact h.answered
  · rw [hannounced, hworkers, hposts]
    intro hdone row' payload hstored hpayload
    obtain rfl := Option.some.inj (hrow'.symm.trans hstored)
    exact h.lit hdone row payload hrow hpayload
  · rw [hannounced]
    refine h.underWay.imp_left fun hway => ?_
    cases hway with
    | listed phase hphase hmem =>
        obtain rfl := Option.some.inj (hpoll.symm.trans hphase)
        cases hmem
    | pending item hitem => exact .pending item (by rw [hs']; exact hitem)
    | held n job hjob hf hpromising =>
        exact .held n job (by rw [hs']; exact hjob) hf hpromising

theorem untouched_cancel {f' : F} (hne : f' ≠ f) {table : Table F}
    (hrow : table.get? f = s.table.get? f)
    (polls : OrderedDict String (PollPhase F)) :
    Untouched f s { s with
      table := table
      queue := (s.queue.cancel f').2
      polls := polls } := by
  refine ⟨hrow, ?_, fun _ _ _ => Iff.rfl, rfl, fun _ _ => rfl⟩
  rw [InvestigationQueue.pending_cancel, if_neg (Ne.symm hne)]

theorem Announcing.resolveNext (h : Announcing s m f g base)
    (hw : WellFormed cfg s)
    (hstep : agentStep cfg s (.resolveNext m' now) = some s') :
    Announcing s' m f g base := by
  obtain ⟨incident, resolved, firing, hpoll, hcases⟩ := step_resolveNext hstep
  have hne : incident.fingerprint ≠ f :=
    h.ne_of_mem_toResolve hw.coherent hpoll List.mem_cons_self
  obtain ⟨-, rfl⟩ | ⟨-, -, rfl⟩ | ⟨-, payload, -, rfl⟩ := hcases
  · exact h.poll hw.addressed (untouched_cancel hne rfl _) hpoll rfl
      (List.subset_cons_self _ _) id
  · have hrow : (markResolved s.table incident.fingerprint now).get? f =
        s.table.get? f := markResolved_get?_of_ne (Ne.symm hne)
    exact h.poll hw.addressed (untouched_cancel hne hrow _) hpoll rfl
      (List.subset_cons_self _ _) id
  · exact h.poll hw.addressed (untouched_cancel hne rfl _) hpoll rfl
      (List.Subset.refl _) id

theorem Announcing.answerResolution {accepted : Bool}
    (h : Announcing s m f g base) (hw : WellFormed cfg s)
    (hstep : agentStep cfg s (.answerResolution m' accepted now) = some s') :
    Announcing s' m f g base := by
  obtain ⟨incident, resolution, resolved, firing, hpoll, rfl⟩ :=
    step_answerResolution hstep
  obtain ⟨-, payload, -, haddressed, hlabels, -⟩ := hw.addressed.poll m' _ hpoll
  have hne : resolution.labels.incidentId ≠ some f := by
    rw [hlabels, haddressed.incidentId]
    exact fun heq => h.ne_of_mem_toResolve hw.coherent hpoll
      List.mem_cons_self (Option.some.inj heq)
  refine h.poll hw.addressed ⟨rfl, rfl, fun _ _ _ => Iff.rfl,
    notifications_post_of_ne hne, fun labels hlabels =>
      isFiring_post_of_incident hlabels hne⟩ hpoll rfl
    (List.Subset.refl _) id

theorem Announcing.finishResolution (h : Announcing s m f g base)
    (hw : WellFormed cfg s)
    (hstep : agentStep cfg s (.finishResolution m' now) = some s') :
    Announcing s' m f g base := by
  obtain ⟨incident, accepted, resolved, firing, hpoll, rfl⟩ :=
    step_finishResolution hstep
  have hne : incident.fingerprint ≠ f :=
    h.ne_of_mem_toResolve hw.coherent hpoll List.mem_cons_self
  refine h.poll hw.addressed ⟨?_, rfl, fun _ _ _ => Iff.rfl, rfl,
    fun _ _ => rfl⟩ hpoll rfl (List.subset_cons_self _ _) id
  split
  · exact markResolved_get?_of_ne (Ne.symm hne)
  · rfl

/-- The incident itself is queued: it is pending then, or a worker holds it. -/
theorem Announcing.enqueueSelf (h : Announcing s m f g base)
    (hc : Coherent cfg s) (hflights : FlightsHeld s)
    {incident : FiringIncident F} {firing : List (FiringIncident F)}
    (hpoll : s.polls.get? m' = some (.acting [] (incident :: firing)))
    (hf : incident.fingerprint = f)
    (hclosed : (s.queue.enqueue cfg.queue incident.fingerprint
      incident.anomaly.severity.value ⟨incident, now⟩).1.status ≠
        .rejectedClosed)
    (hfull : (s.queue.enqueue cfg.queue incident.fingerprint
      incident.anomaly.severity.value ⟨incident, now⟩).1.status ≠
        .rejectedFull) :
    Announcing { s with
      queue := (s.queue.enqueue cfg.queue incident.fingerprint
        incident.anomaly.severity.value ⟨incident, now⟩).2
      polls := s.polls.set m' (.acting [] firing) } m f g base := by
  have hm : m' = m := ((hc.poll_open m' _ hpoll).firing_open incident
    List.mem_cons_self).minion_unique (hf ▸ h.present.openAs)
  refine ⟨h.present, h.grown, ?_, ?_, h.answered, ?_, ?_⟩
  · intro phase hphase
    rw [hm] at hphase
    obtain rfl := Option.some.inj
      (OrderedDict.get?_set_self.symm.trans hphase)
    exact List.not_mem_nil
  · intro n job hjob hf
    exact (h.job n job hjob hf).imp_right
      fun hdone => ⟨hdone.1, hdone.2.notified, hdone.2.stored⟩
  · intro hdone
    exact h.lit ⟨hdone.notified, hdone.stored⟩
  · obtain hpending | hheld :=
      InvestigationQueue.pending_or_held_of_enqueue hclosed hfull
    · obtain ⟨item, hitem⟩ := Option.isSome_iff_exists.mp hpending
      rw [hf] at hitem ⊢
      exact Or.inl (.pending item hitem)
    · obtain ⟨n, job, hjob, hsame⟩ := hflights _ hheld
      refine (h.job n job hjob (hsame.trans hf)).imp (fun hpromising => ?_)
        fun hdone => ⟨hdone.2.notified, hdone.2.stored⟩
      exact .held n job hjob (hsame.trans hf) hpromising

theorem Announcing.enqueueNext (h : Announcing s m f g base)
    (hw : WellFormed cfg s) (hflights : FlightsHeld s)
    (hgoes : GoesThrough cfg f s (.enqueueNext m' now))
    (hstep : agentStep cfg s (.enqueueNext m' now) = some s') :
    Announcing s' m f g base := by
  obtain ⟨incident, firing, hpoll, rfl⟩ := step_enqueueNext hstep
  obtain ⟨hkept, hqueued⟩ := hgoes _ hpoll incident rfl
  by_cases hf : incident.fingerprint = f
  · exact h.enqueueSelf hw.coherent hflights hpoll hf (hqueued hf).1
      (hqueued hf).2
  · refine h.poll hw.addressed ⟨rfl, ?_, fun _ _ _ => Iff.rfl, rfl,
      fun _ _ => rfl⟩ hpoll rfl (List.Subset.refl _) ?_
    · exact InvestigationQueue.pending_enqueue_of_ne (Ne.symm hf) hkept
    · intro hmem
      exact (List.mem_cons.mp hmem).resolve_left (Ne.symm hf)

theorem Announcing.finishMinion (h : Announcing s m f g base)
    (ha : Addressed s)
    (hstep : agentStep cfg s (.finishMinion m') = some s') :
    Announcing s' m f g base := by
  obtain ⟨hpoll, rfl⟩ := step_finishMinion hstep
  refine h.of_untouched ha
    ⟨rfl, rfl, fun _ _ _ => Iff.rfl, rfl, fun _ _ => rfl⟩ ?_ ?_
  · intro phase hphase
    exact h.spared phase (OrderedDict.get?_erase_cases hphase).2
  · intro phase hphase hmem
    by_cases hm : m = m'
    · subst hm
      obtain rfl := Option.some.inj (hpoll.symm.trans hphase)
      cases hmem
    · exact ⟨phase, (OrderedDict.get?_erase_of_ne hm).trans hphase, hmem⟩

end Polls

/-! ## Steps of the workers -/

section Workers

variable {cfg : AgentSettings F} {s s' : AgentState F} {m : String} {f : F}
  {g : Rfc3339} {base n : ℕ} {job : Job F} {now : ℚ}

theorem Announcing.pop (h : Announcing s m f g base) (ha : Addressed s)
    (hstep : agentStep cfg s (.pop n) = some s') :
    Announcing s' m f g base := by
  obtain ⟨hfree, item, queue, hnext, rfl⟩ := step_pop hstep
  have hpending := (InvestigationQueue.next_eq_some hnext).2
  have hother : ∀ {n' : ℕ} {job' : Job F}, s.workers.get? n' = some job' →
      n' ≠ n := by
    rintro n' job' hjob' rfl
    rw [hfree] at hjob'
    cases hjob'
  by_cases hf : item.fingerprint = f
  · refine ⟨h.present, h.grown, h.spared, ?_, ?_, ?_, Or.inl ?_⟩
    · intro n' job' hjob' hf'
      obtain ⟨rfl, rfl⟩ | ⟨-, hold⟩ := OrderedDict.get?_set_cases hjob'
      · exact Or.inl rfl
      · exact (h.job n' job' hold hf').imp_right
          fun hdone => ⟨hdone.1, hdone.2.notified, hdone.2.stored⟩
    · intro n' job' payload hjob' hf' hphase
      obtain ⟨rfl, rfl⟩ | ⟨-, hold⟩ := OrderedDict.get?_set_cases hjob'
      · cases hphase
      · exact h.answered n' job' payload hold hf' hphase
    · intro hdone row payload hrow hpayload
      refine (h.lit ⟨hdone.notified, hdone.stored⟩ row payload hrow
        hpayload).imp_right ?_
      rintro ⟨n', job', hjob', hf', hreplacing⟩
      exact ⟨n', job',
        (OrderedDict.get?_set_of_ne (hother hjob')).trans hjob', hf',
        hreplacing⟩
    · exact .held n _ OrderedDict.get?_set_self hf rfl
  · refine h.of_untouched ha ⟨rfl, ?_, ?_, rfl, fun _ _ => rfl⟩ h.spared
      fun phase hphase hmem => ⟨phase, hphase, hmem⟩
    · exact (hpending f).trans (if_neg (Ne.symm hf))
    · intro n' job' hf'
      constructor
      · intro hjob'
        obtain ⟨-, rfl⟩ | ⟨-, hold⟩ := OrderedDict.get?_set_cases hjob'
        · exact absurd hf' hf
        · exact hold
      · intro hjob'
        exact (OrderedDict.get?_set_of_ne (hother hjob')).trans hjob'

/-- The checks of a job let it go on while its incident is present. -/
theorem Announcing.actionable (h : Announcing s m f g base)
    (hc : Coherent cfg s) (hjob : s.workers.get? n = some job)
    (hf : job.fingerprint = f) : job.actionable s.table = true := by
  obtain ⟨hwork, m', row', hrow', -, -, hstarts⟩ := hc.job_open n job hjob
  obtain ⟨row, hrow, hactive, -, -, habsent⟩ := h.present
  rw [hf] at hrow' hwork
  obtain rfl := Option.some.inj (hrow.symm.trans hrow')
  simp [Job.actionable, isActionable, hwork, hrow, hstarts, hactive, habsent]

/-- A step of the job that holds the incident. -/
theorem Announcing.ofJob (h : Announcing s m f g base) (hc : Coherent cfg s)
    (hjob : s.workers.get? n = some job) (hf : job.fingerprint = f)
    {phase : JobPhase F} (hpolls : s'.polls = s.polls)
    (hworkers : s'.workers = s.workers.set n { job with phase := phase })
    (hpresent : Present s'.table m f g)
    (hgrown : base ≤ notifications f s'.accepted)
    (hphase : phase.promising = true ∨
      phase = .finished .delivered ∧ Announced s' f base)
    (hanswered : ∀ payload, phase = .firingAnswered payload true →
      base < notifications f s'.accepted ∧
        isFiring s'.alertmanager payload.labels = true)
    (hlit : Announced s' f base → ∀ row payload,
      s'.table.get? f = some row → row.payloadJson = some payload →
      isFiring s'.alertmanager payload.labels = true ∨
        phase.replacing = true) :
    Announcing s' m f g base := by
  have honly : ∀ n' job', s'.workers.get? n' = some job' →
      job'.fingerprint = f → job' = { job with phase := phase } := by
    intro n' job' hjob' hf'
    rw [hworkers] at hjob'
    obtain ⟨-, rfl⟩ | ⟨hne, hold⟩ := OrderedDict.get?_set_cases hjob'
    · rfl
    · exact absurd (hc.job_unique n' n job' job hold hjob (hf'.trans hf.symm))
        hne
  have hheld : s'.workers.get? n = some { job with phase := phase } := by
    rw [hworkers, OrderedDict.get?_set_self]
  refine ⟨hpresent, hgrown, ?_, ?_, ?_, ?_, ?_⟩
  · rw [hpolls]
    exact h.spared
  · intro n' job' hjob' hf'
    rw [honly n' job' hjob' hf']
    exact hphase
  · intro n' job' payload hjob' hf' hphase'
    rw [honly n' job' hjob' hf'] at hphase'
    exact hanswered payload hphase'
  · intro hdone row payload hrow hpayload
    exact (hlit hdone row payload hrow hpayload).imp_right
      fun hreplacing => ⟨n, _, hheld, hf, hreplacing⟩
  · exact hphase.imp (fun hpromising => .held n _ hheld hf hpromising)
      And.right

/-- The job goes on, and Alertmanager and the row stay. -/
theorem Announcing.setJob (h : Announcing s m f g base) (hc : Coherent cfg s)
    (hjob : s.workers.get? n = some job) (hf : job.fingerprint = f)
    {phase : JobPhase F} (hpromising : phase.promising = true)
    (hreplacing : job.phase.replacing = true → phase.replacing = true)
    (hanswered : ∀ payload, phase ≠ .firingAnswered payload true) :
    Announcing (s.setJob n job phase) m f g base := by
  refine h.ofJob hc hjob hf rfl rfl h.present h.grown (Or.inl hpromising)
    (fun payload hphase => absurd hphase (hanswered payload)) ?_
  intro hdone row payload hrow hpayload
  refine (h.lit ⟨hdone.notified, hdone.stored⟩ row payload hrow
    hpayload).imp_right ?_
  rintro ⟨n', job', hjob', hf', hreplaces⟩
  obtain rfl := hc.job_unique n' n job' job hjob' hjob (hf'.trans hf.symm)
  obtain rfl := Option.some.inj (hjob.symm.trans hjob')
  exact hreplacing hreplaces

theorem Announcing.begin (h : Announcing s m f g base) (hw : WellFormed cfg s)
    (hgoes : GoesThrough cfg f s (.begin n now))
    (hstep : agentStep cfg s (.begin n now) = some s') :
    Announcing s' m f g base := by
  obtain ⟨job, hjob, hphase, rfl⟩ := step_begin hstep
  by_cases hf : job.fingerprint = f
  · have hbegin : job.begin cfg s.table now = .investigating := by
      rw [Job.begin, if_neg (not_lt.mpr (hgoes job hjob hf)),
        if_pos (h.actionable hw.coherent hjob hf)]
    rw [hbegin]
    refine h.setJob hw.coherent hjob hf rfl (fun hreplacing => ?_)
      (by rintro payload ⟨⟩)
    rw [hphase] at hreplacing
    cases hreplacing
  · exact h.of_untouched hw.addressed (untouched_setJob hjob hf _) h.spared
      fun phase hphase hmem => ⟨phase, hphase, hmem⟩

theorem Announcing.conclude {result : InvestigationResult}
    (h : Announcing s m f g base) (hw : WellFormed cfg s)
    (hgoes : GoesThrough cfg f s (.conclude n result now))
    (hstep : agentStep cfg s (.conclude n result now) = some s') :
    Announcing s' m f g base := by
  obtain ⟨job, hjob, hphase, rfl⟩ := step_conclude hstep
  by_cases hf : job.fingerprint = f
  · have hreplacing : job.phase.replacing = true → False := by
      rw [hphase]
      exact Bool.false_ne_true
    obtain ⟨htimely, hended⟩ := hgoes job hjob hf
    cases result with
    | timedOut => exact absurd rfl htimely
    | failed => exact absurd rfl hended
    | analysis analysis =>
        have hactionable := h.actionable hw.coherent hjob hf
        rw [Job.conclude, if_pos hactionable]
        dsimp only
        split
        · exact h.setJob hw.coherent hjob hf rfl
            (fun hyes => (hreplacing hyes).elim) (by rintro payload ⟨⟩)
        · split
          · exact h.setJob hw.coherent hjob hf rfl
              (fun hyes => (hreplacing hyes).elim) (by rintro payload ⟨⟩)
          · exact h.setJob hw.coherent hjob hf rfl
              (fun hyes => (hreplacing hyes).elim) (by rintro payload ⟨⟩)
  · exact h.of_untouched hw.addressed (untouched_setJob hjob hf _) h.spared
      fun phase hphase hmem => ⟨phase, hphase, hmem⟩

theorem Announcing.finishTransition (h : Announcing s m f g base)
    (hw : WellFormed cfg s)
    (hstep : agentStep cfg s (.finishTransition n) = some s') :
    Announcing s' m f g base := by
  obtain ⟨job, payload, accepted, hjob, hphase, rfl⟩ :=
    step_finishTransition hstep
  by_cases hf : job.fingerprint = f
  · have haccepted : accepted = true := by
      obtain hpromising | ⟨hfinished, -⟩ := h.job n job hjob hf
      · rwa [hphase] at hpromising
      · rw [hphase] at hfinished
        cases hfinished
    rw [Job.afterTransition, if_pos haccepted,
      if_pos (h.actionable hw.coherent hjob hf)]
    exact h.setJob hw.coherent hjob hf rfl (fun _ => rfl) (by rintro payload ⟨⟩)
  · exact h.of_untouched hw.addressed (untouched_setJob hjob hf _) h.spared
      fun phase hphase hmem => ⟨phase, hphase, hmem⟩

/-- The alerts of a job carry the label of its incident. -/
theorem incidentId_of_sent (hw : WellFormed cfg s)
    (hjob : s.workers.get? n = some job) {accepted : Bool}
    {payload : AlertPayload F} {phase : JobPhase F}
    (hsent : job.phase.answer accepted = some (payload, phase)) :
    payload.labels.incidentId = some job.fingerprint := by
  have haddressed := hw.addressed.phase n job hjob
  cases hphase : job.phase with
  | transitionSent resolution built =>
      rw [hphase] at hsent haddressed
      obtain ⟨rfl, -⟩ := Prod.mk.inj (Option.some.inj hsent)
      obtain ⟨-, -, previous, hprevious, -, hlabels, -⟩ := haddressed
      rw [hlabels]
      exact (hw.addressed.job n job hjob previous hprevious).incidentId
  | firingSent built =>
      rw [hphase] at hsent haddressed
      obtain ⟨rfl, -⟩ := Prod.mk.inj (Option.some.inj hsent)
      exact haddressed.1.incidentId
  | popped | investigating | transitionAnswered _ _ | firingAnswered _ _
  | finished _ =>
      rw [hphase] at hsent
      cases hsent

/-- A POST of another incident is answered. -/
theorem untouched_post (hjob : s.workers.get? n = some job)
    (hne : job.fingerprint ≠ f) {payload : AlertPayload F}
    (hlabels : payload.labels.incidentId = some job.fingerprint)
    (phase : JobPhase F) (accepted : Bool) :
    Untouched f s { s.setJob n job phase with
      alertmanager := post accepted payload now s.alertmanager } := by
  have hother : payload.labels.incidentId ≠ some f := by
    rw [hlabels]
    exact fun heq => hne (Option.some.inj heq)
  exact ⟨rfl, rfl, (untouched_setJob hjob hne phase).job,
    notifications_post_of_ne hother,
    fun _ hlabels => isFiring_post_of_incident hlabels hother⟩

theorem Announcing.answerPost {accepted : Bool}
    (h : Announcing s m f g base) (hw : WellFormed cfg s)
    (hgoes : GoesThrough cfg f s (.answerPost n accepted now))
    (hstep : agentStep cfg s (.answerPost n accepted now) = some s') :
    Announcing s' m f g base := by
  obtain ⟨job, hjob, hcases⟩ := step_answerPost hstep
  by_cases hf : job.fingerprint = f
  · obtain rfl : accepted = true := hgoes job hjob hf
    obtain ⟨resolution, payload, hphase, rfl⟩ | ⟨payload, hphase, rfl⟩ := hcases
    · have hmore := notifications_post_le f true resolution now s.alertmanager
      exact h.ofJob hw.coherent hjob hf rfl rfl h.present
        (h.grown.trans hmore) (Or.inl rfl) (by rintro payload ⟨⟩)
        fun _ _ _ _ _ => Or.inr rfl
    · have haddressed := hw.addressed.phase n job hjob
      rw [hphase, hf] at haddressed
      have hmore := notifications_post_le f true payload now s.alertmanager
      refine h.ofJob hw.coherent hjob hf rfl rfl h.present
        (h.grown.trans hmore) (Or.inl rfl) ?_ fun _ _ _ _ _ => Or.inr rfl
      rintro _ ⟨⟩
      have hcount : notifications f
          ((post true payload now s.alertmanager).map (·.payload)) =
            notifications f s.accepted + 1 :=
        notifications_post_self haddressed.1
      refine ⟨(Nat.lt_succ_of_le h.grown).trans_eq hcount.symm, ?_⟩
      rw [isFiring_post_self, haddressed.1.endsAt]
      rfl
  · obtain ⟨resolution, payload, hphase, rfl⟩ | ⟨payload, hphase, rfl⟩ := hcases
    · have hsent : job.phase.answer accepted =
          some (resolution, .transitionAnswered payload accepted) := by
        rw [hphase, JobPhase.answer]
      exact h.of_untouched hw.addressed
        (untouched_post hjob hf (incidentId_of_sent hw hjob hsent) _ accepted)
        h.spared fun phase hpoll hmem => ⟨phase, hpoll, hmem⟩
    · have hsent : job.phase.answer accepted =
          some (payload, .firingAnswered payload accepted) := by
        rw [hphase, JobPhase.answer]
      exact h.of_untouched hw.addressed
        (untouched_post hjob hf (incidentId_of_sent hw hjob hsent) _ accepted)
        h.spared fun phase hpoll hmem => ⟨phase, hpoll, hmem⟩

/-- The accepted alert is stored. -/
theorem Announcing.store (h : Announcing s m f g base) (hc : Coherent cfg s)
    (hjob : s.workers.get? n = some job) (hf : job.fingerprint = f)
    {payload : AlertPayload F}
    (hphase : job.phase = .firingAnswered payload true) :
    Announcing { s.setJob n job (.finished .delivered) with
      table := markEmitted s.table job.work.firing.fingerprint payload now
        (some job.work.firing.startsAt)
      alertmanager := handle job.work.firing.fingerprint now s.alertmanager }
      m f g base := by
  obtain ⟨hnotified, hfiring⟩ := h.answered n job payload hjob hf hphase
  obtain ⟨hwork, m', row', hrow', -, -, hstarts⟩ := hc.job_open n job hjob
  obtain ⟨row, hrow, hactive, hm, hg, habsent⟩ := h.present
  rw [hf] at hrow' hwork
  obtain rfl := Option.some.inj (hrow.symm.trans hrow')
  have hafter : (markEmitted s.table job.work.firing.fingerprint payload now
      (some job.work.firing.startsAt)).get? f =
        some (row.emitted payload now) := by
    obtain ⟨row₁, hrow₁, -, -, -, hset⟩ := markEmitted_get?_self
      ⟨row, hrow, hactive, hm, hstarts⟩ payload now
    obtain rfl := Option.some.inj (hrow.symm.trans hrow₁)
    rw [hwork]
    exact hset
  have haccepted : ∀ f' : F,
      (handle f' now s.alertmanager).map (·.payload) = s.accepted :=
    fun f' => accepted_handle f' now s.alertmanager
  refine h.ofJob hc hjob hf rfl rfl ⟨_, hafter, hactive, hm, hg, habsent⟩ ?_
    (Or.inr ⟨rfl, ?_, _, hafter, rfl⟩) (by rintro payload ⟨⟩) ?_
  · exact h.grown.trans_eq (congrArg (notifications f) (haccepted _)).symm
  · exact hnotified.trans_eq (congrArg (notifications f) (haccepted _)).symm
  · intro _ row₁ stored hrow₁ hstored
    obtain rfl := Option.some.inj (hafter.symm.trans hrow₁)
    obtain rfl := Option.some.inj hstored
    exact Or.inl (isFiring_handle.trans hfiring)

theorem Announcing.finishDelivery (h : Announcing s m f g base)
    (hw : WellFormed cfg s)
    (hstep : agentStep cfg s (.finishDelivery n now) = some s') :
    Announcing s' m f g base := by
  obtain ⟨job, payload, hjob, hcases⟩ := step_finishDelivery hstep
  by_cases hf : job.fingerprint = f
  · obtain ⟨hphase, rfl⟩ | ⟨hphase, rfl⟩ := hcases
    · exact h.store hw.coherent hjob hf hphase
    · obtain hpromising | ⟨hfinished, -⟩ := h.job n job hjob hf
      · rw [hphase] at hpromising
        cases hpromising
      · rw [hphase] at hfinished
        cases hfinished
  · have hset := untouched_setJob hjob hf (.finished .delivered)
    obtain ⟨hphase, rfl⟩ | ⟨hphase, rfl⟩ := hcases
    · have hwork := (hw.coherent.job_open n job hjob).1
      refine h.of_untouched hw.addressed ⟨?_, rfl, hset.job, ?_, ?_⟩ h.spared
        fun phase hpoll hmem => ⟨phase, hpoll, hmem⟩
      · rw [hwork]
        exact markEmitted_get?_of_ne (Ne.symm hf)
      · exact congrArg (notifications f)
          (accepted_handle _ now s.alertmanager)
      · exact fun _ _ => isFiring_handle
    · exact h.of_untouched hw.addressed (untouched_setJob hjob hf _) h.spared
        fun phase hpoll hmem => ⟨phase, hpoll, hmem⟩

theorem Announcing.release (h : Announcing s m f g base)
    (hw : WellFormed cfg s)
    (hstep : agentStep cfg s (.release n) = some s') :
    Announcing s' m f g base := by
  obtain ⟨job, outcome, hjob, hphase, rfl⟩ := step_release hstep
  have hkept : ∀ {n' : ℕ} {job' : Job F},
      (s.workers.erase n).get? n' = some job' →
      n' ≠ n ∧ s.workers.get? n' = some job' := OrderedDict.get?_erase_cases
  by_cases hf : job.fingerprint = f
  · have hnone : ∀ n' job', (s.workers.erase n).get? n' = some job' →
        job'.fingerprint ≠ f := by
      intro n' job' hjob' hf'
      obtain ⟨hn, hold⟩ := hkept hjob'
      exact hn (hw.coherent.job_unique n' n job' job hold hjob
        (hf'.trans hf.symm))
    have hdone : Announced s f base := by
      obtain hpromising | ⟨-, hdone⟩ := h.job n job hjob hf
      · rw [hphase] at hpromising
        cases hpromising
      · exact hdone
    refine ⟨h.present, h.grown, h.spared, ?_, ?_, ?_,
      Or.inr ⟨hdone.notified, hdone.stored⟩⟩
    · exact fun n' job' hjob' hf' => absurd hf' (hnone n' job' hjob')
    · exact fun n' job' _ hjob' hf' => absurd hf' (hnone n' job' hjob')
    · intro _ row payload hrow hpayload
      obtain hfiring | ⟨n', job', hjob', hf', hreplacing⟩ :=
        h.lit hdone row payload hrow hpayload
      · exact Or.inl hfiring
      · obtain rfl := hw.coherent.job_unique n' n job' job hjob' hjob
          (hf'.trans hf.symm)
        obtain rfl := Option.some.inj (hjob.symm.trans hjob')
        rw [hphase] at hreplacing
        cases hreplacing
  · refine h.of_untouched hw.addressed ⟨rfl, rfl, fun n' job' hf' => ?_, rfl,
      fun _ _ => rfl⟩ h.spared fun phase hpoll hmem => ⟨phase, hpoll, hmem⟩
    refine ⟨fun hjob' => (hkept hjob').2, fun hjob' => ?_⟩
    have hn : n' ≠ n := by
      rintro rfl
      obtain rfl := Option.some.inj (hjob.symm.trans hjob')
      exact hf hf'
    exact (OrderedDict.get?_erase_of_ne hn).trans hjob'

end Workers

/-! ## The whole notification -/

section Notified

variable {cfg : AgentSettings F} {s s' : AgentState F} {m : String} {f : F}
  {g : Rfc3339} {base : ℕ} {e : AgentEvent}

theorem Announcing.step (h : Announcing s m f g base) (hw : WellFormed cfg s)
    (hflights : FlightsHeld s) (hobserves : Observes cfg m f s e)
    (hgoes : GoesThrough cfg f s e) (hstep : agentStep cfg s e = some s') :
    Announcing s' m f g base := by
  cases e with
  | startCycle minions anomalies => exact h.startCycle hw.addressed hstep
  | reconcile m' now =>
      by_cases hm : m' = m
      · subst hm
        exact h.reconcile hobserves hstep
      · exact h.reconcile_other hw hm hstep
  | resolveNext m' now => exact h.resolveNext hw hstep
  | answerResolution m' accepted now => exact h.answerResolution hw hstep
  | finishResolution m' now => exact h.finishResolution hw hstep
  | enqueueNext m' now => exact h.enqueueNext hw hflights hgoes hstep
  | finishMinion m' => exact h.finishMinion hw.addressed hstep
  | pop n => exact h.pop hw.addressed hstep
  | begin n now => exact h.begin hw hgoes hstep
  | conclude n result now => exact h.conclude hw hgoes hstep
  | answerPost n accepted now => exact h.answerPost hw hgoes hstep
  | finishTransition n => exact h.finishTransition hw hstep
  | finishDelivery n now => exact h.finishDelivery hw hstep
  | release n => exact h.release hw hstep

/-- A reconciliation that lists an incident puts it on its way. -/
theorem announcing_of_listed (hc : Coherent cfg s) {now : ℚ}
    (hfree : ∀ n job, s.workers.get? n = some job → job.fingerprint ≠ f)
    (hstep : agentStep cfg s (.reconcile m now) = some s')
    {phase : PollPhase F} (hpoll : s'.polls.get? m = some phase)
    (hlisted : f ∈ phase.toEnqueue) :
    ∃ g, Announcing s' m f g (notifications f s.accepted) := by
  obtain ⟨anomalies, hbefore, rfl⟩ := step_reconcile hstep
  have hcarries : ∀ a ∈ anomalies, a.minionId = m := hc.poll_open m _ hbefore
  obtain rfl := Option.some.inj (OrderedDict.get?_set_self.symm.trans hpoll)
  obtain ⟨incident, hincident, rfl⟩ := List.mem_map.mp hlisted
  obtain ⟨row, hrow, hactive, hm, hg, -⟩ :=
    open_of_mem_firing hc.keyed hcarries hincident
  obtain ⟨f', anomaly, hobserved, hfiring⟩ :=
    mem_reconcile_firing_iff.mp hincident
  obtain rfl : incident.fingerprint = f' := firingFor_fingerprint hfiring
  have habsent : row.consecutiveAbsent = 0 := by
    rw [reconcile_get?, hobserved] at hrow
    exact (reconciledRow_observed hrow).1
  refine ⟨row.startsAt, ⟨row, hrow, hactive, hm, rfl, habsent⟩, le_rfl, ?_, ?_,
    ?_, ?_, Or.inl ?_⟩
  · intro phase' hphase' hmem
    obtain rfl := Option.some.inj (hpoll.symm.trans hphase')
    have hnodup := reported_nodup cfg.store s.table m anomalies now
    exact (List.nodup_append.mp hnodup).2.2 _ hmem _ hlisted rfl
  · exact fun n job hjob hf => absurd hf (hfree n job hjob)
  · exact fun n job _ hjob hf => absurd hf (hfree n job hjob)
  · exact fun hdone => absurd hdone.notified (lt_irrefl _)
  · exact .listed _ hpoll hlisted

/-- An incident that a reconciliation lists for notification, and that every
later one observes, is announced once nothing of it is under way any more, if
the queue keeps it and its jobs go through: more firing alerts of it have been
accepted than before, its generation is still open, and the alert its row
stores is firing. -/
theorem detection_is_announced (cfg : AgentSettings F)
    {past window : List AgentEvent} {s₀ s₁ s : AgentState F} {now : ℚ}
    (hpast : exec (agentStep cfg) AgentState.initial past = some s₀)
    (hfree : ∀ n job, s₀.workers.get? n = some job → job.fingerprint ≠ f)
    (hstep : agentStep cfg s₀ (.reconcile m now) = some s₁)
    {phase : PollPhase F} (hpoll : s₁.polls.get? m = some phase)
    (hlisted : f ∈ phase.toEnqueue)
    (hwindow : exec (agentStep cfg) s₁ window = some s)
    (hobserves : EveryStep (agentStep cfg) s₁ window (Observes cfg m f))
    (hgoes : EveryStep (agentStep cfg) s₁ window (GoesThrough cfg f))
    (hended : s.polls.get? m = none) (hpopped : s.queue.pending.get? f = none)
    (hreleased : ∀ n job, s.workers.get? n = some job → job.fingerprint ≠ f) :
    notifications f s₀.accepted < notifications f s.accepted ∧
      ∃ row payload, s.table.get? f = some row ∧ row.status = .active ∧
        row.payloadJson = some payload ∧
        payload.labels.incidentId = some f ∧
        isFiring s.alertmanager payload.labels = true := by
  have hinitial : WellFormed cfg (AgentState.initial : AgentState F) ∧
      FlightsHeld (AgentState.initial : AgentState F) :=
    ⟨WellFormed.initial, fun f hf => absurd hf (Finset.notMem_empty f)⟩
  obtain ⟨hw₀, hflights₀⟩ := exec_invariant_always
    (P := fun s => WellFormed cfg s ∧ FlightsHeld s) hinitial
    (fun _ _ _ h hstep => ⟨h.1.step hstep, h.2.step hstep⟩) hpast
  obtain ⟨g, hannouncing⟩ :=
    announcing_of_listed hw₀.coherent hfree hstep hpoll hlisted
  obtain ⟨hw, -, h⟩ := exec_invariant
    (P := fun s => WellFormed cfg s ∧ FlightsHeld s ∧
      Announcing s m f g (notifications f s₀.accepted))
    (C := fun s e => Observes cfg m f s e ∧ GoesThrough cfg f s e)
    ⟨hw₀.step hstep, hflights₀.step hstep, hannouncing⟩
    (fun _ _ _ h hC hstep => ⟨h.1.step hstep, h.2.1.step hstep,
      h.2.2.step h.1 h.2.1 hC.1 hC.2 hstep⟩)
    (fun past e hpast s s' hs he => ⟨hobserves past e hpast s s' hs he,
      hgoes past e hpast s s' hs he⟩) hwindow
  have hdone : Announced s f (notifications f s₀.accepted) := by
    refine h.underWay.resolve_left fun hway => ?_
    cases hway with
    | listed phase hphase _ =>
        rw [hended] at hphase
        cases hphase
    | pending item hitem =>
        rw [hpopped] at hitem
        cases hitem
    | held n job hjob hf _ => exact hreleased n job hjob hf
  obtain ⟨row, hrow, hstored⟩ := hdone.stored
  obtain ⟨payload, hpayload⟩ := Option.isSome_iff_exists.mp hstored
  obtain ⟨row', hrow', hactive, -⟩ := h.present
  obtain rfl := Option.some.inj (hrow.symm.trans hrow')
  refine ⟨hdone.notified, row, payload, hrow, hactive, hpayload,
    ((hw.addressed.row f row hrow).payload payload hpayload).incidentId, ?_⟩
  refine (h.lit hdone row payload hrow hpayload).resolve_right ?_
  rintro ⟨n, job, hjob, hf, -⟩
  exact hreleased n job hjob hf

/-- The warning was delivered, and the next cycle finds the CPU worse. -/
def worseCpuTrace : List AgentEvent :=
  deliveredCpuTrace ++ [.startCycle ["web"] [busyCpu .critical]]

def escalatedWindow : List AgentEvent :=
  [.enqueueNext "web" 60, .finishMinion "web", .pop 0, .begin 0 61,
    .conclude 0 (.analysis openQuestion) 62, .answerPost 0 true 63,
    .finishTransition 0, .answerPost 0 true 64, .finishDelivery 0 65,
    .release 0]

omit [DecidableEq F] in
theorem fingerprint_ne_of_idle {s : AgentState F}
    (h : s.workers.entries = []) (n : ℕ) (job : Job F)
    (hjob : s.workers.get? n = some job) : job.fingerprint ≠ f := by
  rw [OrderedDict.get?_eq_some_iff, h] at hjob
  cases hjob

theorem detection_is_announced_escalated :
    notifications (busyCpu .critical).identityKey
        (afterTrace worseCpuTrace).accepted <
      notifications (busyCpu .critical).identityKey (afterTrace
        (worseCpuTrace ++ [.reconcile "web" 60] ++
          escalatedWindow)).accepted := by
  have hpast := exec_eq_afterTrace
    (show (exec (agentStep .plain) _ worseCpuTrace).isSome by decide +kernel)
  have hstep := exec_eq_afterTrace (show (exec (agentStep .plain) _
    (worseCpuTrace ++ [.reconcile "web" 60])).isSome by decide +kernel)
  have hwindow := exec_eq_afterTrace (show (exec (agentStep .plain) _
    (worseCpuTrace ++ [.reconcile "web" 60] ++ escalatedWindow)).isSome by
      decide +kernel)
  rw [exec_append, hstep] at hwindow
  rw [exec_concat, hpast, Option.bind_some] at hstep
  obtain ⟨phase, hpoll, hlisted⟩ := (Option.any_eq_true _ _).mp
    (show ((afterTrace (worseCpuTrace ++ [.reconcile "web" 60])).polls.get?
      "web").any fun phase =>
        (busyCpu .critical).identityKey ∈ phase.toEnqueue by decide +kernel)
  exact (detection_is_announced .plain hpast
    (fingerprint_ne_of_idle (by decide +kernel)) hstep hpoll
    (of_decide_eq_true hlisted) hwindow
    (everyStep_of_testSteps (fun _ _ => of_decide_eq_true) (by decide +kernel))
    (everyStep_of_testSteps (fun _ _ => of_decide_eq_true) (by decide +kernel))
    (by decide +kernel) (by decide +kernel)
    (fingerprint_ne_of_idle (by decide +kernel))).1

end Notified

end UyuniAgent.Agent
