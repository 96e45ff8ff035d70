import UyuniAgent.Agent.Acknowledgement

/-!
# Notifications inside the cooldown

`reconcile` decides from a row that an incident calls for a notification, and
`process_minion_anomalies` acts on the decision after it awaited the
resolutions of its minion.  A worker that held the incident may have delivered
its alert by then, and the queue no longer refuses the incident.  While
everything that is enqueued still calls for a notification, the notifications
of a generation are a cooldown apart unless the severity rose.
-/

namespace UyuniAgent.Agent

open Incident Queue Transition

variable {F : Type} [DecidableEq F]

/-! ## Notifications -/

/-- A firing POST that Alertmanager accepted. -/
structure Notification where
  severity : String
  acceptedAt : ℚ
  deriving DecidableEq

/-- Of two notifications, the later one has a higher severity or comes a
cooldown after the earlier one. -/
def Notification.Follows (cooldown : ℕ) (later earlier : Notification) : Prop :=
  severityRank later.severity ≤ severityRank earlier.severity →
    (cooldown : ℚ) ≤ later.acceptedAt - earlier.acceptedAt

/-- At most one notification per cooldown, for the notifications of a
generation with the latest first. -/
def OncePerCooldown (cooldown : ℕ) (log : List Notification) : Prop :=
  log.Pairwise fun later earlier =>
    earlier.acceptedAt < later.acceptedAt → later.Follows cooldown earlier

instance (cooldown : ℕ) (later earlier : Notification) :
    Decidable (later.Follows cooldown earlier) :=
  inferInstanceAs (Decidable (_ → _))

instance (cooldown : ℕ) (log : List Notification) :
    Decidable (OncePerCooldown cooldown log) :=
  inferInstanceAs (Decidable (List.Pairwise _ _))

/-- The firing POST that Alertmanager accepts in a step. -/
def AgentEvent.firingPost (s : AgentState F) :
    AgentEvent → Option (AlertPayload F × ℚ)
  | .answerPost n true now =>
      match s.workers.get? n with
      | some ⟨_, _, .firingSent payload⟩ => some (payload, now)
      | _ => none
  | _ => none

/-- The incident has an open generation. -/
def AgentState.hasOpen (s : AgentState F) (f : F) : Bool :=
  (s.table.get? f).any fun row => row.status = .active

/-- The agent, and the notifications of the open generation of each incident,
latest first. -/
structure LoggedAgent (F : Type) where
  agent : AgentState F
  log : F → List Notification

def LoggedAgent.initial : LoggedAgent F where
  agent := AgentState.initial
  log := fun _ => []

/-- The log of an incident is carried on while its generation stays open, with
the POST that is accepted for it. -/
def nextLog (s s' : AgentState F) (e : AgentEvent)
    (log : F → List Notification) (f : F) : List Notification :=
  if s.hasOpen f && s'.hasOpen f then
    match e.firingPost s with
    | some (payload, now) =>
        if payload.labels.incidentId = some f then
          ⟨payload.labels.severity, now⟩ :: log f
        else log f
    | none => log f
  else []

def loggedStep (cfg : AgentSettings F) (w : LoggedAgent F) (e : AgentEvent) :
    Option (LoggedAgent F) :=
  (agentStep cfg w.agent e).map fun s => ⟨s, nextLog w.agent s e w.log⟩

/-! ## The clock and the condition -/

def AgentEvent.time : AgentEvent → Option ℚ
  | .reconcile _ now => some now
  | .resolveNext _ now => some now
  | .answerResolution _ _ now => some now
  | .finishResolution _ now => some now
  | .enqueueNext _ now => some now
  | .begin _ now => some now
  | .conclude _ _ now => some now
  | .answerPost _ _ now => some now
  | .finishDelivery _ now => some now
  | _ => none

/-- The clock never goes backwards. -/
def ClockForward (trace : List AgentEvent) : Prop :=
  (trace.filterMap AgentEvent.time).Pairwise (· ≤ ·)

instance (trace : List AgentEvent) : Decidable (ClockForward trace) :=
  inferInstanceAs (Decidable (List.Pairwise _ _))

/-- An incident that is enqueued, and that no worker holds, calls for a
notification as its row stands then. -/
def EnqueuesWhatIsDue (cfg : AgentSettings F) (s : AgentState F) :
    AgentEvent → Prop
  | .enqueueNext m now => ∀ incident firing row,
      s.polls.get? m = some (.acting [] (incident :: firing)) →
      incident.fingerprint ∉ s.queue.inFlight →
      s.table.get? incident.fingerprint = some row →
      row.notifiable cfg.store incident.anomaly now = true
  | _ => True

/-! ## Spacing -/

section Spacing

variable {cooldown : ℕ} {new last : Notification} {rest : List Notification}

/-- A log in which every notification follows all earlier ones, in the order of
their acceptance. -/
def Spaced (cooldown : ℕ) (log : List Notification) : Prop :=
  log.Pairwise fun later earlier =>
    earlier.acceptedAt ≤ later.acceptedAt ∧ later.Follows cooldown earlier

theorem Spaced.oncePerCooldown {log : List Notification}
    (h : Spaced cooldown log) : OncePerCooldown cooldown log := by
  apply List.Pairwise.imp _ h
  intro later earlier hpair _
  exact hpair.2

/-- It is enough that a new notification follows the last one. -/
theorem Spaced.cons (h : Spaced cooldown (last :: rest))
    (hlater : last.acceptedAt ≤ new.acceptedAt)
    (hfollows : new.Follows cooldown last) :
    Spaced cooldown (new :: last :: rest) := by
  obtain ⟨hlast, -⟩ := List.pairwise_cons.mp h
  apply List.pairwise_cons.mpr
  constructor
  · intro earlier hearlier
    rcases List.mem_cons.mp hearlier with rfl | hrest
    · exact ⟨hlater, hfollows⟩
    · obtain ⟨hbefore, hspaced⟩ := hlast earlier hrest
      constructor
      · exact hbefore.trans hlater
      · intro hrank
        -- either the new one waited for the last one, or it outranks the last
        -- one, which then had to wait for the earlier one
        rcases le_or_gt (severityRank new.severity)
          (severityRank last.severity) with hle | hlt
        · have hwaited := hfollows hle
          linarith
        · have hwaited := hspaced (hlt.le.trans hrank)
          linarith
  · exact h

end Spacing

/-! ## Rows -/

section Rows

variable {cfg : StoreSettings F} {table table' : Table F} {row : Row F}
  {anomaly : Anomaly}

omit [DecidableEq F] in
/-- What calls for a notification does so from then on. -/
theorem notifiable_later {now later : ℚ} (hle : now ≤ later)
    (h : row.notifiable cfg anomaly now = true) :
    row.notifiable cfg anomaly later = true := by
  simp only [Row.notifiable, Bool.or_eq_true, decide_eq_true_eq] at h ⊢
  refine h.imp id ?_
  rcases row.lastEmitted with _ | emittedAt
  · exact id
  · simp only [decide_eq_true_eq]
    intro helapsed
    linarith

/-- The rows of the incident agree on when and at which severity it was last
notified. -/
def SameNotice (table table' : Table F) (f : F) : Prop :=
  ∀ row', table'.get? f = some row' → ∃ row, table.get? f = some row ∧
    row'.lastEmitted = row.lastEmitted ∧
    row'.lastEmittedSeverity = row.lastEmittedSeverity

theorem SameNotice.refl (table : Table F) (f : F) :
    SameNotice table table f :=
  fun row' hrow' => ⟨row', hrow', rfl, rfl⟩

theorem sameNotice_markResolved (table : Table F) (fingerprint : F) (now : ℚ)
    (f : F) : SameNotice table (markResolved table fingerprint now) f := by
  intro row' hrow'
  by_cases hf : f = fingerprint
  · subst hf
    obtain ⟨-, row, hrow, -, -, -, hemitted, hseverity⟩ :=
      markResolved_get?_self hrow'
    exact ⟨row, hrow, hemitted, hseverity⟩
  · rw [markResolved_get?_of_ne hf] at hrow'
    exact ⟨row', hrow', rfl, rfl⟩

/-- A reconciliation leaves an open generation's last notification alone. -/
theorem sameNotice_reconcile {m m' : String} {anomalies : List Anomaly}
    {now : ℚ} (hkeyed : KeyedBy cfg.scheme table)
    (hcarries : ∀ a ∈ anomalies, a.minionId = m) {f : F} {g : Rfc3339}
    (hopen : OpenAs table m' f g) :
    SameNotice table (Incident.reconcile cfg table m anomalies now).2 f := by
  obtain ⟨row, hrow, hactive, -, -⟩ := hopen
  intro row' hrow'
  have hcase := reconcile_row hkeyed hcarries now f
  rw [hrow, hrow'] at hcase
  generalize hrow'? : some row' = row'? at hcase
  cases hcase with
  | continues _ row'' hcontinues =>
      obtain rfl := Option.some.inj hrow'?
      exact ⟨row, hrow, hcontinues.lastEmitted,
        hcontinues.lastEmittedSeverity⟩
  | opened _ anomaly _ hclosed =>
      rw [hclosed row rfl] at hactive
      cases hactive

omit [DecidableEq F] in
theorem notifiable_of_sameNotice {row' : Row F}
    (hemitted : row'.lastEmitted = row.lastEmitted)
    (hseverity : row'.lastEmittedSeverity = row.lastEmittedSeverity)
    {now : ℚ} :
    row'.notifiable cfg anomaly now = row.notifiable cfg anomaly now := by
  rw [Row.notifiable, Row.notifiable, hemitted, hseverity]

end Rows

/-! ## Work that is due -/

/-- The time is not before any step of the run so far. -/
def Upcoming (past : List AgentEvent) (now : ℚ) : Prop :=
  ∀ t ∈ past.filterMap AgentEvent.time, t ≤ now

/-- From now on the incident calls for a notification of the anomaly. -/
def Due (cfg : StoreSettings F) (past : List AgentEvent) (table : Table F)
    (f : F) (anomaly : Anomaly) : Prop :=
  ∀ row now, table.get? f = some row → Upcoming past now →
    row.notifiable cfg anomaly now = true

/-- No firing POST of the job has been answered yet. -/
def JobPhase.unanswered : JobPhase F → Bool
  | .firingAnswered _ _ => false
  | .finished _ => false
  | _ => true

/-- The firing alert of a job that has built it. -/
def JobPhase.alert : JobPhase F → Option (AlertPayload F)
  | .transitionSent _ payload => some payload
  | .transitionAnswered payload _ => some payload
  | .firingSent payload => some payload
  | .firingAnswered payload _ => some payload
  | _ => none

/-- Pending work and the jobs that have not notified yet are due, and the alert
of a job has the severity of its anomaly. -/
structure WorkDue (cfg : AgentSettings F) (past : List AgentEvent)
    (s : AgentState F) : Prop where
  pending : ∀ f item, s.queue.pending.get? f = some item →
    Due cfg.store past s.table f item.payload.firing.anomaly
  job : ∀ n job, s.workers.get? n = some job → job.phase.unanswered = true →
    Due cfg.store past s.table job.fingerprint job.work.firing.anomaly
  severity : ∀ n job payload, s.workers.get? n = some job →
    job.phase.alert = some payload →
    payload.labels.severity = job.work.firing.anomaly.severity.value

section Clock

variable {past : List AgentEvent} {e : AgentEvent} {now : ℚ}

theorem ClockForward.of_prefix {trace : List AgentEvent}
    (h : ClockForward trace) (hpast : past <+: trace) : ClockForward past :=
  List.Pairwise.sublist (hpast.sublist.filterMap _) h

theorem ClockForward.upcoming (h : ClockForward (past ++ [e]))
    (he : e.time = some now) : Upcoming past now := by
  rw [ClockForward, List.filterMap_append] at h
  intro t ht
  apply (List.pairwise_append.mp h).2.2 t ht now
  rw [List.filterMap_cons_some he]
  exact List.mem_cons_self

theorem Upcoming.before (h : Upcoming (past ++ [e]) now) :
    Upcoming past now := by
  intro t ht
  apply h
  rw [List.filterMap_append]
  exact List.mem_append_left _ ht

theorem Upcoming.le {t : ℚ} (h : Upcoming (past ++ [e]) now)
    (he : e.time = some t) : t ≤ now := by
  apply h
  rw [List.filterMap_append, List.filterMap_cons_some he]
  exact List.mem_append_right _ List.mem_cons_self

end Clock

section Frames

variable {cfg : AgentSettings F} {s : AgentState F}
  {past : List AgentEvent} {e : AgentEvent}

theorem Due.later {table : Table F} {f : F} {anomaly : Anomaly}
    (h : Due cfg.store past table f anomaly) :
    Due cfg.store (past ++ [e]) table f anomaly := by
  intro row now hrow hnow
  exact h row now hrow hnow.before

theorem Due.of_sameNotice {table table' : Table F} {f : F} {anomaly : Anomaly}
    (h : Due cfg.store past table f anomaly)
    (hsame : SameNotice table table' f) :
    Due cfg.store past table' f anomaly := by
  intro row' now hrow' hnow
  obtain ⟨row, hrow, hemitted, hseverity⟩ := hsame row' hrow'
  rw [notifiable_of_sameNotice hemitted hseverity]
  exact h row now hrow hnow

namespace WorkDue

theorem later (h : WorkDue cfg past s) : WorkDue cfg (past ++ [e]) s := by
  refine ⟨?_, ?_, h.severity⟩
  · intro f item hitem
    exact (h.pending f item hitem).later
  · intro n job hjob hphase
    exact (h.job n job hjob hphase).later

/-- Only the last notifications in the table matter, of incidents that work is
under way for. -/
theorem setTable (h : WorkDue cfg past s) {table : Table F}
    (hpending : ∀ f item, s.queue.pending.get? f = some item →
      SameNotice s.table table f)
    (hjob : ∀ n job, s.workers.get? n = some job →
      job.phase.unanswered = true → SameNotice s.table table job.fingerprint) :
    WorkDue cfg past { s with table := table } := by
  refine ⟨?_, ?_, h.severity⟩
  · intro f item hitem
    exact (h.pending f item hitem).of_sameNotice (hpending f item hitem)
  · intro n job hn hphase
    exact (h.job n job hn hphase).of_sameNotice (hjob n job hn hphase)

theorem setQueue (h : WorkDue cfg past s)
    {queue : InvestigationQueue F (InvestigationWork F)}
    (hpending : ∀ f item, queue.pending.get? f = some item →
      s.queue.pending.get? f = some item) :
    WorkDue cfg past { s with queue := queue } := by
  refine ⟨?_, h.job, h.severity⟩
  intro f item hitem
  exact h.pending f item (hpending f item hitem)

theorem setPolls (h : WorkDue cfg past s)
    (polls : OrderedDict String (PollPhase F)) :
    WorkDue cfg past { s with polls := polls } :=
  ⟨h.pending, h.job, h.severity⟩

theorem setAlertmanager (h : WorkDue cfg past s)
    (posts : List (AcceptedPost F)) :
    WorkDue cfg past { s with alertmanager := posts } :=
  ⟨h.pending, h.job, h.severity⟩

theorem setWorker (h : WorkDue cfg past s) {n : ℕ} {job : Job F}
    (hdue : job.phase.unanswered = true →
      Due cfg.store past s.table job.fingerprint job.work.firing.anomaly)
    (hseverity : ∀ payload, job.phase.alert = some payload →
      payload.labels.severity = job.work.firing.anomaly.severity.value) :
    WorkDue cfg past { s with workers := s.workers.set n job } := by
  refine ⟨h.pending, OrderedDict.forall_set h.job hdue, ?_⟩
  intro n' job' payload hjob' halert
  rcases OrderedDict.get?_set_cases hjob' with ⟨-, rfl⟩ | ⟨-, hold⟩
  · exact hseverity payload halert
  · exact h.severity n' job' payload hold halert

theorem setJob (h : WorkDue cfg past s) {n : ℕ} {job : Job F}
    (hjob : s.workers.get? n = some job) {phase : JobPhase F}
    (hunanswered : phase.unanswered = true → job.phase.unanswered = true)
    (hseverity : ∀ payload, phase.alert = some payload →
      job.phase.alert = some payload ∨
      payload.labels.severity = job.work.firing.anomaly.severity.value) :
    WorkDue cfg past (s.setJob n job phase) := by
  apply h.setWorker
  · intro hphase
    exact h.job n job hjob (hunanswered hphase)
  · intro payload halert
    rcases hseverity payload halert with hsame | hbuilt
    · exact h.severity n job payload hjob hsame
    · exact hbuilt

theorem eraseWorker (h : WorkDue cfg past s) (n : ℕ) :
    WorkDue cfg past { s with workers := s.workers.erase n } := by
  refine ⟨h.pending, OrderedDict.forall_erase h.job, ?_⟩
  intro n' job payload hjob
  exact h.severity n' job payload (OrderedDict.get?_erase_cases hjob).2

end WorkDue

end Frames

section JobAlerts

variable {cfg : AgentSettings F} {job : Job F} {table : Table F}
  {payload : AlertPayload F} {now : ℚ}

theorem begin_alert : (job.begin cfg table now).alert = none := by
  unfold Job.begin
  split
  · rfl
  · split
    · rfl
    · rfl

/-- A completed investigation builds an alert with the anomaly's severity. -/
theorem conclude_alert {result : InvestigationResult}
    (h : (job.conclude table result now).alert = some payload) :
    payload.labels.severity = job.work.firing.anomaly.severity.value := by
  unfold Job.conclude at h
  split at h
  · cases h
  · cases h
  · split at h
    · dsimp only at h
      split at h
      · obtain rfl := Option.some.inj h
        rfl
      · split at h
        · obtain rfl := Option.some.inj h
          rfl
        · obtain rfl := Option.some.inj h
          rfl
    · cases h

theorem afterTransition_alert {built : AlertPayload F}
    {accepted : Bool}
    (h : (job.afterTransition table built accepted).alert = some payload) :
    built = payload := by
  unfold Job.afterTransition at h
  split at h
  · split at h
    · exact Option.some.inj h
    · cases h
  · cases h

end JobAlerts

/-! ## Every step keeps the work due -/

namespace WorkDue

variable {cfg : AgentSettings F} {s s' : AgentState F}
  {past : List AgentEvent} {e : AgentEvent}

theorem cancel (h : WorkDue cfg past s) (f : F) :
    WorkDue cfg past { s with queue := (s.queue.cancel f).2 } := by
  apply h.setQueue
  intro f' item hitem
  rw [InvestigationQueue.pending_cancel] at hitem
  split at hitem
  · cases hitem
  · exact hitem

theorem markResolved (h : WorkDue cfg past s) (f : F) (now : ℚ) :
    WorkDue cfg past
      { s with table := Incident.markResolved s.table f now } := by
  apply h.setTable
  · intro f' _ _
    exact sameNotice_markResolved s.table f now f'
  · intro _ job _ _
    exact sameNotice_markResolved s.table f now job.fingerprint

theorem reconcile (h : WorkDue cfg past s) (hc : Coherent cfg s) {m : String}
    {now : ℚ} {anomalies : List Anomaly}
    (hcarries : ∀ a ∈ anomalies, a.minionId = m) :
    WorkDue cfg past { s with
      table := (Incident.reconcile cfg.store s.table m anomalies now).2 } := by
  apply h.setTable
  · intro f item hitem
    obtain ⟨-, m', hopen⟩ := hc.pending_open f item hitem
    exact sameNotice_reconcile hc.keyed hcarries hopen
  · intro n job hjob _
    obtain ⟨-, m', hopen⟩ := hc.job_open n job hjob
    exact sameNotice_reconcile hc.keyed hcarries hopen

/-- What is enqueued is due by the condition. -/
theorem enqueue (h : WorkDue cfg past s) {m : String}
    {incident : FiringIncident F} {firing : List (FiringIncident F)}
    {now : ℚ} (hdue : EnqueuesWhatIsDue cfg s (.enqueueNext m now))
    (hpoll : s.polls.get? m = some (.acting [] (incident :: firing))) :
    WorkDue cfg (past ++ [.enqueueNext m now]) { s with
      queue := (s.queue.enqueue cfg.queue incident.fingerprint
        incident.anomaly.severity.value ⟨incident, now⟩).2 } := by
  have hlater : WorkDue cfg (past ++ [.enqueueNext m now]) s := h.later
  refine ⟨?_, hlater.job, hlater.severity⟩
  intro f item hitem
  rcases InvestigationQueue.pending_enqueue_cases hitem with
    hold | ⟨rfl, hfree, hpayload⟩
  · exact hlater.pending f item hold
  · rw [hpayload]
    intro row later hrow hupcoming
    have hnow := hdue incident firing row hpoll hfree hrow
    exact notifiable_later (hupcoming.le rfl) hnow

/-- A popped job is as due as the item it comes from. -/
theorem pop (h : WorkDue cfg past s) (hc : Coherent cfg s) {n : ℕ}
    {item : QueueItem F (InvestigationWork F)}
    {queue : InvestigationQueue F (InvestigationWork F)}
    (hnext : s.queue.next = some (item, queue)) :
    WorkDue cfg past { s with
      queue := queue
      workers := s.workers.set n
        ⟨item.fingerprint, item.payload, .popped⟩ } := by
  obtain ⟨-, hmem, -⟩ := hc.queue.next hnext
  obtain ⟨-, hpending⟩ := InvestigationQueue.next_eq_some hnext
  have hitem := (hc.queue.mem_heap_iff item).mp hmem
  have hqueue : WorkDue cfg past { s with queue := queue } := by
    apply h.setQueue
    intro f item' hitem'
    rw [hpending] at hitem'
    split at hitem'
    · cases hitem'
    · exact hitem'
  apply hqueue.setWorker
  · intro _
    exact h.pending item.fingerprint item hitem
  · intro payload halert
    cases halert

/-- Storing a delivery concerns no work but that of its own job. -/
theorem store (h : WorkDue cfg past s) (hc : Coherent cfg s) {n : ℕ}
    {job : Job F} (hjob : s.workers.get? n = some job)
    {payload : AlertPayload F} {accepted : Bool}
    (hanswered : job.phase = .firingAnswered payload accepted)
    (table : Table F)
    (hother : ∀ f, f ≠ job.fingerprint → table.get? f = s.table.get? f) :
    WorkDue cfg past { s with table := table } := by
  have hsame : ∀ f, f ≠ job.fingerprint → SameNotice s.table table f := by
    intro f hf row hrow
    rw [hother f hf] at hrow
    exact SameNotice.refl s.table f row hrow
  apply h.setTable
  · intro f item hitem
    apply hsame
    rintro rfl
    rw [hc.queue.not_pending _ (hc.job_inFlight n job hjob)] at hitem
    cases hitem
  · intro n' job' hjob' hphase
    apply hsame
    intro heq
    obtain rfl := hc.job_unique n' n job' job hjob' hjob heq
    obtain rfl := Option.some.inj (hjob.symm.trans hjob')
    rw [hanswered] at hphase
    cases hphase

theorem step (h : WorkDue cfg past s) (hc : Coherent cfg s)
    (hdue : EnqueuesWhatIsDue cfg s e)
    (hstep : agentStep cfg s e = some s') : WorkDue cfg (past ++ [e]) s' := by
  have hlater : WorkDue cfg (past ++ [e]) s := h.later
  rcases e with ⟨minions, anomalies⟩ | ⟨m, now⟩ | ⟨m, now⟩ |
    ⟨m, accepted, now⟩ | ⟨m, now⟩ | ⟨m, now⟩ | m | n | ⟨n, now⟩ |
    ⟨n, result, now⟩ | ⟨n, accepted, now⟩ | n | ⟨n, now⟩ | n
  · obtain ⟨-, -, rfl⟩ := step_startCycle hstep
    exact hlater.setPolls _
  · obtain ⟨anomalies, hpoll, rfl⟩ := step_reconcile hstep
    exact (hlater.reconcile hc (hc.poll_open m _ hpoll)).setPolls _
  · obtain ⟨incident, resolved, firing, -, hcases⟩ := step_resolveNext hstep
    have hcancelled := hlater.cancel incident.fingerprint
    rcases hcases with ⟨-, rfl⟩ | ⟨-, -, rfl⟩ | ⟨-, payload, -, rfl⟩
    · exact hcancelled.setPolls _
    · exact (hcancelled.markResolved incident.fingerprint now).setPolls _
    · exact hcancelled.setPolls _
  · obtain ⟨incident, resolution, resolved, firing, -, rfl⟩ :=
      step_answerResolution hstep
    have hpolls := hlater.setPolls
      (s.polls.set m (.resolutionAnswered incident accepted resolved firing))
    exact hpolls.setAlertmanager _
  · obtain ⟨incident, accepted, resolved, firing, -, rfl⟩ :=
      step_finishResolution hstep
    rcases accepted with _ | _
    · exact hlater.setPolls _
    · exact (hlater.markResolved incident.fingerprint now).setPolls _
  · obtain ⟨incident, firing, hpoll, rfl⟩ := step_enqueueNext hstep
    exact (h.enqueue hdue hpoll).setPolls _
  · obtain ⟨-, rfl⟩ := step_finishMinion hstep
    exact hlater.setPolls _
  · obtain ⟨-, item, queue, hnext, rfl⟩ := step_pop hstep
    exact hlater.pop hc hnext
  · obtain ⟨job, hjob, hpopped, rfl⟩ := step_begin hstep
    apply hlater.setJob hjob
    · simp [hpopped, JobPhase.unanswered]
    · simp [begin_alert]
  · obtain ⟨job, hjob, hinvestigating, rfl⟩ := step_conclude hstep
    apply hlater.setJob hjob
    · simp [hinvestigating, JobPhase.unanswered]
    · intro payload halert
      exact Or.inr (conclude_alert halert)
  · obtain ⟨job, hjob, hcases⟩ := step_answerPost hstep
    rcases hcases with ⟨resolution, payload, hsent, rfl⟩ | ⟨payload, hsent, rfl⟩
    · apply (hlater.setJob hjob _ _).setAlertmanager
      · simp [hsent, JobPhase.unanswered]
      · simp [hsent, JobPhase.alert]
    · apply (hlater.setJob hjob _ _).setAlertmanager
      · simp [hsent, JobPhase.unanswered]
      · simp [hsent, JobPhase.alert]
  · obtain ⟨job, payload, accepted, hjob, hanswered, rfl⟩ :=
      step_finishTransition hstep
    apply hlater.setJob hjob
    · simp [hanswered, JobPhase.unanswered]
    · intro payload' halert
      rw [hanswered, afterTransition_alert halert]
      exact Or.inl rfl
  · obtain ⟨job, payload, hjob, hcases⟩ := step_finishDelivery hstep
    rcases hcases with ⟨hanswered, rfl⟩ | ⟨hanswered, rfl⟩
    · have hstored := hlater.store hc hjob hanswered
        (markEmitted s.table job.work.firing.fingerprint payload now
          (some job.work.firing.startsAt)) ?_
      · apply (hstored.setJob hjob _ _).setAlertmanager
        · simp [JobPhase.unanswered]
        · simp [JobPhase.alert]
      · intro f hf
        apply markEmitted_get?_of_ne
        rw [(hc.job_open n job hjob).1]
        exact hf
    · apply hlater.setJob hjob
      · simp [JobPhase.unanswered]
      · simp [JobPhase.alert]
  · obtain ⟨job, outcome, hjob, -, rfl⟩ := step_release hstep
    apply (hlater.eraseWorker n).setQueue
    intro f item hitem
    exact hitem

end WorkDue

/-! ## The log of a generation -/

/-- The row records the notification. -/
def Recorded (table : Table F) (f : F) (last : Notification) : Prop :=
  ∃ row emittedAt, table.get? f = some row ∧
    row.lastEmitted = some emittedAt ∧
    row.lastEmittedSeverity = some last.severity ∧
    last.acceptedAt ≤ emittedAt

/-- The log of an incident is spaced, and its latest notification is recorded
in the row, unless a worker still has to record it. -/
structure LogKept (cfg : AgentSettings F) (past : List AgentEvent)
    (s : AgentState F) (f : F) (log : List Notification) : Prop where
  spaced : Spaced cfg.store.cooldownSeconds log
  before : ∀ n ∈ log, ∀ now, Upcoming past now → n.acceptedAt ≤ now
  recorded : ∀ last rest, log = last :: rest →
    (∀ payload, ¬Delivering s f payload) → Recorded s.table f last
  delivering : ∀ payload, Delivering s f payload → ∃ last rest,
    log = last :: rest ∧ last.severity = payload.labels.severity

section Log

variable {cfg : AgentSettings F} {s s' : AgentState F}
  {past : List AgentEvent} {e : AgentEvent} {log : F → List Notification}
  {f : F}

theorem hasOpen_iff : s.hasOpen f = true ↔ ∃ m g, OpenAs s.table m f g := by
  rw [AgentState.hasOpen, Option.any_eq_true]
  constructor
  · rintro ⟨row, hrow, hactive⟩
    exact ⟨_, _, row, hrow, of_decide_eq_true hactive, rfl, rfl⟩
  · rintro ⟨m, g, row, hrow, hactive, -⟩
    exact ⟨row, hrow, decide_eq_true hactive⟩

theorem Delivering.hasOpen {payload : AlertPayload F} (hc : Coherent cfg s)
    (h : Delivering s f payload) : s.hasOpen f = true := by
  obtain ⟨n, job, hjob, rfl, -⟩ := h
  obtain ⟨-, m, hopen⟩ := hc.job_open n job hjob
  exact hasOpen_iff.mpr ⟨m, _, hopen⟩

/-- The log of an incident that the step accepts no firing POST for. -/
theorem nextLog_of_other (hother : ∀ payload now,
      e.firingPost s = some (payload, now) → payload.labels.incidentId ≠ some f)
    (hopen : s.hasOpen f = true) (hopen' : s'.hasOpen f = true) :
    nextLog s s' e log f = log f := by
  unfold nextLog
  rw [hopen, hopen', Bool.and_true, if_pos rfl]
  split
  next payload now hpost => rw [if_neg (hother payload now hpost)]
  next => rfl

theorem nextLog_of_closed (hclosed : ¬(s.hasOpen f = true ∧
    s'.hasOpen f = true)) : nextLog s s' e log f = [] := by
  rw [← Bool.and_eq_true] at hclosed
  rw [nextLog, if_neg hclosed]

theorem LogKept.transport (h : LogKept cfg past s f (log f))
    (hc : Coherent cfg s) (hc' : Coherent cfg s')
    (hother : ∀ payload now, e.firingPost s = some (payload, now) →
      payload.labels.incidentId ≠ some f)
    (hsame : ∀ m g, OpenAs s.table m f g → SameNotice s.table s'.table f)
    (hdelivering : ∀ payload, Delivering s' f payload ↔
      Delivering s f payload) :
    LogKept cfg (past ++ [e]) s' f (nextLog s s' e log f) := by
  by_cases hopen : s.hasOpen f = true ∧ s'.hasOpen f = true
  · rw [nextLog_of_other hother hopen.1 hopen.2]
    refine ⟨h.spaced, ?_, ?_, ?_⟩
    · intro n hn now hnow
      exact h.before n hn now hnow.before
    · intro last rest hlog hnone
      obtain ⟨row, emittedAt, hrow, hemitted, hseverity, hle⟩ :=
        h.recorded last rest hlog fun payload hpayload =>
          hnone payload ((hdelivering payload).mpr hpayload)
      obtain ⟨m, g, hopened⟩ := hasOpen_iff.mp hopen.1
      obtain ⟨m', g', row', hrow', -⟩ := hasOpen_iff.mp hopen.2
      obtain ⟨row₀, hrow₀, hemitted', hseverity'⟩ := hsame m g hopened row' hrow'
      obtain rfl := Option.some.inj (hrow.symm.trans hrow₀)
      exact ⟨row', emittedAt, hrow', hemitted'.trans hemitted,
        hseverity'.trans hseverity, hle⟩
    · intro payload hpayload
      exact h.delivering payload ((hdelivering payload).mp hpayload)
  · rw [nextLog_of_closed hopen]
    refine ⟨List.Pairwise.nil, ?_, ?_, ?_⟩
    · intro n hn
      cases hn
    · intro last rest hlog
      cases hlog
    · intro payload hpayload
      exact absurd ⟨((hdelivering payload).mp hpayload).hasOpen hc,
        hpayload.hasOpen hc'⟩ hopen

/-- A step without an accepted firing POST keeps every log. -/
theorem logKept_silent (h : ∀ f, LogKept cfg past s f (log f))
    (hc : Coherent cfg s) (hc' : Coherent cfg s')
    (hpost : e.firingPost s = none)
    (hsame : ∀ m f g, OpenAs s.table m f g → SameNotice s.table s'.table f)
    (hdelivering : ∀ f payload, Delivering s' f payload ↔
      Delivering s f payload) (f : F) :
    LogKept cfg (past ++ [e]) s' f (nextLog s s' e log f) := by
  refine (h f).transport hc hc' ?_ (fun m g => hsame m f g) (hdelivering f)
  intro payload now hsome
  rw [hpost] at hsome
  cases hsome

omit [DecidableEq F] in
/-- A due notification follows the last one that the row records. -/
theorem follows_of_due {store : StoreSettings F} {row : Row F}
    {anomaly : Anomaly} {last : Notification} {now emittedAt : ℚ}
    (hdue : row.notifiable store anomaly now = true)
    (hemitted : row.lastEmitted = some emittedAt)
    (hseverity : row.lastEmittedSeverity = some last.severity)
    (hle : last.acceptedAt ≤ emittedAt) :
    Notification.Follows store.cooldownSeconds
      ⟨anomaly.severity.value, now⟩ last := by
  simp only [Row.notifiable, hemitted, hseverity, Option.getD_some,
    Bool.or_eq_true, decide_eq_true_eq] at hdue
  intro hrank
  rcases hdue with hescalated | helapsed
  · exact absurd hescalated (not_lt.mpr hrank)
  · change (store.cooldownSeconds : ℚ) ≤ now - last.acceptedAt
    linarith

/-- The notification of a due job follows the log of its incident. -/
theorem LogKept.accept (h : LogKept cfg past s f (log f))
    (hc : Coherent cfg s) {n : ℕ} {job : Job F} {payload : AlertPayload F}
    {now : ℚ} (hjob : s.workers.get? n = some job)
    (hf : job.fingerprint = f) (hsent : job.phase = .firingSent payload)
    (hdue : Due cfg.store past s.table f job.work.firing.anomaly)
    (hupcoming : Upcoming past now) :
    Spaced cfg.store.cooldownSeconds
      (⟨job.work.firing.anomaly.severity.value, now⟩ :: log f) := by
  have hnone : ∀ payload, ¬Delivering s f payload := by
    subst hf
    exact not_delivering_of_job hc hjob (by simp [hsent])
  rcases hlog : log f with _ | ⟨last, rest⟩
  · exact List.pairwise_singleton _ _
  · obtain ⟨row, emittedAt, hrow, hemitted, hseverity, hle⟩ :=
      h.recorded last rest hlog hnone
    have hspaced := h.spaced
    rw [hlog] at hspaced
    apply hspaced.cons
    · apply h.before last _ now hupcoming
      rw [hlog]
      exact List.mem_cons_self
    · exact follows_of_due (hdue row now hrow hupcoming) hemitted hseverity hle

/-- The answer to a due firing POST keeps every log. -/
theorem logKept_accept (h : ∀ f, LogKept cfg past s f (log f))
    (hw : WellFormed cfg s) (hwork : WorkDue cfg past s) {n : ℕ} {job : Job F}
    {payload : AlertPayload F} {now : ℚ}
    (hjob : s.workers.get? n = some job)
    (hsent : job.phase = .firingSent payload)
    (hupcoming : Upcoming past now)
    (hs' : s' = { s.setJob n job (.firingAnswered payload true) with
      alertmanager := post true payload now s.alertmanager })
    (hc' : Coherent cfg s') (f : F) :
    LogKept cfg (past ++ [.answerPost n true now]) s' f
      (nextLog s s' (.answerPost n true now) log f) := by
  have hc := hw.coherent
  have hpost : AgentEvent.firingPost s (.answerPost n true now) =
      some (payload, now) := by
    rcases job with ⟨fingerprint, work, phase⟩
    obtain rfl : phase = .firingSent payload := hsent
    simp [AgentEvent.firingPost, hjob]
  have hphase := hw.addressed.phase n job hjob
  rw [hsent] at hphase
  have hid : payload.labels.incidentId = some job.fingerprint :=
    hphase.1.incidentId
  have htable : s'.table = s.table := by rw [hs']; rfl
  by_cases hf : f = job.fingerprint
  · subst hf
    obtain ⟨-, m, hopened⟩ := hc.job_open n job hjob
    have hopen : s.hasOpen job.fingerprint = true :=
      hasOpen_iff.mpr ⟨m, _, hopened⟩
    have hopen' : s'.hasOpen job.fingerprint = true := by
      rw [AgentState.hasOpen, htable]
      exact hopen
    have hlog : nextLog s s' (.answerPost n true now) log job.fingerprint =
        ⟨payload.labels.severity, now⟩ :: log job.fingerprint := by
      simp [nextLog, hopen, hopen', hpost, hid]
    have hseverity : payload.labels.severity =
        job.work.firing.anomaly.severity.value := by
      apply hwork.severity n job payload hjob
      simp [hsent, JobPhase.alert]
    have hdue : Due cfg.store past s.table job.fingerprint
        job.work.firing.anomaly := by
      apply hwork.job n job hjob
      simp [hsent, JobPhase.unanswered]
    have hpayload : Delivering s' job.fingerprint payload := by
      rw [hs']
      exact (delivering_setJob_self hc hjob _ payload).mpr rfl
    rw [hlog]
    refine ⟨?_, ?_, ?_, ?_⟩
    · rw [hseverity]
      exact (h job.fingerprint).accept hc hjob rfl hsent hdue hupcoming
    · intro p hp later hlater
      rcases List.mem_cons.mp hp with rfl | hp
      · exact hlater.le rfl
      · exact (h job.fingerprint).before p hp later hlater.before
    · intro last rest _ hnone
      exact absurd hpayload (hnone payload)
    · intro payload' hpayload'
      obtain rfl := hpayload.unique hc' hpayload'
      exact ⟨_, _, rfl, rfl⟩
  · refine (h f).transport hc hc' ?_ ?_ ?_
    · intro payload' now' hsome heq
      obtain ⟨rfl, rfl⟩ := Prod.mk.inj (Option.some.inj (hpost.symm.trans hsome))
      exact hf (Option.some.inj (heq.symm.trans hid))
    · intro m g _
      rw [htable]
      exact SameNotice.refl s.table f
    · rw [hs']
      exact delivering_setJob_of_ne hc hjob _ hf

/-- Storing a delivery records the latest notification of its log. -/
theorem logKept_store (h : ∀ f, LogKept cfg past s f (log f))
    (hw : WellFormed cfg s) {n : ℕ} {job : Job F} {payload : AlertPayload F}
    {now : ℚ} (hjob : s.workers.get? n = some job)
    (hanswered : job.phase = .firingAnswered payload true)
    (hupcoming : Upcoming past now)
    (hs' : s' = { s.setJob n job (.finished .delivered) with
      table := markEmitted s.table job.work.firing.fingerprint payload now
        (some job.work.firing.startsAt)
      alertmanager := handle job.work.firing.fingerprint now s.alertmanager })
    (hc' : Coherent cfg s') (f : F) :
    LogKept cfg (past ++ [.finishDelivery n now]) s' f
      (nextLog s s' (.finishDelivery n now) log f) := by
  have hc := hw.coherent
  obtain ⟨hkey, m, hopened⟩ := hc.job_open n job hjob
  rw [hkey] at hs'
  have hphase := hw.addressed.phase n job hjob
  rw [hanswered] at hphase
  have haddressed : AddressedTo job.fingerprint payload := hphase.1
  have hother : ∀ payload' now',
      AgentEvent.firingPost s (.finishDelivery n now) = some (payload', now') →
        payload'.labels.incidentId ≠ some f := by
    intro payload' now' hsome
    cases hsome
  by_cases hf : f = job.fingerprint
  · subst hf
    obtain ⟨row, hrow, hactive, hrowMinion, hgen, hafter⟩ :=
      markEmitted_get?_self hopened payload now
    have htable : s'.table.get? job.fingerprint =
        some (row.emitted payload now) := by
      rw [hs']
      exact hafter
    have hopen : s.hasOpen job.fingerprint = true :=
      hasOpen_iff.mpr ⟨m, _, hopened⟩
    have hopen' : s'.hasOpen job.fingerprint = true :=
      hasOpen_iff.mpr ⟨m, row.startsAt, _, htable, hactive, hrowMinion, rfl⟩
    obtain ⟨last, rest, hlog, hseverity⟩ := (h job.fingerprint).delivering
      payload ⟨n, job, hjob, rfl, hanswered⟩
    have hcolumns : (row.emitted payload now).delivery =
        (some payload, some now, some payload.labels.severity) :=
      delivery_emitted haddressed
    rw [nextLog_of_other hother hopen hopen', hlog]
    have hkept := h job.fingerprint
    rw [hlog] at hkept
    refine ⟨hkept.spaced, ?_, ?_, ?_⟩
    · intro p hp later hlater
      exact hkept.before p hp later hlater.before
    · intro last' rest' heq _
      obtain ⟨rfl, rfl⟩ := List.cons.inj heq
      refine ⟨_, now, htable, rfl, ?_, ?_⟩
      · rw [hseverity]
        exact congrArg (fun columns => columns.2.2) hcolumns
      · exact hkept.before last List.mem_cons_self now hupcoming
    · intro payload' hpayload'
      rw [hs'] at hpayload'
      cases (delivering_setJob_self hc hjob _ payload').mp hpayload'
  · refine (h f).transport hc hc' hother ?_ ?_
    · intro m' g _ row' hrow'
      have hkept : s'.table.get? f = s.table.get? f := by
        rw [hs']
        exact markEmitted_get?_of_ne hf
      exact ⟨row', hkept.symm.trans hrow', rfl, rfl⟩
    · rw [hs']
      exact delivering_setJob_of_ne hc hjob _ hf

theorem logKept_step (h : ∀ f, LogKept cfg past s f (log f))
    (hw : WellFormed cfg s) (hwork : WorkDue cfg past s)
    (hclock : ClockForward (past ++ [e]))
    (hstep : agentStep cfg s e = some s') (f : F) :
    LogKept cfg (past ++ [e]) s' f (nextLog s s' e log f) := by
  have hc := hw.coherent
  have hc' : Coherent cfg s' := hc.step hstep
  have hrefl : ∀ m f g, OpenAs s.table m f g →
      SameNotice s.table s.table f :=
    fun _ f _ _ => SameNotice.refl s.table f
  have hresolved : ∀ fingerprint now m f g, OpenAs s.table m f g →
      SameNotice s.table (markResolved s.table fingerprint now) f :=
    fun fingerprint now _ f _ _ =>
      sameNotice_markResolved s.table fingerprint now f
  have hsame : ∀ f payload, Delivering s f payload ↔ Delivering s f payload :=
    fun _ _ => Iff.rfl
  rcases e with ⟨minions, anomalies⟩ | ⟨m, now⟩ | ⟨m, now⟩ |
    ⟨m, accepted, now⟩ | ⟨m, now⟩ | ⟨m, now⟩ | m | n | ⟨n, now⟩ |
    ⟨n, result, now⟩ | ⟨n, accepted, now⟩ | n | ⟨n, now⟩ | n
  · obtain ⟨-, -, rfl⟩ := step_startCycle hstep
    exact logKept_silent h hc hc' rfl hrefl hsame f
  · obtain ⟨anomalies, hpoll, rfl⟩ := step_reconcile hstep
    have hcarries : ∀ a ∈ anomalies, a.minionId = m := hc.poll_open m _ hpoll
    exact logKept_silent h hc hc' rfl
      (fun _ _ _ hopen => sameNotice_reconcile hc.keyed hcarries hopen) hsame f
  · obtain ⟨incident, resolved, firing, -, hcases⟩ := step_resolveNext hstep
    rcases hcases with ⟨-, rfl⟩ | ⟨-, -, rfl⟩ | ⟨-, payload, -, rfl⟩
    · exact logKept_silent h hc hc' rfl hrefl hsame f
    · exact logKept_silent h hc hc' rfl (hresolved _ _) hsame f
    · exact logKept_silent h hc hc' rfl hrefl hsame f
  · obtain ⟨incident, resolution, resolved, firing, -, rfl⟩ :=
      step_answerResolution hstep
    exact logKept_silent h hc hc' rfl hrefl hsame f
  · obtain ⟨incident, accepted, resolved, firing, -, rfl⟩ :=
      step_finishResolution hstep
    rcases accepted with _ | _
    · exact logKept_silent h hc hc' rfl hrefl hsame f
    · exact logKept_silent h hc hc' rfl (hresolved _ _) hsame f
  · obtain ⟨incident, firing, -, rfl⟩ := step_enqueueNext hstep
    exact logKept_silent h hc hc' rfl hrefl hsame f
  · obtain ⟨-, rfl⟩ := step_finishMinion hstep
    exact logKept_silent h hc hc' rfl hrefl hsame f
  · obtain ⟨hfree, item, queue, -, rfl⟩ := step_pop hstep
    exact logKept_silent h hc hc' rfl hrefl (delivering_pop_iff hfree rfl) f
  · obtain ⟨job, hjob, hpopped, rfl⟩ := step_begin hstep
    exact logKept_silent h hc hc' rfl hrefl (delivering_setJob_of_silent hc
      hjob (by simp [hpopped]) begin_ne_firing) f
  · obtain ⟨job, hjob, hinvestigating, rfl⟩ := step_conclude hstep
    exact logKept_silent h hc hc' rfl hrefl (delivering_setJob_of_silent hc
      hjob (by simp [hinvestigating]) conclude_ne_firing) f
  · obtain ⟨job, hjob, hcases⟩ := step_answerPost hstep
    rcases hcases with ⟨resolution, payload, hsent, hs'⟩ |
      ⟨payload, hsent, hs'⟩
    · have hpost : AgentEvent.firingPost s (.answerPost n accepted now) =
          none := by
        rcases job with ⟨fingerprint, work, phase⟩
        obtain rfl : phase = .transitionSent resolution payload := hsent
        rcases accepted with _ | _
        · rfl
        · simp [AgentEvent.firingPost, hjob]
      subst hs'
      exact logKept_silent h hc hc' hpost hrefl
        (delivering_setJob_of_silent hc hjob (by simp [hsent]) (by simp)) f
    · rcases accepted with _ | _
      · subst hs'
        exact logKept_silent h hc hc' rfl hrefl
          (delivering_setJob_of_silent hc hjob (by simp [hsent]) (by simp)) f
      · exact logKept_accept h hw hwork hjob hsent (hclock.upcoming rfl) hs'
          hc' f
  · obtain ⟨job, payload, accepted, hjob, hanswered, rfl⟩ :=
      step_finishTransition hstep
    exact logKept_silent h hc hc' rfl hrefl (delivering_setJob_of_silent hc
      hjob (by simp [hanswered]) afterTransition_ne_firing) f
  · obtain ⟨job, payload, hjob, hcases⟩ := step_finishDelivery hstep
    rcases hcases with ⟨hanswered, hs'⟩ | ⟨hanswered, rfl⟩
    · exact logKept_store h hw hjob hanswered (hclock.upcoming rfl) hs' hc' f
    · exact logKept_silent h hc hc' rfl hrefl
        (delivering_setJob_of_silent hc hjob (by simp [hanswered]) (by simp)) f
  · obtain ⟨job, outcome, hjob, hfinished, rfl⟩ := step_release hstep
    exact logKept_silent h hc hc' rfl hrefl
      (delivering_release_iff hjob (by simp [hfinished])) f

end Log

/-! ## Whole runs -/

structure Notifying (cfg : AgentSettings F) (past : List AgentEvent)
    (w : LoggedAgent F) : Prop where
  wellFormed : WellFormed cfg w.agent
  work : WorkDue cfg past w.agent
  log : ∀ f, LogKept cfg past w.agent f (w.log f)

theorem Notifying.initial {cfg : AgentSettings F} :
    Notifying cfg [] (LoggedAgent.initial : LoggedAgent F) := by
  refine ⟨WellFormed.initial, ⟨?_, ?_, ?_⟩, ?_⟩
  · intro f item hitem
    cases hitem
  · intro n job hjob
    cases hjob
  · intro n job payload hjob
    cases hjob
  · intro f
    refine ⟨List.Pairwise.nil, ?_, ?_, ?_⟩
    · intro n hn
      cases hn
    · intro last rest hlog
      cases hlog
    · rintro payload ⟨n, job, hjob, -⟩
      cases hjob

theorem Notifying.step {cfg : AgentSettings F} {past : List AgentEvent}
    {w w' : LoggedAgent F} {e : AgentEvent} (h : Notifying cfg past w)
    (hclock : ClockForward (past ++ [e]))
    (hdue : EnqueuesWhatIsDue cfg w.agent e)
    (hstep : loggedStep cfg w e = some w') :
    Notifying cfg (past ++ [e]) w' := by
  obtain ⟨s', hs', rfl⟩ := Option.map_eq_some_iff.mp hstep
  refine ⟨h.wellFormed.step hs', ?_, ?_⟩
  · exact h.work.step h.wellFormed.coherent hdue hs'
  · exact logKept_step h.log h.wellFormed h.work hclock hs'

/-- In every run whose clock goes forward and that enqueues only what is due,
a generation is notified at most once per cooldown. -/
theorem once_per_cooldown_of_enqueues_what_is_due
    (cfg : AgentSettings F) (trace : List AgentEvent)
    (hclock : ClockForward trace)
    (hdue : EveryStep (loggedStep cfg) LoggedAgent.initial trace
      fun w e => EnqueuesWhatIsDue cfg w.agent e) :
    EveryState (loggedStep cfg) LoggedAgent.initial trace
      fun w => ∀ f, OncePerCooldown cfg.store.cooldownSeconds (w.log f) := by
  intro past hpast w hw f
  have hnotifying : ClockForward past → Notifying cfg past w := by
    refine exec_induction
      (P := fun past w => ClockForward past → Notifying cfg past w)
      (fun _ => Notifying.initial) ?_ (hdue.of_prefix hpast) hw
    intro before w e w' _ h hdue hstep hclock
    have hbefore : ClockForward before :=
      hclock.of_prefix (List.prefix_append before [e])
    exact (h hbefore).step hclock hdue hstep
  exact ((hnotifying (hclock.of_prefix hpast)).log f).spaced.oncePerCooldown

/-- A test of `EnqueuesWhatIsDue`. -/
def testsDue (cfg : AgentSettings F) (s : AgentState F) : AgentEvent → Bool
  | .enqueueNext m now =>
      match s.polls.get? m with
      | some (.acting [] (incident :: _)) =>
          (s.table.get? incident.fingerprint).all fun row =>
            decide (incident.fingerprint ∈ s.queue.inFlight) ||
              row.notifiable cfg.store incident.anomaly now
      | _ => true
  | _ => true

theorem enqueuesWhatIsDue_of_test (cfg : AgentSettings F)
    (w : LoggedAgent F) (e : AgentEvent) (h : testsDue cfg w.agent e = true) :
    EnqueuesWhatIsDue cfg w.agent e := by
  rcases e with _ | _ | _ | _ | _ | ⟨m, now⟩ | _ | _ | _ | _ | _ | _ | _ | _
  case enqueueNext =>
    intro incident firing row hpoll hfree hrow
    simpa [testsDue, hpoll, hrow, hfree] using h
  all_goals trivial

/-- A CPU warning is delivered, suppressed inside the cooldown, and delivered
again after it. -/
def remindedTrace : List AgentEvent :=
  [.startCycle ["web"] [busyCpu .warning], .reconcile "web" 0,
    .enqueueNext "web" 0, .finishMinion "web",
    .pop 0, .begin 0 1, .conclude 0 (.analysis openQuestion) 2,
    .answerPost 0 true 3, .finishDelivery 0 4, .release 0,
    .startCycle ["web"] [busyCpu .warning], .reconcile "web" 60,
    .finishMinion "web",
    .startCycle ["web"] [busyCpu .warning], .reconcile "web" 904,
    .enqueueNext "web" 904, .finishMinion "web",
    .pop 0, .begin 0 905, .conclude 0 (.analysis openQuestion) 906,
    .answerPost 0 true 907, .finishDelivery 0 908, .release 0]

/-- The run is possible, and its two notifications are a cooldown apart. -/
theorem once_per_cooldown_of_enqueues_what_is_due_reminded :
    ((exec (loggedStep .plain) LoggedAgent.initial remindedTrace).any
        fun w => (w.log (busyCpu .warning).identityKey).length = 2) = true ∧
      EveryState (loggedStep .plain) LoggedAgent.initial remindedTrace
        fun w => ∀ f, OncePerCooldown 900 (w.log f) := by
  have hclock : ClockForward remindedTrace := by decide +kernel
  have htest : testSteps (loggedStep .plain)
      (fun w e => testsDue .plain w.agent e) LoggedAgent.initial
      remindedTrace = true := by decide +kernel
  have hdue : EveryStep (loggedStep .plain) LoggedAgent.initial remindedTrace
      fun w e => EnqueuesWhatIsDue .plain w.agent e :=
    everyStep_of_testSteps (enqueuesWhatIsDue_of_test .plain) htest
  exact ⟨by decide +kernel,
    once_per_cooldown_of_enqueues_what_is_due .plain remindedTrace hclock hdue⟩

/-- The CPU warning is still under investigation when a cycle reports it again
beside the recovered unit.  It is delivered while the coroutine waits for the
unit's resolution, and then enqueued and delivered once more. -/
def repeatedTrace : List AgentEvent :=
  [.startCycle ["web"] [failedUnit, busyCpu .warning], .reconcile "web" 0,
    .enqueueNext "web" 0, .enqueueNext "web" 0, .finishMinion "web",
    .pop 0, .begin 0 1, .conclude 0 (.analysis openQuestion) 2,
    .answerPost 0 true 3, .finishDelivery 0 4, .release 0,
    .pop 0, .begin 0 5,
    .startCycle ["web"] [busyCpu .warning], .reconcile "web" 60,
    .enqueueNext "web" 60, .finishMinion "web",
    .startCycle ["web"] [busyCpu .warning], .reconcile "web" 120,
    .resolveNext "web" 120,
    .conclude 0 (.analysis openQuestion) 121, .answerPost 0 true 122,
    .finishDelivery 0 123, .release 0,
    .answerResolution "web" true 124, .finishResolution "web" 125,
    .enqueueNext "web" 125, .finishMinion "web",
    .pop 0, .begin 0 126, .conclude 0 (.analysis openQuestion) 127,
    .answerPost 0 true 128, .finishDelivery 0 129, .release 0]

/-- The warning is notified twice within six seconds. -/
theorem stale_report_notifies_twice :
    ¬∀ (cfg : AgentSettings IdentityKey) (trace : List AgentEvent),
      ClockForward trace →
      EveryState (loggedStep cfg) LoggedAgent.initial trace
        fun w => ∀ f, OncePerCooldown cfg.store.cooldownSeconds (w.log f) := by
  intro hall
  have hclock : ClockForward repeatedTrace := by decide +kernel
  have hreached : (exec (loggedStep .plain) LoggedAgent.initial
      repeatedTrace).any (fun w => w.log (busyCpu .warning).identityKey =
        [⟨"warning", 128⟩, ⟨"warning", 122⟩]) = true := by decide +kernel
  obtain ⟨w, hw, hlog⟩ := (Option.any_eq_true _ _).mp hreached
  have honce := hall .plain repeatedTrace hclock repeatedTrace
    (List.prefix_refl repeatedTrace) w hw (busyCpu .warning).identityKey
  rw [of_decide_eq_true hlog] at honce
  have htwice : ¬OncePerCooldown AgentSettings.plain.store.cooldownSeconds
      [⟨"warning", 128⟩, ⟨"warning", 122⟩] := by decide +kernel
  exact htwice honce

end UyuniAgent.Agent
