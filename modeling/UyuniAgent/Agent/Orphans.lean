import UyuniAgent.Agent.Addressing

/-!
# Alerts that nothing will resolve

The poll coroutine acts on snapshots of a row's stored alert that `reconcile`
took earlier.  When a worker has delivered another alert in the meantime, the
coroutine closes the incident, or queues work for it, on the strength of an
alert that is no longer the stored one, and an alert can be left firing that no
row mentions.  While every such use finds the stored alert unchanged, no alert
is orphaned.
-/

namespace UyuniAgent.Agent

open Incident Queue Transition

variable {F : Type} [DecidableEq F]

/-! ## The property and its condition -/

/-- The row of the incident is active and stores an alert with these labels. -/
def StoredAlert (table : Table F) (f : F) (labels : Labels F) : Prop :=
  ∃ row payload, table.get? f = some row ∧ row.status = .active ∧
    row.payloadJson = some payload ∧ payload.labels = labels

/-- The resolution step that a minion's coroutine is in the middle of. -/
def PollPhase.resolving : PollPhase F → Option F
  | .resolutionSent incident _ _ _ => some incident.fingerprint
  | .resolutionAnswered incident _ _ _ => some incident.fingerprint
  | _ => none

/-- No worker and no resolution step is in progress for the incident. -/
def Quiet (s : AgentState F) (f : F) : Prop :=
  (∀ n job, s.workers.get? n = some job → job.fingerprint ≠ f) ∧
    ∀ m phase, s.polls.get? m = some phase → phase.resolving ≠ some f

/-- Every label set of a quiet incident that is firing is the one its active
row stores. -/
def NoOrphan (s : AgentState F) : Prop :=
  ∀ f, Quiet s f → ∀ labels : Labels F, labels.incidentId = some f →
    isFiring s.alertmanager labels = true → StoredAlert s.table f labels

/-- The alert a step acts on is the one the row stores: an incident closed
without a POST stores none, an incident closed after a POST stores one with the
labels that were resolved, and a firing alert that is accepted replaces a
stored alert with its own labels or with those of the job's snapshot. -/
def ActsOnStoredAlert (s : AgentState F) : AgentEvent → Prop
  | .resolveNext m _ => ∀ incident resolved firing row,
      s.polls.get? m = some (.acting (incident :: resolved) firing) →
      incident.payload = none → incident.fingerprint ∉ s.queue.inFlight →
      s.table.get? incident.fingerprint = some row → row.payloadJson = none
  | .finishResolution m _ => ∀ incident resolved firing payload row stored,
      s.polls.get? m =
        some (.resolutionAnswered incident true resolved firing) →
      incident.payload = some payload →
      s.table.get? incident.fingerprint = some row →
      row.payloadJson = some stored → stored.labels = payload.labels
  | .answerPost n true _ => ∀ job payload row stored,
      s.workers.get? n = some job → job.phase = .firingSent payload →
      s.table.get? job.fingerprint = some row →
      row.payloadJson = some stored →
      stored.labels = payload.labels ∨
        ∃ previous, job.work.firing.previousPayload = some previous ∧
          previous.labels = stored.labels
  | _ => True

/-! ## Alertmanager -/

section Alertmanager

variable {posts : List (AcceptedPost F)} {payload : AlertPayload F} {now : ℚ}
  {accepted : Bool} {labels : Labels F}

theorem isFiring_post_self :
    isFiring (post true payload now posts) payload.labels =
      payload.endsAt.isNone := by
  simp [isFiring, post]

theorem isFiring_post_of_ne (hne : payload.labels ≠ labels) :
    isFiring (post accepted payload now posts) labels =
      isFiring posts labels := by
  rcases accepted with _ | _
  · rfl
  · simp [isFiring, post, hne]

/-- A resolution starts no alert. -/
theorem isFiring_of_post_resolution (hends : payload.endsAt.isSome)
    (h : isFiring (post accepted payload now posts) labels = true) :
    isFiring posts labels = true := by
  by_cases hlabels : payload.labels = labels
  · subst hlabels
    rcases accepted with _ | _
    · exact h
    · rw [isFiring_post_self, Option.isNone_iff_eq_none] at h
      rw [h] at hends
      cases hends
  · rwa [isFiring_post_of_ne hlabels] at h

theorem payload_handled {f : F} (p : AcceptedPost F) :
    (if p.unhandledFor f then { p with handledAt := some now }
      else p).payload = p.payload := by
  split
  · rfl
  · rfl

/-- Posts are found by their payloads, handled or not. -/
theorem find?_handle (p : AlertPayload F → Bool) (f : F) :
    (handle f now posts).find? (fun post => p post.payload) =
      (posts.find? fun post => p post.payload).map fun post =>
        if post.unhandledFor f then { post with handledAt := some now }
        else post := by
  have hsame : (fun post => p post.payload) ∘ (fun post : AcceptedPost F =>
      if post.unhandledFor f then { post with handledAt := some now }
      else post) = fun post => p post.payload :=
    funext fun post => congrArg p (payload_handled post)
  rw [handle, List.find?_map, hsame]

@[simp] theorem isFiring_handle {f : F} :
    isFiring (handle f now posts) labels = isFiring posts labels := by
  rw [isFiring, isFiring,
    find?_handle (fun payload => decide (payload.labels = labels))]
  rcases posts.find? _ with _ | post
  · rfl
  · exact congrArg (fun payload => payload.endsAt.isNone) (payload_handled post)

end Alertmanager

/-- The accepted payloads, latest first. -/
def AgentState.accepted (s : AgentState F) : List (AlertPayload F) :=
  s.alertmanager.map fun post => post.payload

omit [DecidableEq F] in
theorem accepted_post (accepted : Bool) (payload : AlertPayload F) (now : ℚ)
    (posts : List (AcceptedPost F)) :
    (post accepted payload now posts).map (fun post => post.payload) =
      if accepted then payload :: posts.map (fun post => post.payload)
      else posts.map (fun post => post.payload) := by
  cases accepted with
  | false => rfl
  | true => rfl

theorem accepted_handle (f : F) (now : ℚ) (posts : List (AcceptedPost F)) :
    (handle f now posts).map (fun post => post.payload) =
      posts.map (fun post => post.payload) := by
  rw [handle, List.map_map]
  exact List.map_congr_left fun post _ => payload_handled post

/-! ## The invariant -/

/-- A worker has delivered the alert and not stored it yet. -/
def Delivering (s : AgentState F) (f : F) (payload : AlertPayload F) : Prop :=
  ∃ n job, s.workers.get? n = some job ∧ job.fingerprint = f ∧
    job.phase = .firingAnswered payload true

/-- Every firing label set of an incident is the one being delivered, or, when
nothing is being delivered, the one its active row stores. -/
def Accounted (s : AgentState F) : Prop :=
  ∀ f labels, labels.incidentId = some f →
    isFiring s.alertmanager labels = true →
    (∃ payload, Delivering s f payload ∧ payload.labels = labels) ∨
      ((∀ payload, ¬Delivering s f payload) ∧ StoredAlert s.table f labels)

/-- Once a job's transition was accepted, the labels it resolved stay
resolved. -/
def TransitionDone (posts : List (AcceptedPost F)) (job : Job F) : Prop :=
  ∀ payload previous,
    job.phase = .transitionAnswered payload true ∨
      job.phase = .firingSent payload →
    job.work.firing.previousPayload = some previous →
    previous.labels ≠ payload.labels → isFiring posts previous.labels = false

/-- Once a resolution was accepted, the labels it resolved stay resolved. -/
def ResolutionDone (posts : List (AcceptedPost F)) (phase : PollPhase F) :
    Prop :=
  ∀ incident resolved firing payload,
    phase = .resolutionAnswered incident true resolved firing →
    incident.payload = some payload → isFiring posts payload.labels = false

structure OrphanFree (s : AgentState F) : Prop where
  accounted : Accounted s
  transition : ∀ n job, s.workers.get? n = some job →
    TransitionDone s.alertmanager job
  resolution : ∀ m phase, s.polls.get? m = some phase →
    ResolutionDone s.alertmanager phase

theorem OrphanFree.noOrphan {s : AgentState F} (h : OrphanFree s) :
    NoOrphan s := by
  intro f hquiet labels hlabels hfiring
  rcases h.accounted f labels hlabels hfiring with
    ⟨payload, ⟨n, job, hjob, hf, -⟩, -⟩ | ⟨-, hstored⟩
  · exact absurd hf (hquiet.1 n job hjob)
  · exact hstored

section Transport

variable {cfg : AgentSettings F} {s s' : AgentState F}

/-- An alert of an incident that keeps its stored alert and its deliveries stays
accounted for. -/
theorem Accounted.transport (h : Accounted s) {f : F} {labels : Labels F}
    (hlabels : labels.incidentId = some f)
    (hlit : isFiring s.alertmanager labels = true)
    (hstored : StoredAlert s.table f labels → StoredAlert s'.table f labels)
    (hdelivering : ∀ payload, Delivering s' f payload ↔
      Delivering s f payload) :
    (∃ payload, Delivering s' f payload ∧ payload.labels = labels) ∨
      ((∀ payload, ¬Delivering s' f payload) ∧
        StoredAlert s'.table f labels) := by
  rcases h f labels hlabels hlit with ⟨payload, hpayload, heq⟩ | ⟨hnone, hrow⟩
  · exact Or.inl ⟨payload, (hdelivering payload).mpr hpayload, heq⟩
  · refine Or.inr ⟨fun payload hpayload => ?_, hstored hrow⟩
    exact hnone payload ((hdelivering payload).mp hpayload)

/-- The invariant is kept by what starts no alert, keeps the stored ones and
neither starts nor ends a delivery. -/
theorem OrphanFree.transport (h : OrphanFree s)
    (hfiring : ∀ labels, isFiring s'.alertmanager labels = true →
      isFiring s.alertmanager labels = true)
    (hstored : ∀ f labels, StoredAlert s.table f labels →
      StoredAlert s'.table f labels)
    (hdelivering : ∀ f payload, Delivering s' f payload ↔
      Delivering s f payload)
    (htransition : ∀ n job, s'.workers.get? n = some job →
      TransitionDone s'.alertmanager job)
    (hresolution : ∀ m phase, s'.polls.get? m = some phase →
      ResolutionDone s'.alertmanager phase) :
    OrphanFree s' := by
  refine ⟨?_, htransition, hresolution⟩
  intro f labels hlabels hnow
  exact h.accounted.transport hlabels (hfiring labels hnow) (hstored f labels)
    (hdelivering f)

theorem TransitionDone.of_firing {posts posts' : List (AcceptedPost F)}
    {job : Job F} (h : TransitionDone posts job)
    (hfiring : ∀ labels, isFiring posts' labels = true →
      isFiring posts labels = true) :
    TransitionDone posts' job := by
  intro payload previous hphase hprevious hlabels
  have hdark := h payload previous hphase hprevious hlabels
  by_contra hlit
  rw [hfiring _ (by simpa using hlit)] at hdark
  cases hdark

theorem ResolutionDone.of_firing {posts posts' : List (AcceptedPost F)}
    {phase : PollPhase F} (h : ResolutionDone posts phase)
    (hfiring : ∀ labels, isFiring posts' labels = true →
      isFiring posts labels = true) :
    ResolutionDone posts' phase := by
  intro incident resolved firing payload hphase hpayload
  have hdark := h incident resolved firing payload hphase hpayload
  by_contra hlit
  rw [hfiring _ (by simpa using hlit)] at hdark
  cases hdark

/-- Only one alert of an incident is being delivered. -/
theorem Delivering.unique (hc : Coherent cfg s) {f : F}
    {payload payload' : AlertPayload F} (h : Delivering s f payload)
    (h' : Delivering s f payload') : payload = payload' := by
  obtain ⟨n, job, hjob, hf, hphase⟩ := h
  obtain ⟨n', job', hjob', hf', hphase'⟩ := h'
  obtain rfl := hc.job_unique n n' job job' hjob hjob' (hf.trans hf'.symm)
  obtain rfl : job = job' := Option.some.inj (hjob.symm.trans hjob')
  rw [hphase] at hphase'
  exact (JobPhase.firingAnswered.inj hphase').1

/-- A worker in another phase delivers nothing. -/
theorem not_delivering_of_job (hc : Coherent cfg s) {n : ℕ} {job : Job F}
    (hjob : s.workers.get? n = some job)
    (hphase : ∀ payload, job.phase ≠ .firingAnswered payload true)
    (payload : AlertPayload F) : ¬Delivering s job.fingerprint payload := by
  rintro ⟨n', job', hjob', hf', hphase'⟩
  obtain rfl := hc.job_unique n n' job job' hjob hjob' hf'.symm
  obtain rfl : job = job' := Option.some.inj (hjob.symm.trans hjob')
  exact hphase payload hphase'

/-- The alert a worker delivers after its phase changed. -/
theorem delivering_setJob_iff (hc : Coherent cfg s) {n : ℕ} {job : Job F}
    (hjob : s.workers.get? n = some job) (phase : JobPhase F) (f : F)
    (payload : AlertPayload F) :
    Delivering (s.setJob n job phase) f payload ↔
      if f = job.fingerprint then phase = .firingAnswered payload true
      else Delivering s f payload := by
  constructor
  · rintro ⟨n', job', hjob', rfl, hphase'⟩
    rcases OrderedDict.get?_set_cases hjob' with ⟨rfl, rfl⟩ | ⟨hne, hold⟩
    · rw [if_pos rfl]
      exact hphase'
    · have hother : job'.fingerprint ≠ job.fingerprint := fun heq =>
        hne (hc.job_unique n' n job' job hold hjob heq)
      rw [if_neg hother]
      exact ⟨n', job', hold, rfl, hphase'⟩
  · intro h
    split at h
    next hf =>
      subst hf
      exact ⟨n, _, OrderedDict.get?_set_self, rfl, h⟩
    next hf =>
      obtain ⟨n', job', hjob', rfl, hphase'⟩ := h
      refine ⟨n', job', ?_, rfl, hphase'⟩
      have hne : n' ≠ n := by
        rintro rfl
        obtain rfl := Option.some.inj (hjob.symm.trans hjob')
        exact hf rfl
      rw [AgentState.setJob, OrderedDict.get?_set_of_ne hne]
      exact hjob'

theorem delivering_setJob_self (hc : Coherent cfg s) {n : ℕ} {job : Job F}
    (hjob : s.workers.get? n = some job) (phase : JobPhase F)
    (payload : AlertPayload F) :
    Delivering (s.setJob n job phase) job.fingerprint payload ↔
      phase = .firingAnswered payload true := by
  rw [delivering_setJob_iff hc hjob, if_pos rfl]

/-- A job that changes its phase leaves the other deliveries alone. -/
theorem delivering_setJob_of_ne (hc : Coherent cfg s) {n : ℕ} {job : Job F}
    (hjob : s.workers.get? n = some job) (phase : JobPhase F) {f : F}
    (hf : f ≠ job.fingerprint) (payload : AlertPayload F) :
    Delivering (s.setJob n job phase) f payload ↔ Delivering s f payload := by
  rw [delivering_setJob_iff hc hjob, if_neg hf]

/-- Moving a job between phases that deliver nothing. -/
theorem delivering_setJob_of_silent (hc : Coherent cfg s) {n : ℕ} {job : Job F}
    (hjob : s.workers.get? n = some job) {phase : JobPhase F}
    (hbefore : ∀ payload, job.phase ≠ .firingAnswered payload true)
    (hafter : ∀ payload, phase ≠ .firingAnswered payload true) (f : F)
    (payload : AlertPayload F) :
    Delivering (s.setJob n job phase) f payload ↔ Delivering s f payload := by
  rw [delivering_setJob_iff hc hjob]
  split
  next hf =>
    subst hf
    constructor
    · intro h
      exact absurd h (hafter payload)
    · intro h
      exact absurd h (not_delivering_of_job hc hjob hbefore payload)
  next => exact Iff.rfl

omit [DecidableEq F] in
/-- A worker that takes a job delivers nothing yet. -/
theorem delivering_pop_iff {n : ℕ} {job : Job F}
    {queue : InvestigationQueue F (InvestigationWork F)}
    (hfree : s.workers.get? n = none) (hphase : job.phase = .popped) (f : F)
    (payload : AlertPayload F) :
    Delivering { s with
      queue := queue
      workers := s.workers.set n job } f payload ↔ Delivering s f payload := by
  constructor
  · rintro ⟨n', job', hjob', hf, hdelivered⟩
    rcases OrderedDict.get?_set_cases hjob' with ⟨rfl, rfl⟩ | ⟨-, hold⟩
    · rw [hphase] at hdelivered
      cases hdelivered
    · exact ⟨n', job', hold, hf, hdelivered⟩
  · rintro ⟨n', job', hjob', hf, hdelivered⟩
    have hne : n' ≠ n := by
      rintro rfl
      rw [hfree] at hjob'
      cases hjob'
    exact ⟨n', job', (OrderedDict.get?_set_of_ne hne).trans hjob', hf,
      hdelivered⟩

omit [DecidableEq F] in
/-- A worker that lets go of a job was not delivering. -/
theorem delivering_release_iff {n : ℕ} {job : Job F}
    {queue : InvestigationQueue F (InvestigationWork F)}
    (hjob : s.workers.get? n = some job)
    (hsilent : ∀ payload, job.phase ≠ .firingAnswered payload true) (f : F)
    (payload : AlertPayload F) :
    Delivering { s with
      queue := queue
      workers := s.workers.erase n } f payload ↔ Delivering s f payload := by
  constructor
  · rintro ⟨n', job', hjob', hrest⟩
    exact ⟨n', job', (OrderedDict.get?_erase_cases hjob').2, hrest⟩
  · rintro ⟨n', job', hjob', hf, hdelivered⟩
    have hne : n' ≠ n := by
      rintro rfl
      obtain rfl := Option.some.inj (hjob.symm.trans hjob')
      exact hsilent payload hdelivered
    exact ⟨n', job', (OrderedDict.get?_erase_of_ne hne).trans hjob', hf,
      hdelivered⟩

theorem transition_setJob {posts : List (AcceptedPost F)} {n : ℕ} {job : Job F}
    {phase : JobPhase F}
    (h : ∀ n job, s.workers.get? n = some job → TransitionDone posts job)
    (hphase : TransitionDone posts { job with phase := phase }) :
    ∀ n' job', (s.setJob n job phase).workers.get? n' = some job' →
      TransitionDone posts job' :=
  OrderedDict.forall_set h hphase

theorem resolution_setPoll {posts : List (AcceptedPost F)} {m : String}
    {phase : PollPhase F}
    (h : ∀ m phase, s.polls.get? m = some phase → ResolutionDone posts phase)
    (hphase : ResolutionDone posts phase) :
    ∀ m' phase', (s.polls.set m phase).get? m' = some phase' →
      ResolutionDone posts phase' :=
  OrderedDict.forall_set h hphase

end Transport

/-! ## Every step that acts on the stored alert keeps the invariant -/

section Step

variable {cfg : AgentSettings F} {s s' : AgentState F}

theorem StoredAlert.reconcile {m : String} {anomalies : List Anomaly} {now : ℚ}
    {table : Table F} {f : F} {labels : Labels F}
    (h : StoredAlert table f labels)
    (hkeyed : KeyedBy cfg.store.scheme table)
    (hcarries : ∀ a ∈ anomalies, a.minionId = m) :
    StoredAlert (Incident.reconcile cfg.store table m anomalies now).2 f
      labels := by
  obtain ⟨row, payload, hrow, hactive, hpayload, hlabels⟩ := h
  have hcase := reconcile_row hkeyed hcarries now f
  rw [hrow] at hcase
  generalize hafter :
    (Incident.reconcile cfg.store table m anomalies now).2.get? f =
      row'? at hcase
  cases hcase with
  | continues _ row' hcontinues =>
      exact ⟨row', payload, hafter, hcontinues.status.trans hactive,
        hcontinues.payloadJson.trans hpayload, hlabels⟩
  | opened _ _ _ hclosed =>
      rw [hclosed row rfl] at hactive
      cases hactive

/-- Closing an incident none of whose label sets is firing keeps the
invariant. -/
theorem OrphanFree.close (h : OrphanFree s) {m : String} {f : F} {now : ℚ}
    {resolved : List (IncidentRecord F)} {firing : List (FiringIncident F)}
    {queue : InvestigationQueue F (InvestigationWork F)}
    (hdark : ∀ labels : Labels F, labels.incidentId = some f →
      isFiring s.alertmanager labels = false) :
    OrphanFree { s with
      table := markResolved s.table f now
      queue := queue
      polls := s.polls.set m (.acting resolved firing) } := by
  refine ⟨?_, h.transition, ?_⟩
  · intro f' labels hlabels hfiring
    have hne : f' ≠ f := by
      rintro rfl
      rw [hdark labels hlabels] at hfiring
      cases hfiring
    rcases h.accounted f' labels hlabels hfiring with hdelivering |
      ⟨hnone, row, payload, hrow, hstored⟩
    · exact Or.inl hdelivering
    · exact Or.inr ⟨hnone, row, payload,
        (markResolved_get?_of_ne hne).trans hrow, hstored⟩
  · refine resolution_setPoll h.resolution ?_
    intro _ _ _ _ hphase
    cases hphase

/-- No label set of an incident is firing when no worker holds the incident
and its stored alert is not firing. -/
theorem OrphanFree.dark (h : OrphanFree s) (hc : Coherent cfg s) {f : F}
    (hfree : f ∉ s.queue.inFlight)
    (hrow : ∀ row payload, s.table.get? f = some row →
      row.payloadJson = some payload →
      isFiring s.alertmanager payload.labels = false)
    (labels : Labels F) (hlabels : labels.incidentId = some f) :
    isFiring s.alertmanager labels = false := by
  by_contra hlit
  rw [Bool.not_eq_false] at hlit
  rcases h.accounted f labels hlabels hlit with
    ⟨payload, ⟨n, job, hjob, hf, -⟩, -⟩ |
    ⟨-, row, payload, hget, -, hpayload, rfl⟩
  · exact hfree (hf ▸ hc.job_inFlight n job hjob)
  · rw [hrow row payload hget hpayload] at hlit
    cases hlit

/-- A step of a worker that sends no alert and stores none. -/
theorem OrphanFree.setJob (h : OrphanFree s) (hc : Coherent cfg s) {n : ℕ}
    {job : Job F} {phase : JobPhase F} (hjob : s.workers.get? n = some job)
    (hbefore : ∀ payload, job.phase ≠ .firingAnswered payload true)
    (hafter : ∀ payload, phase ≠ .firingAnswered payload true)
    (hphase : TransitionDone s.alertmanager { job with phase := phase }) :
    OrphanFree (s.setJob n job phase) :=
  h.transport (fun _ hlit => hlit) (fun _ _ hstored => hstored)
    (delivering_setJob_of_silent hc hjob hbefore hafter)
    (transition_setJob h.transition hphase) h.resolution

theorem begin_ne_firing {job : Job F} {table : Table F} {now : ℚ}
    (payload : AlertPayload F) :
    job.begin cfg table now ≠ .firingAnswered payload true := by
  simp only [Job.begin]
  split
  · simp
  · split <;> simp

theorem conclude_ne_firing {job : Job F} {table : Table F}
    {result : InvestigationResult} {now : ℚ} (payload : AlertPayload F) :
    job.conclude table result now ≠ .firingAnswered payload true := by
  rcases result with analysis | _ | _
  · simp only [Job.conclude]
    split
    · split
      · simp
      · split <;> simp
    · simp
  · simp [Job.conclude]
  · simp [Job.conclude]

/-- A job that has no accepted transition behind it resolved nothing. -/
theorem transitionDone_of_ne {posts : List (AcceptedPost F)}
    {job : Job F}
    (hanswered : ∀ payload, job.phase ≠ .transitionAnswered payload true)
    (hsent : ∀ payload, job.phase ≠ .firingSent payload) :
    TransitionDone posts job := by
  rintro payload previous (hphase | hphase)
  · exact absurd hphase (hanswered payload)
  · exact absurd hphase (hsent payload)

theorem transitionDone_begin {posts : List (AcceptedPost F)} {job : Job F}
    {table : Table F} {now : ℚ} :
    TransitionDone posts { job with phase := job.begin cfg table now } := by
  unfold Job.begin
  split
  · exact transitionDone_of_ne (by simp) (by simp)
  · split
    · exact transitionDone_of_ne (by simp) (by simp)
    · exact transitionDone_of_ne (by simp) (by simp)

/-- A job that goes straight to its firing POST has no labels to resolve. -/
theorem transitionDone_conclude {posts : List (AcceptedPost F)} {job : Job F}
    {table : Table F} {result : InvestigationResult} {now : ℚ} :
    TransitionDone posts
      { job with phase := job.conclude table result now } := by
  intro payload previous hphase hprevious hlabels
  have hprevious' : job.work.firing.previousPayload = some previous := hprevious
  rcases result with analysis | _ | _
  · simp only [Job.conclude, hprevious'] at hphase
    split at hphase
    · split at hphase
      next hsame =>
        simp only [reduceCtorEq, JobPhase.firingSent.injEq, false_or] at hphase
        subst hphase
        exact absurd hsame hlabels
      next => simp at hphase
    · simp at hphase
  · simp [Job.conclude] at hphase
  · simp [Job.conclude] at hphase

theorem transitionDone_afterTransition {posts : List (AcceptedPost F)}
    {job : Job F} {table : Table F} {payload : AlertPayload F}
    {accepted : Bool} (hphase : job.phase = .transitionAnswered payload accepted)
    (h : TransitionDone posts job) :
    TransitionDone posts
      { job with phase := job.afterTransition table payload accepted } := by
  intro payload' previous hafter hprevious hlabels
  simp only [Job.afterTransition] at hafter
  split at hafter
  next hok =>
    subst hok
    split at hafter
    · simp only [reduceCtorEq, JobPhase.firingSent.injEq, false_or] at hafter
      subst hafter
      exact h payload previous (Or.inl hphase) hprevious hlabels
    · simp at hafter
  next => simp at hafter

theorem afterTransition_ne_firing {job : Job F} {table : Table F}
    {payload : AlertPayload F} {accepted : Bool} (payload' : AlertPayload F) :
    job.afterTransition table payload accepted ≠
      .firingAnswered payload' true := by
  simp only [Job.afterTransition]
  split
  · split <;> simp
  · simp

omit [DecidableEq F] in
/-- Alerts of different incidents have different labels. -/
theorem AddressedTo.labels_ne {f f' : F} {payload payload' : AlertPayload F}
    (h : AddressedTo f payload) (h' : AddressedTo f' payload')
    (hne : f ≠ f') : payload.labels ≠ payload'.labels := by
  intro heq
  have hid : some f = some f' := by
    rw [← h.incidentId, heq, h'.incidentId]
  exact hne (Option.some.inj hid)

/-- A step of a minion's coroutine that posts nothing and closes nothing. -/
theorem OrphanFree.setPoll (h : OrphanFree s) {m : String}
    {phase : PollPhase F}
    {queue : InvestigationQueue F (InvestigationWork F)}
    (hphase : ResolutionDone s.alertmanager phase) :
    OrphanFree { s with queue := queue, polls := s.polls.set m phase } :=
  h.transport (fun _ hlit => hlit) (fun _ _ hstored => hstored)
    (fun _ _ => Iff.rfl) h.transition (resolution_setPoll h.resolution hphase)

theorem OrphanFree.pop (h : OrphanFree s) {n : ℕ} {job : Job F}
    {queue : InvestigationQueue F (InvestigationWork F)}
    (hfree : s.workers.get? n = none) (hphase : job.phase = .popped) :
    OrphanFree { s with
      queue := queue
      workers := s.workers.set n job } := by
  refine h.transport (fun _ hlit => hlit) (fun _ _ hstored => hstored)
    (delivering_pop_iff hfree hphase) ?_ h.resolution
  apply OrderedDict.forall_set h.transition
  apply transitionDone_of_ne
  · simp [hphase]
  · simp [hphase]

theorem OrphanFree.release (h : OrphanFree s) {n : ℕ} {job : Job F}
    {outcome : JobOutcome}
    {queue : InvestigationQueue F (InvestigationWork F)}
    (hjob : s.workers.get? n = some job)
    (hphase : job.phase = .finished outcome) :
    OrphanFree { s with
      queue := queue
      workers := s.workers.erase n } := by
  exact h.transport (fun _ hlit => hlit) (fun _ _ hstored => hstored)
    (delivering_release_iff hjob (by simp [hphase]))
    (OrderedDict.forall_erase h.transition) h.resolution

/-- Alertmanager answers a job's transition. -/
theorem OrphanFree.answerTransition (h : OrphanFree s) (hw : WellFormed cfg s)
    {n : ℕ} {job : Job F} {resolution payload : AlertPayload F}
    {accepted : Bool} {now : ℚ} (hjob : s.workers.get? n = some job)
    (hsent : job.phase = .transitionSent resolution payload) :
    OrphanFree
      { s.setJob n job (.transitionAnswered payload accepted) with
        alertmanager := post accepted resolution now s.alertmanager } := by
  have hphase := hw.addressed.phase n job hjob
  rw [hsent] at hphase
  obtain ⟨-, -, previous, hprevious, -, hlabels, hends⟩ := hphase
  have hfiring : ∀ labels,
      isFiring (post accepted resolution now s.alertmanager) labels = true →
        isFiring s.alertmanager labels = true := fun labels =>
    isFiring_of_post_resolution hends
  refine h.transport hfiring (fun _ _ hstored => hstored)
    (delivering_setJob_of_silent hw.coherent hjob (by simp [hsent]) (by simp))
    (transition_setJob (fun n' job' hjob' =>
      (h.transition n' job' hjob').of_firing hfiring) ?_)
    (fun m phase hpoll => (h.resolution m phase hpoll).of_firing hfiring)
  intro payload' previous' hanswered hprevious' _
  rcases accepted with _ | _
  · simp at hanswered
  · obtain rfl : previous = previous' :=
      Option.some.inj (hprevious.symm.trans hprevious')
    rw [← hlabels, isFiring_post_self]
    simpa using hends

section AcceptFiring

variable {n : ℕ} {job : Job F} {payload : AlertPayload F} {now : ℚ}

/-- The alert that Alertmanager accepts is the only one of its incident. -/
theorem OrphanFree.accounted_acceptFiring (h : OrphanFree s)
    (hw : WellFormed cfg s) (hjob : s.workers.get? n = some job)
    (hsent : job.phase = .firingSent payload)
    (hacts : ∀ row stored, s.table.get? job.fingerprint = some row →
      row.payloadJson = some stored →
      stored.labels = payload.labels ∨
        ∃ previous, job.work.firing.previousPayload = some previous ∧
          previous.labels = stored.labels) :
    Accounted
      { s.setJob n job (.firingAnswered payload true) with
        alertmanager := post true payload now s.alertmanager } := by
  have hphase := hw.addressed.phase n job hjob
  rw [hsent] at hphase
  obtain ⟨haddressed, -⟩ := hphase
  intro f labels hlabels hlit
  by_cases hf : f = job.fingerprint
  · subst hf
    by_cases hsame : payload.labels = labels
    · refine Or.inl ⟨payload, ?_, hsame⟩
      exact (delivering_setJob_self hw.coherent hjob _ payload).mpr rfl
    · -- another firing label set of this incident would be the stored one
      have hsilent : ∀ p, job.phase ≠ .firingAnswered p true := by simp [hsent]
      rw [isFiring_post_of_ne hsame] at hlit
      rcases h.accounted job.fingerprint labels hlabels hlit with
        ⟨p, hp, -⟩ | ⟨-, row, stored, hrow, -, hstored, rfl⟩
      · exact absurd hp (not_delivering_of_job hw.coherent hjob hsilent p)
      · rcases hacts row stored hrow hstored with
          hequal | ⟨previous, hprevious, hequal⟩
        · exact absurd hequal.symm hsame
        · have hdark := h.transition n job hjob payload previous
            (Or.inr hsent) hprevious (by
              rw [hequal]
              exact fun heq => hsame heq.symm)
          rw [hequal, hlit] at hdark
          cases hdark
  · have hne : payload.labels ≠ labels := by
      intro heq
      rw [← heq, haddressed.incidentId] at hlabels
      exact hf (Option.some.inj hlabels).symm
    rw [isFiring_post_of_ne hne] at hlit
    exact h.accounted.transport hlabels hlit id
      (delivering_setJob_of_ne hw.coherent hjob _ hf)

/-- The labels that a transition resolved are not those that fire. -/
theorem OrphanFree.transition_acceptFiring (h : OrphanFree s)
    (hw : WellFormed cfg s) (hjob : s.workers.get? n = some job)
    (hsent : job.phase = .firingSent payload) {n' : ℕ} {job' : Job F}
    (hjob' : s.workers.get? n' = some job') :
    TransitionDone (post true payload now s.alertmanager) job' := by
  have hphase := hw.addressed.phase n job hjob
  rw [hsent] at hphase
  obtain ⟨haddressed, -⟩ := hphase
  intro payload' previous hdone hprevious hlabels
  by_cases hf : job'.fingerprint = job.fingerprint
  · -- this is the job itself: its transition precedes the alert it now sent
    obtain rfl := hw.coherent.job_unique n' n job' job hjob' hjob hf
    obtain rfl := Option.some.inj (hjob'.symm.trans hjob)
    rcases hdone with hdone | hdone
    · rw [hsent] at hdone
      cases hdone
    · obtain rfl := JobPhase.firingSent.inj (hsent.symm.trans hdone)
      rw [isFiring_post_of_ne (Ne.symm hlabels)]
      exact h.transition n' job' hjob' payload previous (Or.inr hsent)
        hprevious hlabels
  · have hother : payload.labels ≠ previous.labels :=
      haddressed.labels_ne
        (hw.addressed.job n' job' hjob' previous hprevious) (Ne.symm hf)
    rw [isFiring_post_of_ne hother]
    exact h.transition n' job' hjob' payload' previous hdone hprevious hlabels

/-- No incident is resolved while a worker delivers its alert. -/
theorem OrphanFree.resolution_acceptFiring (h : OrphanFree s)
    (hw : WellFormed cfg s) (hjob : s.workers.get? n = some job)
    (hsent : job.phase = .firingSent payload) {m : String}
    {phase : PollPhase F} (hpoll : s.polls.get? m = some phase) :
    ResolutionDone (post true payload now s.alertmanager) phase := by
  have hphase := hw.addressed.phase n job hjob
  rw [hsent] at hphase
  obtain ⟨haddressed, -⟩ := hphase
  intro incident resolved firing p hdone hp
  subst hdone
  obtain ⟨-, hidle⟩ := hw.coherent.poll_open m _ hpoll
  obtain ⟨-, p', hp', hincident⟩ := hw.addressed.poll m _ hpoll
  obtain rfl := Option.some.inj (hp.symm.trans hp')
  have hne : job.fingerprint ≠ incident.fingerprint :=
    hw.coherent.not_job_of_idle hidle hjob
  rw [isFiring_post_of_ne (haddressed.labels_ne hincident hne)]
  exact h.resolution m _ hpoll incident resolved firing p rfl hp

/-- Alertmanager accepts a job's firing alert. -/
theorem OrphanFree.acceptFiring (h : OrphanFree s) (hw : WellFormed cfg s)
    (hjob : s.workers.get? n = some job)
    (hsent : job.phase = .firingSent payload)
    (hacts : ∀ row stored, s.table.get? job.fingerprint = some row →
      row.payloadJson = some stored →
      stored.labels = payload.labels ∨
        ∃ previous, job.work.firing.previousPayload = some previous ∧
          previous.labels = stored.labels) :
    OrphanFree
      { s.setJob n job (.firingAnswered payload true) with
        alertmanager := post true payload now s.alertmanager } := by
  refine ⟨h.accounted_acceptFiring hw hjob hsent hacts, transition_setJob
    (fun _ _ => h.transition_acceptFiring hw hjob hsent) ?_,
    fun _ _ => h.resolution_acceptFiring hw hjob hsent⟩
  intro payload' previous hdone
  simp at hdone

end AcceptFiring

/-- A worker stores the alert it delivered. -/
theorem OrphanFree.store (h : OrphanFree s) (hw : WellFormed cfg s)
    {n : ℕ} {job : Job F} {payload : AlertPayload F} {now : ℚ}
    (hjob : s.workers.get? n = some job)
    (hanswered : job.phase = .firingAnswered payload true) :
    OrphanFree { s.setJob n job (.finished .delivered) with
      table := markEmitted s.table job.work.firing.fingerprint payload now
        (some job.work.firing.startsAt)
      alertmanager := handle job.work.firing.fingerprint now s.alertmanager } := by
  obtain ⟨hkey, m, hopen⟩ := hw.coherent.job_open n job hjob
  rw [hkey]
  have hdelivers : Delivering s job.fingerprint payload :=
    ⟨n, job, hjob, rfl, hanswered⟩
  refine ⟨?_, transition_setJob ?_ ?_, ?_⟩
  · intro f labels hlabels hlit
    rw [isFiring_handle] at hlit
    by_cases hf : f = job.fingerprint
    · subst hf
      rcases h.accounted job.fingerprint labels hlabels hlit with
        ⟨p, hp, rfl⟩ | ⟨hnone, -⟩
      · obtain rfl := hp.unique hw.coherent hdelivers
        refine Or.inr ⟨fun p' hp' => ?_, ?_⟩
        · cases (delivering_setJob_self hw.coherent hjob _ p').mp hp'
        · obtain ⟨row, -, hactive, -, -, hafter⟩ :=
            markEmitted_get?_self hopen p now
          exact ⟨_, p, hafter, hactive, rfl, rfl⟩
      · exact absurd hdelivers (hnone payload)
    · refine h.accounted.transport hlabels hlit ?_
        (delivering_setJob_of_ne hw.coherent hjob _ hf)
      rintro ⟨row, p, hrow, hstored⟩
      exact ⟨row, p, (markEmitted_get?_of_ne hf).trans hrow, hstored⟩
  · intro n' job' hjob'
    exact (h.transition n' job' hjob').of_firing fun labels hlit => by
      rwa [isFiring_handle] at hlit
  · intro payload' previous hdone
    simp at hdone
  · intro m' phase hpoll
    exact (h.resolution m' phase hpoll).of_firing fun labels hlit => by
      rwa [isFiring_handle] at hlit

theorem resolutionDone_acting {posts : List (AcceptedPost F)}
    {resolved : List (IncidentRecord F)} {firing : List (FiringIncident F)} :
    ResolutionDone posts (.acting resolved firing) := by
  intro _ _ _ _ hphase
  cases hphase

/-- Alertmanager answers the resolution of an incident. -/
theorem OrphanFree.answerResolution (h : OrphanFree s) (hw : WellFormed cfg s)
    {m : String} {incident : IncidentRecord F} {resolution : AlertPayload F}
    {resolved : List (IncidentRecord F)} {firing : List (FiringIncident F)}
    {accepted : Bool} {now : ℚ}
    (hpoll : s.polls.get? m =
      some (.resolutionSent incident resolution resolved firing)) :
    OrphanFree { s with
      alertmanager := post accepted resolution now s.alertmanager
      polls := s.polls.set m
        (.resolutionAnswered incident accepted resolved firing) } := by
  obtain ⟨-, payload, hpayload, -, hlabels, hends⟩ :=
    hw.addressed.poll m _ hpoll
  have hfiring : ∀ labels,
      isFiring (post accepted resolution now s.alertmanager) labels = true →
        isFiring s.alertmanager labels = true := fun labels =>
    isFiring_of_post_resolution hends
  refine h.transport hfiring (fun _ _ hstored => hstored)
    (fun _ _ => Iff.rfl)
    (fun n job hjob => (h.transition n job hjob).of_firing hfiring)
    (resolution_setPoll
      (fun m phase hphase => (h.resolution m phase hphase).of_firing hfiring)
      ?_)
  intro incident' resolved' firing' payload' hdone hpayload'
  obtain ⟨rfl, rfl, -, -⟩ := PollPhase.resolutionAnswered.inj hdone
  obtain rfl := Option.some.inj (hpayload.symm.trans hpayload')
  rw [← hlabels, isFiring_post_self]
  simpa using hends

theorem OrphanFree.step (h : OrphanFree s) (hw : WellFormed cfg s)
    {e : AgentEvent} (hacts : ActsOnStoredAlert s e)
    (hstep : agentStep cfg s e = some s') : OrphanFree s' := by
  have hc := hw.coherent
  rcases e with ⟨minions, anomalies⟩ | ⟨m, now⟩ | ⟨m, now⟩ |
    ⟨m, accepted, now⟩ | ⟨m, now⟩ | ⟨m, now⟩ | m | n | ⟨n, now⟩ |
    ⟨n, result, now⟩ | ⟨n, accepted, now⟩ | n | ⟨n, now⟩ | n
  · obtain ⟨-, -, rfl⟩ := step_startCycle hstep
    refine h.transport (fun _ hlit => hlit) (fun _ _ hstored => hstored)
      (fun _ _ => Iff.rfl) h.transition ?_
    intro m phase hphase
    obtain rfl := startPolls_get? hphase
    intro _ _ _ _ hdone
    cases hdone
  · obtain ⟨anomalies, hpoll, rfl⟩ := step_reconcile hstep
    have hcarries : ∀ a ∈ anomalies, a.minionId = m := hc.poll_open m _ hpoll
    exact h.transport (fun _ hlit => hlit)
      (fun _ _ hstored => hstored.reconcile hc.keyed hcarries)
      (fun _ _ => Iff.rfl) h.transition
      (resolution_setPoll h.resolution resolutionDone_acting)
  · obtain ⟨incident, resolved, firing, hpoll, hcases⟩ :=
      step_resolveNext hstep
    rcases hcases with ⟨-, rfl⟩ | ⟨hfree, hpayload, rfl⟩ |
      ⟨-, payload, -, rfl⟩
    · exact h.setPoll resolutionDone_acting
    · have hout : incident.fingerprint ∉ s.queue.inFlight := fun hin =>
        hfree ((InvestigationQueue.cancel_inFlight_iff hc.queue).mpr hin)
      refine h.close (h.dark hc hout ?_)
      intro row payload hrow hstored
      rw [hacts incident resolved firing row hpoll hpayload hout hrow] at hstored
      cases hstored
    · apply h.setPoll
      intro _ _ _ _ hdone
      cases hdone
  · obtain ⟨incident, resolution, resolved, firing, hpoll, rfl⟩ :=
      step_answerResolution hstep
    exact h.answerResolution hw hpoll
  · obtain ⟨incident, accepted, resolved, firing, hpoll, rfl⟩ :=
      step_finishResolution hstep
    rcases accepted with _ | _
    · exact h.setPoll resolutionDone_acting
    · obtain ⟨-, hidle⟩ := hc.poll_open m _ hpoll
      obtain ⟨-, payload, hpayload, -⟩ := hw.addressed.poll m _ hpoll
      refine h.close (h.dark hc hidle.2 ?_)
      intro row stored hrow hstored
      rw [hacts incident resolved firing payload row stored hpoll hpayload hrow
        hstored]
      exact h.resolution m _ hpoll incident resolved firing payload rfl hpayload
  · obtain ⟨incident, firing, -, rfl⟩ := step_enqueueNext hstep
    exact h.setPoll resolutionDone_acting
  · obtain ⟨-, rfl⟩ := step_finishMinion hstep
    exact h.transport (fun _ hlit => hlit) (fun _ _ hstored => hstored)
      (fun _ _ => Iff.rfl) h.transition (OrderedDict.forall_erase h.resolution)
  · obtain ⟨hfree, item, queue, -, rfl⟩ := step_pop hstep
    exact h.pop hfree rfl
  · obtain ⟨job, hjob, hpopped, rfl⟩ := step_begin hstep
    exact h.setJob hc hjob (by simp [hpopped]) begin_ne_firing
      transitionDone_begin
  · obtain ⟨job, hjob, hinvestigating, rfl⟩ := step_conclude hstep
    exact h.setJob hc hjob (by simp [hinvestigating]) conclude_ne_firing
      transitionDone_conclude
  · obtain ⟨job, hjob, hcases⟩ := step_answerPost hstep
    rcases hcases with ⟨resolution, payload, hsent, rfl⟩ | ⟨payload, hsent, rfl⟩
    · exact h.answerTransition hw hjob hsent
    · rcases accepted with _ | _
      · exact h.setJob hc hjob (by simp [hsent]) (by simp)
          (transitionDone_of_ne (by simp) (by simp))
      · exact h.acceptFiring hw hjob hsent fun row stored hrow hstored =>
          hacts job payload row stored hjob hsent hrow hstored
  · obtain ⟨job, payload, accepted, hjob, hanswered, rfl⟩ :=
      step_finishTransition hstep
    exact h.setJob hc hjob (by simp [hanswered]) afterTransition_ne_firing
      (transitionDone_afterTransition hanswered (h.transition n job hjob))
  · obtain ⟨job, payload, hjob, hcases⟩ := step_finishDelivery hstep
    rcases hcases with ⟨hanswered, rfl⟩ | ⟨hanswered, rfl⟩
    · exact h.store hw hjob hanswered
    · exact h.setJob hc hjob (by simp [hanswered]) (by simp)
        (transitionDone_of_ne (by simp) (by simp))
  · obtain ⟨job, outcome, hjob, hfinished, rfl⟩ := step_release hstep
    exact h.release hjob hfinished

end Step

/-- In every run whose steps act on the stored alert, no state has an orphaned
alert. -/
theorem no_orphan_of_acts_on_stored_alert
    (cfg : AgentSettings F) (trace : List AgentEvent)
    (hacts : EveryStep (agentStep cfg) AgentState.initial trace
      ActsOnStoredAlert) :
    EveryState (agentStep cfg) AgentState.initial trace NoOrphan := by
  have hinitial : OrphanFree (AgentState.initial : AgentState F) := by
    refine ⟨?_, ?_, ?_⟩
    · intro f labels _ hlit
      cases hlit
    · intro n job hjob
      cases hjob
    · intro m phase hphase
      cases hphase
  have hall : EveryState (agentStep cfg) AgentState.initial trace
      fun s => WellFormed cfg s ∧ OrphanFree s :=
    everyState_of_everyStep ⟨WellFormed.initial, hinitial⟩
      (fun _ _ _ h hC hstep =>
        ⟨h.1.step hstep, h.2.step h.1 hC hstep⟩) hacts
  intro past hpast s hs
  exact (hall past hpast s hs).2.noOrphan

/-- A test of `ActsOnStoredAlert`. -/
def testsStoredAlert (s : AgentState F) : AgentEvent → Bool
  | .resolveNext m _ =>
      match s.polls.get? m with
      | some (.acting (incident :: _) _) =>
          incident.payload.isSome ||
            (s.table.get? incident.fingerprint).all (·.payloadJson.isNone)
      | _ => true
  | .finishResolution m _ =>
      match s.polls.get? m with
      | some (.resolutionAnswered incident true _ _) =>
          incident.payload.all fun payload =>
            (s.table.get? incident.fingerprint).all fun row =>
              row.payloadJson.all (·.labels = payload.labels)
      | _ => true
  | .answerPost n true _ =>
      match s.workers.get? n with
      | some ⟨fingerprint, work, .firingSent payload⟩ =>
          (s.table.get? fingerprint).all fun row =>
            row.payloadJson.all fun stored =>
              stored.labels = payload.labels ||
                work.firing.previousPayload.any (·.labels = stored.labels)
      | _ => true
  | _ => true

theorem actsOnStoredAlert_of_test (s : AgentState F) (e : AgentEvent)
    (h : testsStoredAlert s e = true) : ActsOnStoredAlert s e := by
  rcases e with _ | _ | ⟨m, now⟩ | _ | ⟨m, now⟩ | _ | _ | _ | _ | _ |
    ⟨n, accepted, now⟩ | _ | _ | _
  case resolveNext =>
    intro incident resolved firing row hpoll hpayload _ hrow
    simpa [testsStoredAlert, hpoll, hpayload, hrow] using h
  case finishResolution =>
    intro incident resolved firing payload row stored hpoll hpayload hrow
      hstored
    simpa [testsStoredAlert, hpoll, hpayload, hrow, hstored] using h
  case answerPost =>
    rcases accepted with _ | _
    · trivial
    · rintro ⟨fingerprint, work, phase⟩ payload row stored hjob rfl hrow hstored
      simpa [testsStoredAlert, hjob, hrow, hstored, Option.any_eq_true]
        using h
  all_goals trivial

/-- A warning is delivered, escalates to critical, and the CPU recovers. -/
def escalatedTrace : List AgentEvent :=
  [.startCycle ["web"] [busyCpu .warning], .reconcile "web" 0,
    .enqueueNext "web" 0, .finishMinion "web",
    .pop 0, .begin 0 1, .conclude 0 (.analysis openQuestion) 2,
    .answerPost 0 true 3, .finishDelivery 0 4, .release 0,
    .startCycle ["web"] [busyCpu .critical], .reconcile "web" 60,
    .enqueueNext "web" 60, .finishMinion "web",
    .pop 0, .begin 0 61, .conclude 0 (.analysis openQuestion) 62,
    .answerPost 0 true 63, .finishTransition 0,
    .answerPost 0 true 64, .finishDelivery 0 65, .release 0,
    .startCycle ["web"] [busyCpu .critical], .reconcile "web" 90,
    .finishMinion "web",
    .startCycle ["web"] [], .reconcile "web" 120, .finishMinion "web",
    .startCycle ["web"] [], .reconcile "web" 180, .resolveNext "web" 180,
    .answerResolution "web" true 181, .finishResolution "web" 182,
    .finishMinion "web"]

/-- The run is possible, and orphans no alert. -/
theorem no_orphan_of_acts_on_stored_alert_escalated :
    (exec (agentStep .plain) AgentState.initial escalatedTrace).isSome ∧
      EveryStep (agentStep .plain) AgentState.initial escalatedTrace
        ActsOnStoredAlert ∧
      EveryState (agentStep .plain) AgentState.initial escalatedTrace
        NoOrphan := by
  have hacts : EveryStep (agentStep .plain) AgentState.initial escalatedTrace
      ActsOnStoredAlert :=
    everyStep_of_testSteps actsOnStoredAlert_of_test (by decide +kernel)
  exact ⟨by decide +kernel, hacts,
    no_orphan_of_acts_on_stored_alert .plain escalatedTrace hacts⟩

/-- The CPU incident is investigated as a warning while the failed unit
recovers.  The worker delivers the warning while the poll coroutine waits for
the unit's resolution; the coroutine then queues the critical observation with
the snapshot taken before, which names no alert to resolve first. -/
def staleSnapshotTrace : List AgentEvent :=
  [.startCycle ["web"] [failedUnit, busyCpu .warning], .reconcile "web" 0,
    .enqueueNext "web" 0, .enqueueNext "web" 0, .finishMinion "web",
    .pop 0, .begin 0 1, .conclude 0 (.analysis openQuestion) 2,
    .answerPost 0 true 3, .finishDelivery 0 4, .release 0,
    .pop 0, .begin 0 5,
    .startCycle ["web"] [busyCpu .critical], .reconcile "web" 60,
    .enqueueNext "web" 60, .finishMinion "web",
    .startCycle ["web"] [busyCpu .critical], .reconcile "web" 120,
    .resolveNext "web" 120,
    .conclude 0 (.analysis openQuestion) 121, .answerPost 0 true 122,
    .finishDelivery 0 123, .release 0,
    .answerResolution "web" true 124, .finishResolution "web" 125,
    .enqueueNext "web" 125, .finishMinion "web",
    .pop 0, .begin 0 126, .conclude 0 (.analysis openQuestion) 127,
    .answerPost 0 true 128, .finishDelivery 0 129, .release 0]

/-- The warning is still firing when everything has come to rest, and the row
stores the critical alert. -/
def warningOrphaned (s : AgentState IdentityKey) : Bool :=
  let key := (busyCpu .warning).identityKey
  let labels := alertLabels .warning (busyCpu .warning) key
  s.workers.entries.isEmpty && s.polls.entries.isEmpty &&
    isFiring s.alertmanager labels &&
    (s.table.get? key).any fun row =>
      row.payloadJson.any fun payload => payload.labels ≠ labels

/-- A warning is left firing that the incident's row no longer mentions. -/
theorem stale_snapshot_orphans_warning :
    ¬∀ (cfg : AgentSettings IdentityKey) (trace : List AgentEvent),
      EveryState (agentStep cfg) AgentState.initial trace NoOrphan := by
  intro hall
  have hreached : (exec (agentStep .plain) AgentState.initial
      staleSnapshotTrace).any warningOrphaned = true := by decide +kernel
  obtain ⟨s, hs, horphaned⟩ := Option.any_eq_true _ _ |>.mp hreached
  simp only [warningOrphaned, Bool.and_eq_true, List.isEmpty_iff,
    Option.any_eq_true] at horphaned
  obtain ⟨⟨⟨hworkers, hpolls⟩, hfiring⟩, row, hrow, payload, hpayload, hother⟩ :=
    horphaned
  have hquiet : Quiet s (busyCpu .warning).identityKey := by
    refine ⟨fun n job hjob => ?_, fun m phase hphase => ?_⟩
    · simp [OrderedDict.get?, hworkers] at hjob
    · simp [OrderedDict.get?, hpolls] at hphase
  obtain ⟨row', payload', hrow', -, hpayload', hlabels⟩ :=
    hall .plain staleSnapshotTrace _ (List.prefix_refl _) s hs _ hquiet _ rfl
      hfiring
  obtain rfl := Option.some.inj (hrow.symm.trans hrow')
  obtain rfl := Option.some.inj (hpayload.symm.trans hpayload')
  simp [hlabels] at hother

end UyuniAgent.Agent
